import Snippet.Conversion.Run
import Snippet.Proofs.Conversion.Fields
import Snippet.Proofs.Interpreter.Basic
import Snippet.Proofs.Lines
import Snippet.Proofs.Store.Rendering

/-!
Compiled nodes show what the interpreter reads. Conversion and interpreter go through a tree side by
side: the lines that the interpreter has for a position are those that the primary node of the position
shows, and both have the same text in sight.
-/

namespace Snippet

namespace Workspace

variable {settings : Settings} {scope : Scope} {base id : NodeId} {w w' : Workspace}

variable (scope) in
/-- The node that is added shows what it is made from. -/
theorem Sound.view_added (h : w.Sound settings base) {n : Node} (position : Option Int)
    (h' : (w.added n position).Sound settings base) :
    (w.added n position).store.view scope w.store.size =
      (w.added n position).store.showing scope ((w.added n position).store.view scope) n := by
  have hn : (w.added n position).store.node? w.store.size = some n := by
    rw [store_added, Store.node?_add, if_pos rfl]
  exact Store.view_eq h'.formed.closed ⟨h.base_le, Store.lt_size hn⟩ hn

variable (scope) in
/-- What could be seen before is seen after. -/
theorem Grown.view_eq {ids : List NodeId} (h : w.Sound settings base)
    (hg : Grown settings base w ids w') (hr : w.store.Readable base w.store.size id) :
    w'.store.view scope id = w.store.view scope id :=
  h.formed.view_eq_of_keeps hg.sound.formed hg.keeps scope hr.1 hr.2.1

end Workspace

namespace Interpreter

open Workspace

/-- The interpreter and a conversion are at the same place. -/
structure Agrees (settings : Settings) (scope : Scope) (base : NodeId) (w : Workspace)
    (m : Memory) : Prop where
  sound : w.Sound settings base
  fields : ∀ p : Nat,
    (m.fields p).map .ok = (w.registry.lookup (p : Int)).map (w.store.view scope)
  lastText : m.lastText = w.lastText

/-- The nodes `ids` show what the interpreter has come to. -/
inductive Simulates (settings : Settings) (scope : Scope) (base : NodeId) (ids : List NodeId)
    (w : Workspace) : Except Error (Lines × Memory) → Prop where
  | ok (lines : Lines) (m : Memory) (agrees : Agrees settings scope base w m)
      (shown : (ids.mapM (w.store.view scope)).map Lines.concat = .ok lines) :
      Simulates settings scope base ids w (.ok (lines, m))
  | error (e : Error) (shown : ids.mapM (w.store.view scope) = .error e) :
      Simulates settings scope base ids w (.error e)

section Steps

variable {settings : Settings} {scope : Scope} {base id : NodeId} {w w' : Workspace} {m : Memory}
  {ids : List NodeId}

theorem Agrees.withLastText (h : Agrees settings scope base w m) (lines : Option Lines) :
    Agrees settings scope base (w.withLastText lines) (m.withLastText lines) :=
  ⟨h.sound.withLastText lines, h.fields, rfl⟩

theorem Agrees.after (h : Agrees settings scope base w m) (e : Element) :
    Agrees settings scope base (w.after e) (m.after e) := by
  unfold Workspace.after Memory.after
  split
  · exact h
  · exact h.withLastText none

theorem Agrees.grown (h : Agrees settings scope base w m) (hg : Grown settings base w ids w')
    (hregistry : w'.registry = w.registry) (hlast : w'.lastText = w.lastText) :
    Agrees settings scope base w' m where
  sound := hg.sound
  fields p := by
    rw [h.fields p, hregistry]
    cases hp : w.registry.lookup (p : Int) with
    | none => rw [Option.map_none, Option.map_none]
    | some primary =>
      rw [Option.map_some, Option.map_some, hg.view_eq scope h.sound (h.sound.registered _ _ hp)]
  lastText := by rw [hlast, h.lastText]

/-- A node that shows the lines of a position becomes its primary node. -/
theorem Agrees.registered (h : Agrees settings scope base w m) {p : Nat} {lines : Lines}
    (hr : w.store.Readable base w.store.size id) (hv : w.store.view scope id = .ok lines) :
    Agrees settings scope base (w.registered p id) (m.assign p lines) where
  sound := h.sound.registering p hr
  fields q := by
    have hq := h.fields q
    rw [registry_registered, Registry.lookup_register, store_registered]
    unfold Memory.assign
    dsimp only
    -- On both sides the first one to be mapped stays.
    cases hl : w.registry.lookup (q : Int) with
    | some primary =>
      rw [hl] at hq
      obtain ⟨ls, hls, hs⟩ := Option.map_eq_some_iff.mp hq
      rw [hls, Option.some_or, Option.some_or, Option.map_some, Option.map_some, ← hs]
    | none =>
      rw [hl] at hq
      rw [Option.map_eq_none_iff.mp hq, Option.none_or, Option.none_or]
      by_cases hpq : q = p
      · rw [if_pos hpq, if_pos (congrArg Nat.cast hpq), Option.map_some, Option.map_some, hv]
      · have hne : (q : Int) ≠ (p : Int) := fun he => hpq (Int.ofNat.inj he)
        rw [if_neg hpq, if_neg hne, Option.map_none, Option.map_none]
  lastText := h.lastText

/-! ## What the steps show -/

theorem mirroring_shows (h : w.Sound settings base) {position : Int} {spec : Option TransformSpec}
    {primary : NodeId} (hp : w.registry.lookup position = some primary) {lines : Lines}
    (hv : w.store.view scope primary = .ok lines)
    (hr : Conversion.mirroring settings w position spec primary = .ok id w') :
    w'.store.view scope id = transformed settings spec lines ∧
      w'.registry = w.registry ∧ w'.lastText = w.lastText := by
  have hg := Conversion.mirroring_grown h hp hr
  have hprimary := hg.view_eq scope h (h.registered _ _ hp)
  obtain ⟨f, hf, rfl, rfl⟩ := Conversion.mirroring_ok hr
  have hs := (h.noted [.mirrored position]).noted (spec.toList.map .transformMade)
  have hview := hs.view_added scope none hg.sound
  refine ⟨hview.trans ?_, rfl, rfl⟩
  rw [Store.showing, List.mapM_cons, List.mapM_nil, hprimary, hv, transformed, hf]
  cases hl : f lines <;>
    simp [bind, Except.bind, pure, Except.pure, ValueFunction.copy, hl, Except.map]

variable (scope) in
theorem wrapping_shows (h : w.Sound settings base)
    (hid : w.store.Readable base w.store.size id) {name : String} {id' : NodeId}
    (hr : Conversion.wrapping w id name = .ok id' w') :
    w'.store.view scope id' =
        (w.store.view scope id).map (indented scope name w.lastText) ∧
      w'.registry = w.registry ∧ w'.lastText = w.lastText := by
  have hg := Conversion.wrapping_grown h hid hr
  have hchild := hg.view_eq scope h hid
  obtain ⟨hnone, rfl, rfl⟩ | ⟨indent, hsome, rfl, rfl⟩ := Conversion.wrapping_ok hr
  · refine ⟨?_, rfl, rfl⟩
    unfold indented
    rw [hnone]
    cases w'.store.view scope id' <;> rfl
  · have hview := h.view_added scope none hg.sound
    refine ⟨hview.trans ?_, rfl, rfl⟩
    unfold indented
    rw [Store.showing, hchild, hsome]

variable (scope) in
theorem computed_shows (h : w.Sound settings base) {fn : ValueFunction}
    (hfn : settings.Provides w.journal fn 0) :
    (w.added (.computed fn []) none).store.view scope w.store.size =
      (fn [] scope).map Value.toLines := by
  have hg := Conversion.computed_grown h hfn
  rw [h.view_added scope none hg.sound, Store.showing, List.mapM_nil]
  cases hv : fn [] scope <;> simp [bind, Except.bind, pure, Except.pure, Except.map, hv]

variable (scope) in
theorem varying_shows (h : w.Sound settings base) {name : String} {spec : Option TransformSpec}
    (hr : Conversion.varying settings w name spec = .ok id w') :
    w'.store.view scope id = variableLines settings scope name spec w.lastText ∧
      w'.registry = w.registry ∧ w'.lastText = w.lastText := by
  have hgrown := Conversion.varying_grown h hr
  -- The cases are those of the conversion: a known name, a resolver, and neither.
  unfold variableLines
  obtain ⟨hk, f, hf, hw⟩ | ⟨hk, f, hl, hw⟩ | ⟨hk, hl, rfl, rfl⟩ := Conversion.varying_ok hr
  · have hs := h.noted (spec.toList.map .transformMade)
    have hfn := Settings.Provides.ofName name spec f hf (transformMade_noted w spec)
    have hg := Conversion.computed_grown hs hfn
    have hwraps := wrapping_shows scope hg.sound (hg.readable _ (by simp)) hw
    have hcomputed := computed_shows scope hs hfn
    simp only [store_noted] at hcomputed
    refine ⟨hwraps.1.trans ?_, hwraps.2⟩
    rw [if_pos hk, transformed, hf, hcomputed, ValueFunction.ofVariable, lastText_added,
      lastText_noted]
    dsimp only [Except.bind]
    cases f ((scope.get? name).getD .nothing).toLines <;> rfl
  · have hfn : settings.Provides w.journal f 0 := .resolver name f hl
    have hg := Conversion.computed_grown h hfn
    have hwraps := wrapping_shows scope hg.sound (hg.readable _ (by simp)) hw
    have hcomputed := computed_shows scope h hfn
    refine ⟨hwraps.1.trans ?_, hwraps.2⟩
    rw [if_neg (by simp [hk]), hl, hcomputed, lastText_added]
    dsimp only
    cases f [] scope <;> rfl
  · have hs := h.noted [.unknownVariable name]
    refine ⟨(hs.view_added scope none hgrown.sound).trans ?_, rfl, rfl⟩
    rw [if_neg (by simp [hk]), hl, Store.showing]

variable (scope) in
/-- A body that can change shows its nodes as they are, and another one their text. -/
theorem embodying_shows (h : w.Sound settings base)
    (hpolicy : settings.policy.assembler = Assembler.embed)
    (hids : ∀ id ∈ ids, w.store.Readable base w.store.size id) {position : Int}
    (hr : Conversion.embodying settings w position ids = .ok id w') :
    w'.store.view scope id =
        ((ids.mapM (w.store.view scope)).map Lines.concat).map (fun lines =>
          if ids.any w.store.isInteractive then lines else Lines.ofText lines.toText) ∧
      w'.registry = w.registry ∧ w'.lastText = w.lastText := by
  have hg := Conversion.embodying_grown h hpolicy hids hr
  have hgroup := h.grown_added (n := .group ids) (by simp) hids none
  have hread := hgroup.readable w.store.size (by simp)
  have hshown : (w.added (.group ids) none).store.view scope w.store.size =
      (ids.mapM (w.store.view scope)).map Lines.concat := by
    have hm : ids.mapM ((w.added (.group ids) none).store.view scope) =
        ids.mapM (w.store.view scope) :=
      mapM_congr fun x hx => hgroup.view_eq scope h (hids x hx)
    rw [h.view_added scope none hgroup.sound, Store.showing, hm]
  have hlive : (w.added (.group ids) none).store.isInteractive w.store.size =
      ids.any w.store.isInteractive := by
    rw [store_added, hgroup.sound.formed.isInteractive_add h.base_le]
    exact Conversion.any_isInteractive_grown h hids hgroup
  obtain ⟨hi, rfl, rfl⟩ | ⟨hi, rfl, rfl⟩ := Conversion.embodying_ok hpolicy hr
  · refine ⟨?_, rfl, rfl⟩
    have hk : (w.added (.group ids) none).store.Keeps
        ((w.added (.group ids) none).positioned w.store.size position).store :=
      Store.keeps_setPosition _ _ _
    rw [hlive] at hi
    rw [hgroup.sound.formed.view_eq_of_keeps hg.sound.formed hk scope hread.1
      hread.2.1, hshown]
    simp only [hi, if_true]
    cases (ids.mapM (w.store.view scope)).map Lines.concat <;> rfl
  · refine ⟨?_, rfl, rfl⟩
    -- The slot is empty, so the node shows the text of the body, which is static.
    let s := ((w.added (.group ids) none).store.add .vacant none).2
    let t := (s.add (.dynamic (some (.body w.store.size)) (w.store.size + 1)) (some position)).2
    have hk : (w.added (.group ids) none).store.Keeps t :=
      (Store.keeps_add _ _ _).trans (Store.keeps_add _ _ _)
    have hformed : t.Formed _ base := hg.sound.formed
    have hnode : t.node? (w.store.size + 2) =
        some (.dynamic (some (.body w.store.size)) (w.store.size + 1)) := by
      simp [t, s, Store.node?_add]
    have hslot : t.node? (w.store.size + 1) = some .vacant := by
      simp [t, s, Store.node?_add]
    have hbody := hgroup.sound.formed.view_eq_of_keeps hformed hk scope hread.1 hread.2.1
    have hpart : base ≤ w.store.size + 2 ∧ w.store.size + 2 < t.size :=
      ⟨Nat.le_add_right_of_le h.base_le, Store.lt_size hnode⟩
    have hview : t.view scope (w.store.size + 2) = _ := Store.view_eq hformed.closed hpart hnode
    rw [Store.showing_body hslot,
      Store.evaluateStatic_eq_view (Store.isInteractive_keeps hk hi), hbody, hshown] at hview
    rw [hlive] at hi
    refine hview.trans ?_
    simp only [hi, Bool.false_eq_true, if_false]

/-! ## Simulation -/

theorem Agrees.primary (h : Agrees settings scope base w m) {p : Nat} {primary : NodeId}
    (hp : w.registry.lookup (p : Int) = some primary) :
    ∃ lines, m.fields p = some lines ∧ w.store.view scope primary = .ok lines := by
  have hf := h.fields p
  rw [hp] at hf
  obtain ⟨lines, hlines, hv⟩ := Option.map_eq_some_iff.mp hf
  exact ⟨lines, hlines, hv.symm⟩

theorem Agrees.unmapped (h : Agrees settings scope base w m) {p : Nat}
    (hp : w.registry.lookup (p : Int) = none) : m.fields p = none := by
  have hf := h.fields p
  rw [hp] at hf
  exact Option.map_eq_none_iff.mp hf

theorem Simulates.one (hs : w.Sound settings base) (hr : w.store.Readable base w.store.size id)
    {r : Except Error Lines} (hv : w.store.view scope id = r) {f : Lines → Memory}
    (ha : ∀ lines, r = .ok lines → Agrees settings scope base w (f lines)) :
    Simulates settings scope base [id] w (r.map fun lines => (lines, f lines)) := by
  cases r with
  | error e =>
    refine .error e ?_
    rw [List.mapM_cons, hv]
    rfl
  | ok lines =>
    refine .ok lines (f lines) (ha lines rfl) ?_
    have hne := hs.formed.view_ne_nil hr.1 hr.2.1 hv
    rw [List.mapM_cons, List.mapM_nil, hv]
    exact congrArg _ (Lines.concat_singleton hne)

theorem Simulates.append {ids' : List NodeId} {w'' : Workspace} {lines : Lines}
    {r : Except Error (Lines × Memory)} (hg : Grown settings base w ids w')
    (hshown : (ids.mapM (w'.store.view scope)).map Lines.concat = .ok lines)
    (hg' : Grown settings base w' ids' w'') (hs : Simulates settings scope base ids' w'' r) :
    Simulates settings scope base (ids ++ ids') w''
      (r.map fun (rest, m) => (Lines.glue lines rest, m)) := by
  have hm : ids.mapM (w''.store.view scope) = ids.mapM (w'.store.view scope) :=
    mapM_congr fun x hx => hg'.view_eq scope hg.sound (hg.readable x hx)
  -- What has been shown so far stays as it is, so the pieces of both come in a row.
  obtain ⟨pieces, hpieces, rfl⟩ := map_eq_ok hshown
  cases hs with
  | error e hrest =>
    refine .error e ?_
    rw [List.mapM_append, hm, hpieces, hrest]
    rfl
  | ok rest m hagrees hrest =>
    obtain ⟨pieces', hpieces', rfl⟩ := map_eq_ok hrest
    refine .ok _ m hagrees ?_
    rw [List.mapM_append, hm, hpieces, hpieces']
    exact congrArg _ (Lines.concat_append pieces pieces')

theorem Simulates.append_error {ids' : List NodeId} {w'' : Workspace} {e : Error}
    (hg : Grown settings base w ids w') (hshown : ids.mapM (w'.store.view scope) = .error e)
    (hg' : Grown settings base w' ids' w'') :
    Simulates settings scope base (ids ++ ids') w'' (.error e) := by
  have hm : ids.mapM (w''.store.view scope) = ids.mapM (w'.store.view scope) :=
    mapM_congr fun x hx => hg'.view_eq scope hg.sound (hg.readable x hx)
  refine .error e ?_
  rw [List.mapM_append, hm, hshown]
  rfl

theorem Simulates.after {r : Except Error (Lines × Memory)}
    (h : Simulates settings scope base ids w r) (e : Element) :
    Simulates settings scope base ids (w.after e) (r.map fun (lines, m) => (lines, m.after e)) := by
  cases h with
  | ok lines m hagrees hshown =>
    exact .ok lines (m.after e) (hagrees.after e) (by rw [store_after, hshown])
  | error err hshown => exact .error err (by rw [store_after, hshown])

theorem adding_simulates (ha : Agrees settings scope base w m) {n : Node} {position : Option Int}
    (hg : Grown settings base w [w.store.size] (w.added n position)) {lines : Lines}
    (hv : ∀ (s : Store) (f : NodeId → Except Error Lines), s.showing scope f n = .ok lines) :
    Simulates settings scope base [w.store.size] (w.added n position) (.ok (lines, m)) := by
  have hview := ha.sound.view_added scope position hg.sound
  rw [hv] at hview
  have hafter := ha.grown hg rfl rfl
  exact Simulates.one (r := .ok lines) (f := fun _ => m) hafter.sound (hg.readable _ (by simp))
    hview fun _ _ => hafter

theorem mirroring_simulates (ha : Agrees settings scope base w m) {p : Nat}
    {spec : Option TransformSpec} {primary : NodeId}
    (hp : w.registry.lookup (p : Int) = some primary)
    (hr : Conversion.mirroring settings w p spec primary = .ok id w') :
    ∃ lines, m.fields p = some lines ∧ Simulates settings scope base [id] w'
      ((transformed settings spec lines).map fun ls => (ls, m)) := by
  obtain ⟨lines, hlines, hv⟩ := ha.primary hp
  have hg := Conversion.mirroring_grown ha.sound hp hr
  have hshows := mirroring_shows ha.sound hp hv hr
  have hafter := ha.grown hg hshows.2.1 hshows.2.2
  exact ⟨lines, hlines, Simulates.one hafter.sound (hg.readable id (by simp)) hshows.1
    fun _ _ => hafter⟩

theorem registering_simulates (ha : Agrees settings scope base w m)
    (hg : Grown settings base w [id] w') (hregistry : w'.registry = w.registry)
    (hlast : w'.lastText = w.lastText) (p : Nat) {lines : Lines}
    (hv : w'.store.view scope id = .ok lines) :
    Simulates settings scope base [id] (w'.registered p id) (.ok (lines, m.assign p lines)) := by
  have hread := hg.readable id (by simp)
  have hafter := (ha.grown hg hregistry hlast).registered hread hv (p := p)
  exact Simulates.one (r := .ok lines) (f := fun _ => m.assign p lines) hafter.sound hread hv
    fun _ _ => hafter

theorem field_simulates (ha : Agrees settings scope base w m) (p : Nat) (default : Option String) :
    Simulates settings scope base [w.store.size]
      ((w.added (.tabstop default none) (some p)).registered p w.store.size)
      (.ok (Lines.ofText (default.getD ""), m.assign p (Lines.ofText (default.getD "")))) := by
  have hg := ha.sound.grown_added (n := .tabstop default none) (by simp) (by simp [Node.Formed])
    (some (p : Int))
  have hview := ha.sound.view_added scope (some (p : Int)) hg.sound
  exact registering_simulates ha hg rfl rfl p hview

theorem Simulates.compacted {r : Except Error (Lines × Memory)}
    (h : Simulates settings scope base ids w r) (hsound : w.Sound settings base)
    (hids : ∀ id ∈ ids, w.store.Readable base w.store.size id) :
    Simulates settings scope base ids (w.compacted ids) r := by
  have hc := (Grown.refl hsound hids).compacted ids
  have hm : ids.mapM ((w.compacted ids).store.view scope) = ids.mapM (w.store.view scope) :=
    mapM_congr fun x hx => hc.view_eq scope hsound (hids x hx)
  cases h with
  | error e hshown => exact .error e (by rw [hm, hshown])
  | ok lines m hagrees hshown =>
    exact .ok lines m (hagrees.grown hc rfl rfl) (by rw [hm, hshown])

theorem embodying_simulates (hpolicy : settings.policy.assembler = Assembler.embed)
    {children : List Element} {r : Except Error (Lines × Memory)}
    (hs : Simulates settings scope base ids w r) (hsound : w.Sound settings base)
    (hids : ∀ id ∈ ids, w.store.Readable base w.store.size id)
    (hfields : ids.any w.store.isInteractive = Element.hasFieldAmong children) {p : Nat}
    (hr : Conversion.embodying settings (w.compacted ids) p ids = .ok id w') :
    Simulates settings scope base [id] (w'.registered p id)
      (r.map fun (lines, m) => (body children lines, m.assign p (body children lines))) := by
  have hc := (Grown.refl hsound hids).compacted ids
  have hg := Conversion.embodying_grown hc.sound hpolicy hc.readable hr
  have hview := embodying_shows scope hc.sound hpolicy hc.readable hr
  have hm : ids.mapM ((w.compacted ids).store.view scope) = ids.mapM (w.store.view scope) :=
    mapM_congr fun x hx => hc.view_eq scope hsound (hids x hx)
  rw [Conversion.any_isInteractive_grown hsound hids hc, hfields, hm] at hview
  -- The body is live where the children have a field, and then nothing is flattened.
  cases hs with
  | error e hshown =>
    refine .error e ?_
    rw [hshown] at hview
    rw [List.mapM_cons, store_registered, hview.1]
    rfl
  | ok lines m hagrees hshown =>
    rw [hshown] at hview
    have hagrees' := hagrees.grown hc rfl rfl
    exact registering_simulates hagrees' hg hview.2.1 hview.2.2 p hview.1

end Steps

section Trees

variable {settings : Settings} {scope : Scope} {base : NodeId}

mutual

/-- Interpreting an element gives what its nodes show, and leaves the interpreter where the
conversion is. -/
theorem convert_simulates (hpolicy : settings.policy.assembler = Assembler.embed) (e : Element)
    (hg : e.grammatical) {w w' : Workspace} {m : Memory} (ha : Agrees settings scope base w m)
    {built : Built} (hr : Conversion.convert settings e w = .ok built w') :
    Simulates settings scope base built.ids (w'.after e)
      ((interpret settings scope e m).map fun (lines, m) => (lines, m.after e)) := by
  have hgrown := Conversion.convert_grown hpolicy e hg ha.sound hr
  -- In each case the conversion takes the branch that the interpreter takes, as they agree on
  -- which positions are mapped.
  match e with
  | .text content =>
    rw [Conversion.convert_text] at hr
    cases hr
    have ha' := ha.withLastText (some (Lines.ofText content))
    have hgrown' := ha'.sound.grown_added (n := .text (Lines.ofText content)) (by simp)
      (Lines.ofText_ne_nil content) none
    exact (adding_simulates ha' hgrown' fun _ _ => rfl).after (.text content)
  | .choice position items =>
    rw [Conversion.convert_choice] at hr
    cases hr
    refine (adding_simulates ha hgrown fun _ _ => ?_).after (.choice position items)
    cases items <;> rfl
  | .tabstop position spec =>
    rw [Conversion.convert_tabstop] at hr
    split at hr
    · next primary hp =>
      obtain ⟨id, w₁, hm, hc⟩ := Conversion.chain_eq_ok hr
      cases hc
      obtain ⟨lines, hlines, hs⟩ := mirroring_simulates ha hp hm
      rw [interpret, hlines]
      exact hs.after _
    · next hp =>
      cases hr
      rw [interpret, ha.unmapped hp]
      exact (field_simulates ha position none).after (.tabstop position spec)
  | .placeholder position spec children =>
    rw [Conversion.convert_placeholder] at hr
    split at hr
    · next primary hp =>
      obtain ⟨id, w₁, hm, hc⟩ := Conversion.chain_eq_ok hr
      cases hc
      obtain ⟨lines, hlines, hs⟩ := mirroring_simulates ha hp hm
      rw [interpret, hlines]
      exact hs.after _
    · next hp =>
      have hn := ha.unmapped hp
      rw [interpret, hn]
      split at hr
      · next content hl =>
        cases hr
        obtain rfl := Element.eq_text_of_loneText? hg hl
        have hbody : body [.text content] (Lines.glue (Lines.ofText content) [""]) =
            Lines.ofText content := by
          rw [Lines.glue_blank_right (Lines.ofText_ne_nil content), body,
            if_neg (by simp [Element.hasFieldAmong, Element.hasField]), Lines.toText_ofText]
        have hs := (field_simulates ha position (some content)).after
          (.placeholder position spec [.text content])
        simp only [interpretAll, interpret, bind, Except.bind, pure, Except.pure, Except.map, hbody]
        exact hs
      · obtain ⟨ids, w₁, hall, hr⟩ := Conversion.chain_eq_ok hr
        obtain ⟨id, w₂, hbody, hr⟩ := Conversion.chain_eq_ok hr
        cases hr
        have ha' := ha.withLastText none
        have hga := Conversion.convertAll_grown hpolicy children hg ha'.sound hall
        have hs := convertAll_simulates hpolicy children hg ha' hall
        have hfields := Conversion.convertAll_isInteractive hpolicy children hg ha'.sound hall
        exact (embodying_simulates hpolicy hs hga.sound hga.readable hfields hbody).after
          (.placeholder position spec children)
  | .var name spec =>
    rw [Conversion.convert_var] at hr
    obtain ⟨id, w₁, hv, hr⟩ := Conversion.chain_eq_ok hr
    cases hr
    have hshows := varying_shows scope ha.sound hv
    have hafter := ha.grown hgrown hshows.2.1 hshows.2.2
    rw [← ha.lastText] at hshows
    exact (Simulates.one hafter.sound (hgrown.readable _ (by simp [Built.ids])) hshows.1
      fun _ _ => hafter).after (.var name spec)
  | .snippet children =>
    rw [Conversion.convert_snippet] at hr
    obtain ⟨ids, w₁, hall, hr⟩ := Conversion.chain_eq_ok hr
    cases hr
    have ha' := ha.withLastText none
    have hga := Conversion.convertAll_grown hpolicy children hg ha'.sound hall
    have hs := convertAll_simulates hpolicy children hg ha' hall
    exact (hs.compacted hga.sound hga.readable).after (.snippet children)
  | .ownText content => simp [Element.grammatical, Element.inGrammar] at hg
  | .ownSnippet children => simp [Element.grammatical, Element.inGrammar] at hg
  | .custom kind => simp [Element.grammatical, Element.inGrammar] at hg
  | .built id => simp [Element.grammatical, Element.inGrammar] at hg

theorem convertAll_simulates (hpolicy : settings.policy.assembler = Assembler.embed)
    (es : List Element) (hg : Element.grammaticalAll es) {w w' : Workspace} {m : Memory}
    (ha : Agrees settings scope base w m) {ids : List NodeId}
    (hr : Conversion.convertAll settings es w = .ok ids w') :
    Simulates settings scope base ids w' (interpretAll settings scope es m) := by
  match es with
  | [] =>
    rw [Conversion.convertAll_nil] at hr
    cases hr
    rw [interpretAll]
    exact .ok [""] m ha rfl
  | e :: es =>
    simp only [Element.grammaticalAll, Bool.and_eq_true] at hg
    rw [Conversion.convertAll_cons] at hr
    obtain ⟨built, w₁, he, hr⟩ := Conversion.chain_eq_ok hr
    obtain ⟨rest, w₂, hes, hr⟩ := Conversion.chain_eq_ok hr
    cases hr
    have hge := Conversion.convert_grown hpolicy e hg.1 ha.sound he
    have hga := hge.after e
    have hges := Conversion.convertAll_grown hpolicy es hg.2 hga.sound hes
    have hs := convert_simulates hpolicy e hg.1 ha he
    rw [hge.spliced_eq, interpretAll]
    -- An error of the first element is the error of them all, however the others end.
    cases hi : interpret settings scope e m with
    | error err =>
      rw [hi] at hs
      cases hs with
      | error err hshown => exact Simulates.append_error hga hshown hges
    | ok r =>
      obtain ⟨lines, m'⟩ := r
      rw [hi] at hs
      cases hs with
      | ok lines m'' hagrees hshown =>
        have hrest := convertAll_simulates hpolicy es hg.2 hagrees hes
        have happ := Simulates.append hga hshown hges hrest
        dsimp only [bind, Except.bind]
        cases ht : interpretAll settings scope es (m'.after e) <;> rw [ht] at happ <;> exact happ

end

end Trees

theorem agrees_fresh (settings : Settings) (scope : Scope) (s : Store) :
    Agrees settings scope s.size (.fresh s) Memory.empty :=
  ⟨sound_fresh settings s, fun _ => rfl, rfl⟩

end Interpreter

/-- Compiling a tree and rendering what it compiles to gives what the interpreter gives, be it a text
or an error: for all names that count as variables, resolvers and transforms, and in every scope, with
live bodies embedded as they are. -/
theorem compileSnippet_render [Pattern.CharacterNames] {o : Options}
    (hpolicy : (Context.fresh o).settings.policy.assembler = Assembler.embed) {e : Element}
    (hg : e.grammatical) {s : Store} {run : Run (List NodeId)}
    (hc : compileSnippet none o e s = .ok run) {ids : List NodeId} (hids : run.outcome = .ok ids)
    (scope : Scope) :
    ∃ t, Store.renderNodesText scope ids run.store =
      Store.leaving (Interpreter.text (Context.fresh o).settings scope e) t := by
  obtain ⟨built, w, hconv, rfl, hstore, -, hgrown⟩ := compileSnippet_ok hpolicy hg hc hids
  have hsim := Interpreter.convert_simulates hpolicy e hg
    (Interpreter.agrees_fresh _ scope s) hconv
  have hpart : ∀ id ∈ built.ids,
      (s.size ≤ id ∧ id < w.store.size) ∧ w.store.node? id ≠ some .vacant := by
    intro id hid
    have hr := hgrown.readable id hid
    exact ⟨⟨hr.1, hr.2.1⟩, hr.2.2⟩
  -- The first rendering builds dynamic nodes and yet gives the views from before.
  obtain ⟨t, -, hrender⟩ :=
    Store.renderNodes_eq_view scope hgrown.sound.formed.closed hpart
  refine ⟨t, ?_⟩
  rw [hstore]
  simp only [Store.renderNodesText, bind, EStateM.bind, hrender, Interpreter.text]
  cases hi : Interpreter.interpret (Context.fresh o).settings scope e Memory.empty with
  | error err =>
    rw [hi] at hsim
    cases hsim with
    | error err hshown =>
      rw [Workspace.store_after] at hshown
      rw [hshown]
      rfl
  | ok r =>
    obtain ⟨lines, m⟩ := r
    rw [hi] at hsim
    cases hsim with
    | ok lines m hagrees hshown =>
      rw [Workspace.store_after] at hshown
      rw [hshown]
      rfl

theorem compileSnippet_render_mirror :
    ∃ run ids, compileSnippet none Options.none
        (.snippet [.placeholder 1 none [.text "a"], .tabstop 1 none]) Store.empty = .ok run ∧
      run.outcome = .ok ids ∧ ∃ t, Store.renderNodesText Scope.empty ids run.store =
        Store.leaving (Interpreter.text (Context.fresh Options.none).settings Scope.empty
          (.snippet [.placeholder 1 none [.text "a"], .tabstop 1 none])) t :=
  ⟨_, _, rfl, rfl, compileSnippet_render rfl rfl rfl rfl Scope.empty⟩

end Snippet
