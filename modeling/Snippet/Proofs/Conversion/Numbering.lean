import Snippet.Proofs.Conversion.Growth
import Snippet.Proofs.Rows

/-!
The tab positions of a conversion. A row of siblings gets the numbers that its tree declares, compacted
once for each template that the row stands in. A nested template is therefore numbered as if it were
written out in its place if and only if each round keeps the declared order.
-/

namespace Snippet

namespace Store

/-- The store has more nodes, and all that were there have their positions. -/
structure Extends (s t : Store) : Prop where
  size_le : s.size ≤ t.size
  position : ∀ id : Nat, id < s.size → t.position? id = s.position? id

/-- New nodes with the positions `row`. -/
structure Numbers (s t : Store) (ids : List NodeId) (row : List (Option Int)) : Prop where
  extension : s.Extends t
  bounds : ∀ id : Nat, id ∈ ids → s.size ≤ id ∧ id < t.size
  nodup : ids.Nodup
  positions : ids.map t.position? = row

section Numbers

variable {s t u : Store} {ids ids' : List NodeId} {row row' : List (Option Int)}

theorem Extends.refl (s : Store) : s.Extends s := ⟨Nat.le_refl _, fun _ _ => rfl⟩

theorem Extends.trans (h : s.Extends t) (h' : t.Extends u) : s.Extends u where
  size_le := Nat.le_trans h.size_le h'.size_le
  position id hid := by
    rw [h'.position id (Nat.lt_of_lt_of_le hid h.size_le), h.position id hid]

theorem Extends.add (h : s.Extends t) (n : Node) (p : Option Int) : s.Extends (t.add n p).2 where
  size_le := by
    rw [size_add]
    exact Nat.le_succ_of_le h.size_le
  position id hid := by
    have hne : id ≠ t.size := Nat.ne_of_lt (Nat.lt_of_lt_of_le hid h.size_le)
    rw [position?_add, if_neg hne, h.position id hid]

theorem Extends.numbers_add (h : s.Extends t) (n : Node) (p : Option Int) :
    s.Numbers (t.add n p).2 [t.size] [p] where
  extension := h.add n p
  bounds id hid := by
    obtain rfl := List.mem_singleton.mp hid
    exact ⟨h.size_le, by rw [size_add]; exact Nat.lt_succ_self _⟩
  nodup := by simp
  positions := by rw [List.map_singleton, position?_add, if_pos rfl]

theorem Extends.numbers_nil (h : s.Extends t) : s.Numbers t [] [] :=
  ⟨h, fun _ hid => absurd hid List.not_mem_nil, List.nodup_nil, rfl⟩

theorem Numbers.append (h : s.Numbers t ids row) (h' : t.Numbers u ids' row') :
    s.Numbers u (ids ++ ids') (row ++ row') where
  extension := h.extension.trans h'.extension
  bounds id hid := by
    rcases List.mem_append.mp hid with hid | hid
    · have hb := h.bounds id hid
      exact ⟨hb.1, Nat.lt_of_lt_of_le hb.2 h'.extension.size_le⟩
    · have hb := h'.bounds id hid
      exact ⟨Nat.le_trans h.extension.size_le hb.1, hb.2⟩
  -- The second row is made of nodes that are newer than those of the first.
  nodup := by
    refine List.nodup_append.mpr ⟨h.nodup, h'.nodup, fun a ha b hb he => ?_⟩
    have hlt := (h.bounds a ha).2
    have hle := (h'.bounds b hb).1
    rw [he] at hlt
    exact Nat.not_lt_of_le hle hlt
  positions := by
    have hkept : ids.map u.position? = ids.map t.position? :=
      List.map_congr_left fun id hid => h'.extension.position id (h.bounds id hid).2
    rw [List.map_append, hkept, h.positions, h'.positions]

theorem Numbers.setPosition {id : NodeId} (h : s.Numbers t [id] row) (p : Int) :
    s.Numbers (t.setPosition id (some p)) [id] [some p] where
  extension := by
    refine ⟨by rw [size_setPosition]; exact h.extension.size_le, fun x hx => ?_⟩
    have hne : id ≠ x := fun he => Nat.not_lt_of_le (h.bounds id (by simp)).1 (he ▸ hx)
    rw [position?_setPosition, if_neg fun he => hne he.1, h.extension.position x hx]
  bounds x hx := by
    rw [size_setPosition]
    exact h.bounds x hx
  nodup := h.nodup
  positions := by
    rw [List.map_singleton, position?_setPosition, if_pos ⟨rfl, (h.bounds id (by simp)).2⟩]

theorem Numbers.compact (h : s.Numbers t ids row) :
    s.Numbers (t.compact ids) ids (Positions.ranks row) where
  -- Compaction moves the nodes of the row only, and these are new.
  extension := by
    refine ⟨by rw [size_compact]; exact h.extension.size_le, fun id hid => ?_⟩
    have hnot : id ∉ ids := fun hmem => Nat.not_lt_of_le (h.bounds id hmem).1 hid
    rw [position?_compact_of fun hmem => absurd hmem hnot, h.extension.position id hid]
  bounds id hid := by
    rw [size_compact]
    exact h.bounds id hid
  nodup := h.nodup
  positions := by rw [ranks_compact h.nodup, h.positions]

end Numbers

end Store

/-- The error of the first transform that cannot be made. -/
def Settings.failure? (settings : Settings) (specs : List TransformSpec) : Option Error :=
  specs.findSome? fun spec =>
    match settings.transform (some spec) with
    | .ok _ => none
    | .error e => some e

def Workspace.Meets (w : Workspace) (seen : List Nat) : Prop :=
  ∀ p : Nat, (w.registry.lookup (p : Int)).isSome = decide (p ∈ seen)

/-- A conversion that fails where a transform cannot be made, and otherwise numbers its nodes. -/
inductive Counts (settings : Settings) (s : Store) (specs : List TransformSpec)
    (row : List (Option Int)) (met : List Nat) :
    EStateM.Result Error Workspace (List NodeId) → Prop where
  | ok (ids : List NodeId) (w : Workspace) (fine : settings.failure? specs = none)
      (numbers : s.Numbers w.store ids row) (meets : w.Meets met) :
      Counts settings s specs row met (.ok ids w)
  | error (e : Error) (w : Workspace) (failed : settings.failure? specs = some e) :
      Counts settings s specs row met (.error e w)

namespace Conversion

open Workspace Element

section Steps

variable {settings : Settings} {s : Store} {w : Workspace} {seen : List Nat} {p : Nat}

theorem failure?_append (specs specs' : List TransformSpec) :
    settings.failure? (specs ++ specs') = (settings.failure? specs).or (settings.failure? specs') :=
  List.findSome?_append

theorem failure?_ok {spec : Option TransformSpec} {f : LineTransform}
    (hf : settings.transform spec = .ok f) : settings.failure? spec.toList = none := by
  cases spec with
  | none => rfl
  | some spec => simp [Settings.failure?, hf]

theorem failure?_error {spec : Option TransformSpec} {e : Error}
    (hf : settings.transform spec = .error e) : settings.failure? spec.toList = some e := by
  cases spec with
  | none => cases hf
  | some spec => simp [Settings.failure?, hf]

theorem meets_registered (h : w.Meets seen) (p : Nat) (id : NodeId) :
    (w.registered p id).Meets (p :: seen) := by
  intro q
  rw [registry_registered, Registry.lookup_register, Option.isSome_or, h q]
  by_cases hq : q = p
  · simp [hq]
  · have hne : (q : Int) ≠ (p : Int) := fun he => hq (Int.ofNat.inj he)
    rw [if_neg hne]
    simp [hq]

theorem not_mem_of_lookup (h : w.Meets seen) (hp : w.registry.lookup (p : Int) = none) :
    p ∉ seen := by
  have hmeets := h p
  rw [hp] at hmeets
  simpa using hmeets.symm

theorem mem_of_lookup {primary : NodeId} (h : w.Meets seen)
    (hp : w.registry.lookup (p : Int) = some primary) : p ∈ seen := by
  have hmeets := h p
  rw [hp] at hmeets
  simpa using hmeets.symm

theorem mirroring_counts (hm : w.Meets seen) (position : Int) (spec : Option TransformSpec)
    (primary : NodeId) : Counts settings w.store spec.toList [none] seen
      (chain (fun id w => .ok [id] w) (mirroring settings w position spec primary)) := by
  unfold mirroring
  dsimp only
  cases hf : settings.transform spec with
  | ok f => exact .ok _ _ (failure?_ok hf) ((Store.Extends.refl w.store).numbers_add _ none) hm
  | error e => exact .error e _ (failure?_error hf)

theorem wrapping_counts (hm : w.Meets seen) {specs : List TransformSpec}
    (hspecs : settings.failure? specs = none) {id : NodeId} (hs : s.Numbers w.store [id] [none])
    (name : String) : Counts settings s specs [none] seen
      (chain (fun id w => .ok [id] w) (wrapping w id name)) := by
  unfold wrapping
  cases Indent.forVariable? name w.lastText with
  | none => exact .ok [id] w hspecs hs hm
  | some indent => exact .ok _ _ hspecs (hs.extension.numbers_add _ none) hm

theorem varying_counts (hm : w.Meets seen) (name : String) (spec : Option TransformSpec) :
    Counts settings w.store (if settings.knows name then spec.toList else []) [none] seen
      (chain (fun id w => .ok [id] w) (varying settings w name spec)) := by
  have hrefl := Store.Extends.refl w.store
  -- Neither kind of value brings a number, and only a known name has its transform made.
  unfold varying
  split
  · dsimp only
    cases hf : settings.transform spec with
    | ok f =>
      refine wrapping_counts ?_ (failure?_ok hf) ?_ name
      · exact hm
      · exact hrefl.numbers_add _ none
    | error e => exact .error e _ (failure?_error hf)
  · cases settings.resolvers.lookup name with
    | some f =>
      refine wrapping_counts ?_ rfl ?_ name
      · exact hm
      · exact hrefl.numbers_add _ none
    | none => exact .ok _ _ rfl (hrefl.numbers_add _ none) hm

theorem embodying_numbers (hpolicy : settings.policy.assembler = Assembler.embed)
    (hs : s.Extends w.store) (position : Int) (ids : List NodeId) :
    ∃ id w', embodying settings w position ids = .ok id w' ∧
      s.Numbers w'.store [id] [some position] ∧ w'.registry = w.registry := by
  obtain ⟨id, w', hr⟩ : ∃ id w', embodying settings w position ids = .ok id w' := ⟨_, _, rfl⟩
  refine ⟨id, w', hr, ?_⟩
  obtain ⟨-, rfl, rfl⟩ | ⟨-, rfl, rfl⟩ := embodying_ok hpolicy hr
  · exact ⟨(hs.numbers_add _ none).setPosition position, rfl⟩
  · have hnumbers := ((hs.add (.group ids) none).add .vacant none).numbers_add
      (.dynamic (some (.body w.store.size)) (w.store.size + 1)) (some position)
    rw [Store.size_add, Store.size_add] at hnumbers
    exact ⟨hnumbers, rfl⟩

theorem chain_one (r : EStateM.Result Error Workspace NodeId) :
    chain (fun (built : Built) w => .ok built.ids w) (chain (fun id w => .ok (.one id) w) r) =
      chain (fun id w => .ok [id] w) r := by
  cases r <;> rfl

end Steps

section Trees

variable {settings : Settings} {base : NodeId}

mutual

theorem convert_counts (hpolicy : settings.policy.assembler = Assembler.embed) (e : Element)
    (hg : e.grammatical) {w : Workspace} (hs : w.Sound settings base) {seen : List Nat}
    (hm : w.Meets seen) :
    Counts settings w.store (e.requests settings seen) (e.row Positions.ranks seen) (e.met seen)
      (chain (fun built w => .ok built.ids w) (convert settings e w)) := by
  have hrefl := Store.Extends.refl w.store
  match e with
  | .text content =>
    rw [convert_text]
    exact .ok _ _ rfl (hrefl.numbers_add _ none) hm
  | .choice position items =>
    rw [convert_choice]
    exact .ok _ _ rfl (hrefl.numbers_add _ (some position)) hm
  | .tabstop position spec =>
    rw [convert_tabstop]
    cases hp : w.registry.lookup (position : Int) with
    | some primary =>
      have hmem := mem_of_lookup hm hp
      rw [chain_one, requests, row, met, if_pos hmem, if_pos hmem, if_pos hmem]
      exact mirroring_counts hm position spec primary
    | none =>
      have hmem := not_mem_of_lookup hm hp
      rw [requests, row, met, if_neg hmem, if_neg hmem, if_neg hmem]
      exact .ok _ _ rfl (hrefl.numbers_add _ (some position)) (meets_registered hm position _)
  | .placeholder position spec children =>
    rw [convert_placeholder]
    cases hp : w.registry.lookup (position : Int) with
    | some primary =>
      have hmem := mem_of_lookup hm hp
      rw [chain_one, requests, row, met, if_pos hmem, if_pos hmem, if_pos hmem]
      exact mirroring_counts hm position spec primary
    | none =>
      have hmem := not_mem_of_lookup hm hp
      rw [requests, row, met, if_neg hmem, if_neg hmem, if_neg hmem]
      -- The inner row is compacted among the children and is no part of the row around.
      cases hl : Element.loneText? children with
      | some content =>
        obtain rfl := Element.eq_text_of_loneText? hg hl
        exact .ok _ _ rfl (hrefl.numbers_add _ (some position)) (meets_registered hm position _)
      | none =>
        have hbody := convertAll_counts hpolicy children hg (hs.withLastText none) hm
        cases hc : convertAll settings children (w.withLastText none) with
        | error err w₁ =>
          rw [hc] at hbody
          cases hbody with
          | error _ _ failed => exact .error err w₁ failed
        | ok ids w₁ =>
          rw [hc] at hbody
          cases hbody with
          | ok _ _ fine numbers meets =>
            obtain ⟨id, w₂, hr, hnumbers, hregistry⟩ :=
              embodying_numbers (w := w₁.compacted ids) hpolicy numbers.compact.extension position ids
            have hmeets : w₂.Meets (metAll seen children) := by
              intro q
              rw [hregistry]
              exact meets q
            simp only [chain, hr]
            exact .ok _ _ fine hnumbers (meets_registered hmeets position id)
  | .var name spec =>
    rw [convert_var, chain_one]
    exact varying_counts hm name spec
  | .snippet children =>
    rw [convert_snippet]
    have hbody := convertAll_counts hpolicy children hg (hs.withLastText none) hm
    cases hc : convertAll settings children (w.withLastText none) with
    | error err w₁ =>
      rw [hc] at hbody
      cases hbody with
      | error _ _ failed => exact .error err w₁ failed
    | ok ids w₁ =>
      rw [hc] at hbody
      cases hbody with
      | ok _ _ fine numbers meets => exact .ok _ _ fine numbers.compact meets
  | .ownText content => cases hg
  | .ownSnippet children => cases hg
  | .custom kind => cases hg
  | .built id => cases hg

theorem convertAll_counts (hpolicy : settings.policy.assembler = Assembler.embed)
    (es : List Element) (hg : Element.grammaticalAll es) {w : Workspace}
    (hs : w.Sound settings base) {seen : List Nat} (hm : w.Meets seen) :
    Counts settings w.store (requestsAll settings seen es) (rowAll Positions.ranks seen es)
      (metAll seen es) (convertAll settings es w) := by
  match es with
  | [] => exact .ok [] w rfl (Store.Extends.refl w.store).numbers_nil hm
  | e :: es =>
    simp only [Element.grammaticalAll, Bool.and_eq_true] at hg
    have he := convert_counts hpolicy e hg.1 hs hm
    rw [convertAll_cons, requestsAll, rowAll, metAll]
    -- The first transform that cannot be made ends it all, whether it is in `e` or behind.
    cases hc : convert settings e w with
    | error err w₁ =>
      rw [hc] at he
      cases he with
      | error _ _ failed => exact .error err w₁ (by rw [failure?_append, failed]; rfl)
    | ok built w₁ =>
      have hgrown := convert_grown hpolicy e hg.1 hs hc
      rw [hc] at he
      cases he with
      | ok _ _ fine numbers meets =>
        have hmeets : (w₁.after e).Meets (e.met seen) := by
          intro q
          rw [registry_after]
          exact meets q
        have hes := convertAll_counts hpolicy es hg.2 (hgrown.sound.after e) hmeets
        rw [store_after] at hes
        simp only [chain, hgrown.spliced_eq]
        cases hcs : convertAll settings es (w₁.after e) with
        | error err w₂ =>
          rw [hcs] at hes
          cases hes with
          | error _ _ failed => exact .error err w₂ (by rw [failure?_append, fine, failed]; rfl)
        | ok ids w₂ =>
          rw [hcs] at hes
          cases hes with
          | ok _ _ fine' numbers' meets' =>
            exact .ok _ _ (by rw [failure?_append, fine, fine']; rfl) (numbers.append numbers') meets'

end

end Trees

end Conversion

theorem compileSnippet_counts [Pattern.CharacterNames] {o : Options}
    (hpolicy : (Context.fresh o).settings.policy.assembler = Assembler.embed)
    {children : List Element} (hg : Element.grammaticalAll children) (s : Store) :
    ∃ run, compileSnippet none o (.snippet children) s = .ok run ∧
      ((∃ ids, run.outcome = .ok ids ∧
          (Context.fresh o).settings.failure?
            (Element.requestsAll (Context.fresh o).settings [] children) = none ∧
          ids.map run.store.position? =
            Positions.ranks (Element.rowAll Positions.ranks [] children)) ∨
        ∃ err, run.outcome = .error err ∧
          (Context.fresh o).settings.failure?
            (Element.requestsAll (Context.fresh o).settings [] children) = some err) := by
  have hmeets : (Workspace.fresh s).Meets [] := fun _ => rfl
  have hcounts := Conversion.convert_counts hpolicy (.snippet children) hg
    (Workspace.sound_fresh (Context.fresh o).settings s) hmeets
  rw [compileSnippet_fresh]
  cases hc : Conversion.convert (Context.fresh o).settings (.snippet children) (.fresh s) with
  | error err w =>
    rw [hc] at hcounts
    cases hcounts with
    | error _ _ failed => exact ⟨_, rfl, .inr ⟨err, rfl, failed⟩⟩
  | ok built w =>
    have hgrown := Conversion.convert_grown hpolicy (.snippet children) hg
      (Workspace.sound_fresh _ s) hc
    rw [hc] at hcounts
    cases hcounts with
    | ok _ _ fine numbers meets =>
      exact ⟨_, rfl, .inl ⟨built.ids, by rw [hgrown.spliced_eq], fine, numbers.positions⟩⟩

/-- A template with its nested templates written out in their places fails as it does with them, or
has its row numbered by the ranks of the declared numbers. The nested templates give the same numbers
if and only if each of them, closed before it is put in its place, keeps the declared order there. -/
theorem compileSnippet_inline [Pattern.CharacterNames] {o : Options}
    (hpolicy : (Context.fresh o).settings.policy.assembler = Assembler.embed)
    {children : List Element} (hg : Element.grammaticalAll children) (s : Store) :
    ∃ nested written, compileSnippet none o (.snippet children) s = .ok nested ∧
      compileSnippet none o (.snippet (Element.inlineAll children)) s = .ok written ∧
      (∀ err, nested.outcome = .error err ↔ written.outcome = .error err) ∧
      ∀ ids ids', nested.outcome = .ok ids → written.outcome = .ok ids' →
        ids'.map written.store.position? = Positions.ranks (Element.declared [] children) ∧
        (ids.map nested.store.position? = ids'.map written.store.position? ↔
          Element.inOrder [] (.snippet children)) := by
  obtain ⟨nested, hn, hnested⟩ := compileSnippet_counts hpolicy hg s
  obtain ⟨written, hw, hwritten⟩ :=
    compileSnippet_counts hpolicy (Element.grammaticalAll_inlineAll children hg) s
  obtain ⟨-, hrow, hrequests⟩ :=
    Element.inlineAll_spec (Context.fresh o).settings Positions.ranks [] children
  -- Written out, the tree has no nested rows left, and its row is numbered in one round.
  rw [hrow, hrequests] at hwritten
  refine ⟨nested, written, hn, hw, ?failures, ?numbers⟩
  case failures =>
    intro err
    -- Both trees ask for the same transforms in the same order.
    rcases hnested with ⟨ids, hok, hfine, -⟩ | ⟨e, herr, hfailed⟩ <;>
      rcases hwritten with ⟨ids', hok', hfine', -⟩ | ⟨e', herr', hfailed'⟩
    · simp [hok, hok']
    · rw [hfine] at hfailed'
      cases hfailed'
    · rw [hfine'] at hfailed
      cases hfailed
    · rw [hfailed] at hfailed'
      rw [herr, herr', Option.some.inj hfailed']
  case numbers =>
    intro ids ids' hids hids'
    rcases hnested with ⟨_, hok, -, hpositions⟩ | ⟨e, herr, -⟩
    · rcases hwritten with ⟨_, hok', -, hpositions'⟩ | ⟨e', herr', -⟩
      · rw [hids] at hok
        rw [hids'] at hok'
        cases hok
        cases hok'
        refine ⟨hpositions', ?_⟩
        rw [hpositions, hpositions']
        exact Element.row_eq_offered_iff [] (.snippet children)
      · rw [hids'] at herr'
        cases herr'
    · rw [hids] at herr
      cases herr

/-- Here the nested row is compact already, and the order stays. -/
def trailing : List Element := [.snippet [.tabstop 1 none, .tabstop 2 none], .tabstop 7 none]

theorem compileSnippet_inline_trailing :
    Element.inOrder [] (.snippet trailing) ∧
    ∃ nested written, compileSnippet none Options.none (.snippet trailing) Store.empty = .ok nested ∧
      compileSnippet none Options.none (.snippet (Element.inlineAll trailing)) Store.empty =
        .ok written ∧
      ∀ ids ids', nested.outcome = .ok ids → written.outcome = .ok ids' →
        ids.map nested.store.position? = ids'.map written.store.position? := by
  have horder : Element.inOrder [] (.snippet trailing) := by decide
  have hg : Element.grammaticalAll trailing := rfl
  obtain ⟨nested, written, hn, hw, -, hnumbers⟩ :=
    compileSnippet_inline (o := Options.none) rfl hg Store.empty
  exact ⟨horder, nested, written, hn, hw, fun ids ids' h h' => (hnumbers ids ids' h h').2.mpr horder⟩

/-- An insertion point that is declared with 2, and one in a nested template that is declared with 5. -/
def leading : List Element := [.tabstop 2 none, .snippet [.tabstop 5 none]]

/-- The nested one brings a 1 and comes first, but it would come second if it were written out. -/
theorem compileSnippet_leading :
    ∃ nested written ids ids', compileSnippet none Options.none (.snippet leading) Store.empty =
        .ok nested ∧
      compileSnippet none Options.none (.snippet (Element.inlineAll leading)) Store.empty =
        .ok written ∧
      nested.outcome = .ok ids ∧ ids.map nested.store.position? = [some 2, some 1] ∧
      written.outcome = .ok ids' ∧ ids'.map written.store.position? = [some 1, some 2] := by
  have hg : Element.grammaticalAll leading := rfl
  have hg' : Element.grammaticalAll (Element.inlineAll leading) := rfl
  obtain ⟨nested, hn, hnested⟩ := compileSnippet_counts (o := Options.none) rfl hg Store.empty
  obtain ⟨written, hw, hwritten⟩ := compileSnippet_counts (o := Options.none) rfl hg' Store.empty
  rcases hnested with ⟨ids, hids, -, hpositions⟩ | ⟨e, -, hfailed⟩
  · rcases hwritten with ⟨ids', hids', -, hpositions'⟩ | ⟨e, -, hfailed⟩
    · refine ⟨nested, written, ids, ids', hn, hw, hids, hpositions.trans ?_, hids',
        hpositions'.trans ?_⟩
      · decide
      · decide
    · cases hfailed
  · cases hfailed

end Snippet
