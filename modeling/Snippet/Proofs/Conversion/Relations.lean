import Mathlib.Data.List.Forall2
import Snippet.Proofs.Conversion.Steps
import Snippet.Proofs.Element

/-!
Two conversions of one tree side by side. If a relation between workspaces is kept by each kind of step
that a conversion takes, related workspaces lead to the same outcome of the conversion and are related
again, also where the conversion stops. With equal workspaces on both sides this says what a conversion
keeps up.
-/

namespace Snippet

/-- Nodes that conversion makes in the same way from related nodes. -/
inductive Node.Made (R : NodeId → NodeId → Prop) : Node → Node → Prop where
  | text (lines : Lines) : Made R (.text lines) (.text lines)
  | tabstop (default : Option String) : Made R (.tabstop default none) (.tabstop default none)
  | choice (choices : List Lines) : Made R (.choice choices 0) (.choice choices 0)
  | computed (fn : ValueFunction) {ids ids' : List NodeId} (h : List.Forall₂ R ids ids') :
      Made R (.computed fn ids) (.computed fn ids')
  | group {ids ids' : List NodeId} (h : List.Forall₂ R ids ids') : Made R (.group ids) (.group ids')
  | wrap (indent : Indent) {id id' : NodeId} (h : R id id') :
      Made R (.wrap id indent) (.wrap id' indent)

/-- Related nodes, or rows of nodes that are related one by one. -/
inductive Built.Both (R S : NodeId → NodeId → Prop) : Built → Built → Prop where
  | one {id id' : NodeId} (h : R id id') : Both R S (.one id) (.one id')
  | many {ids ids' : List NodeId} (h : List.Forall₂ S ids ids') : Both R S (.many ids) (.many ids')

def Filling.rename (f : NodeId → NodeId) : Filling → Filling
  | text content => text content
  | node id => node (f id)

def Rebuild.rename (f : NodeId → NodeId) : Rebuild → Rebuild
  | body group => body (f group)
  | host make => host fun scope => (make scope).map (Filling.rename f)

/-- The node with other numbers for the nodes it refers to. -/
def Node.rename (f : NodeId → NodeId) : Node → Node
  | computed fn dependencies => computed fn (dependencies.map f)
  | dynamic rebuild slot => dynamic (rebuild.map (Rebuild.rename f)) (f slot)
  | group children => group (children.map f)
  | wrap child indent => wrap (f child) indent
  | row members => row (members.map f)
  | bound target => bound (f target)
  | n => n

def Built.rename (f : NodeId → NodeId) : Built → Built
  | one id => one (f id)
  | many ids => many (ids.map f)

/-! ## Other numbers for nodes -/

theorem Filling.rename_rename (f g : NodeId → NodeId) (filling : Filling) :
    (filling.rename f).rename g = filling.rename fun x => g (f x) := by
  cases filling <;> rfl

theorem Rebuild.rename_rename (f g : NodeId → NodeId) (rebuild : Rebuild) :
    (rebuild.rename f).rename g = rebuild.rename fun x => g (f x) := by
  cases rebuild with
  | body group => rfl
  | host make =>
    refine congrArg host (funext fun scope => ?_)
    rcases h : make scope with e | filling <;> simp [h, Except.map, Filling.rename_rename]

theorem Node.rename_rename (f g : NodeId → NodeId) (n : Node) :
    (n.rename f).rename g = n.rename fun x => g (f x) := by
  cases n with
  | computed fn dependencies => simp [rename, Function.comp_def]
  | dynamic rebuild slot => cases rebuild <;> simp [rename, Rebuild.rename_rename]
  | group children => simp [rename, Function.comp_def]
  | row members => simp [rename, Function.comp_def]
  | _ => rfl

theorem Filling.rename_same (filling : Filling) : filling.rename (fun id => id) = filling := by
  cases filling <;> rfl

theorem Rebuild.rename_same (rebuild : Rebuild) : rebuild.rename (fun id => id) = rebuild := by
  cases rebuild with
  | body group => rfl
  | host make =>
    refine congrArg host (funext fun scope => ?_)
    rcases h : make scope with e | filling <;> simp [Except.map, Filling.rename_same]

theorem Node.rename_same (n : Node) : n.rename (fun id => id) = n := by
  cases n with
  | dynamic rebuild slot => cases rebuild <;> simp [rename, Rebuild.rename_same]
  | _ => simp [rename]

/-! ## Nodes that are related by their numbers -/

section Renaming

variable {f : NodeId → NodeId} {P Q : NodeId → Prop}

theorem forall₂_rename {ids ids' : List NodeId} :
    List.Forall₂ (fun id id' => id' = f id ∧ P id) ids ids' ↔
      ids' = ids.map f ∧ ∀ id ∈ ids, P id := by
  constructor
  · intro h
    induction h with
    | nil => simp
    | cons hid _ ih => exact ⟨by rw [hid.1, ih.1, List.map_cons], by simpa [hid.2] using ih.2⟩
  · rintro ⟨rfl, h⟩
    induction ids with
    | nil => exact .nil
    | cons id ids ih =>
      exact .cons ⟨rfl, h id (by simp)⟩ (ih fun x hx => h x (by simp [hx]))

theorem Node.Made.rename {n n' : Node} (h : n.Made (fun id id' => id' = f id ∧ P id) n') :
    n' = n.rename f ∧ ∀ x ∈ n.edges, P x := by
  cases h with
  | computed fn h =>
    obtain ⟨rfl, hids⟩ := forall₂_rename.mp h
    exact ⟨rfl, hids⟩
  | group h =>
    obtain ⟨rfl, hids⟩ := forall₂_rename.mp h
    exact ⟨rfl, hids⟩
  | wrap indent h =>
    obtain ⟨rfl, hid⟩ := h
    exact ⟨rfl, by simpa [edges] using hid⟩
  | _ => exact ⟨rfl, by simp [edges]⟩

theorem Built.Both.rename {built built' : Built}
    (h : built.Both (fun id id' => id' = f id ∧ P id) (fun id id' => id' = f id ∧ Q id) built') :
    built' = built.rename f := by
  cases h with
  | one h => rw [h.1, Built.rename]
  | many h => rw [(forall₂_rename.mp h).1, Built.rename]

end Renaming

namespace Conversion

open Workspace

/-- A relation between two workspaces, with relations between their nodes: between those that can be
referred to, those that conversion has made, those that an element can become, and those that can stand
among siblings. -/
structure Bond where
  works : Workspace → Workspace → Prop
  refs : Workspace → Workspace → NodeId → NodeId → Prop
  made : Workspace → Workspace → NodeId → NodeId → Prop
  units : Workspace → Workspace → NodeId → NodeId → Prop
  rows : Workspace → Workspace → NodeId → NodeId → Prop

namespace Bond

/-- The workspaces `w` and `w'` are related, and all nodes that were related in `v` and `v'`. -/
structure Step (B : Bond) (v v' w w' : Workspace) : Prop where
  works : B.works w w'
  made : ∀ id id', B.made v v' id id' → B.made w w' id id'
  units : ∀ id id', B.units v v' id id' → B.units w w' id id'
  rows : ∀ id id', B.rows v v' id id' → B.rows w w' id id'

/-- Each kind of step leads from related workspaces to related ones. -/
structure Kept (B : Bond) (settings : Settings) : Prop where
  lastText : ∀ {w w'}, B.works w w' → w'.lastText = w.lastText
  lookup : ∀ {w w'} (p : Int), B.works w w' →
    Option.Rel (B.refs w w') (w.registry.lookup p) (w'.registry.lookup p)
  madeRefs : ∀ {w w' id id'}, B.works w w' → B.made w w' id id' → B.refs w w' id id'
  madeUnits : ∀ {w w' id id'}, B.works w w' → B.made w w' id id' → B.units w w' id id'
  rowRefs : ∀ {w w' id id'}, B.works w w' → B.rows w w' id id' → B.refs w w' id id'
  spliced : ∀ {w w' id id'}, B.works w w' → B.units w w' id id' →
    List.Forall₂ (B.rows w w') (spliced w.store (.one id)) (spliced w'.store (.one id'))
  noted : ∀ {w w'} (events : List Event), B.works w w' →
    B.Step w w' (w.noted events) (w'.noted events)
  withLastText : ∀ {w w'} (lines : Option Lines), B.works w w' →
    B.Step w w' (w.withLastText lines) (w'.withLastText lines)
  added : ∀ {w w' n n'} (p : Option Int), B.works w w' → n.Made (B.refs w w') n' →
    B.Step w w' (w.added n p) (w'.added n' p) ∧
      B.made (w.added n p) (w'.added n' p) w.store.size w'.store.size
  registered : ∀ {w w' id id'} (p : Int), B.works w w' → B.made w w' id id' →
    B.Step w w' (w.registered p id) (w'.registered p id')
  compacted : ∀ {w w' ids ids'}, B.works w w' → List.Forall₂ (B.rows w w') ids ids' →
    B.Step w w' (w.compacted ids) (w'.compacted ids')
  classified : ∀ {w w' group group'} (p : Int), B.works w w' → B.made w w' group group' →
    let r := w.store.classify settings.policy.assembler p group
    let r' := w'.store.classify settings.policy.assembler p group'
    w'.store.classifyEvents p group' = w.store.classifyEvents p group ∧
      B.Step w w' { w with store := r.2 } { w' with store := r'.2 } ∧
        B.made { w with store := r.2 } { w' with store := r'.2 } r.1 r'.1

/-- Both computations succeed, with related results, or fail with the same error. -/
inductive Pair {α : Type} (B : Bond) (v v' : Workspace) (P : Workspace → Workspace → α → α → Prop) :
    EStateM.Result Error Workspace α → EStateM.Result Error Workspace α → Prop where
  | ok {a a' : α} {w w' : Workspace} (step : B.Step v v' w w') (result : P w w' a a') :
      Pair B v v' P (.ok a w) (.ok a' w')
  | error (e : Error) {w w' : Workspace} (step : B.Step v v' w w') :
      Pair B v v' P (.error e w) (.error e w')

variable {B : Bond} {settings : Settings} {u u' v v' w w' : Workspace} {id id' : NodeId}

theorem Step.refl (h : B.works w w') : B.Step w w' w w' :=
  ⟨h, fun _ _ hid => hid, fun _ _ hid => hid, fun _ _ hid => hid⟩

theorem Step.trans (h : B.Step u u' v v') (h' : B.Step v v' w w') : B.Step u u' w w' where
  works := h'.works
  made id id' hid := h'.made id id' (h.made id id' hid)
  units id id' hid := h'.units id id' (h.units id id' hid)
  rows id id' hid := h'.rows id id' (h.rows id id' hid)

theorem Step.all {ids ids' : List NodeId} (h : B.Step v v' w w')
    (hids : List.Forall₂ (B.rows v v') ids ids') : List.Forall₂ (B.rows w w') ids ids' :=
  hids.imp h.rows

section Pair

variable {α β : Type} {P : Workspace → Workspace → α → α → Prop}
  {Q : Workspace → Workspace → β → β → Prop} {r r' : EStateM.Result Error Workspace α}
  {f f' : α → Workspace → EStateM.Result Error Workspace β}

theorem Pair.of_step (h : B.Step u u' v v') (hr : B.Pair v v' P r r') : B.Pair u u' P r r' := by
  cases hr with
  | ok step result => exact .ok (h.trans step) result
  | error e step => exact .error e (h.trans step)

theorem Pair.chain (h : B.Pair v v' P r r')
    (hf : ∀ a a' w w', B.Step v v' w w' → P w w' a a' → B.Pair w w' Q (f a w) (f' a' w')) :
    B.Pair v v' Q (chain f r) (chain f' r') := by
  cases h with
  | ok step result => exact (hf _ _ _ _ step result).of_step step
  | error e step => exact .error e step

end Pair

/-- A pair of runs that each give a node. -/
abbrev Nodes (B : Bond) (v v' : Workspace) :
    EStateM.Result Error Workspace NodeId → EStateM.Result Error Workspace NodeId → Prop :=
  B.Pair v v' B.made

/-- A pair of runs that each give a node, or nodes in a row. -/
abbrev Builts (B : Bond) (v v' : Workspace) :
    EStateM.Result Error Workspace Built → EStateM.Result Error Workspace Built → Prop :=
  B.Pair v v' fun w w' => Built.Both (B.units w w') (B.rows w w')

abbrev Rows (B : Bond) (v v' : Workspace) :
    EStateM.Result Error Workspace (List NodeId) → EStateM.Result Error Workspace (List NodeId) →
      Prop :=
  B.Pair v v' fun w w' => List.Forall₂ (B.rows w w')

/-! ## The steps of a conversion -/

theorem Kept.after (hB : B.Kept settings) (h : B.works w w') (e : Element) :
    B.Step w w' (w.after e) (w'.after e) := by
  unfold Workspace.after
  split
  · exact .refl h
  · exact hB.withLastText none h

theorem Kept.one (hB : B.Kept settings) {r r' : EStateM.Result Error Workspace NodeId}
    (h : B.Nodes v v' r r') :
    B.Builts v v' (chain (fun id w => .ok (.one id) w) r) (chain (fun id w => .ok (.one id) w) r') :=
  h.chain fun _ _ _ _ step hid => .ok (.refl step.works) (.one (hB.madeUnits step.works hid))

theorem Kept.adding (hB : B.Kept settings) (h : B.works w w') {n n' : Node}
    (hn : n.Made (B.refs w w') n') (p : Option Int) :
    B.Nodes w w' (.ok w.store.size (w.added n p)) (.ok w'.store.size (w'.added n' p)) :=
  .ok (hB.added p h hn).1 (hB.added p h hn).2

theorem Kept.registering (hB : B.Kept settings) (p : Int)
    {r r' : EStateM.Result Error Workspace NodeId} (h : B.Nodes v v' r r') :
    B.Builts v v' (chain (fun id w => .ok (.one id) (w.registered p id)) r)
      (chain (fun id w => .ok (.one id) (w.registered p id)) r') := by
  refine h.chain fun id id' w w' step hid => ?_
  have hstep := hB.registered p step.works hid
  exact .ok hstep (.one (hB.madeUnits hstep.works (hstep.made id id' hid)))

theorem Kept.primary (hB : B.Kept settings) (h : B.works w w') {p : Int}
    (hid : w.registry.lookup p = some id) (hid' : w'.registry.lookup p = some id') :
    B.refs w w' id id' := by
  have hrel := hB.lookup p h
  rw [hid, hid'] at hrel
  cases hrel with
  | some h => exact h

theorem Kept.mirroring (hB : B.Kept settings) (h : B.works w w') {p : Int}
    (spec : Option TransformSpec) (hid : w.registry.lookup p = some id)
    (hid' : w'.registry.lookup p = some id') :
    B.Nodes w w' (mirroring settings w p spec id) (mirroring settings w' p spec id') := by
  have hmirrored := hB.noted [.mirrored p] h
  have hmade := hB.noted (spec.toList.map .transformMade) hmirrored.works
  refine .of_step (hmirrored.trans hmade) ?_
  unfold Conversion.mirroring
  dsimp only
  cases settings.transform spec with
  | ok f =>
    have hprimary := hB.primary hmade.works (p := p) hid hid'
    exact hB.adding hmade.works (.computed (.copy f) (.cons hprimary .nil)) none
  | error e => exact .error e (.refl hmade.works)

theorem Kept.wrapping (hB : B.Kept settings) (h : B.works w w') (hid : B.made w w' id id')
    (name : String) : B.Nodes w w' (wrapping w id name) (wrapping w' id' name) := by
  unfold Conversion.wrapping
  rw [hB.lastText h]
  cases Indent.forVariable? name w.lastText with
  | none => exact .ok (.refl h) hid
  | some indent => exact hB.adding h (.wrap indent (hB.madeRefs h hid)) none

theorem Kept.varying (hB : B.Kept settings) (h : B.works w w') (name : String)
    (spec : Option TransformSpec) :
    B.Nodes w w' (varying settings w name spec) (varying settings w' name spec) := by
  have value : ∀ {w w' : Workspace} (fn : ValueFunction), B.works w w' →
      B.Nodes w w' (Conversion.wrapping (w.added (.computed fn []) none) w.store.size name)
        (Conversion.wrapping (w'.added (.computed fn []) none) w'.store.size name) := by
    intro w w' fn hw
    have hadded := hB.added none hw (.computed fn .nil)
    exact .of_step hadded.1 (hB.wrapping hadded.1.works hadded.2 name)
  unfold Conversion.varying
  split
  · have hnoted := hB.noted (spec.toList.map .transformMade) h
    dsimp only
    cases settings.transform spec with
    | ok f => exact .of_step hnoted (value _ hnoted.works)
    | error e => exact .error e hnoted
  · cases settings.resolvers.lookup name with
    | some f => exact value f h
    | none =>
      have hnoted := hB.noted [.unknownVariable name] h
      exact .of_step hnoted (hB.adding hnoted.works (.text [""]) none)

theorem Kept.embodying (hB : B.Kept settings) (h : B.works w w') (p : Int)
    {ids ids' : List NodeId} (hids : List.Forall₂ (B.rows w w') ids ids') :
    B.Nodes w w' (embodying settings w p ids) (embodying settings w' p ids') := by
  obtain ⟨hadded, hgroup⟩ := hB.added none h (.group (hids.imp fun _ _ => hB.rowRefs h))
  -- Noting what becomes of the body changes nothing in the store, which is classified as before.
  have hclassified := hB.classified p hadded.works hgroup
  have hnoted := hB.noted ((w.added (.group ids) none).store.classifyEvents p w.store.size)
    hadded.works
  unfold Conversion.embodying
  dsimp only
  rw [store_noted, store_noted, hclassified.1]
  have hnode := hB.classified p hnoted.works (hnoted.made _ _ hgroup)
  exact .of_step (hadded.trans hnoted) (.ok hnode.2.1 hnode.2.2)

/-! ## Whole trees -/

/-- What stands among the siblings of an element. -/
theorem Kept.splicing (hB : B.Kept settings) (h : B.works w w') {built built' : Built}
    (hb : built.Both (B.units w w') (B.rows w w') built') :
    List.Forall₂ (B.rows w w') (Conversion.spliced w.store built)
      (Conversion.spliced w'.store built') := by
  cases hb with
  | one hid => exact hB.spliced h hid
  | many hids => exact hids

mutual

theorem Kept.convert (hB : B.Kept settings) (e : Element) {w w' : Workspace} (h : B.works w w')
    (hs : ∀ id ∈ e.supplied, B.units w w' id id) :
    B.Builts w w' (convert settings e w) (convert settings e w') := by
  match e with
  | .text content =>
    have hlast := hB.withLastText (some (Lines.ofText content)) h
    exact .of_step hlast (hB.one (hB.adding hlast.works (.text _) none))
  | .choice position items => exact hB.one (hB.adding h (.choice _) _)
  | .tabstop position spec =>
    have hrel := hB.lookup position h
    rw [convert_tabstop, convert_tabstop]
    cases hp : w.registry.lookup (position : Int) with
    | some id =>
      cases hp' : w'.registry.lookup (position : Int) with
      | some id' => exact hB.one (hB.mirroring h spec hp hp')
      | none => rw [hp, hp'] at hrel; cases hrel
    | none =>
      cases hp' : w'.registry.lookup (position : Int) with
      | some id' => rw [hp, hp'] at hrel; cases hrel
      | none => exact hB.registering position (hB.adding h (.tabstop none) (some (position : Int)))
  | .placeholder position spec children =>
    have hrel := hB.lookup position h
    rw [convert_placeholder, convert_placeholder]
    cases hp : w.registry.lookup (position : Int) with
    | some id =>
      cases hp' : w'.registry.lookup (position : Int) with
      | some id' => exact hB.one (hB.mirroring h spec hp hp')
      | none => rw [hp, hp'] at hrel; cases hrel
    | none =>
      cases hp' : w'.registry.lookup (position : Int) with
      | some id' => rw [hp, hp'] at hrel; cases hrel
      | none =>
        cases Element.loneText? children with
        | some content =>
          exact hB.registering position
            (hB.adding h (.tabstop (some content)) (some (position : Int)))
        | none =>
          -- The body is a row of its own, compacted before a node is made of it.
          have hlast := hB.withLastText none h
          have hall := hB.convertAll children hlast.works fun id hid => hlast.units _ _ (hs id hid)
          refine (hall.of_step hlast).chain fun ids ids' v v' step hids => ?_
          have hcompact := hB.compacted step.works hids
          have hbody := hB.embodying hcompact.works position (hcompact.all hids)
          exact hB.registering position (hbody.of_step hcompact)
  | .var name spec =>
    rw [convert_var, convert_var]
    exact hB.one (hB.varying h name spec)
  | .snippet children =>
    rw [convert_snippet, convert_snippet]
    have hlast := hB.withLastText none h
    have hall := hB.convertAll children hlast.works fun id hid => hlast.units _ _ (hs id hid)
    refine (hall.of_step hlast).chain fun ids ids' v v' step hids => ?_
    have hcompact := hB.compacted step.works hids
    exact .ok hcompact (.many (hcompact.all hids))
  | .ownText content => exact .error _ (.refl h)
  | .ownSnippet children => exact .error _ (.refl h)
  | .custom kind => exact .error _ (.refl h)
  | .built id => exact .ok (.refl h) (.one (hs id (by simp [Element.supplied])))

theorem Kept.convertAll (hB : B.Kept settings) (es : List Element) {w w' : Workspace}
    (h : B.works w w') (hs : ∀ id ∈ Element.suppliedAll es, B.units w w' id id) :
    B.Rows w w' (convertAll settings es w) (convertAll settings es w') := by
  match es with
  | [] => exact .ok (.refl h) .nil
  | e :: es =>
    simp only [Element.suppliedAll, List.mem_append] at hs
    rw [convertAll_cons, convertAll_cons]
    refine (hB.convert e h fun id hid => hs id (.inl hid)).chain fun built built' v v' step hb => ?_
    -- What stands ready for those behind it is related still.
    have hafter := hB.after step.works e
    have hsupplied : ∀ id ∈ Element.suppliedAll es, B.units (v.after e) (v'.after e) id id :=
      fun id hid => hafter.units _ _ (step.units _ _ (hs id (.inr hid)))
    have hrest := hB.convertAll es hafter.works hsupplied
    refine (hrest.of_step hafter).chain fun ids ids' x x' step' hids => ?_
    have hspliced := step'.all (hB.splicing step.works hb)
    exact .ok (.refl step'.works) (List.rel_append hspliced hids)

end

end Bond

end Conversion

end Snippet
