import Snippet.Proofs.Conversion.Outcomes
import Snippet.Proofs.Conversion.Relations

/-!
What a conversion keeps up of its store, from what each of its steps does. The nodes that can be referred
to, and those that can stand among siblings, are told apart, and both stay what they are.
-/

namespace Snippet.Conversion

open Workspace

/-- A property of stores, with properties of their nodes: of those that others may refer to, those that
conversion has made, those that an element may become, and those that may stand among siblings. -/
structure Upkeep where
  holds : Store → Prop
  refs : Store → NodeId → Prop
  made : Store → NodeId → Prop
  units : Store → NodeId → Prop
  rows : Store → NodeId → Prop

namespace Upkeep

/-- The store `t` has the property, and all nodes that `s` had. -/
structure Next (U : Upkeep) (s t : Store) : Prop where
  holds : U.holds t
  refs : ∀ id, U.refs s id → U.refs t id
  made : ∀ id, U.made s id → U.made t id
  units : ∀ id, U.units s id → U.units t id
  rows : ∀ id, U.rows s id → U.rows t id

/-- Each step of a conversion keeps the property up. -/
structure Kept (U : Upkeep) (assembler : Assembler) : Prop where
  madeRefs : ∀ {s id}, U.holds s → U.made s id → U.refs s id
  madeUnits : ∀ {s id}, U.holds s → U.made s id → U.units s id
  rowRefs : ∀ {s id}, U.holds s → U.rows s id → U.refs s id
  spliced : ∀ {s id}, U.holds s → U.units s id → ∀ x ∈ spliced s (.one id), U.rows s x
  added : ∀ {s n} (p : Option Int), U.holds s → n.Made (fun x x' => x' = x ∧ U.refs s x) n →
    U.Next s (s.add n p).2 ∧ U.made (s.add n p).2 s.size
  compacted : ∀ {s ids}, U.holds s → (∀ id ∈ ids, U.rows s id) → U.Next s (s.compact ids)
  classified : ∀ {s group} (p : Int), U.holds s → U.made s group →
    let r := s.classify assembler p group
    U.Next s r.2 ∧ U.made r.2 r.1

/-- The workspace has the property, and may refer to its primary nodes. -/
structure Holds (U : Upkeep) (w : Workspace) : Prop where
  store : U.holds w.store
  registered : ∀ p id, w.registry.lookup p = some id → U.refs w.store id

/-- The property as a relation between equal workspaces. -/
def bond (U : Upkeep) : Bond where
  works w w' := w' = w ∧ U.Holds w
  refs w _ id id' := id' = id ∧ U.refs w.store id
  made w _ id id' := id' = id ∧ U.made w.store id
  units w _ id id' := id' = id ∧ U.units w.store id
  rows w _ id id' := id' = id ∧ U.rows w.store id

variable {U : Upkeep} {settings : Settings} {w : Workspace} {s t : Store} {id : NodeId}

theorem Next.same (h : U.holds s) : U.Next s s :=
  ⟨h, fun _ hid => hid, fun _ hid => hid, fun _ hid => hid, fun _ hid => hid⟩

theorem Holds.next (h : U.Holds w) {v : Workspace} (hn : U.Next w.store v.store)
    (hr : v.registry = w.registry) : U.Holds v where
  store := hn.holds
  registered p id hid := hn.refs id (h.registered p id (hr ▸ hid))

theorem step_of_next {v : Workspace} (h : U.Holds v) (hn : U.Next w.store v.store) :
    U.bond.Step w w v v where
  works := ⟨rfl, h⟩
  made _ _ hid := ⟨hid.1, hn.made _ hid.2⟩
  units _ _ hid := ⟨hid.1, hn.units _ hid.2⟩
  rows _ _ hid := ⟨hid.1, hn.rows _ hid.2⟩

theorem forall₂_same {R : NodeId → Prop} {ids ids' : List NodeId} :
    List.Forall₂ (fun id id' => id' = id ∧ R id) ids ids' ↔ ids' = ids ∧ ∀ id ∈ ids, R id := by
  have h : List.Forall₂ (fun id id' => id' = id ∧ R id) ids ids' ↔
      ids' = ids.map (fun id => id) ∧ ∀ id ∈ ids, R id := forall₂_rename
  rwa [List.map_id'] at h

theorem made_same {R : NodeId → Prop} {n n' : Node}
    (h : n.Made (fun id id' => id' = id ∧ R id) n') : n' = n :=
  h.rename.1.trans n.rename_same

theorem Kept.bond_kept (hU : U.Kept settings.policy.assembler) : U.bond.Kept settings where
  lastText h := by rw [h.1]
  lookup {_ w} p h := by
    obtain ⟨rfl, h⟩ := h
    cases hp : w.registry.lookup p with
    | none => exact .none
    | some id => exact .some ⟨rfl, h.registered p id hp⟩
  madeRefs h hid := ⟨hid.1, hU.madeRefs h.2.store hid.2⟩
  madeUnits h hid := ⟨hid.1, hU.madeUnits h.2.store hid.2⟩
  rowRefs h hid := ⟨hid.1, hU.rowRefs h.2.store hid.2⟩
  spliced h hid := by
    obtain ⟨rfl, h⟩ := h
    obtain ⟨rfl, hid⟩ := hid
    exact forall₂_same.mpr ⟨rfl, hU.spliced h.store hid⟩
  noted events h := by
    obtain ⟨rfl, h⟩ := h
    exact step_of_next (h.next (.same h.store) rfl) (.same h.store)
  withLastText lines h := by
    obtain ⟨rfl, h⟩ := h
    exact step_of_next (h.next (.same h.store) rfl) (.same h.store)
  added p h hn := by
    obtain ⟨rfl, h⟩ := h
    obtain rfl := made_same hn
    have hadded := hU.added p h.store hn
    exact ⟨step_of_next (h.next hadded.1 rfl) hadded.1, rfl, hadded.2⟩
  registered p h hid := by
    obtain ⟨rfl, h⟩ := h
    obtain ⟨rfl, hid⟩ := hid
    refine step_of_next ⟨h.store, fun q x hx => ?_⟩ (.same h.store)
    rcases Registry.lookup_register_some hx with hx | rfl
    · exact h.registered q x hx
    · exact hU.madeRefs h.store hid
  compacted h hids := by
    obtain ⟨rfl, h⟩ := h
    obtain ⟨rfl, hids⟩ := forall₂_same.mp hids
    have hn := hU.compacted h.store hids
    exact step_of_next (h.next hn rfl) hn
  classified p h hid := by
    obtain ⟨rfl, h⟩ := h
    obtain ⟨rfl, hid⟩ := hid
    have hn := hU.classified p h.store hid
    exact ⟨rfl, step_of_next (h.next hn.1 rfl) hn.1, rfl, hn.2⟩

/-- What an element has become may stand in its place. -/
def Places (U : Upkeep) (s : Store) : Built → Prop
  | .one id => U.units s id
  | .many ids => ∀ id ∈ ids, U.rows s id

theorem upholds_of_pair {α : Type} {P : Workspace → Workspace → α → α → Prop}
    {Q : α → Workspace → Prop} {r : EStateM.Result Error Workspace α} (h : U.bond.Pair w w P r r)
    (hPQ : ∀ a v, P v v a a → Q a v) : Upholds U.Holds Q r := by
  cases r with
  | ok a v =>
    cases h with
    | ok step result => exact ⟨step.works.2, hPQ a v result⟩
  | error err v =>
    cases h with
    | error _ step => exact step.works.2

/-- However a conversion ends its store has the property, and if it succeeds its nodes may stand in the
place of the element. -/
theorem Kept.convert (hU : U.Kept settings.policy.assembler) (e : Element) (h : U.Holds w)
    (hs : ∀ id ∈ e.supplied, U.units w.store id) :
    Upholds U.Holds (fun built v => U.Places v.store built) (convert settings e w) := by
  have hpair := hU.bond_kept.convert e (w := w) ⟨rfl, h⟩ fun id hid => ⟨rfl, hs id hid⟩
  refine upholds_of_pair hpair fun built v hb => ?_
  cases hb with
  | one h => exact h.2
  | many h => exact (forall₂_same.mp h).2

theorem Kept.convertAll (hU : U.Kept settings.policy.assembler) (es : List Element) (h : U.Holds w)
    (hs : ∀ id ∈ Element.suppliedAll es, U.units w.store id) :
    Upholds U.Holds (fun ids v => ∀ id ∈ ids, U.rows v.store id) (convertAll settings es w) := by
  have hpair := hU.bond_kept.convertAll es (w := w) ⟨rfl, h⟩ fun id hid => ⟨rfl, hs id hid⟩
  exact upholds_of_pair hpair fun ids v hids => (forall₂_same.mp hids).2

end Upkeep

/-! ## Nodes stay -/

/-- The store has all nodes of `s` as they are. -/
def keeping (s : Store) : Upkeep where
  holds t := s.Keeps t
  refs _ _ := True
  made _ _ := True
  units _ _ := True
  rows _ _ := True

section Keeping

variable {settings : Settings} {w : Workspace} {s t : Store}

theorem keeping_next (h : s.Keeps t) (u : Store) : (keeping s).Next u t :=
  ⟨h, fun _ h => h, fun _ h => h, fun _ h => h, fun _ h => h⟩

theorem keeping_kept {assembler : Assembler} (hassembler : assembler.Keeping) :
    (keeping s).Kept assembler where
  madeRefs _ h := h
  madeUnits _ h := h
  rowRefs _ h := h
  spliced _ _ _ _ := trivial
  added {t n} p h _ := ⟨keeping_next (h.trans (Store.keeps_add t n p)) t, trivial⟩
  compacted {t ids} h _ := keeping_next (h.trans (Store.keeps_compact t ids)) t
  classified {t group} p h _ :=
    ⟨keeping_next (h.trans (classify_keeps hassembler p group t)) t, trivial⟩

theorem convert_keeps (hassembler : settings.policy.assembler.Keeping) (e : Element)
    (h : s.Keeps w.store) : Keeps s (convert settings e w) :=
  ((keeping_kept hassembler).convert e ⟨h, fun _ _ _ => trivial⟩ fun _ _ => trivial).imp
    (fun _ hw => hw.store) fun _ _ _ => trivial

theorem convertAll_keeps (hassembler : settings.policy.assembler.Keeping) (es : List Element)
    (h : s.Keeps w.store) : Keeps s (convertAll settings es w) :=
  ((keeping_kept hassembler).convertAll es ⟨h, fun _ _ _ => trivial⟩ fun _ _ => trivial).imp
    (fun _ hw => hw.store) fun _ _ _ => trivial

end Keeping

end Snippet.Conversion
