import Snippet.Proofs.Store.Locality

/-!
Parts of a store that live apart. A part that refers to nothing outside itself looks the same whatever is
done with the nodes of another part: what is done there is not seen in it, and what is done in it goes as
it goes without that.
-/

namespace Snippet

open Relation

namespace Store

open Conversion

/-- What nodes of the part refer to, or may be built with, is in the part. -/
def Encloses (s : Store) (part : NodeId → Prop) : Prop :=
  ∀ a b, s.MayRefer a b → part a → part b

/-- The stores have the same nodes, at the same positions, on a part. -/
structure SameOn (part : NodeId → Prop) (s t : Store) : Prop where
  size : t.size = s.size
  node : ∀ id, part id → t.node? id = s.node? id
  position : ∀ id, part id → t.position? id = s.position? id

variable {part other : NodeId → Prop} {s t u : Store} {scope : Scope} {base id slot : NodeId}
  {rebuild : Option Rebuild}

section Encloses

theorem Encloses.edges (h : s.Encloses part) (hp : part id) {n : Node} (hn : s.node? id = some n)
    {x : NodeId} (hx : x ∈ n.edges) : part x :=
  h id x (.inl ⟨n, hn, hx⟩) hp

theorem Encloses.narrows (h : s.Encloses part) (hst : s.Narrows t) : t.Encloses part :=
  fun a b hab => h a b (hst.mayRefer a b hab)

theorem Layered.mayRefer (h : s.Layered base) {a b : NodeId} (ha : base ≤ a) (hab : s.MayRefer a b) :
    base ≤ b ∧ b < a := by
  rcases hab with ⟨n, hn, hb⟩ | ⟨slot, ho⟩
  · rcases Node.mem_edges hb with hb | ⟨rebuild, rfl⟩
    · have hr := h.source a n ha hn b hb
      exact ⟨hr.1, hr.2.1⟩
    · have hs := h.slot a rebuild b ha hn
      exact ⟨hs.1, Nat.lt_of_succ_le (Nat.le_of_eq hs.2)⟩
  · have hr := h.offered a slot b ha ho
    exact ⟨hr.1, hr.2.1⟩

theorem Layered.encloses (h : s.Layered base) : s.Encloses fun id => base ≤ id :=
  fun _ _ hab ha => (h.mayRefer ha hab).1

theorem Layered.encloses_below (h : s.Layered base) (top : NodeId) :
    s.Encloses fun id => base ≤ id ∧ id < top :=
  fun _ _ hab ha => ⟨(h.mayRefer ha.1 hab).1, Nat.lt_trans (h.mayRefer ha.1 hab).2 ha.2⟩

end Encloses

section SameOn

theorem SameOn.refl (part : NodeId → Prop) (s : Store) : s.SameOn part s :=
  ⟨rfl, fun _ _ => rfl, fun _ _ => rfl⟩

theorem SameOn.symm (h : s.SameOn part t) : t.SameOn part s :=
  ⟨h.size.symm, fun id hp => (h.node id hp).symm, fun id hp => (h.position id hp).symm⟩

theorem SameOn.trans (h : s.SameOn part t) (h' : t.SameOn part u) : s.SameOn part u where
  size := h'.size.trans h.size
  node id hp := (h'.node id hp).trans (h.node id hp)
  position id hp := (h'.position id hp).trans (h.position id hp)

theorem SameOn.mono (h : s.SameOn part t) (hsub : ∀ id, other id → part id) : s.SameOn other t :=
  ⟨h.size, fun id hp => h.node id (hsub id hp), fun id hp => h.position id (hsub id hp)⟩

theorem SameOn.setNode (h : s.SameOn part t) (id : NodeId) (n : Node) :
    (s.setNode id n).SameOn part (t.setNode id n) where
  size := by rw [size_setNode, size_setNode, h.size]
  node x hp := by rw [node?_setNode, node?_setNode, h.node x hp]
  position x hp := by rw [position?_setNode, position?_setNode, h.position x hp]

/-- Building a node of the part goes the same way in both stores. -/
theorem SameOn.fill (h : s.SameOn part t) (hp : part id) (slot : NodeId) (filling : Filling) :
    (s.fill id slot filling).SameOn part (t.fill id slot filling) := by
  cases filling with
  | text content =>
    refine ⟨by simp [h.size], fun x hx => ?_, fun x hx => ?_⟩
    · rw [node?_fill_text, node?_fill_text, h.node x hx]
    · rw [position?_fill_text, position?_fill_text, h.size, h.position x hx, h.position id hp]
  | node target => exact h.setNode id _

/-- What is put in outside the part is not seen in it. -/
theorem SameOn.setNode_outside (h : s.SameOn part t) (hid : ¬part id) (n : Node) :
    s.SameOn part (t.setNode id n) where
  size := by rw [size_setNode, h.size]
  node x hp := by
    have hne : id ≠ x := fun he => hid (he ▸ hp)
    rw [node?_setNode, if_neg hne, h.node x hp]
  position x hp := by rw [position?_setNode, h.position x hp]

theorem SameOn.fill_outside (h : s.SameOn part t) (hid : ¬part id) (hslot : ¬part slot)
    (filling : Filling) : s.SameOn part (t.fill id slot filling) := by
  cases filling with
  | text content =>
    refine ⟨by simp [h.size], fun x hp => ?_, fun x hp => ?_⟩
    · have hne : slot ≠ x := fun he => hslot (he ▸ hp)
      rw [node?_fill_text, if_neg hne, h.node x hp]
    · have hne : slot ≠ x := fun he => hslot (he ▸ hp)
      rw [position?_fill_text, if_neg fun he => hne he.1, h.position x hp]
  | node target => exact h.setNode_outside hid _

theorem SameOn.evaluateWith_eq (h : s.SameOn part t) (he : s.Encloses part) (fuel : Nat)
    (hp : part id) : t.evaluateWith scope fuel id = s.evaluateWith scope fuel id := by
  induction fuel generalizing id with
  | zero => rfl
  | succ fuel ih =>
    cases hn : s.node? id with
    | none => rw [evaluateWith, evaluateWith, h.node id hp, hn]
    | some n =>
      rw [evaluateWith_succ hn, evaluateWith_succ ((h.node id hp).trans hn)]
      exact Node.evaluated_congr fun x hx => ih (he.edges hp hn (Node.links_subset_edges _ hx))

theorem SameOn.rebuilt_eq (h : s.SameOn part t) (he : s.Encloses part) (hp : part id)
    (hn : s.node? id = some (.dynamic rebuild slot)) :
    t.rebuilt scope rebuild = s.rebuilt scope rebuild := by
  match rebuild with
  | none => rfl
  | some (.host make) => rfl
  | some (.body group) =>
    have hgroup := he.edges hp hn (x := group) (by simp [Node.edges])
    rw [rebuilt, rebuilt, evaluateStatic, evaluateStatic, h.size,
      h.evaluateWith_eq he _ hgroup]

end SameOn

/-! ## Rendering -/

/-- Stores that are the same on an enclosed part render its nodes alike. -/
theorem alike_sameOn (scope : Scope) (part : NodeId → Prop) :
    Alike (fun t t' => t.Encloses part ∧ t.SameOn part t') scope part where
  node h hp := congrArg _ (h.2.node _ hp)
  link h hp hn _ hx := h.1.edges hp hn (Node.links_subset_edges _ hx)
  rebuilt h hp hn _ := h.2.rebuilt_eq h.1 hp hn
  fill h hp hn hs hr := ⟨h.1.narrows (filled_fill hn hs hr).narrows, h.2.fill hp _ _⟩

theorem SameOn.render (h : s.SameOn part t) (he : s.Encloses part) (hp : part id) :
    outcome (render scope id t) = outcome (render scope id s) ∧
      (last (Store.render scope id s)).SameOn part (last (Store.render scope id t)) := by
  have hmatch := (alike_sameOn scope part).render h.size hp ⟨he, h⟩
  refine ⟨hmatch.outcome_eq, ?_⟩
  obtain ⟨o, u, u', ⟨-, hu⟩, hr, hr'⟩ := hmatch
  rw [hr, hr', last_leaving, last_leaving]
  exact hu

/-- Rendering a node of an enclosed part changes nothing outside the part. -/
theorem sameOn_render (he : s.Encloses other) (hp : other id) :
    s.SameOn (fun x => ¬other x) (last (render scope id s)) := by
  -- Of two runs from the same store nothing is to be said but that they change the part at most.
  have hJ : Alike (fun t t' => t' = t ∧ t.Encloses other ∧ s.SameOn (fun x => ¬other x) t) scope
      other := {
    node := fun h _ => by rw [h.1]
    link := fun h hp hn x hx => h.2.1.edges hp hn (Node.links_subset_edges _ hx)
    rebuilt := fun h _ _ _ => by rw [h.1]
    fill := fun {t t' id rebuild slot filling} h hp hn hs hr => by
      have hslot : ¬¬other slot := not_not_intro (h.2.1.edges hp hn (Node.slot_mem_edges _ slot))
      exact ⟨by rw [h.1], h.2.1.narrows (filled_fill hn hs hr).narrows,
        h.2.2.fill_outside (not_not_intro hp) hslot _⟩ }
  obtain ⟨o, u, u', ⟨-, -, hu⟩, hr, -⟩ := hJ.render rfl hp ⟨rfl, he, .refl _ s⟩
  rw [hr, last_leaving]
  exact hu

end Store

/-! ## Actions -/

namespace Action

open Store

variable {part other : NodeId → Prop} {s t : Store}

/-- What is done in an enclosed part goes the same way in stores that are the same on it. -/
theorem perform_sameOn (h : s.SameOn part t) (he : s.Encloses part) {a : Action}
    (ha : part a.target) : (a.perform s).SameOn part (a.perform t) := by
  induction a using cases_edit with
  | render scope id => exact (h.render he ha).2
  | edit a hedit =>
    rcases perform_edit_congr hedit (congrArg _ (h.node a.target ha)) with ⟨hs, ht⟩ | ⟨n, hs, ht⟩
    · rw [hs, ht]
      exact h
    · rw [hs, ht]
      exact h.setNode a.target n

/-- What is done in another part is not seen. -/
theorem sameOn_perform (he : s.Encloses other) {a : Action} (ha : other a.target) :
    s.SameOn (fun x => ¬other x) (a.perform s) := by
  induction a using cases_edit with
  | render scope id => exact sameOn_render he ha
  | edit a hedit =>
    rcases perform_edit hedit s with heq | ⟨n, n', -, -, heq⟩
    · rw [heq]
      exact .refl _ s
    · rw [heq]
      exact (SameOn.refl _ s).setNode_outside (not_not_intro ha) _

/-- Of all that is done in two parts that live apart, each looks as if only what is done in it had been
done. -/
theorem foldl_sameOn [DecidablePred part] (h : s.SameOn part t) (hs : s.Encloses part)
    (hs' : s.Encloses other) (hapart : ∀ id, part id → ¬other id) (actions : List Action)
    (hactions : ∀ a ∈ actions, part a.target ∨ other a.target) :
    (actions.foldl perform s).SameOn part
      ((actions.filter fun a => part a.target).foldl perform t) := by
  induction actions generalizing s t with
  | nil => exact h
  | cons a actions ih =>
    have hnarrows := Action.narrows s a
    have hrest : ∀ b ∈ actions, part b.target ∨ other b.target := fun b hb => hactions b (by simp [hb])
    rcases hactions a (by simp) with ha | ha
    · -- What is done in the part is done in both stores.
      rw [List.filter_cons_of_pos (by simpa using ha)]
      exact ih (perform_sameOn h hs ha) (hs.narrows hnarrows) (hs'.narrows hnarrows) hrest
    · -- What is done in the other part is done in the first store only, where it is not seen.
      rw [List.filter_cons_of_neg (by simpa using fun hp => hapart _ hp ha)]
      have hunseen := (sameOn_perform hs' ha).mono hapart
      exact ih (hunseen.symm.trans h) (hs.narrows hnarrows) (hs'.narrows hnarrows) hrest

end Action

namespace Store

/-- Nothing leads out of either part. Whatever is done with the nodes of both, each renders as if only what
is done with its own had been done. -/
def Independent (s : Store) (part other : NodeId → Prop) [DecidablePred part] [DecidablePred other] :
    Prop :=
  ∀ actions : List Action, (∀ a ∈ actions, part a.target ∨ other a.target) →
    let t := actions.foldl Action.perform s
    let own := (actions.filter fun a => part a.target).foldl Action.perform s
    let own' := (actions.filter fun a => other a.target).foldl Action.perform s
    t.Encloses part ∧ t.Encloses other ∧ ∀ x scope,
      (part x → outcome (t.render scope x) = outcome (own.render scope x)) ∧
        (other x → outcome (t.render scope x) = outcome (own'.render scope x))

variable {part other : NodeId → Prop} [DecidablePred part] [DecidablePred other] {s : Store}

/-- Two enclosed parts that share no node are independent. -/
theorem independent_of_encloses (hs : s.Encloses part) (hs' : s.Encloses other)
    (hapart : ∀ id, part id → ¬other id) : s.Independent part other := by
  intro actions hactions t own own'
  have hpart : t.SameOn part own := Action.foldl_sameOn (.refl _ s) hs hs' hapart actions hactions
  have hother : t.SameOn other own' := Action.foldl_sameOn (.refl _ s) hs' hs
    (fun id ho hp => hapart id hp ho) actions fun a ha => (hactions a ha).symm
  have hnarrows : s.Narrows t := Action.foldl_narrows s actions
  have ht := hs.narrows hnarrows
  have ht' := hs'.narrows hnarrows
  exact ⟨ht, ht', fun x scope => ⟨fun hx => (hpart.render ht hx).1.symm,
    fun hx => (hother.render ht' hx).1.symm⟩⟩

end Store

end Snippet
