import Snippet.Proofs.Store.View
import Snippet.Store.Positions

/-!
Stores that keep their nodes. What has been found static stays static when a store grows, and its
static evaluation stays the same. Static evaluation of a static node is its view.
-/

namespace Snippet

theorem any_congr_of_mem {α : Type} {f g : α → Bool} {l : List α} (h : ∀ x ∈ l, f x = g x) :
    l.any f = l.any g := by
  induction l with
  | nil => rfl
  | cons x l ih =>
    rw [List.any_cons, List.any_cons, h x (by simp), ih fun y hy => h y (by simp [hy])]

/-- A node can change, given which of the nodes it refers to can. -/
def Node.isLive (below : NodeId → Bool) : Node → Bool
  | text _ => false
  | computed _ dependencies => !dependencies.isEmpty
  | group children => children.any below
  | wrap child _ => below child
  | _ => true

theorem Node.isLive_congr {f g : NodeId → Bool} {n : Node} (h : ∀ x ∈ n.edges, f x = g x) :
    n.isLive f = n.isLive g := by
  cases n with
  | group children => exact any_congr_of_mem h
  | wrap child indent => exact h child (by simp [edges])
  | _ => rfl

namespace Store

/-- The store `t` has every node of `s` as it is. -/
def Keeps (s t : Store) : Prop :=
  ∀ id n, s.node? id = some n → t.node? id = some n

variable {s t u : Store} {scope : Scope} {id : NodeId}

theorem Keeps.refl (s : Store) : s.Keeps s := fun _ _ h => h

theorem Keeps.trans (h : s.Keeps t) (h' : t.Keeps u) : s.Keeps u :=
  fun id n hn => h' id n (h id n hn)

theorem exists_node? (h : id < s.size) : ∃ n, s.node? id = some n := by
  cases hn : s.node? id with
  | none => exact absurd (node?_eq_none_iff.mp hn) (Nat.not_le_of_lt h)
  | some n => exact ⟨n, rfl⟩

theorem lt_size {n : Node} (h : s.node? id = some n) : id < s.size := by
  rcases Nat.lt_or_ge id s.size with hlt | hge
  · exact hlt
  · rw [node?_eq_none_iff.mpr hge] at h
    cases h

theorem Keeps.node_eq (h : s.Keeps t) (hid : id < s.size) : t.node? id = s.node? id := by
  obtain ⟨n, hn⟩ := exists_node? hid
  rw [hn, h id n hn]

theorem Keeps.size_le (h : s.Keeps t) : s.size ≤ t.size := by
  rcases Nat.lt_or_ge t.size s.size with hlt | hge
  · obtain ⟨n, hn⟩ := exists_node? hlt
    exact absurd (lt_size (h _ n hn)) (Nat.lt_irrefl _)
  · exact hge

theorem keeps_add (s : Store) (n : Node) (p : Option Int) : s.Keeps (s.add n p).2 := by
  intro id m hm
  have hne : id ≠ s.size := Nat.ne_of_lt (lt_size hm)
  rw [node?_add, if_neg hne, hm]

theorem keeps_setPosition (s : Store) (id : NodeId) (p : Option Int) :
    s.Keeps (s.setPosition id p) := by
  intro x n hn
  rw [node?_setPosition, hn]

@[simp] theorem node?_renumber (s : Store) (changes : List (Positions.Change NodeId))
    (id : NodeId) : (s.renumber changes).node? id = s.node? id := by
  unfold renumber
  induction changes generalizing s with
  | nil => rfl
  | cons c cs ih => rw [List.foldl_cons, ih, node?_setPosition]

@[simp] theorem node?_compact (s : Store) (ids : List NodeId) (id : NodeId) :
    (s.compact ids).node? id = s.node? id :=
  node?_renumber s _ id

@[simp] theorem size_compact (s : Store) (ids : List NodeId) : (s.compact ids).size = s.size := by
  unfold compact renumber
  generalize s.compaction ids = changes
  induction changes generalizing s with
  | nil => rfl
  | cons c cs ih => rw [List.foldl_cons, ih, size_setPosition]

theorem keeps_compact (s : Store) (ids : List NodeId) : s.Keeps (s.compact ids) := by
  intro id n hn
  rw [node?_compact, hn]

/-! ## Static nodes -/

theorem isInteractiveWith_succ {fuel : Nat} {n : Node} (hn : s.node? id = some n) :
    s.isInteractiveWith (fuel + 1) id = n.isLive (s.isInteractiveWith fuel) := by
  rw [isInteractiveWith, hn]
  cases n <;> rfl

/-- Where each node is kept that does not count as one that can change anyway, what is static stays static,
and is evaluated as before, with more fuel as well. -/
theorem static_of_kept
    (h : ∀ x n, s.node? x = some n → t.node? x = some n ∨ ∀ below, n.isLive below = true)
    {fuel fuel' : Nat} (hf : fuel ≤ fuel') (hs : s.isInteractiveWith fuel id = false) (scope : Scope) :
    t.isInteractiveWith fuel' id = false ∧
      t.evaluateWith scope fuel' id = s.evaluateWith scope fuel id := by
  induction fuel generalizing fuel' id with
  | zero => simp [isInteractiveWith] at hs
  | succ fuel ih =>
    obtain ⟨fuel', rfl⟩ : ∃ k, fuel' = k + 1 := ⟨fuel' - 1, by omega⟩
    -- A missing node counts as interactive, so a static one is there in both stores.
    cases hn : s.node? id with
    | none => simp [isInteractiveWith, hn] at hs
    | some n =>
      rw [isInteractiveWith_succ hn] at hs
      have hn' : t.node? id = some n := by
        refine (h id n hn).resolve_right fun hlive => ?_
        rw [hlive] at hs
        cases hs
      rw [isInteractiveWith_succ hn']
      simp only [evaluateWith, hn, hn']
      have below : ∀ x, s.isInteractiveWith fuel x = false → t.isInteractiveWith fuel' x = false ∧
          t.evaluateWith scope fuel' x = s.evaluateWith scope fuel x :=
        fun x hx => ih (Nat.le_of_succ_le_succ hf) hx
      cases n with
      | computed fn dependencies => exact ⟨hs, by cases dependencies <;> rfl⟩
      | group children =>
        simp only [Node.isLive, List.any_eq_false, Bool.not_eq_true] at hs ⊢
        have hm : children.mapM (t.evaluateWith scope fuel') =
            children.mapM (s.evaluateWith scope fuel) :=
          mapM_congr fun c hc => (below c (hs c hc)).2
        exact ⟨fun c hc => (below c (hs c hc)).1, by simp only [hm]⟩
      | wrap child indent => exact ⟨(below child hs).1, by simp only [(below child hs).2]⟩
      | _ => exact ⟨hs, rfl⟩

/-- Neither more nodes nor more fuel make a static node interactive. -/
theorem isInteractiveWith_keeps (h : s.Keeps t) {fuel fuel' : Nat} (hf : fuel ≤ fuel')
    (hs : s.isInteractiveWith fuel id = false) : t.isInteractiveWith fuel' id = false :=
  (static_of_kept (fun x n hn => .inl (h x n hn)) hf hs Scope.empty).1

theorem isInteractive_keeps (h : s.Keeps t) (hs : s.isInteractive id = false) :
    t.isInteractive id = false :=
  isInteractiveWith_keeps h (Nat.succ_le_succ h.size_le) hs

theorem evaluateStatic_keeps (h : s.Keeps t) (hs : s.isInteractive id = false) :
    t.evaluateStatic scope id = s.evaluateStatic scope id :=
  (static_of_kept (fun x n hn => .inl (h x n hn)) (Nat.succ_le_succ h.size_le) hs scope).2

/-- Static evaluation of a static node is its view. -/
theorem evaluateWith_eq_viewWith {fuel : Nat} (hs : s.isInteractiveWith fuel id = false) :
    s.evaluateWith scope fuel id = s.viewWith scope fuel id := by
  induction fuel generalizing id with
  | zero => rfl
  | succ fuel ih =>
    cases hn : s.node? id with
    | none => simp [isInteractiveWith, hn] at hs
    | some n =>
      simp only [isInteractiveWith, hn] at hs
      simp only [evaluateWith, viewWith, hn, Option.getD_some]
      -- Of the nodes that do not refuse evaluation, only groups and wrapped nodes go on to others.
      cases n with
      | text lines => rfl
      | computed fn dependencies =>
        have hnil : dependencies = [] := by simpa using hs
        subst hnil
        cases hfn : fn [] scope <;>
          simp [showing, bind, Except.bind, pure, Except.pure, Except.map, hfn]
      | group children =>
        have hm : children.mapM (s.evaluateWith scope fuel) =
            children.mapM (s.viewWith scope fuel) := by
          apply mapM_congr
          intro c hc
          exact ih (by simpa using List.any_eq_false.mp hs c hc)
        simp only [hm, showing]
      | wrap child indent => simp only [ih hs, showing]
      | _ => simp at hs

theorem evaluateStatic_eq_view (hs : s.isInteractive id = false) :
    s.evaluateStatic scope id = s.view scope id :=
  evaluateWith_eq_viewWith hs

end Store

end Snippet
