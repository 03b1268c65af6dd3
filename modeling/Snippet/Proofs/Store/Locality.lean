import Snippet.Proofs.Store.Lasting
import Snippet.Proofs.Store.Leaves
import Snippet.Proofs.Store.Parallel

/-!
Edits are seen from where their field is shown, and from nowhere else. A rendering that does not come to
the field that is edited has the same outcome before and after, whatever it builds on its way; and what is
static comes to no field at all.
-/

namespace Snippet

open Relation

namespace Store

open Conversion

theorem Match.outcome_eq {α : Type} {J : Store → Store → Prop}
    {r r' : EStateM.Result Error Store α} (h : Match J r r') : outcome r' = outcome r := by
  obtain ⟨o, u, u', -, rfl, rfl⟩ := h
  cases o <;> rfl

/-- Rendering the node `a` can come to the node `b`. -/
abbrev Shows (s : Store) : NodeId → NodeId → Prop :=
  ReflTransGen s.MayLink

/-! ## One field -/

/-- The store `t` is `s` but for the contents of the field `id`. -/
structure Besides (id : NodeId) (s t : Store) : Prop where
  size : t.size = s.size
  others : ∀ x, x ≠ id → t.node? x = s.node? x
  field : ∃ n n', s.node? id = some n ∧ t.node? id = some n' ∧ n.Refilled n'

section Besides

variable {s t : Store} {id x : NodeId} {scope : Scope}

theorem besides_setNode {n n' : Node} (hn : s.node? id = some n) (h : n.Refilled n') :
    s.Besides id (s.setNode id n') where
  size := size_setNode s id n'
  others x hx := by rw [node?_setNode, if_neg fun he => hx he.symm]
  field := ⟨n, n', hn, by rw [node?_setNode, if_pos rfl, hn]; rfl, h⟩

theorem Besides.ne_vacant (h : s.Besides id t) : s.node? id ≠ some .vacant := by
  obtain ⟨n, n', hn, -, hr⟩ := h.field
  rw [hn]
  cases hr <;> simp

/-- Evaluation comes to no field, so none of its outcomes depends on one. -/
theorem Besides.evaluateWith_eq (h : s.Besides id t) (fuel : Nat) :
    t.evaluateWith scope fuel x = s.evaluateWith scope fuel x := by
  induction fuel generalizing x with
  | zero => rfl
  | succ fuel ih =>
    by_cases hx : x = id
    · subst hx
      obtain ⟨n, n', hn, hn', hr⟩ := h.field
      rw [evaluateWith_succ hn, evaluateWith_succ hn']
      cases hr <;> rfl
    · have hnode := h.others x hx
      cases hn : s.node? x with
      | none => rw [evaluateWith, evaluateWith, hnode, hn]
      | some n =>
        rw [evaluateWith_succ hn, evaluateWith_succ (hnode.trans hn)]
        exact Node.evaluated_congr fun y _ => ih

theorem Besides.rebuilt_eq (h : s.Besides id t) (rebuild : Option Rebuild) :
    t.rebuilt scope rebuild = s.rebuilt scope rebuild := by
  match rebuild with
  | none => rfl
  | some (.host make) => rfl
  | some (.body group) =>
    rw [rebuilt, rebuilt, evaluateStatic, evaluateStatic, h.size, h.evaluateWith_eq]

/-- Building a dynamic node leaves fields and their contents alone. -/
theorem Besides.fill (h : s.Besides id t) {d slot : NodeId} {rebuild : Option Rebuild}
    (hd : s.node? d = some (.dynamic rebuild slot)) (hs : s.node? slot = some .vacant)
    (filling : Filling) : Besides id (s.fill d slot filling) (t.fill d slot filling) where
  size := by simp [h.size]
  others x hx := by
    cases filling with
    | text content => rw [node?_fill_text, node?_fill_text, h.others x hx]
    | node target => rw [node?_fill_node, node?_fill_node, h.others x hx]
  field := by
    obtain ⟨n, n', hn, hn', hr⟩ := h.field
    have hslot : slot ≠ id := fun he => h.ne_vacant (he ▸ hs)
    have hnode : d ≠ id := by
      rintro rfl
      rw [hd] at hn
      cases hn
      cases hr
    refine ⟨n, n', ?_, ?_, hr⟩
    · cases filling with
      | text content => rw [node?_fill_text, if_neg hslot, hn]
      | node target => rw [node?_fill_node, if_neg hnode, hn]
    · cases filling with
      | text content => rw [node?_fill_text, if_neg hslot, hn']
      | node target => rw [node?_fill_node, if_neg hnode, hn']

/-- Where rendering does not come to the field, it makes no difference what is in it. -/
theorem Besides.render_eq (h : s.Besides id t) (hx : ¬s.Shows x id) :
    outcome (render scope x t) = outcome (render scope x s) := by
  have hJ : Alike (fun u u' => s.Filled u ∧ u.Besides id u') scope (s.Shows x) := {
    node := fun {u u' y} hu hy => congrArg _ (hu.2.others y fun he => hx (he ▸ hy))
    link := fun hu hy hn z hz => hy.tail (hu.1.mayLink (.inl ⟨_, hn, hz⟩))
    rebuilt := fun hu _ _ _ => hu.2.rebuilt_eq _
    fill := fun hu _ hn hs hr => ⟨hu.1.fill hn hs hr, hu.2.fill hn hs _⟩ }
  exact (hJ.render h.size .refl ⟨Filled.refl s, h⟩).outcome_eq

end Besides

end Store

namespace Action

theorem render_of_not_shows {a : Action} (ha : a.isEdit) {s : Store} {x : NodeId}
    (hx : ¬s.Shows x a.target) (scope : Scope) :
    outcome (Store.render scope x (a.perform s)) = outcome (Store.render scope x s) := by
  rcases perform_edit ha s with heq | ⟨n, n', hn, hr, heq⟩
  · rw [heq]
  · rw [heq]
    exact (Store.besides_setNode hn hr).render_eq hx

end Action

/-! ## Any field -/

namespace Store

/-- What is static shows the same, whatever is done with the fields. -/
theorem Retouched.render_eq {s t : Store} {id : NodeId} {scope : Scope} (h : s.Retouched t)
    (hs : s.isInteractive id = false) :
    outcome (render scope id t) = outcome (render scope id s) := by
  have hevaluate : t.evaluateStatic scope id = s.evaluateStatic scope id := by
    rw [evaluateStatic, h.size]
    exact (h.static scope hs).2
  rw [render_static hs, render_static (h.isInteractive hs), hevaluate]
  cases s.evaluateStatic scope id <;> rfl

end Store

end Snippet
