import Snippet.Proofs.Store.Depth
import Snippet.Proofs.Store.Edits

/-!
The references of a store in use. Users fill in fields, and a field refers to nothing. Dynamic nodes are built,
and what the host gives for one could have been given from the start. So of the references that there may be at
first, some may be gone in the end, and no other has come.
-/

namespace Snippet

namespace Store

/-- What a node of `t` refers to or may refer to, it may refer to in `s`. -/
structure Narrows (s t : Store) : Prop where
  size : t.size = s.size
  mayRefer : ∀ a b, t.MayRefer a b → s.MayRefer a b

section Narrows

variable {s t u : Store} {a b id : NodeId}

theorem Narrows.refl (s : Store) : s.Narrows s := ⟨rfl, fun _ _ h => h⟩

theorem Narrows.trans (h : s.Narrows t) (h' : t.Narrows u) : s.Narrows u :=
  ⟨h'.size.trans h.size, fun a b hab => h.mayRefer a b (h'.mayRefer a b hab)⟩

theorem Narrows.staysAcyclic (h : s.Narrows t) (ha : s.StaysAcyclic id) : t.StaysAcyclic id := by
  rw [StaysAcyclic, h.size]
  exact ha.mono h.mayRefer

theorem Filled.narrows (h : s.Filled t) : s.Narrows t where
  size := h.size
  mayRefer a b hab := by
    rcases hab with ⟨n, hn, hb⟩ | ⟨slot, ho⟩
    · cases h.node a with
      | same heq => exact .inl ⟨n, heq ▸ hn, hb⟩
      | text content _ hnode =>
        cases hnode.symm.trans hn
        cases hb
      | @bound slot target ho hnode =>
        cases hnode.symm.trans hn
        obtain rfl := List.mem_singleton.mp hb
        exact .inr ⟨slot, ho⟩
    · exact .inr ⟨slot, h.offers ho⟩

theorem narrows_setNode {n n' : Node} (hn : s.node? id = some n) (h : n.Refilled n') :
    s.Narrows (s.setNode id n') where
  size := size_setNode s id n'
  mayRefer a b hab := by
    have hid : (s.setNode id n').node? id = some n' := by
      rw [node?_setNode, if_pos rfl, hn]
      rfl
    -- Only nodes that are there still, as they were, can refer to anything.
    have same : ∀ {x m}, (s.setNode id n').node? x = some m → ¬m.isField ∨ m = .vacant →
        s.node? x = some m := by
      intro x m hm hfield
      by_cases hx : id = x
      · subst hx
        cases hid.symm.trans hm
        cases h <;> simp [Node.isField] at hfield
      · rwa [node?_setNode, if_neg hx] at hm
    rcases hab with ⟨m, hm, hb⟩ | ⟨slot, hv, make, scope, hd, hmake⟩
    · refine .inl ⟨m, same hm (.inl ?_), hb⟩
      cases m with
      | tabstop default typed => cases hb
      | choice choices index => cases hb
      | vacant => cases hb
      | _ => simp [Node.isField]
    · exact .inr ⟨slot, same hv (.inr rfl), make, scope, same hd (.inl (by simp [Node.isField])), hmake⟩

end Narrows

end Store

namespace Action

theorem narrows (s : Store) (a : Action) : s.Narrows (a.perform s) := by
  induction a using cases_edit with
  | render scope id => exact (Store.filled_render scope id s).narrows
  | edit a ha =>
    rcases perform_edit ha s with heq | ⟨n, n', hn, hr, heq⟩
    · rw [heq]
      exact .refl s
    · rw [heq]
      exact Store.narrows_setNode hn hr

theorem foldl_narrows (s : Store) (actions : List Action) :
    s.Narrows (actions.foldl perform s) := by
  induction actions generalizing s with
  | nil => exact .refl s
  | cons a actions ih => exact (narrows s a).trans (ih (a.perform s))

end Action

end Snippet
