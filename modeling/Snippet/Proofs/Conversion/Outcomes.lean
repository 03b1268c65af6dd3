import Snippet.Proofs.Conversion.Steps
import Snippet.Proofs.Store.Static

/-!
What a computation leaves behind however it ends, also where it stops in the middle of a tree.
-/

namespace Snippet

namespace Assembler

/-- The assembler leaves the nodes as they are, and adds nodes at most. -/
def Keeping (assembler : Assembler) : Prop :=
  ∀ position group s, Store.Keeps s (assembler position group s).2

theorem keeping_embed : embed.Keeping := fun _ _ s => Store.keeps_setPosition s _ _

theorem keeping_of_eq {assembler : Assembler} (h : assembler = embed) : assembler.Keeping :=
  h ▸ keeping_embed

end Assembler

namespace Conversion

/-- However a computation ends, its workspace is as `I` says; if it succeeds, its result is as `P` says. -/
def Upholds {α : Type} (I : Workspace → Prop) (P : α → Workspace → Prop) :
    EStateM.Result Error Workspace α → Prop
  | .ok a w => I w ∧ P a w
  | .error _ w => I w

section Upholds

variable {α β : Type} {I : Workspace → Prop} {P : α → Workspace → Prop} {Q : β → Workspace → Prop}
  {r : EStateM.Result Error Workspace α} {f : α → Workspace → EStateM.Result Error Workspace β}

theorem Upholds.last (h : Upholds I P r) : I (last r) := by
  cases r with
  | ok a w => exact h.1
  | error e w => exact h

theorem Upholds.imp {J : Workspace → Prop} (h : Upholds I P r) (hIJ : ∀ w, I w → J w)
    {P' : α → Workspace → Prop} (hP : ∀ a w, P a w → P' a w) : Upholds J P' r := by
  cases r with
  | ok a w => exact ⟨hIJ w h.1, hP a w h.2⟩
  | error e w => exact hIJ w h

theorem Upholds.chain (h : Upholds I P r) (hf : ∀ a w, I w → P a w → Upholds I Q (f a w)) :
    Upholds I Q (chain f r) := by
  cases r with
  | ok a w => exact hf a w h.1 h.2
  | error e w => exact h

end Upholds

section Keeps

variable {settings : Settings} {s : Store} {w : Workspace}

/-- Has all nodes of `s` as they are. -/
abbrev Keeps (s : Store) {α : Type} : EStateM.Result Error Workspace α → Prop :=
  Upholds (fun w => s.Keeps w.store) fun _ _ => True

theorem keeps_added (h : s.Keeps w.store) (n : Node) (p : Option Int) :
    s.Keeps (w.added n p).store :=
  h.trans (Store.keeps_add w.store n p)

theorem classify_keeps {assembler : Assembler} (hassembler : assembler.Keeping) (position : Int)
    (group : NodeId) (s : Store) : s.Keeps (s.classify assembler position group).2 := by
  unfold Store.classify
  split
  · exact hassembler position group s
  · exact (Store.keeps_add _ _ _).trans (Store.keeps_add _ _ _)

theorem embodying_keeps (hassembler : settings.policy.assembler.Keeping) (h : s.Keeps w.store)
    (position : Int) (ids : List NodeId) : Keeps s (embodying settings w position ids) := by
  have hgroup := keeps_added h (.group ids) none
  exact ⟨hgroup.trans (classify_keeps hassembler position _ _), trivial⟩

end Keeps

end Conversion

end Snippet
