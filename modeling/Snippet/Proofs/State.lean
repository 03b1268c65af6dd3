/-!
Results that may be errors, and computations with a state, read as functions of the state they start in.
-/

namespace Snippet

theorem mapM_congr {α β ε : Type} {f g : α → Except ε β} {l : List α} (h : ∀ x ∈ l, f x = g x) :
    l.mapM f = l.mapM g := by
  induction l with
  | nil => rfl
  | cons x l ih =>
    rw [List.mapM_cons, List.mapM_cons, h x (by simp), ih fun y hy => h y (by simp [hy])]

theorem exists_ok_of_mapM_ok {α β ε : Type} {f : α → Except ε β} {l : List α} {bs : List β}
    (h : l.mapM f = .ok bs) {x : α} (hx : x ∈ l) : ∃ b, f x = .ok b := by
  induction l generalizing bs with
  | nil => cases hx
  | cons y l ih =>
    rw [List.mapM_cons] at h
    cases hy : f y with
    | error e =>
      rw [hy] at h
      cases h
    | ok b =>
      cases hl : l.mapM f with
      | error e =>
        rw [hy, hl] at h
        cases h
      | ok cs =>
        rcases List.mem_cons.mp hx with rfl | hx
        · exact ⟨b, hy⟩
        · exact ih hl hx

theorem map_eq_ok {α β ε : Type} {f : α → β} {r : Except ε α} {b : β} (h : r.map f = .ok b) :
    ∃ a, r = .ok a ∧ f a = b := by
  cases r with
  | error e => cases h
  | ok a => exact ⟨a, rfl, Except.ok.inj h⟩

theorem ok_of_toOption {α ε : Type} {r : Except ε α} {a : α} (h : r.toOption = some a) :
    r = .ok a := by
  cases r with
  | ok b => exact congrArg Except.ok (Option.some.inj h)
  | error e => cases h

/-- The error that a result is, if it is one. -/
def error? {α ε : Type} : Except ε α → Option ε
  | .ok _ => none
  | .error e => some e

theorem error?_eq_some {α ε : Type} {r : Except ε α} {e : ε} : error? r = some e ↔ r = .error e := by
  cases r <;> simp [error?]

@[simp] theorem error?_map {α β ε : Type} (f : α → β) (r : Except ε α) :
    error? (r.map f) = error? r := by
  cases r <;> rfl

theorem bind_eq_ok {α β ε : Type} {r : Except ε α} {f : α → Except ε β} {b : β}
    (h : (r >>= f) = .ok b) : ∃ a, r = .ok a ∧ f a = .ok b := by
  cases r with
  | error e => cases h
  | ok a => exact ⟨a, rfl, h⟩

section State

variable {ε σ α : Type} (s : σ)

theorem get_apply : (get : EStateM ε σ σ) s = .ok s s := rfl

theorem set_apply (t : σ) : (set t : EStateM ε σ PUnit) s = .ok ⟨⟩ t := rfl

theorem modify_apply (f : σ → σ) : (modify f : EStateM ε σ PUnit) s = .ok ⟨⟩ (f s) := rfl

theorem throw_apply (e : ε) : (throw e : EStateM ε σ α) s = .error e s := rfl

/-- What a computation gives, whatever state it leaves. -/
def outcome : EStateM.Result ε σ α → Except ε α
  | .ok a _ => .ok a
  | .error e _ => .error e

end State

end Snippet
