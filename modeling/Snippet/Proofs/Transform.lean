import Snippet.Transform

/-! A transform whose format stays within the groups of its pattern fails on broken groups only. -/

namespace Snippet.Transform

/-- The format refers to groups of the pattern only. -/
def InRange (tr : Transform) : Prop :=
  ∀ t ∈ tr.format, ∀ group, t.group? = some group → group ≤ tr.search.groups

instance (tr : Transform) : Decidable tr.InRange :=
  inferInstanceAs (Decidable
    (∀ t ∈ tr.format, ∀ group, t.group? = some group → group ≤ tr.search.groups))

/-- Some match in some text has a group whose start lies behind its end. -/
def Breaks (tr : Transform) : Prop :=
  ∃ text, ∃ m ∈ Pattern.findAll tr.search text tr.everywhere, m.isBroken tr.search.groups

theorem expand_ok {groups : Nat} (text : Array Char) (m : Pattern.Match) {format : Format}
    (h : ∀ t ∈ format, ∀ group, t.group? = some group → group ≤ groups) :
    ∃ s, expand groups text m format = .ok s := by
  induction format with
  | nil => exact ⟨[], rfl⟩
  | cons t ts ih =>
    have hone : ∃ s, expandToken groups text m t = .ok s := by
      unfold expandToken
      cases ht : t.group? with
      | none => exact ⟨_, rfl⟩
      | some group =>
        have hle := h t (by simp) group ht
        dsimp only
        rw [if_neg (Nat.not_lt_of_le hle)]
        exact ⟨_, rfl⟩
    obtain ⟨s, hs⟩ := hone
    obtain ⟨r, hr⟩ := ih fun t' ht' => h t' (by simp [ht'])
    refine ⟨s ++ r, ?_⟩
    rw [expand, hs, hr]
    rfl

theorem replacement_cases {tr : Transform} (h : tr.InRange) (text : Array Char)
    (m : Pattern.Match) :
    (∃ s, tr.replacement text m = .ok s) ∨
      tr.replacement text m = .error .brokenGroup ∧ m.isBroken tr.search.groups := by
  unfold replacement
  by_cases hb : m.isBroken tr.search.groups
  · rw [if_pos hb]
    exact .inr ⟨rfl, hb⟩
  · rw [if_neg hb]
    exact .inl (expand_ok text m h)

theorem replace_cases {tr : Transform} (h : tr.InRange) (text : Array Char) (start : Nat)
    (ms : List Pattern.Match) :
    (∃ s, tr.replace text start ms = .ok s) ∨
      tr.replace text start ms = .error .brokenGroup ∧
        ∃ m ∈ ms, m.isBroken tr.search.groups := by
  induction ms generalizing start with
  | nil => exact .inl ⟨_, rfl⟩
  | cons m ms ih =>
    rw [replace]
    -- The first broken match stops the rest.
    rcases replacement_cases h text m with ⟨s, hs⟩ | ⟨he, hb⟩
    · rcases ih m.stop with ⟨r, hr⟩ | ⟨he, m', hm', hb⟩
      · rw [hs, hr]
        exact .inl ⟨_, rfl⟩
      · rw [hs, he]
        exact .inr ⟨rfl, m', by simp [hm'], hb⟩
    · rw [he]
      exact .inr ⟨rfl, m, by simp, hb⟩

theorem apply_cases {tr : Transform} (h : tr.InRange) (lines : Lines) :
    (∃ ls, tr.apply lines = .ok ls) ∨ tr.apply lines = .error .brokenGroup ∧ tr.Breaks := by
  let text := lines.toText.toList.toArray
  have happly : tr.apply lines = (tr.replace text 0 (Pattern.findAll tr.search text
      tr.everywhere)).map fun s => Lines.ofText (String.ofList s) := rfl
  rw [happly]
  rcases replace_cases h text 0 (Pattern.findAll tr.search text tr.everywhere) with
    ⟨s, hs⟩ | ⟨he, m, hm, hb⟩
  · rw [hs]
    exact .inl ⟨_, rfl⟩
  · rw [he]
    exact .inr ⟨rfl, text, m, hm, hb⟩

end Snippet.Transform
