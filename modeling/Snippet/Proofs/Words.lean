import Mathlib
import Snippet.Text.Case

/-!
The words of a text. A word is a run of ASCII letters and digits with none next to it, and everything else
only separates words. The word cases put the words in a row and change the case of no letter but the first of a
word, so that nothing of a result is changed when it goes through them again.
-/

namespace Snippet.Text

/-! ## Letters and digits -/

section Letters

variable {c : Char}

theorem toNat_lt_of_inWord (h : inWord c = true) : c.toNat < 128 := by
  simp only [inWord, Char.isAlphanum, Char.isAlpha, Char.isUpper, Char.isLower, Char.isDigit,
    Bool.or_eq_true, Bool.and_eq_true, decide_eq_true_eq, UInt32.le_iff_toNat_le, ge_iff_le] at h
  change ((65 ≤ c.toNat ∧ c.toNat ≤ 90) ∨ (97 ≤ c.toNat ∧ c.toNat ≤ 122)) ∨
    (48 ≤ c.toNat ∧ c.toNat ≤ 57) at h
  omega

/-- What holds of the letters and digits among the characters with low codes holds of all of them. -/
theorem of_inWord {P : Char → Prop}
    (hlow : ∀ code < 128, inWord (Char.ofNat code) = true → P (Char.ofNat code))
    (h : inWord c = true) : P c := by
  have hc := hlow c.toNat (toNat_lt_of_inWord h)
  rw [Char.ofNat_toNat] at hc
  exact hc h

/-- The tables of upper and lower case have the ASCII case of a letter or digit. -/
theorem upper_singleton (h : inWord c = true) : upper [c] = [c.toUpper] :=
  of_inWord (P := fun c => upper [c] = [c.toUpper]) (by decide +kernel) h

theorem lower_singleton (h : inWord c = true) : lower [c] = [c.toLower] :=
  of_inWord (P := fun c => lower [c] = [c.toLower]) (by decide +kernel) h

theorem inWord_toUpper (h : inWord c = true) : inWord c.toUpper = true :=
  of_inWord (P := fun c => inWord c.toUpper = true) (by decide +kernel) h

theorem inWord_toLower (h : inWord c = true) : inWord c.toLower = true :=
  of_inWord (P := fun c => inWord c.toLower = true) (by decide +kernel) h

end Letters

/-! ## Runs -/

/-- From `i` up to `j` there are only letters and digits, and none stands next to them. -/
structure IsRun (s : List Char) (i j : Nat) : Prop where
  lt : i < j
  le : j ≤ s.length
  inside : ∀ c ∈ s.extract i j, inWord c = true
  before : 0 < i → ∀ c ∈ s[i - 1]?, inWord c = false
  behind : ∀ c ∈ s[j]?, inWord c = false

/-- A run begins at the place. -/
def Begins (s : List Char) (i : Nat) : Prop :=
  ∃ j, IsRun s i j

section Runs

variable {s w r : List Char} {i : Nat}

theorem isRun_of_drop (hs : s.drop i = w ++ r) (hw : w ≠ []) (hword : ∀ c ∈ w, inWord c = true)
    (hr : ∀ c ∈ r.head?, inWord c = false) (hbefore : 0 < i → ∀ c ∈ s[i - 1]?, inWord c = false) :
    IsRun s i (i + w.length) where
  lt := Nat.lt_add_of_pos_right (List.length_pos_iff.mpr hw)
  le := by
    have hpos := List.length_pos_iff.mpr hw
    have hlength := congrArg List.length hs
    rw [List.length_drop, List.length_append] at hlength
    omega
  inside := by
    rw [List.extract_eq_take_drop, hs, Nat.add_sub_cancel_left, List.take_left]
    exact hword
  before := hbefore
  behind := by
    rw [← List.getElem?_drop, hs, List.getElem?_append_right (Nat.le_refl _), Nat.sub_self,
      ← List.head?_eq_getElem?]
    exact hr

/-- A run begins at each letter or digit that does not stand behind another. -/
theorem begins_iff : Begins s i ↔
    (∃ c ∈ s[i]?, inWord c = true) ∧ (0 < i → ∀ c ∈ s[i - 1]?, inWord c = false) := by
  constructor
  · rintro ⟨j, hlt, hle, hinside, hbefore, -⟩
    have hi : i < s.length := Nat.lt_of_lt_of_le hlt hle
    have hmem : s[i] ∈ s.extract i j := by
      obtain ⟨n, hn⟩ := Nat.exists_eq_add_of_lt hlt
      have hn' : j - i = n + 1 := by omega
      rw [List.extract_eq_take_drop, List.drop_eq_getElem_cons hi, hn', List.take_succ_cons]
      exact List.mem_cons_self
    exact ⟨⟨s[i], List.getElem?_eq_getElem hi, hinside _ hmem⟩, hbefore⟩
  · rintro ⟨⟨c, hc, hword⟩, hbefore⟩
    -- The run goes on as long as there are letters and digits.
    have hs := List.takeWhile_append_dropWhile (p := inWord) (l := s.drop i)
    refine ⟨_, isRun_of_drop hs.symm ?_ ?_ ?_ hbefore⟩
    · obtain ⟨hi, hci⟩ := List.getElem?_eq_some_iff.mp hc
      rw [List.drop_eq_getElem_cons hi, hci, List.takeWhile_cons_of_pos hword]
      exact List.cons_ne_nil _ _
    · exact fun d hd => List.all_eq_true.mp List.all_takeWhile d hd
    · intro d hd
      have hnot := List.head?_dropWhile_not inWord (s.drop i)
      rw [hd] at hnot
      exact hnot

instance (s : List Char) (i : Nat) : Decidable (Begins s i) :=
  decidable_of_iff _ begins_iff.symm

end Runs

/-! ## Places -/

/-- The places of the letters and digits in order. -/
def wordPlaces (s : List Char) : List (Fin s.length) :=
  (List.finRange s.length).filter fun i => inWord s[i]

/-- No letter or digit stands right before the place; `fresh` tells it for the first one. -/
def freshAt (fresh : Bool) (s : List Char) : Nat → Bool
  | 0 => fresh
  | i + 1 => s[i]?.all fun c => !inWord c

section Places

variable {s : List Char} {i : Nat}

theorem freshAt_cons (fresh : Bool) (c : Char) (r : List Char) (i : Nat) :
    freshAt fresh (c :: r) (i + 1) = freshAt (!inWord c) r i := by
  cases i <;> rfl

theorem freshAt_true : freshAt true s i = true ↔ (0 < i → ∀ c ∈ s[i - 1]?, inWord c = false) := by
  cases i with
  | zero => simp [freshAt]
  | succ i => simp [freshAt, Option.all_eq_true]

theorem wordPlaces_cons (c : Char) (r : List Char) :
    wordPlaces (c :: r) =
      (if inWord c then [0] else []) ++ (wordPlaces r).map Fin.succ := by
  have hplaces : List.finRange (c :: r).length = 0 :: (List.finRange r.length).map Fin.succ :=
    List.finRange_succ
  rw [wordPlaces, hplaces, List.filter_cons, List.filter_map]
  show (if inWord c = true then _ else _) = _
  by_cases hc : inWord c = true
  · rw [if_pos hc, if_pos hc]
    rfl
  · rw [if_neg hc, if_neg hc]
    rfl

/-- The letters and digits stay in order, in upper case where they stand at a fresh place. -/
theorem joinWords_eq_map (fresh : Bool) (s : List Char) :
    joinWords fresh s = (wordPlaces s).map fun i : Fin s.length =>
      if freshAt fresh s i then s[i].toUpper else s[i] := by
  -- Behind the first character the places are fresh or not by what that character is.
  induction s generalizing fresh with
  | nil => rfl
  | cons c r ih =>
    have hrest : ((wordPlaces r).map Fin.succ).map (fun i : Fin (c :: r).length =>
        if freshAt fresh (c :: r) i then (c :: r)[i].toUpper else (c :: r)[i]) =
          joinWords (!inWord c) r := by
      rw [List.map_map, ih]
      refine List.map_congr_left fun i _ => ?_
      show (if freshAt fresh (c :: r) (i + 1) then r[i].toUpper else r[i]) = _
      rw [freshAt_cons]
    rw [wordPlaces_cons, List.map_append, hrest, joinWords]
    by_cases hc : inWord c = true
    · rw [if_pos hc, if_pos hc, hc]
      rfl
    · rw [if_neg hc, if_neg hc, Bool.eq_false_of_not_eq_true hc]
      rfl

theorem pascal_eq_map (s : List Char) :
    pascal s = (wordPlaces s).map fun i : Fin s.length =>
      if Begins s i then s[i].toUpper else s[i] := by
  rw [pascal, joinWords_eq_map]
  refine List.map_congr_left fun i hi => ?_
  have hword : inWord s[i] = true := (List.mem_filter.mp hi).2
  have hbegins : Begins s i ↔ freshAt true s i = true := by
    rw [begins_iff, freshAt_true]
    exact and_iff_right ⟨s[i], List.getElem?_eq_getElem i.isLt, hword⟩
  simp only [hbegins]

end Places

/-! ## Words -/

section Words

variable {s : List Char}

theorem capitalize_cons {c : Char} (h : inWord c = true) (r : List Char) :
    capitalize (c :: r) = c.toUpper :: r := by
  have hupper : Unicode.upper c = [c.toUpper] := by
    simpa [upper] using upper_singleton h
  rw [capitalize, hupper, List.singleton_append]

/-- The text is cut at all characters that are in no word; the piece that is open is not capitalised. -/
theorem joinWords_eq_pieces (s : List Char) :
    ∃ piece pieces, s.splitOnP (fun c => !inWord c) = piece :: pieces ∧
      joinWords true s = capitalize piece ++ pieces.flatMap capitalize ∧
      joinWords false s = piece ++ pieces.flatMap capitalize := by
  induction s with
  | nil => exact ⟨[], [], rfl, rfl, rfl⟩
  | cons c r ih =>
    obtain ⟨piece, pieces, hsplit, hfresh, hopen⟩ := ih
    rw [List.splitOnP_cons_eq_if_modifyHead, hsplit]
    -- A letter or digit begins or goes on with the first piece; another character puts an empty one before it.
    by_cases hc : inWord c = true
    · refine ⟨c :: piece, pieces, by simp [hc], ?_, ?_⟩
      · rw [joinWords, if_pos hc, if_pos rfl, hopen, capitalize_cons hc, List.cons_append]
      · rw [joinWords, if_pos hc, hopen]
        rfl
    · refine ⟨[], piece :: pieces, by simp [hc], ?_, ?_⟩
      · rw [joinWords, if_neg hc, hfresh]
        rfl
      · rw [joinWords, if_neg hc, hfresh]
        rfl

theorem pascal_eq_flatMap (s : List Char) :
    pascal s = (s.splitOnP fun c => !inWord c).flatMap capitalize := by
  obtain ⟨piece, pieces, hsplit, hfresh, -⟩ := joinWords_eq_pieces s
  rw [hsplit, List.flatMap_cons]
  exact hfresh

theorem joinWords_false_of_word (h : ∀ c ∈ s, inWord c = true) : joinWords false s = s := by
  induction s with
  | nil => rfl
  | cons c r ih =>
    rw [List.forall_mem_cons] at h
    rw [joinWords, if_pos h.1, ih h.2]
    rfl

/-- A single word has its first character in upper case. -/
theorem pascal_of_word {c : Char} {r : List Char} (h : ∀ d ∈ c :: r, inWord d = true) :
    pascal (c :: r) = c.toUpper :: r := by
  rw [List.forall_mem_cons] at h
  rw [pascal, joinWords, if_pos h.1, joinWords_false_of_word h.2]
  rfl

theorem inWord_of_mem_joinWords {fresh : Bool} {c : Char} (h : c ∈ joinWords fresh s) :
    inWord c = true := by
  rw [joinWords_eq_map] at h
  obtain ⟨i, hi, rfl⟩ := List.mem_map.mp h
  have hword : inWord s[i] = true := (List.mem_filter.mp hi).2
  split
  · exact inWord_toUpper hword
  · exact hword

/-- The words in a row are one word in upper case at the front, if there are any. -/
theorem pascal_cases (s : List Char) : pascal s = [] ∨
    ∃ c r, pascal s = c.toUpper :: r ∧ inWord c = true ∧ ∀ d ∈ r, inWord d = true := by
  rw [pascal]
  induction s with
  | nil => exact .inl rfl
  | cons c r ih =>
    rw [joinWords]
    by_cases hc : inWord c = true
    · rw [if_pos hc, if_pos rfl]
      exact .inr ⟨c, joinWords false r, rfl, hc, fun d hd => inWord_of_mem_joinWords hd⟩
    · rw [if_neg hc]
      exact ih

theorem camel_eq (s : List Char) :
    camel s = ((pascal s).take 1).map Char.toLower ++ (pascal s).drop 1 := by
  rw [camel]
  cases pascal s <;> rfl

theorem pascal_pascal (s : List Char) : pascal (pascal s) = pascal s := by
  rcases pascal_cases s with h | ⟨c, r, h, hc, hr⟩
  · rw [h]
    rfl
  · have hword : ∀ d ∈ c.toUpper :: r, inWord d = true :=
      List.forall_mem_cons.mpr ⟨inWord_toUpper hc, hr⟩
    rw [h, pascal_of_word hword, Char.toUpper_toUpper_eq_toUpper]

theorem pascal_camel (s : List Char) : pascal (camel s) = pascal s := by
  rcases pascal_cases s with h | ⟨c, r, h, hc, hr⟩
  · rw [camel, h]
    rfl
  · have hword : ∀ d ∈ c.toUpper.toLower :: r, inWord d = true :=
      List.forall_mem_cons.mpr ⟨inWord_toLower (inWord_toUpper hc), hr⟩
    rw [camel, h]
    show pascal (c.toUpper.toLower :: r) = _
    rw [pascal_of_word hword, Char.toUpper_toLower_eq_toUpper, Char.toUpper_toUpper_eq_toUpper]

end Words

/-- Both word cases keep the letters and digits in order. One puts the first of each run in upper case, which is
to put together the capitalised pieces that the other characters leave; the other one has the very first letter
in lower case besides. Each makes the same of its own and of the other's result as of the text. -/
theorem words_kept :
    (∀ c, inWord c = true → upper [c] = [c.toUpper] ∧ lower [c] = [c.toLower]) ∧
    (∀ s, pascal s = (wordPlaces s).map fun i : Fin s.length =>
      if Begins s i then s[i].toUpper else s[i]) ∧
    (∀ s, pascal s = (s.splitOnP fun c => !inWord c).flatMap capitalize) ∧
    (∀ s, camel s = ((pascal s).take 1).map Char.toLower ++ (pascal s).drop 1) ∧
    (∀ s, pascal (pascal s) = pascal s ∧ pascal (camel s) = pascal s) ∧
    (∀ s, camel (camel s) = camel s ∧ camel (pascal s) = camel s) := by
  refine ⟨fun c hc => ⟨upper_singleton hc, lower_singleton hc⟩, pascal_eq_map, pascal_eq_flatMap, camel_eq,
    fun s => ⟨pascal_pascal s, pascal_camel s⟩, fun s => ⟨?_, ?_⟩⟩
  · rw [camel_eq, pascal_camel, ← camel_eq]
  · rw [camel_eq, pascal_pascal, ← camel_eq]

/-- A letter of another script separates words as a sign does. -/
theorem words_kept_signs :
    let s := ['-', 'a', 'B', '_', '_', '9', 'z', 'é', 'x', ' ']
    inWord 'z' = true ∧ upper ['z'] = ['Z'] ∧ pascal s = ['A', 'B', '9', 'z', 'X'] ∧
      camel s = ['a', 'B', '9', 'z', 'X'] ∧ pascal (camel s) = pascal s := by
  intro s
  have hz : inWord 'z' = true := by decide
  obtain ⟨hcases, -, -, -, hpascal, -⟩ := words_kept
  exact ⟨hz, (hcases 'z' hz).1, by decide, by decide, (hpascal s).2⟩

end Snippet.Text
