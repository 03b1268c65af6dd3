import Mathlib.Algebra.Ring.Parity
import Mathlib.Data.List.Induction
import Mathlib.Order.Bounds.Basic
import Snippet.Proofs.Format.Canonical

/-!
Where the body of a reference ends. A backslash escapes what follows it unless it is escaped itself, so that a
place is escaped if an odd number of backslashes stands right before it. The reader ends a body at the first
unescaped closing brace before which the unescaped braces are balanced, and goes on behind it.
-/

namespace Snippet.Format

/-! ## Escaped places -/

/-- What follows the text is escaped: the text ends in an odd number of backslashes. -/
def EscapesNext (p : List Char) : Prop :=
  Odd (p.reverse.takeWhile (· = '\\')).length

instance : DecidablePred EscapesNext := fun p =>
  inferInstanceAs (Decidable (Odd (p.reverse.takeWhile (· = '\\')).length))

/-- How often a character stands in the text without being escaped. -/
def unescapedCount (c : Char) (p : List Char) : Nat :=
  (List.range p.length).countP fun i => p[i]? = some c ∧ ¬EscapesNext (p.take i)

section Escaped

variable {a p r : List Char} {c : Char}

theorem not_escapesNext_nil : ¬EscapesNext [] := by decide

theorem escapesNext_concat : EscapesNext (p ++ [c]) ↔ c = '\\' ∧ ¬EscapesNext p := by
  unfold EscapesNext
  rw [List.reverse_append, List.reverse_singleton, List.singleton_append, List.takeWhile_cons]
  by_cases hc : c = '\\'
  · rw [if_pos (by simpa using hc), List.length_cons, Nat.odd_add_one]
    simp only [hc, true_and]
  · rw [if_neg (by simpa using hc)]
    simp [hc]

/-- Behind a text that escapes nothing the count of backslashes starts anew. -/
theorem escapesNext_append (ha : ¬EscapesNext a) : EscapesNext (a ++ r) ↔ EscapesNext r := by
  -- Whether something is escaped is seen at the end of the text, so the induction is from there.
  induction r using List.reverseRecOn with
  | nil => simp only [List.append_nil, ha, not_escapesNext_nil]
  | append_singleton r d ih =>
    rw [← List.append_assoc, escapesNext_concat, escapesNext_concat, ih]

theorem unescapedCount_concat (d : Char) :
    unescapedCount c (p ++ [d]) = unescapedCount c p + if d = c ∧ ¬EscapesNext p then 1 else 0 := by
  -- Only the last place is new; what stands before the other ones is the same.
  have hlast : (p ++ [d])[p.length]? = some d := by
    rw [List.getElem?_append_right (Nat.le_refl _), Nat.sub_self]
    rfl
  have hinit : (List.range p.length).countP
      (fun i => (p ++ [d])[i]? = some c ∧ ¬EscapesNext ((p ++ [d]).take i)) = unescapedCount c p := by
    refine List.countP_congr fun i hi => ?_
    have hlt : i < p.length := List.mem_range.mp hi
    rw [List.getElem?_append_left hlt, List.take_append_of_le_length (Nat.le_of_lt hlt)]
  rw [unescapedCount, List.length_append, List.length_singleton, List.range_succ, List.countP_append,
    hinit, List.countP_singleton, hlast, List.take_left]
  simp only [Option.some.injEq, decide_eq_true_eq]

theorem unescapedCount_append (ha : ¬EscapesNext a) :
    unescapedCount c (a ++ r) = unescapedCount c a + unescapedCount c r := by
  induction r using List.reverseRecOn with
  | nil =>
    rw [List.append_nil]
    rfl
  | append_singleton r d ih =>
    rw [← List.append_assoc, unescapedCount_concat, unescapedCount_concat, ih, Nat.add_assoc]
    simp only [escapesNext_append ha]

theorem not_escapesNext_plain (hc : c ≠ '\\') : ¬EscapesNext [c] := fun h =>
  hc (escapesNext_concat (p := []).mp h).1

theorem not_escapesNext_escape (c : Char) : ¬EscapesNext ['\\', c] := fun h =>
  (escapesNext_concat (p := ['\\']).mp h).2 (by decide)

theorem unescapedCount_plain (c d : Char) : unescapedCount c [d] = if d = c then 1 else 0 := by
  have hone : unescapedCount c [d] = 0 + if d = c ∧ ¬EscapesNext [] then 1 else 0 :=
    unescapedCount_concat (p := []) d
  rw [hone, Nat.zero_add]
  simp only [not_escapesNext_nil, not_false_eq_true, and_true]

theorem unescapedCount_escape (hc : c ≠ '\\') (d : Char) : unescapedCount c ['\\', d] = 0 := by
  have htwo : unescapedCount c ['\\', d] =
      unescapedCount c ['\\'] + if d = c ∧ ¬EscapesNext ['\\'] then 1 else 0 :=
    unescapedCount_concat (p := ['\\']) d
  have hescapes : EscapesNext ['\\'] := by decide
  rw [htwo, unescapedCount_plain, if_neg (Ne.symm hc), if_neg fun h => h.2 hescapes]

/-- The escapes of a text are complete exactly if what follows it is not escaped. -/
theorem whole_iff (p : List Char) : Whole p ↔ ¬EscapesNext p := by
  -- An escape or a plain character at the front leaves nothing escaped and can be left out.
  fun_induction exposed p with
  | case1 => exact iff_of_true .nil not_escapesNext_nil
  | case2 =>
    have hescapes : EscapesNext ['\\'] := by decide
    refine iff_of_false ?_ (not_not_intro hescapes)
    rintro (_ | _ | ⟨hc, -⟩)
    exact hc rfl
  | case3 c r ih =>
    have hrest : EscapesNext ('\\' :: c :: r) ↔ EscapesNext r :=
      escapesNext_append (not_escapesNext_escape c)
    rw [hrest, ← ih]
    constructor
    · intro h
      cases h with
      | escape _ rest => exact rest
      | plain hc _ => exact absurd rfl hc
    · exact .escape c
  | case4 c r hlast hescape ih =>
    have hc := ne_backslash hlast hescape
    have hrest : EscapesNext (c :: r) ↔ EscapesNext r :=
      escapesNext_append (not_escapesNext_plain hc)
    rw [hrest, ← ih]
    constructor
    · intro h
      cases h with
      | escape _ rest => exact absurd rfl hc
      | plain _ rest => exact rest
    · exact .plain hc

/-- The characters outside the escapes of a text are those that are not escaped, backslashes aside. -/
theorem count_exposed (hc : c ≠ '\\') (p : List Char) :
    (exposed p).count c = unescapedCount c p := by
  fun_induction exposed p with
  | case1 => rfl
  | case2 => rw [unescapedCount_plain, if_neg (Ne.symm hc), List.count_nil]
  | case3 d r ih =>
    have hrest : unescapedCount c ('\\' :: d :: r) = unescapedCount c ['\\', d] + unescapedCount c r :=
      unescapedCount_append (not_escapesNext_escape d)
    rw [hrest, unescapedCount_escape hc, Nat.zero_add, ih]
  | case4 d r hlast hescape ih =>
    have hrest : unescapedCount c (d :: r) = unescapedCount c [d] + unescapedCount c r :=
      unescapedCount_append (not_escapesNext_plain (ne_backslash hlast hescape))
    rw [hrest, unescapedCount_plain, List.count_cons, ih, Nat.add_comm]
    simp only [beq_iff_eq]

end Escaped

/-! ## Balanced braces -/

/-- The unescaped braces of the text are balanced: as many open as close, and nowhere have more closed than
opened. -/
structure Balanced (p : List Char) : Prop where
  equal : unescapedCount '\x7b' p = unescapedCount '\x7d' p
  prefixes : ∀ q, q <+: p → unescapedCount '\x7d' q ≤ unescapedCount '\x7b' q

section Balanced

variable {s p body rest : List Char}

theorem closes_iff : Closes 0 s body rest ↔ s = body ++ '\x7d' :: rest ∧ ¬EscapesNext body ∧
    unescapedCount '\x7b' body = unescapedCount '\x7d' body := by
  rw [← count_exposed (by decide), ← count_exposed (by decide), ← whole_iff]
  constructor
  · rintro ⟨hsplit, hwhole, hbalanced⟩
    exact ⟨hsplit, hwhole, by rw [← hbalanced, Nat.zero_add]⟩
  · rintro ⟨hsplit, hwhole, hbalanced⟩
    exact ⟨hsplit, hwhole, by rw [← hbalanced, Nat.zero_add]⟩

theorem unescapedCount_closing (hp : ¬EscapesNext p) :
    unescapedCount '\x7d' (p ++ ['\x7d']) = unescapedCount '\x7d' p + 1 ∧
      unescapedCount '\x7b' (p ++ ['\x7d']) = unescapedCount '\x7b' p := by
  constructor
  · rw [unescapedCount_concat, if_pos ⟨rfl, hp⟩]
  · rw [unescapedCount_concat, if_neg fun h => absurd h.1 (by decide), Nat.add_zero]

/-- A text in which more braces close than open has a first place where that comes about. -/
theorem exists_closing (h : unescapedCount '\x7b' p < unescapedCount '\x7d' p) :
    ∃ q r, p = q ++ '\x7d' :: r ∧ ¬EscapesNext q ∧
      unescapedCount '\x7b' q = unescapedCount '\x7d' q := by
  induction p using List.reverseRecOn with
  | nil => exact absurd h (Nat.lt_irrefl _)
  | append_singleton p d ih =>
    -- If it has not come about before the last character, that is an unescaped closing brace.
    by_cases hp : unescapedCount '\x7b' p < unescapedCount '\x7d' p
    · obtain ⟨q, r, rfl, hq⟩ := ih hp
      exact ⟨q, r ++ [d], by rw [List.append_assoc, List.cons_append], hq⟩
    · by_cases hd : d = '\x7d' ∧ ¬EscapesNext p
      · obtain ⟨rfl, hfree⟩ := hd
        have hcounts := unescapedCount_closing hfree
        exact ⟨p, [], rfl, hfree, by omega⟩
      · rw [unescapedCount_concat, unescapedCount_concat, if_neg hd] at h
        omega

/-- No body ends in the text exactly if up to no place more braces close than open. -/
theorem splitBody_eq_none_iff_prefixes : splitBody 0 s = none ↔
    ∀ q, q <+: s → unescapedCount '\x7d' q ≤ unescapedCount '\x7b' q := by
  rw [splitBody_eq_none_iff]
  constructor
  · rintro h q ⟨t, rfl⟩
    by_contra hlt
    obtain ⟨q', r', rfl, hclosing⟩ := exists_closing (Nat.lt_of_not_le hlt)
    exact h q' (r' ++ t) (closes_iff.mpr ⟨by simp, hclosing⟩)
  · intro h body rest hcloses
    obtain ⟨rfl, hfree, hequal⟩ := closes_iff.mp hcloses
    have hcounts := unescapedCount_closing hfree
    have hle := h (body ++ ['\x7d']) ⟨rest, by simp⟩
    omega

/-- The shortest body is the one with balanced braces. -/
theorem encloses_iff : Encloses s body rest ↔
    s = body ++ '\x7d' :: rest ∧ ¬EscapesNext body ∧ Balanced body := by
  constructor
  · rintro ⟨hcloses, hshortest⟩
    obtain ⟨hsplit, hfree, hequal⟩ := closes_iff.mp hcloses
    refine ⟨hsplit, hfree, hequal, ?_⟩
    rintro q ⟨r, rfl⟩
    by_contra hlt
    -- Where the braces first close too much, a shorter body ends.
    obtain ⟨q', r', rfl, hfree', hequal'⟩ := exists_closing (Nat.lt_of_not_le hlt)
    have hcloses' : Closes 0 s q' (r' ++ r ++ '\x7d' :: rest) :=
      closes_iff.mpr ⟨by rw [hsplit]; simp, hfree', hequal'⟩
    have hle := hshortest _ _ hcloses'
    simp only [List.length_append, List.length_cons] at hle
    omega
  · rintro ⟨hsplit, hfree, hequal, hprefixes⟩
    refine ⟨closes_iff.mpr ⟨hsplit, hfree, hequal⟩, fun b t hb => ?_⟩
    obtain ⟨hsplit', hfree', hequal'⟩ := closes_iff.mp hb
    by_contra hlt
    -- The closing brace of the shorter body would close too much in this one.
    have hshorter : b ++ ['\x7d'] <+: s := ⟨t, by rw [hsplit', List.append_assoc, List.singleton_append]⟩
    have hprefix : b ++ ['\x7d'] <+: body := by
      refine List.prefix_of_prefix_length_le hshorter ⟨_, hsplit.symm⟩ ?_
      rw [List.length_append, List.length_singleton]
      omega
    have hcounts := unescapedCount_closing hfree'
    have hle := hprefixes _ hprefix
    omega

end Balanced

/-! ## Places in a text -/

/-- Where the reader finds the brace that closes a body beginning at `start`. -/
def closing? (s : List Char) (start : Nat) : Option Nat :=
  (splitBody 0 (s.drop start)).map fun found => start + found.1.length

/-- At `i` stands an unescaped closing brace, and from `start` up to it the braces are balanced. -/
structure ClosesAt (s : List Char) (start i : Nat) : Prop where
  start_le : start ≤ i
  brace : s[i]? = some '\x7d'
  unescaped : ¬EscapesNext (s.extract start i)
  balanced : Balanced (s.extract start i)

section Places

variable {s body rest : List Char} {start i : Nat}

theorem extract_append_drop (h : start ≤ i) : s.extract start i ++ s.drop i = s.drop start := by
  have hdrop : s.drop i = (s.drop start).drop (i - start) := by
    rw [List.drop_drop, Nat.add_sub_cancel' h]
  rw [hdrop]
  exact List.take_append_drop (i - start) (s.drop start)

theorem ClosesAt.lt_length (h : ClosesAt s start i) : i < s.length :=
  (List.getElem?_eq_some_iff.mp h.brace).1

theorem ClosesAt.splitBody (h : ClosesAt s start i) :
    splitBody 0 (s.drop start) = some (s.extract start i, s.drop (i + 1)) := by
  have hdrop : s.drop i = '\x7d' :: s.drop (i + 1) := by
    rw [List.drop_eq_getElem_cons h.lt_length, (List.getElem?_eq_some_iff.mp h.brace).2]
  have hsplit : s.drop start = s.extract start i ++ '\x7d' :: s.drop (i + 1) := by
    rw [← hdrop, extract_append_drop h.start_le]
  exact splitBody_eq_some_iff.mpr (encloses_iff.mpr ⟨hsplit, h.unescaped, h.balanced⟩)

theorem closesAt_of_splitBody (h : Format.splitBody 0 (s.drop start) = some (body, rest)) :
    ClosesAt s start (start + body.length) := by
  obtain ⟨hsplit, hfree, hbalanced⟩ := encloses_iff.mp (splitBody_eq_some_iff.mp h)
  have hbody : s.extract start (start + body.length) = body := by
    rw [List.extract_eq_take_drop, hsplit, Nat.add_sub_cancel_left, List.take_left]
  have hbrace : s[start + body.length]? = some '\x7d' := by
    rw [← List.getElem?_drop, hsplit, List.getElem?_append_right (Nat.le_refl _), Nat.sub_self]
    rfl
  exact ⟨Nat.le_add_right start _, hbrace, by rwa [hbody], by rwa [hbody]⟩

theorem closing?_eq_some_iff : closing? s start = some i ↔ ClosesAt s start i := by
  constructor
  · intro h
    obtain ⟨⟨body, rest⟩, hsplit, rfl⟩ := Option.map_eq_some_iff.mp h
    exact closesAt_of_splitBody hsplit
  · intro h
    have hlength : (s.extract start i).length = i - start := by
      rw [List.extract_eq_take_drop, List.length_take, List.length_drop]
      have hlt := h.lt_length
      omega
    rw [closing?, h.splitBody, Option.map_some, hlength, Nat.add_sub_cancel' h.start_le]

theorem closing?_eq_none_iff : closing? s start = none ↔ ∀ i, ¬ClosesAt s start i := by
  rw [Option.eq_none_iff_forall_ne_some]
  exact forall_congr' fun i => not_congr closing?_eq_some_iff

theorem closing?_eq_none_iff_prefixes : closing? s start = none ↔
    ∀ q, q <+: s.drop start → unescapedCount '\x7d' q ≤ unescapedCount '\x7b' q := by
  rw [closing?, Option.map_eq_none_iff, splitBody_eq_none_iff_prefixes]

/-- No other place than the one that is found closes the body. -/
theorem isLeast_closesAt_iff : IsLeast {j | ClosesAt s start j} i ↔ ClosesAt s start i := by
  refine ⟨fun h => h.1, fun h => ⟨h, fun j hj => ?_⟩⟩
  have hfound := closing?_eq_some_iff.mpr h
  rw [closing?_eq_some_iff.mpr hj] at hfound
  exact Nat.le_of_eq (Option.some.inj hfound).symm

/-- A reference is read up to the brace that is found, and reading goes on behind it. -/
theorem readChars_closing (s : List Char) (start : Nat) :
    readChars ('$' :: '\x7b' :: s.drop start) =
      match closing? s start with
      | none => .error .unterminated
      | some i =>
          match readBody (s.extract start i) with
          | .error fault => .error fault
          | .ok t => (readChars (s.drop (i + 1))).map (t :: ·) := by
  rw [readChars_reference]
  cases hfound : closing? s start with
  | none => rw [Option.map_eq_none_iff.mp hfound]
  | some i =>
    have hsplit := (closing?_eq_some_iff.mp hfound).splitBody
    cases hbody : readBody (s.extract start i) <;> simp only [hsplit, hbody]

end Places

/-- The brace that closes a body is the first unescaped closing brace, from the start of the body on, before
which the unescaped braces are balanced. If there is one it is found, and reading goes on with less of the text
behind it. There is none, and the reference is unterminated, exactly if up to no place more braces close than
open. -/
theorem closing_matches (s : List Char) (start : Nat) :
    (∀ i, closing? s start = some i ↔ IsLeast {j | ClosesAt s start j} i) ∧
    (closing? s start = none ↔ ∀ i, ¬ClosesAt s start i) ∧
    (closing? s start = none ↔
      ∀ q, q <+: s.drop start → unescapedCount '\x7d' q ≤ unescapedCount '\x7b' q) ∧
    (∀ i, closing? s start = some i →
      start ≤ i ∧ i < s.length ∧ (s.drop (i + 1)).length < (s.drop start).length) ∧
    readChars ('$' :: '\x7b' :: s.drop start) =
      match closing? s start with
      | none => .error .unterminated
      | some i =>
          match readBody (s.extract start i) with
          | .error fault => .error fault
          | .ok t => (readChars (s.drop (i + 1))).map (t :: ·) := by
  refine ⟨?least, closing?_eq_none_iff, closing?_eq_none_iff_prefixes, ?advance,
    readChars_closing s start⟩
  case least =>
    intro i
    rw [isLeast_closesAt_iff, closing?_eq_some_iff]
  case advance =>
    intro i hi
    have hcloses := closing?_eq_some_iff.mp hi
    have hle := hcloses.start_le
    have hlt := hcloses.lt_length
    refine ⟨hle, hlt, ?_⟩
    rw [List.length_drop, List.length_drop]
    omega

/-- The body of the reference has an escaped closing brace and a pair of braces in it. -/
theorem closing_matches_nested :
    let s := ['$', '\x7b', '1', ':', '\x7b', '\\', '\x7d', '\x7d', '\x7d', 'z']
    closing? s 2 = some 8 ∧ IsLeast {j | ClosesAt s 2 j} 8 ∧
      2 ≤ 8 ∧ 8 < s.length ∧ (s.drop 9).length < (s.drop 2).length := by
  intro s
  have hfound : closing? s 2 = some 8 := by decide
  obtain ⟨hleast, -, -, hadvance, -⟩ := closing_matches s 2
  exact ⟨hfound, (hleast 8).mp hfound, hadvance 8 hfound⟩

/-- Nothing closes a body in a text that ends in a backslash, in an escape or in an open brace. -/
example : closing? ['a', '\\'] 0 = none ∧ closing? ['a', '\\', '\x7d'] 0 = none ∧
    closing? ['\x7b', 'a'] 0 = none := by decide

end Snippet.Format
