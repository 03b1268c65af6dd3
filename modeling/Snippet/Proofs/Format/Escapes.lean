import Snippet.Format.Reader

/-!
What a backslash takes out of a written format. Only the characters outside escapes count as braces and
separators: the body of a reference is the shortest text with balanced braces that a closing brace
follows, and a conditional is split at its first colon.
-/

namespace Snippet.Format

/-- The characters of a text outside its escapes. A backslash at the end has nothing to escape. -/
def exposed : List Char → List Char
  | [] => []
  | ['\\'] => []
  | '\\' :: _ :: r => exposed r
  | c :: r => c :: exposed r

/-- Every escape of the text is complete. -/
inductive Whole : List Char → Prop where
  | nil : Whole []
  | escape (c : Char) {r : List Char} (rest : Whole r) : Whole ('\\' :: c :: r)
  | plain {c : Char} {r : List Char} (hc : c ≠ '\\') (rest : Whole r) : Whole (c :: r)

theorem exposed_plain {c : Char} (hc : c ≠ '\\') (r : List Char) :
    exposed (c :: r) = c :: exposed r := by
  rw [exposed]
  · exact fun h _ => hc h
  · exact fun _ _ h _ => hc h

/-! ## The body of a reference -/

/-- The text is a body and a rest with a closing brace in between that is no part of an escape, and the
body closes `depth` braces more than it opens. -/
structure Closes (depth : Nat) (s body rest : List Char) : Prop where
  split : s = body ++ '\x7d' :: rest
  whole : Whole body
  balanced : depth + (exposed body).count '\x7b' = (exposed body).count '\x7d'

theorem ne_backslash {c : Char} {r : List Char} (hlast : c = '\\' → r = [] → False)
    (hescape : ∀ x y, c = '\\' → r = x :: y → False) : c ≠ '\\' := by
  intro hc
  cases r with
  | nil => exact hlast hc rfl
  | cons x y => exact hescape x y hc rfl

theorem ne_brace {c : Char} {depth : Nat} (hzero : depth = 0 → c = '\x7d' → False)
    (hsucc : ∀ n : Nat, depth = n.succ → c = '\x7d' → False) : c ≠ '\x7d' := by
  intro hc
  cases depth with
  | zero => exact hzero rfl hc
  | succ n => exact hsucc n rfl hc

section Closes

variable {depth : Nat} {c : Char} {s r body rest : List Char}

theorem Closes.escape (h : Closes depth r body rest) :
    Closes depth ('\\' :: c :: r) ('\\' :: c :: body) rest where
  split := by rw [h.split, List.cons_append, List.cons_append]
  whole := .escape c h.whole
  balanced := h.balanced

theorem Closes.of_escape (h : Closes depth ('\\' :: c :: r) body rest) :
    ∃ b, body = '\\' :: c :: b ∧ Closes depth r b rest := by
  obtain ⟨hsplit, hwhole, hbalanced⟩ := h
  cases hwhole with
  | nil => simp at hsplit
  | escape c' hw =>
    simp only [List.cons_append, List.cons.injEq, true_and] at hsplit
    obtain ⟨rfl, rfl⟩ := hsplit
    exact ⟨_, rfl, rfl, hw, hbalanced⟩
  | plain hc hw =>
    obtain ⟨rfl, -⟩ := List.cons.inj hsplit
    exact absurd rfl hc

/-- A character that is no backslash is counted if it is a brace. -/
theorem closes_plain (hc : c ≠ '\\') {depth' : Nat}
    (hdepth : depth + (if c = '\x7b' then 1 else 0) = depth' + (if c = '\x7d' then 1 else 0)) :
    Closes depth (c :: r) (c :: body) rest ↔ Closes depth' r body rest := by
  have hcount : ∀ x, (exposed (c :: body)).count x =
      (exposed body).count x + if c = x then 1 else 0 := by
    intro x
    rw [exposed_plain hc, List.count_cons]
    simp only [beq_iff_eq]
  constructor
  · rintro ⟨hsplit, hwhole, hbalanced⟩
    refine ⟨(List.cons.inj hsplit).2, ?_, ?_⟩
    · cases hwhole with
      | escape c' hw => exact absurd rfl hc
      | plain _ hw => exact hw
    · rw [hcount, hcount] at hbalanced
      omega
  · rintro ⟨rfl, hwhole, hbalanced⟩
    refine ⟨rfl, .plain hc hwhole, ?_⟩
    rw [hcount, hcount]
    omega

theorem Closes.cons_inv (h : Closes depth (c :: r) body rest) (hstop : c ≠ '\x7d' ∨ depth ≠ 0) :
    ∃ b, body = c :: b := by
  cases body with
  | nil =>
    obtain ⟨hsplit, -, hbalanced⟩ := h
    obtain ⟨rfl, -⟩ := List.cons.inj hsplit
    simp [exposed] at hbalanced
    simp [hbalanced] at hstop
  | cons x b =>
    obtain ⟨rfl, -⟩ := List.cons.inj h.split
    exact ⟨b, rfl⟩

theorem Closes.of_splitBody (h : splitBody depth s = some (body, rest)) :
    Closes depth s body rest := by
  fun_induction splitBody depth s generalizing body rest with
  | case1 => cases h
  | case2 => cases h
  | case3 depth c r ih =>
    obtain ⟨⟨b, t⟩, hb, heq⟩ := Option.map_eq_some_iff.mp h
    cases heq
    exact (ih hb).escape
  | case4 depth r ih =>
    obtain ⟨⟨b, t⟩, hb, heq⟩ := Option.map_eq_some_iff.mp h
    cases heq
    exact (closes_plain (by decide) (by simp)).mpr (ih hb)
  | case5 r =>
    cases h
    exact ⟨rfl, .nil, rfl⟩
  | case6 depth r ih =>
    obtain ⟨⟨b, t⟩, hb, heq⟩ := Option.map_eq_some_iff.mp h
    cases heq
    exact (closes_plain (by decide) (by simp)).mpr (ih hb)
  | case7 depth c r hlast hescape hopen hzero hsucc ih =>
    obtain ⟨⟨b, t⟩, hb, heq⟩ := Option.map_eq_some_iff.mp h
    cases heq
    have hc := ne_backslash hlast hescape
    have hclose := ne_brace hzero hsucc
    exact (closes_plain hc (by rw [if_neg hopen, if_neg hclose])).mpr (ih hb)

/-- Wherever a text closes, its body is found, and there is none shorter. -/
theorem Closes.exists_splitBody {b t : List Char} (h : Closes depth s b t) :
    ∃ body rest, splitBody depth s = some (body, rest) ∧ body.length ≤ b.length := by
  -- What is found in the rest of the text is the body with its first character or escape put back.
  have longer : ∀ {n : Nat} {r : List Char} {b : List Char} (front : List Char),
      (∃ body rest, splitBody n r = some (body, rest) ∧ body.length ≤ b.length) →
        ∃ body rest, (splitBody n r).map (fun x => (front ++ x.1, x.2)) = some (body, rest) ∧
          body.length ≤ (front ++ b).length := by
    rintro n r b front ⟨body, rest, hr, hle⟩
    refine ⟨front ++ body, rest, by rw [hr]; rfl, ?_⟩
    simp only [List.length_append]
    omega
  fun_induction splitBody depth s generalizing b t with
  | case1 => exact absurd h.split (by simp)
  | case2 =>
    obtain ⟨hsplit, hwhole, -⟩ := h
    cases hwhole with
    | nil => cases hsplit
    | escape c hw => simp at hsplit
    | plain hc hw => exact absurd (List.cons.inj hsplit).1.symm hc
  | case3 depth c r ih =>
    obtain ⟨b, rfl, hb⟩ := h.of_escape
    exact longer ['\\', c] (ih hb)
  | case4 depth r ih =>
    obtain ⟨b, rfl⟩ := h.cons_inv (.inl (by decide))
    exact longer ['\x7b'] (ih ((closes_plain (by decide) (by simp)).mp h))
  | case5 r => exact ⟨[], r, rfl, Nat.zero_le _⟩
  | case6 depth r ih =>
    obtain ⟨b, rfl⟩ := h.cons_inv (.inr (Nat.succ_ne_zero depth))
    exact longer ['\x7d'] (ih ((closes_plain (by decide) (by simp)).mp h))
  | case7 depth c r hlast hescape hopen hzero hsucc ih =>
    have hc := ne_backslash hlast hescape
    have hclose := ne_brace hzero hsucc
    obtain ⟨b, rfl⟩ := h.cons_inv (.inl hclose)
    exact longer [c] (ih ((closes_plain hc (by rw [if_neg hopen, if_neg hclose])).mp h))

/-- The body that is shortest. -/
structure Encloses (s body rest : List Char) : Prop where
  closes : Closes 0 s body rest
  shortest : ∀ b t, Closes 0 s b t → body.length ≤ b.length

theorem splitBody_eq_some_iff : splitBody 0 s = some (body, rest) ↔ Encloses s body rest := by
  constructor
  · intro h
    refine ⟨.of_splitBody h, fun b t hb => ?_⟩
    obtain ⟨body', rest', h', hle⟩ := hb.exists_splitBody
    rw [h] at h'
    cases h'
    exact hle
  · rintro ⟨hcloses, hshortest⟩
    obtain ⟨body', rest', h', hle⟩ := hcloses.exists_splitBody
    have hcloses' := Closes.of_splitBody h'
    -- Both bodies begin the same text and have the same length.
    have hlength : body'.length = body.length := Nat.le_antisymm hle (hshortest _ _ hcloses')
    obtain ⟨rfl, hrest⟩ := List.append_inj (hcloses'.split.symm.trans hcloses.split) hlength
    obtain ⟨-, rfl⟩ := List.cons.inj hrest
    exact h'

theorem splitBody_eq_none_iff : splitBody 0 s = none ↔ ∀ body rest, ¬Closes 0 s body rest := by
  constructor
  · intro h body rest hcloses
    obtain ⟨body', rest', h', -⟩ := hcloses.exists_splitBody
    rw [h] at h'
    cases h'
  · intro h
    cases hs : splitBody 0 s with
    | none => rfl
    | some found => exact absurd (Closes.of_splitBody hs) (h found.1 found.2)

end Closes

/-! ## The branches of a conditional -/

section Branches

variable {separator : Char} {s a b : List Char}

/-- The text is split at its first separator outside escapes, if it has one. -/
theorem splitAt_append (hs : separator ≠ '\\') (hw : Whole a) (ha : separator ∉ exposed a) :
    splitAt separator (a ++ separator :: b) = (a, b) := by
  induction hw with
  | nil =>
    rw [List.nil_append, splitAt, if_pos rfl]
    · exact fun h _ => hs h
    · exact fun _ _ h _ => hs h
  | escape c hw ih =>
    rw [List.cons_append, List.cons_append, splitAt, ih ha]
  | @plain c r hc hw ih =>
    rw [exposed_plain hc, List.mem_cons, not_or] at ha
    rw [List.cons_append, splitAt, if_neg fun h => ha.1 h.symm, ih ha.2]
    · exact fun h _ => hc h
    · exact fun _ _ h _ => hc h

theorem splitAt_of_notMem (hs : separator ∉ exposed s) : splitAt separator s = (s, []) := by
  fun_induction splitAt separator s with
  | case1 => rfl
  | case2 => rfl
  | case3 c r a b hr ih =>
    cases hr.symm.trans (ih hs)
    rfl
  | case4 r hlast hescape =>
    rw [exposed_plain (ne_backslash hlast hescape)] at hs
    exact absurd List.mem_cons_self hs
  | case5 c r hlast hescape hne a b hr ih =>
    rw [exposed_plain (ne_backslash hlast hescape), List.mem_cons, not_or] at hs
    cases hr.symm.trans (ih hs.2)
    rfl

theorem exists_split_or (separator : Char) (s : List Char) :
    separator ∉ exposed s ∨
      ∃ a b, s = a ++ separator :: b ∧ Whole a ∧ separator ∉ exposed a := by
  fun_induction exposed s with
  | case1 => exact .inl List.not_mem_nil
  | case2 => exact .inl List.not_mem_nil
  | case3 c r ih =>
    rcases ih with hr | ⟨a, b, rfl, hw, ha⟩
    · exact .inl hr
    · exact .inr ⟨'\\' :: c :: a, b, rfl, .escape c hw, ha⟩
  | case4 c r hlast hescape ih =>
    have hc := ne_backslash hlast hescape
    by_cases hsep : separator = c
    · exact .inr ⟨[], r, by rw [hsep]; rfl, .nil, List.not_mem_nil⟩
    · rcases ih with hr | ⟨a, b, rfl, hw, ha⟩
      · exact .inl (by simp [hsep, hr])
      · refine .inr ⟨c :: a, b, rfl, .plain hc hw, ?_⟩
        rw [exposed_plain hc]
        simp [hsep, ha]

end Branches

end Snippet.Format
