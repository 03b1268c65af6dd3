import Snippet.Format.Printer
import Snippet.Proofs.Format.Grammar

/-!
Written forms of formats. Reading gives canonical lists of tokens only, and each canonical list is what its
written form reads as. The backslashes of the written form hide from each scanner what it would stop at, and
only the last one, which resolves them, takes them away.
-/

namespace Snippet.Format

/-! ## Escaped texts -/

section Escaped

variable {p : Char → Bool} {s t : List Char}

theorem Whole.append (hs : Whole s) (ht : Whole t) : Whole (s ++ t) := by
  induction hs with
  | nil => exact ht
  | escape c rest ih => exact .escape c ih
  | plain hc rest ih => exact .plain hc ih

theorem exposed_append (hs : Whole s) (t : List Char) :
    exposed (s ++ t) = exposed s ++ exposed t := by
  induction hs with
  | nil => rfl
  | escape c rest ih => exact ih
  | plain hc rest ih =>
    rw [List.cons_append, exposed_plain hc, exposed_plain hc, ih, List.cons_append]

theorem whole_of_notMem (h : '\\' ∉ s) : Whole s := by
  induction s with
  | nil => exact .nil
  | cons c s ih =>
    rw [List.mem_cons, not_or] at h
    exact .plain (Ne.symm h.1) (ih h.2)

theorem exposed_of_notMem (h : '\\' ∉ s) : exposed s = s := by
  induction s with
  | nil => rfl
  | cons c s ih =>
    rw [List.mem_cons, not_or] at h
    rw [exposed_plain (Ne.symm h.1), ih h.2]

theorem escapeWhere_cons_pos {c : Char} (hc : p c = true) (s : List Char) :
    escapeWhere p (c :: s) = '\\' :: c :: escapeWhere p s := by
  simp [escapeWhere, hc]

theorem escapeWhere_cons_neg {c : Char} (hc : p c = false) (s : List Char) :
    escapeWhere p (c :: s) = c :: escapeWhere p s := by
  simp [escapeWhere, hc]

theorem ne_backslash_of_bare (hp : p '\\' = true) {c : Char} (hc : p c = false) : c ≠ '\\' := by
  rintro rfl
  rw [hp] at hc
  cases hc

theorem whole_escapeWhere (hp : p '\\' = true) (s : List Char) : Whole (escapeWhere p s) := by
  induction s with
  | nil => exact .nil
  | cons c s ih =>
    cases hc : p c with
    | true =>
      rw [escapeWhere_cons_pos hc]
      exact .escape c ih
    | false =>
      rw [escapeWhere_cons_neg hc]
      exact .plain (ne_backslash_of_bare hp hc) ih

/-- What stands outside the escapes is what did not have to be escaped. -/
theorem exposed_escapeWhere (hp : p '\\' = true) (s : List Char) :
    exposed (escapeWhere p s) = s.filter fun c => !p c := by
  induction s with
  | nil => rfl
  | cons c s ih =>
    cases hc : p c with
    | true =>
      rw [escapeWhere_cons_pos hc, exposed, ih, List.filter_cons_of_neg (by simp [hc])]
    | false =>
      rw [escapeWhere_cons_neg hc, exposed_plain (ne_backslash_of_bare hp hc), ih,
        List.filter_cons_of_pos (by simp [hc])]

theorem notMem_exposed_escapeWhere (hp : p '\\' = true) {c : Char} (hc : p c = true)
    (s : List Char) : c ∉ exposed (escapeWhere p s) := by
  simp [exposed_escapeWhere hp, hc]

/-- An escaped text spells the text, as long as the two letters that an escape changes stay bare. -/
theorem spells_escapeWhere (hp : p '\\' = true) (hn : p 'n' = false) (ht : p 't' = false)
    (s : List Char) : Spells (escapeWhere p s) s := by
  induction s with
  | nil => exact .nil
  | cons c s ih =>
    cases hc : p c with
    | true =>
      rw [escapeWhere_cons_pos hc]
      have hcn : c ≠ 'n' := by rintro rfl; rw [hn] at hc; cases hc
      have hct : c ≠ 't' := by rintro rfl; rw [ht] at hc; cases hc
      exact .escape (.other hcn hct) ih
    | false =>
      rw [escapeWhere_cons_neg hc]
      exact .plain (ne_backslash_of_bare hp hc) ih

end Escaped

/-! ## Numbers -/

theorem digitValue?_of_isDigit {c : Char} (h : c.isDigit = true) :
    Unicode.digitValue? c = some (c.toNat - '0'.toNat) := by
  have hrange : 0x30 ≤ c.toNat ∧ c.toNat ≤ 0x39 := by
    simpa [Char.isDigit, UInt32.le_iff_toNat_le] using h
  have hstart : Unicode.startOfRange? Unicode.digitRanges c.toNat = some 0x30 := by
    rw [Unicode.digitRanges, Unicode.startOfRange?, if_neg (Nat.not_lt.mpr hrange.1),
      if_pos hrange.2]
  have hzero : '0'.toNat = 0x30 := rfl
  rw [Unicode.digitValue?, hstart, Option.map_some, hzero, Nat.mod_eq_of_lt (by omega)]

theorem decimalValue_of_isDigit {digits : List Char} (h : ∀ c ∈ digits, c.isDigit = true) :
    Unicode.decimalValue digits = Nat.ofDigitChars 10 digits 0 := by
  -- The value is built up from the left, so the induction needs any number in front.
  have hfrom : ∀ n, digits.foldl (fun n c => 10 * n + (Unicode.digitValue? c).getD 0) n =
      Nat.ofDigitChars 10 digits n := by
    induction digits with
    | nil => exact fun n => rfl
    | cons c digits ih =>
      intro n
      rw [List.foldl_cons, digitValue?_of_isDigit (h c List.mem_cons_self), Option.getD_some,
        ih fun d hd => h d (List.mem_cons_of_mem c hd)]
      rfl
  exact hfrom 0

theorem isDigit_of_mem_toString {n : Nat} {c : Char} (h : c ∈ (toString n).toList) :
    c.isDigit = true := by
  rw [Nat.toString_eq_repr, Nat.toList_repr] at h
  exact Nat.isDigit_of_mem_toDigits (by decide) (by decide) h

/-- A number in the digits that it is printed with. -/
theorem number_toString (n : Nat) : Number (toString n).toList n where
  ne_nil := by
    rw [Nat.toString_eq_repr, Nat.toList_repr]
    exact Nat.toDigits_ne_nil
  digit c hc := by
    rw [Unicode.isDigit, digitValue?_of_isDigit (isDigit_of_mem_toString hc)]
    rfl
  value := by
    rw [decimalValue_of_isDigit fun c hc => isDigit_of_mem_toString hc, Nat.toString_eq_repr,
      Nat.toList_repr, Nat.ofDigitChars_toDigits (by decide) (by decide)]

/-! ## References -/

/-- A body with this text in it goes on behind the text. -/
structure Unbraced (s : List Char) : Prop where
  whole : Whole s
  opening : '\x7b' ∉ exposed s
  closing : '\x7d' ∉ exposed s

section References

variable {s s' r : List Char} {t : Token} {n : Nat}

theorem Unbraced.append (h : Unbraced s) (h' : Unbraced s') : Unbraced (s ++ s') where
  whole := h.whole.append h'.whole
  opening := by simp [exposed_append h.whole, h.opening, h'.opening]
  closing := by simp [exposed_append h.whole, h.closing, h'.closing]

theorem unbraced_of_notMem (hb : '\\' ∉ s) (ho : '\x7b' ∉ s) (hc : '\x7d' ∉ s) : Unbraced s where
  whole := whole_of_notMem hb
  opening := by rwa [exposed_of_notMem hb]
  closing := by rwa [exposed_of_notMem hb]

theorem unbraced_writeBranch (s : String) : Unbraced (writeBranch s) where
  whole := whole_escapeWhere (by decide) _
  opening := notMem_exposed_escapeWhere (by decide) (by decide) _
  closing := notMem_exposed_escapeWhere (by decide) (by decide) _

theorem unbraced_toString (n : Nat) : Unbraced (toString n).toList := by
  have hnot : ∀ c : Char, c.isDigit = false → c ∉ (toString n).toList := by
    intro c hc hmem
    rw [isDigit_of_mem_toString hmem] at hc
    cases hc
  exact unbraced_of_notMem (hnot _ (by decide)) (hnot _ (by decide)) (hnot _ (by decide))

theorem unbraced_writeChoice (t : Token) : Unbraced (writeChoice t) := by
  cases t with
  | literal text => exact ⟨.nil, List.not_mem_nil, List.not_mem_nil⟩
  | group number => exact ⟨.nil, List.not_mem_nil, List.not_mem_nil⟩
  | case number change =>
    show Unbraced (':' :: '/' :: change.name.toList)
    cases change <;> exact unbraced_of_notMem (by decide) (by decide) (by decide)
  | conditional number present absent =>
    have hmark : Unbraced [':', '?'] := unbraced_of_notMem (by decide) (by decide) (by decide)
    have hcolon : Unbraced [':'] := unbraced_of_notMem (by decide) (by decide) (by decide)
    have hall := (hmark.append (unbraced_writeBranch present)).append
      (hcolon.append (unbraced_writeBranch absent))
    simpa [writeChoice] using hall

theorem Unbraced.splitBody (h : Unbraced s) (r : List Char) :
    splitBody 0 (s ++ '\x7d' :: r) = some (s, r) := by
  obtain ⟨hw, ho, hc⟩ := h
  induction hw with
  | nil => rfl
  | escape c rest ih =>
    rw [List.cons_append, List.cons_append, Format.splitBody, ih ho hc]
    rfl
  | @plain c s hb rest ih =>
    rw [exposed_plain hb, List.mem_cons, not_or] at ho hc
    rw [List.cons_append, Format.splitBody, ih ho.2 hc.2]
    · rfl
    · exact fun h _ => hb h
    · exact fun _ _ h _ => hb h
    · exact fun h => ho.1 h.symm
    · exact fun _ h => hc.1 h.symm
    · exact fun _ h _ => by cases h

theorem choice_conditional (n : Nat) (present absent : String) :
    Choice n ('?' :: (writeBranch present ++ ':' :: writeBranch absent))
      (.conditional n present absent) := by
  have hpresent : Spells (writeBranch present) present.toList :=
    spells_escapeWhere (by decide) (by decide) (by decide) _
  have habsent : Spells (writeBranch absent) absent.toList :=
    spells_escapeWhere (by decide) (by decide) (by decide) _
  have hwhole : Whole (writeBranch present) := whole_escapeWhere (by decide) _
  have hfirst : ':' ∉ exposed (writeBranch present) :=
    notMem_exposed_escapeWhere (by decide) (by decide) _
  simpa only [String.ofList_toList] using Choice.both hwhole hfirst hpresent habsent

theorem body_write (h : t.group? = some n) : Body ((toString n).toList ++ writeChoice t) t := by
  cases t with
  | literal text => cases h
  | group number =>
    cases h
    rw [writeChoice, List.append_nil]
    exact .group (number_toString n)
  | case number change =>
    cases h
    exact .choice (number_toString n) (.case change)
  | conditional number present absent =>
    cases h
    exact .choice (number_toString n) (choice_conditional n present absent)

/-- A written reference is taken in one step. -/
theorem step_write (h : t.group? = some n) (r : List Char) : Step (t.write ++ r) t r := by
  have hwrite : t.write ++ r =
      '$' :: '\x7b' :: (((toString n).toList ++ writeChoice t) ++ '\x7d' :: r) := by
    cases t with
    | literal text => cases h
    | _ =>
      cases h
      simp [Token.write]
  have hbody := (unbraced_toString n).append (unbraced_writeChoice t)
  rw [hwrite]
  exact .reference (splitBody_eq_some_iff.mp (hbody.splitBody r)) (body_write h)

end References

/-! ## Literals -/

/-- A written literal is taken character by character. -/
theorem reads_escapeWhere (s r : List Char) :
    Reads (escapeWhere (fun c => c = '\\' || c = '$') s ++ r)
      (s.map fun c => .literal (String.singleton c)) r := by
  induction s with
  | nil => exact .done r
  | cons c s ih =>
    by_cases hc : c = '\\' ∨ c = '$'
    · rw [escapeWhere_cons_pos (by simpa using hc)]
      have hmeant : Escape c c := by
        rcases hc with rfl | rfl <;> exact .other (by decide) (by decide)
      exact .step (.escape hmeant _) ih
    · rw [escapeWhere_cons_neg (by simpa using hc)]
      rw [not_or] at hc
      exact .step (.plain hc.1 hc.2 _) ih

theorem join_join (a b : String) (ts : Format) :
    Token.join (.literal a) (Token.join (.literal b) ts) = Token.join (.literal (a ++ b)) ts := by
  match ts with
  | [] => rfl
  | .literal c :: ts => simp [Token.join, String.append_assoc]
  | .group _ :: ts => rfl
  | .case _ _ :: ts => rfl
  | .conditional _ _ _ :: ts => rfl

/-- The characters of a text that is not empty merge into one literal. -/
theorem foldr_join (c : Char) (s : List Char) (ts : Format) :
    ((c :: s).map fun c => Token.literal (String.singleton c)).foldr Token.join ts =
      Token.join (.literal (String.ofList (c :: s))) ts := by
  induction s generalizing c with
  | nil => rfl
  | cons d s ih =>
    rw [List.map_cons, List.foldr_cons, ih, join_join]
    congr 2
    simp

/-! ## Lists of tokens -/

section Canonical

variable {t : Token} {ts us : Format}

/-- What is read is the token written first and what is read behind it. -/
theorem readChars_write (ht : t ≠ .literal "") (r : List Char) :
    readChars (t.write ++ r) = (readChars r).map t.join := by
  cases hg : t.group? with
  | some n => exact (step_write hg r).readChars
  | none =>
    obtain ⟨text, rfl⟩ : ∃ text, t = .literal text := by
      cases t with
      | literal text => exact ⟨text, rfl⟩
      | _ => cases hg
    have hne : text.toList ≠ [] := fun h => ht (by rw [String.toList_eq_nil_iff.mp h])
    obtain ⟨c, s, hs⟩ := List.exists_cons_of_ne_nil hne
    have hread := (reads_escapeWhere text.toList r).readChars
    have hmerge : (fun us => (text.toList.map fun c => Token.literal (String.singleton c)).foldr
        Token.join us) = Token.join (.literal text) := by
      funext us
      rw [hs, foldr_join, ← hs, String.ofList_toList]
    rw [hmerge] at hread
    exact hread

/-- A list is canonical if its first token is not empty and does not merge with the next. -/
theorem isCanonical_cons :
    IsCanonical (t :: ts) ↔ t ≠ .literal "" ∧ t.join ts = t :: ts ∧ IsCanonical ts := by
  cases t with
  | literal s =>
    match ts with
    | [] => simp [IsCanonical, Token.join]
    | .literal s' :: ts => simp [IsCanonical, Token.join]
    | .group _ :: ts => simp [IsCanonical, Token.join]
    | .case _ _ :: ts => simp [IsCanonical, Token.join]
    | .conditional _ _ _ :: ts => simp [IsCanonical, Token.join]
  | _ => simp [IsCanonical, Token.join]

theorem isCanonical_join (ht : t ≠ .literal "") (hts : IsCanonical ts) :
    IsCanonical (t.join ts) := by
  by_cases hjoin : t.join ts = t :: ts
  · rw [hjoin]
    exact isCanonical_cons.mpr ⟨ht, hjoin, hts⟩
  · -- Only two literals merge, into one that is no emptier and stands before the same tokens.
    match t, ts with
    | .literal a, .literal b :: ts =>
      obtain ⟨-, hnext, hrest⟩ := hts
      exact ⟨fun h => ht (by rw [(String.append_eq_empty_iff.mp h).1]), hnext, hrest⟩
    | .literal a, [] => exact absurd rfl hjoin
    | .literal a, .group _ :: ts => exact absurd rfl hjoin
    | .literal a, .case _ _ :: ts => exact absurd rfl hjoin
    | .literal a, .conditional _ _ _ :: ts => exact absurd rfl hjoin
    | .group _, ts => exact absurd rfl hjoin
    | .case _ _, ts => exact absurd rfl hjoin
    | .conditional _ _ _, ts => exact absurd rfl hjoin

theorem Step.ne_empty {s r : List Char} (h : Step s t r) : t ≠ .literal "" := by
  have hsingle : ∀ c : Char, Token.literal (String.singleton c) ≠ .literal "" := by
    intro c he
    simp at he
  cases h with
  | escape | backslash | dollar | plain => exact hsingle _
  | number => simp
  | reference encloses body =>
    cases body with
    | group => simp
    | choice number choice => cases choice <;> simp

theorem Reads.isCanonical {s r : List Char} (h : Reads s ts r) : IsCanonical (merged ts) := by
  induction h with
  | done s => trivial
  | step first rest ih => exact isCanonical_join first.ne_empty ih

theorem readChars_flatMap_write (h : IsCanonical ts) :
    readChars (ts.flatMap Token.write) = .ok ts := by
  induction ts with
  | nil => exact (Reads.done []).readChars_nil
  | cons t ts ih =>
    obtain ⟨ht, hjoin, hts⟩ := isCanonical_cons.mp h
    rw [List.flatMap_cons, readChars_write ht, ih hts]
    exact congrArg Except.ok hjoin

end Canonical

/-- The canonical lists of tokens are those that written formats read as, and each is read from its own
written form. -/
theorem read_write_iff (ts : Format) :
    (IsCanonical ts ↔ read (write ts) = .ok ts) ∧ (IsCanonical ts ↔ ∃ s, read s = .ok ts) := by
  have hread : ∀ s, read s = .ok ts → IsCanonical ts := by
    intro s hs
    rcases exists_reads_or s.toList with ⟨us, hreads⟩ | ⟨us, inside, fault, hreads, hf⟩
    · cases hs.symm.trans hreads.readChars_nil
      exact hreads.isCanonical
    · cases hs.symm.trans (hreads.readChars_faulty hf)
  have hwrite : IsCanonical ts → read (write ts) = .ok ts := by
    intro h
    rw [read, write, String.toList_ofList, readChars_flatMap_write h]
  exact ⟨⟨hwrite, hread _⟩, ⟨fun h => ⟨_, hwrite h⟩, fun ⟨s, hs⟩ => hread s hs⟩⟩

end Snippet.Format
