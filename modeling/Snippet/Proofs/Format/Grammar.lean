import Snippet.Proofs.Format.Escapes

/-!
The grammar of written formats. A format is read from the left, and each step takes an escape, a
reference or a character from what is left of it. Reading succeeds with exactly what the steps to the end
of the text give, adjacent literals merged, and fails exactly where the steps come to a reference that is
not closed or has another body than the grammar knows.
-/

namespace Snippet.Format

/-- A backslash and the first character write the second. -/
inductive Escape : Char → Char → Prop where
  | newline : Escape 'n' '\n'
  | tab : Escape 't' '\t'
  | other {c : Char} (hn : c ≠ 'n') (ht : c ≠ 't') : Escape c c

/-- The text that written characters spell. A backslash at the end stands for itself. -/
inductive Spells : List Char → List Char → Prop where
  | nil : Spells [] []
  | backslash : Spells ['\\'] ['\\']
  | escape {c d : Char} {r t : List Char} (meant : Escape c d) (rest : Spells r t) :
      Spells ('\\' :: c :: r) (d :: t)
  | plain {c : Char} {r t : List Char} (hc : c ≠ '\\') (rest : Spells r t) : Spells (c :: r) (c :: t)

/-- Decimal digits of any script, at least one, that write a number. -/
structure Number (digits : List Char) (n : Nat) : Prop where
  ne_nil : digits ≠ []
  digit : ∀ c ∈ digits, Unicode.isDigit c = true
  value : n = Unicode.decimalValue digits

/-- The text does not go on with a digit. -/
def EndsDigits (s : List Char) : Prop :=
  ∀ c ∈ s.head?, Unicode.isDigit c = false

/-- What follows the colon in a reference to the group `n`. -/
inductive Choice (n : Nat) : List Char → Token → Prop where
  | case (change : CaseChange) : Choice n ('/' :: change.name.toList) (.case n change)
  | both {a b x y : List Char} (whole : Whole a) (first : ':' ∉ exposed a) (present : Spells a x)
      (absent : Spells b y) :
      Choice n ('?' :: (a ++ ':' :: b)) (.conditional n (String.ofList x) (String.ofList y))
  | onlyPresent {a x : List Char} (single : ':' ∉ exposed a) (present : Spells a x) :
      Choice n ('?' :: a) (.conditional n (String.ofList x) "")
  | plus {a x : List Char} (present : Spells a x) :
      Choice n ('+' :: a) (.conditional n (String.ofList x) "")
  | minus {a x : List Char} (absent : Spells a x) :
      Choice n ('-' :: a) (.conditional n "" (String.ofList x))
  | bare {a x : List Char} (unmarked : ∀ c ∈ a.head?, c ∉ ['/', '?', '+', '-'])
      (absent : Spells a x) : Choice n a (.conditional n "" (String.ofList x))

/-- The body of a reference in braces. -/
inductive Body : List Char → Token → Prop where
  | group {digits : List Char} {n : Nat} (number : Number digits n) : Body digits (.group n)
  | choice {digits r : List Char} {n : Nat} {t : Token} (number : Number digits n)
      (choice : Choice n r t) : Body (digits ++ ':' :: r) t

/-- A body that is none, and what is wrong with it. -/
inductive Misshapen : List Char → Fault → Prop where
  | badReference {body : List Char} (hgroup : ∀ n, ¬Number body n)
      (hchoice : ∀ digits n r, Number digits n → body ≠ digits ++ ':' :: r) :
      Misshapen body (.badReference (String.ofList body))
  | unknownCase {digits name : List Char} {n : Nat} (number : Number digits n)
      (hname : ∀ change : CaseChange, change.name ≠ String.ofList name) :
      Misshapen (digits ++ ':' :: '/' :: name) (.unknownCase (String.ofList name))

/-- One step takes a token from the front of a text. -/
inductive Step : List Char → Token → List Char → Prop where
  | escape {c d : Char} (meant : Escape c d) (r : List Char) :
      Step ('\\' :: c :: r) (.literal (String.singleton d)) r
  | backslash : Step ['\\'] (.literal (String.singleton '\\')) []
  | number {digits r : List Char} {n : Nat} (number : Number digits n) (maximal : EndsDigits r) :
      Step ('$' :: (digits ++ r)) (.group n) r
  | reference {inside body r : List Char} {t : Token} (encloses : Encloses inside body r)
      (body : Body body t) : Step ('$' :: '\x7b' :: inside) t r
  | dollar {r : List Char} (hbrace : ∀ c ∈ r.head?, c ≠ '\x7b') (hdigit : EndsDigits r) :
      Step ('$' :: r) (.literal (String.singleton '$')) r
  | plain {c : Char} (hc : c ≠ '\\') (hd : c ≠ '$') (r : List Char) :
      Step (c :: r) (.literal (String.singleton c)) r

/-- Steps from one text to what is left of it, and the tokens that they take. -/
inductive Reads : List Char → List Token → List Char → Prop where
  | done (s : List Char) : Reads s [] s
  | step {s s' r : List Char} {t : Token} {ts : List Token} (first : Step s t s')
      (rest : Reads s' ts r) : Reads s (t :: ts) r

/-- What stands behind a dollar sign and an opening brace makes no reference. -/
inductive Faulty : List Char → Fault → Prop where
  | unterminated {inside : List Char} (h : ∀ body rest, ¬Closes 0 inside body rest) :
      Faulty inside .unterminated
  | body {inside body rest : List Char} {fault : Fault} (encloses : Encloses inside body rest)
      (misshapen : Misshapen body fault) : Faulty inside fault

namespace Token

/-- The token before others, as one with the first of them if both are literals. -/
def join : Token → Format → Format
  | literal a, literal b :: ts => literal (a ++ b) :: ts
  | t, ts => t :: ts

end Token

/-- The tokens with adjacent literals merged. -/
def merged (ts : List Token) : Format :=
  ts.foldr Token.join []

/-! ## Texts -/

theorem escape_iff {c d : Char} : Escape c d ↔ d = escaped c := by
  unfold escaped
  constructor
  · rintro (_ | _ | ⟨hn, ht⟩)
    · rfl
    · rfl
    · rw [if_neg hn, if_neg ht]
  · rintro rfl
    split
    · next hn => exact hn ▸ .newline
    · next hn =>
      split
      · next ht => exact ht ▸ .tab
      · next ht => exact .other hn ht

theorem spells_unescape (s : List Char) : Spells s (unescape s) := by
  fun_induction unescape s with
  | case1 => exact .nil
  | case2 => exact .backslash
  | case3 c r ih => exact .escape (escape_iff.mpr rfl) ih
  | case4 c r hlast hescape ih => exact .plain (ne_backslash hlast hescape) ih

theorem spells_iff {s t : List Char} : Spells s t ↔ t = unescape s := by
  constructor
  · intro h
    induction h with
    | nil => rfl
    | backslash => rfl
    | escape meant _ ih => rw [unescape, ← ih, ← escape_iff.mp meant]
    | plain hc _ ih =>
      rw [unescape, ← ih]
      · exact fun h _ => hc h
      · exact fun _ _ h _ => hc h
  · rintro rfl
    exact spells_unescape s

/-! ## Bodies -/

section Bodies

variable {digits body r : List Char} {n : Nat} {t : Token} {fault : Fault}

theorem takeWhile_of_endsDigits (h : EndsDigits r) : r.takeWhile Unicode.isDigit = [] := by
  cases r with
  | nil => rfl
  | cons c r => simp [h c rfl]

theorem Number.takeWhile_append (h : Number digits n) (hr : EndsDigits r) :
    (digits ++ r).takeWhile Unicode.isDigit = digits := by
  rw [List.takeWhile_append_of_pos h.digit, takeWhile_of_endsDigits hr, List.append_nil]

theorem Number.dropWhile_append (h : Number digits n) (hr : EndsDigits r) :
    (digits ++ r).dropWhile Unicode.isDigit = r := by
  rw [List.dropWhile_append_of_pos h.digit]
  cases r with
  | nil => rfl
  | cons c r => simp [hr c rfl]

theorem endsDigits_colon (r : List Char) : EndsDigits (':' :: r) := by
  intro c hc
  obtain rfl : ':' = c := by simpa using hc
  decide

theorem endsDigits_dropWhile (s : List Char) : EndsDigits (s.dropWhile Unicode.isDigit) := by
  intro c hc
  have hne : s.dropWhile Unicode.isDigit ≠ [] := by
    intro hnil
    simp [hnil] at hc
  obtain rfl : (s.dropWhile Unicode.isDigit).head hne = c := by
    simpa [List.head?_eq_some_head hne] using hc
  simpa using List.head_dropWhile_not Unicode.isDigit hne

/-- A text begins with a number, or with no digit. -/
theorem number_takeWhile {s : List Char} {d : Char} {ds : List Char}
    (h : s.takeWhile Unicode.isDigit = d :: ds) :
    Number (d :: ds) (Unicode.decimalValue (d :: ds)) where
  ne_nil := by simp
  digit c hc := by
    rw [← h] at hc
    exact List.all_eq_true.mp List.all_takeWhile c hc
  value := rfl

theorem readBody_number (h : Number digits n) : readBody digits = .ok (.group n) := by
  have htake := h.takeWhile_append (r := []) (by simp [EndsDigits])
  have hdrop := h.dropWhile_append (r := []) (by simp [EndsDigits])
  rw [List.append_nil] at htake hdrop
  obtain ⟨d, ds, rfl⟩ := List.exists_cons_of_ne_nil h.ne_nil
  rw [readBody, htake, hdrop, h.value]

theorem readBody_append (h : Number digits n) (r : List Char) :
    readBody (digits ++ ':' :: r) = readChoice n r := by
  have htake := h.takeWhile_append (endsDigits_colon r)
  have hdrop := h.dropWhile_append (endsDigits_colon r)
  obtain ⟨d, ds, rfl⟩ := List.exists_cons_of_ne_nil h.ne_nil
  simp only [readBody, htake, hdrop, h.value]

theorem readChoice_bare (h : ∀ c ∈ r.head?, c ∉ ['/', '?', '+', '-']) :
    readChoice n r = .ok (.conditional n "" (branch r)) := by
  cases r with
  | nil => rfl
  | cons c r =>
    have hc := h c rfl
    simp only [List.mem_cons, List.not_mem_nil, or_false, not_or] at hc
    rw [readChoice]
    · exact fun _ he => hc.1 (List.cons.inj he).1
    · exact fun _ he => hc.2.2.1 (List.cons.inj he).1
    · exact fun _ he => hc.2.1 (List.cons.inj he).1
    · exact fun _ he => hc.2.2.2 (List.cons.inj he).1

theorem readChoice_of_choice (h : Choice n r t) : readChoice n r = .ok t := by
  cases h with
  | case change =>
    rw [readChoice, String.ofList_toList, CaseChange.ofName?_name]
  | both whole first present absent =>
    rw [readChoice, splitAt_append (by decide) whole first, spells_iff.mp present,
      spells_iff.mp absent]
    rfl
  | onlyPresent single present =>
    rw [readChoice, splitAt_of_notMem single, spells_iff.mp present]
    rfl
  | plus present =>
    rw [readChoice, spells_iff.mp present]
    rfl
  | minus absent =>
    rw [readChoice, spells_iff.mp absent]
    rfl
  | bare unmarked absent =>
    rw [readChoice_bare unmarked, spells_iff.mp absent]
    rfl

/-- After the colon a reference goes on in one of the ways of the grammar, or with an unknown name. -/
theorem exists_choice_or (n : Nat) (r : List Char) :
    (∃ t, Choice n r t) ∨ ∃ name, r = '/' :: name ∧
      ∀ change : CaseChange, change.name ≠ String.ofList name := by
  rcases r with _ | ⟨c, r⟩
  · exact .inl ⟨_, .bare (by simp) .nil⟩
  by_cases hc : c ∈ ['/', '?', '+', '-']
  · simp only [List.mem_cons, List.not_mem_nil, or_false] at hc
    rcases hc with rfl | rfl | rfl | rfl
    · by_cases hname : ∃ change : CaseChange, change.name = String.ofList r
      · obtain ⟨change, hname⟩ := hname
        have hr : r = change.name.toList := by rw [hname, String.toList_ofList]
        exact .inl ⟨_, hr ▸ Choice.case change⟩
      · exact .inr ⟨r, rfl, fun change he => hname ⟨change, he⟩⟩
    · rcases exists_split_or ':' r with hsingle | ⟨a, b, rfl, whole, first⟩
      · exact .inl ⟨_, .onlyPresent hsingle (spells_unescape r)⟩
      · exact .inl ⟨_, .both whole first (spells_unescape a) (spells_unescape b)⟩
    · exact .inl ⟨_, .plus (spells_unescape r)⟩
    · exact .inl ⟨_, .minus (spells_unescape r)⟩
  · exact .inl ⟨_, .bare (fun x hx => Option.some.inj hx ▸ hc) (spells_unescape (c :: r))⟩

theorem readBody_of_body (h : Body body t) : readBody body = .ok t := by
  cases h with
  | group number => exact readBody_number number
  | choice number choice => rw [readBody_append number, readChoice_of_choice choice]

theorem readBody_of_misshapen (h : Misshapen body fault) : readBody body = .error fault := by
  cases h with
  | badReference hgroup hchoice =>
    have hbody := List.takeWhile_append_dropWhile (p := Unicode.isDigit) (l := body)
    -- The two bodies that begin with digits and go on as the grammar wants are excluded.
    unfold readBody
    split
    · next d ds htake hdrop =>
      rw [htake, hdrop, List.append_nil] at hbody
      exact absurd (hbody ▸ number_takeWhile htake) (hgroup _)
    · next d ds r htake hdrop =>
      rw [htake, hdrop] at hbody
      exact absurd hbody.symm (hchoice _ _ r (number_takeWhile htake))
    · rfl
  | @unknownCase digits name n number hname =>
    rw [readBody_append number, readChoice]
    cases hn : CaseChange.ofName? (String.ofList name) with
    | none => rfl
    | some change => exact absurd (CaseChange.ofName?_eq_some hn).symm (hname change)

theorem exists_body_or (body : List Char) :
    (∃ t, Body body t) ∨ ∃ fault, Misshapen body fault := by
  by_cases hgroup : ∃ n, Number body n
  · obtain ⟨n, hn⟩ := hgroup
    exact .inl ⟨_, .group hn⟩
  · by_cases hchoice : ∃ digits n r, Number digits n ∧ body = digits ++ ':' :: r
    · obtain ⟨digits, n, r, hn, rfl⟩ := hchoice
      rcases exists_choice_or n r with ⟨t, ht⟩ | ⟨name, rfl, hname⟩
      · exact .inl ⟨t, .choice hn ht⟩
      · exact .inr ⟨_, .unknownCase hn hname⟩
    · exact .inr ⟨_, .badReference (fun n hn => hgroup ⟨n, hn⟩)
        fun digits n r hn he => hchoice ⟨digits, n, r, hn, he⟩⟩

end Bodies

/-! ## Steps -/

section Steps

variable {s r inside : List Char} {t : Token} {fault : Fault}

theorem join_literal (c : Char) (ts : Format) :
    Token.join (.literal (String.singleton c)) ts = addLiteral c ts := by
  cases ts with
  | nil => rfl
  | cons t ts => cases t <;> rfl

theorem Body.join_eq {body : List Char} (h : Body body t) (ts : Format) :
    t.join ts = t :: ts := by
  cases h with
  | group => rfl
  | choice _ choice => cases choice <;> rfl

theorem readChars_reference (inside : List Char) :
    readChars ('$' :: '\x7b' :: inside) =
      match splitBody 0 inside with
      | none => .error .unterminated
      | some (body, rest) =>
          match readBody body with
          | .error fault => .error fault
          | .ok t => (readChars rest).map (t :: ·) := by
  rw [readChars]
  split
  · next hs => rw [hs]
  · next body rest hs =>
    cases hbody : readBody body <;> simp only [hs, hbody]

/-- What is read is the token of the first step and what is read behind it. -/
theorem Step.readChars (h : Step s t r) : readChars s = (readChars r).map t.join := by
  cases h with
  | escape meant r =>
    rw [Format.readChars, escape_iff.mp meant, funext (join_literal _)]
  | backslash =>
    rw [Format.readChars, Format.readChars]
    rfl
  | @number digits _ n number maximal =>
    have htake := number.takeWhile_append maximal
    have hdrop := number.dropWhile_append maximal
    obtain ⟨d, ds, rfl⟩ := List.exists_cons_of_ne_nil number.ne_nil
    have hd : d ≠ '\x7b' := by
      rintro rfl
      exact absurd (number.digit _ List.mem_cons_self) (by decide)
    rw [Format.readChars]
    · simp only [htake, hdrop, number.value]
      rfl
    · exact fun _ he => hd (List.cons.inj he).1
  | reference encloses body =>
    rw [readChars_reference, splitBody_eq_some_iff.mpr encloses, funext body.join_eq]
    simp only [readBody_of_body body]
  | dollar hbrace hdigit =>
    rw [Format.readChars, takeWhile_of_endsDigits hdigit, funext (join_literal _)]
    rintro _ rfl
    exact hbrace _ rfl rfl
  | plain hc hd r =>
    rw [Format.readChars, funext (join_literal _)]
    · exact fun he _ => hc he
    · exact fun _ _ he _ => hc he
    · exact fun _ he _ => hd he
    · exact fun he => hd he

theorem Faulty.readChars (h : Faulty inside fault) :
    readChars ('$' :: '\x7b' :: inside) = .error fault := by
  cases h with
  | unterminated h =>
    rw [readChars_reference, splitBody_eq_none_iff.mpr h]
  | body encloses misshapen =>
    rw [readChars_reference, splitBody_eq_some_iff.mpr encloses]
    simp only [readBody_of_misshapen misshapen]

theorem Step.length_lt (h : Step s t r) : r.length < s.length := by
  cases h with
  | backslash | dollar | plain => simp
  | escape | number =>
    simp only [List.length_append, List.length_cons]
    omega
  | reference encloses body =>
    rw [encloses.closes.split]
    simp
    omega

/-- A reference in braces can be taken, unless it is faulty. -/
theorem exists_reference_or (inside : List Char) :
    (∃ t r, Step ('$' :: '\x7b' :: inside) t r) ∨ ∃ fault, Faulty inside fault := by
  cases hs : splitBody 0 inside with
  | none => exact .inr ⟨_, .unterminated (splitBody_eq_none_iff.mp hs)⟩
  | some found =>
    obtain ⟨body, rest⟩ := found
    have hencloses := splitBody_eq_some_iff.mp hs
    rcases exists_body_or body with ⟨t, ht⟩ | ⟨fault, hf⟩
    · exact .inl ⟨t, rest, .reference hencloses ht⟩
    · exact .inr ⟨fault, .body hencloses hf⟩

/-- A step can be taken wherever something is left, unless a faulty reference stands there. -/
theorem exists_step_or (hs : s ≠ []) :
    (∃ t r, Step s t r) ∨ ∃ inside fault, s = '$' :: '\x7b' :: inside ∧ Faulty inside fault := by
  obtain ⟨c, s, rfl⟩ := List.exists_cons_of_ne_nil hs
  by_cases hc : c = '\\'
  · subst hc
    cases s with
    | nil => exact .inl ⟨_, _, .backslash⟩
    | cons c s => exact .inl ⟨_, _, .escape (escape_iff.mpr rfl) s⟩
  by_cases hd : c = '$'
  · subst hd
    by_cases hbrace : ∀ c ∈ s.head?, c ≠ '\x7b'
    · cases htake : s.takeWhile Unicode.isDigit with
      | nil =>
        have hends := endsDigits_dropWhile s
        have hs' := List.takeWhile_append_dropWhile (p := Unicode.isDigit) (l := s)
        rw [htake, List.nil_append] at hs'
        rw [hs'] at hends
        exact .inl ⟨_, _, .dollar hbrace hends⟩
      | cons d ds =>
        have hs' := List.takeWhile_append_dropWhile (p := Unicode.isDigit) (l := s)
        rw [← hs', htake]
        exact .inl ⟨_, _, .number (number_takeWhile htake) (endsDigits_dropWhile s)⟩
    · obtain ⟨inside, rfl⟩ : ∃ inside, s = '\x7b' :: inside := by
        cases s with
        | nil => simp at hbrace
        | cons c s =>
          obtain rfl : c = '\x7b' := by simpa using hbrace
          exact ⟨s, rfl⟩
      rcases exists_reference_or inside with hstep | ⟨fault, hf⟩
      · exact .inl hstep
      · exact .inr ⟨inside, fault, rfl, hf⟩
  · exact .inl ⟨_, _, .plain hc hd s⟩

end Steps

/-! ## The whole text -/

section Reads

variable {s r : List Char} {ts : List Token}

/-- What is read is the tokens of the steps and what is read behind them. -/
theorem Reads.readChars (h : Reads s ts r) :
    readChars s = (readChars r).map fun us => ts.foldr Token.join us := by
  induction h with
  | done s => cases Format.readChars s <;> rfl
  | @step s s' r t ts first rest ih =>
    rw [first.readChars, ih]
    cases Format.readChars r <;> rfl

/-- The steps come to the end of a text or to a faulty reference in it. -/
theorem exists_reads_or (s : List Char) :
    (∃ ts, Reads s ts []) ∨
      ∃ ts inside fault, Reads s ts ('$' :: '\x7b' :: inside) ∧ Faulty inside fault := by
  by_cases hs : s = []
  · exact .inl ⟨[], hs ▸ .done s⟩
  rcases exists_step_or hs with ⟨t, r, hstep⟩ | ⟨inside, fault, rfl, hf⟩
  · have := hstep.length_lt
    rcases exists_reads_or r with ⟨ts, hr⟩ | ⟨ts, inside, fault, hr, hf⟩
    · exact .inl ⟨t :: ts, .step hstep hr⟩
    · exact .inr ⟨t :: ts, inside, fault, .step hstep hr, hf⟩
  · exact .inr ⟨[], inside, fault, .done _, hf⟩
termination_by s.length

theorem Reads.readChars_nil (h : Reads s ts []) : Format.readChars s = .ok (merged ts) := by
  rw [h.readChars, Format.readChars]
  rfl

theorem Reads.readChars_faulty {inside : List Char} {fault : Fault}
    (h : Reads s ts ('$' :: '\x7b' :: inside)) (hf : Faulty inside fault) :
    Format.readChars s = .error fault := by
  rw [h.readChars, hf.readChars]
  rfl

end Reads

/-- Reading a text gives the tokens that its grammar takes from it, adjacent literals merged, and
fails exactly if the grammar comes to a faulty reference, with what is wrong with that. -/
theorem read_iff (s : String) :
    (∀ ts, read s = .ok ts ↔ ∃ us, Reads s.toList us [] ∧ ts = merged us) ∧
    (∀ fault, read s = .error fault ↔
      ∃ us inside, Reads s.toList us ('$' :: '\x7b' :: inside) ∧ Faulty inside fault) := by
  unfold read
  constructor
  · intro ts
    constructor
    · intro h
      rcases exists_reads_or s.toList with ⟨us, hreads⟩ | ⟨us, inside, fault, hreads, hf⟩
      · exact ⟨us, hreads, Except.ok.inj (h.symm.trans hreads.readChars_nil)⟩
      · cases h.symm.trans (hreads.readChars_faulty hf)
    · rintro ⟨us, hreads, rfl⟩
      exact hreads.readChars_nil
  · intro fault
    constructor
    · intro h
      rcases exists_reads_or s.toList with ⟨us, hreads⟩ | ⟨us, inside, fault, hreads, hf⟩
      · cases h.symm.trans hreads.readChars_nil
      · cases h.symm.trans (hreads.readChars_faulty hf)
        exact ⟨us, inside, hreads, hf⟩
    · rintro ⟨us, inside, hreads, hf⟩
      exact hreads.readChars_faulty hf

end Snippet.Format
