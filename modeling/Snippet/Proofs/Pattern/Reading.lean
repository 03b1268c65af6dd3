import Snippet.Pattern.Reader
import Snippet.Proofs.State

/-!
What a reader of patterns goes through stays an end of the text, so whatever it takes stands there.
Reading may stop at a well-formed pattern, and then something in the text has brought it about:
digits that write too large a count, letters of two flags that exclude each other, or a look-behind.
Each reader is shown to keep to that, from the next token up to counts and flags.
-/

namespace Snippet.Pattern

/-- Why the fault arose, where `holds` tells which characters stand in a row in the text. A fault in
the pattern needs no cause. -/
def Fault.Founded (holds : List Char → Prop) : Fault → Prop
  | .bad _ _ => True
  | .countTooLarge =>
      ∃ digits, holds digits ∧ (∀ c ∈ digits, c.isDigit) ∧
        Reader.countLimit ≤ Reader.inBase 10 digits
  | .asciiAndUnicode => holds ['a'] ∧ holds ['u']
  | .lookBehindTooWide => holds ['(', '?', '<']

theorem Fault.Founded.mono {holds holds' : List Char → Prop} (h : ∀ cs, holds cs → holds' cs)
    {fault : Fault} (hf : fault.Founded holds) : fault.Founded holds' := by
  cases fault with
  | bad reason place => trivial
  | countTooLarge =>
    obtain ⟨digits, hd, hall, hlarge⟩ := hf
    exact ⟨digits, h digits hd, hall, hlarge⟩
  | asciiAndUnicode => exact ⟨h _ hf.1, h _ hf.2⟩
  | lookBehindTooWide => exact h _ hf

/-! ## Tokens of a text -/

/-- The tokens hold the characters in a row, none of them escaped. -/
def Holds (ts : List Token) (cs : List Char) : Prop :=
  ∃ run, run <:+: ts ∧ (∀ t ∈ run, t.escaped = false) ∧ run.map Token.char = cs

theorem holds_one {ts : List Token} {t : Token} (ht : t ∈ ts) (hplain : t.escaped = false) :
    Holds ts [t.char] := by
  obtain ⟨before, rest, rfl⟩ := List.append_of_mem ht
  exact ⟨[t], ⟨before, rest, by simp⟩, by simpa using hplain, rfl⟩

/-- Tokens give back their text, up to a lone backslash at the end. -/
theorem flatMap_chars_tokens (place : Nat) (cs : List Char) :
    ∃ tail, (tokens place cs).1.flatMap Token.chars ++ tail = cs := by
  fun_induction tokens place cs with
  | case1 place => exact ⟨[], rfl⟩
  | case2 place => exact ⟨['\\'], rfl⟩
  | case3 place c r ts dangling hts ih =>
    obtain ⟨tail, htail⟩ := ih
    rw [hts] at htail
    exact ⟨tail, by simpa [Token.chars] using htail⟩
  | case4 place c r _ _ ts dangling hts ih =>
    obtain ⟨tail, htail⟩ := ih
    rw [hts] at htail
    exact ⟨tail, by simpa [Token.chars] using htail⟩

theorem flatMap_chars_plain {run : List Token} (h : ∀ t ∈ run, t.escaped = false) :
    run.flatMap Token.chars = run.map Token.char := by
  induction run with
  | nil => rfl
  | cons t run ih => simp_all [Token.chars]

/-- What tokens hold stands in their text. -/
theorem infix_of_holds {text cs : List Char} (h : Holds (tokens 0 text).1 cs) : cs <:+: text := by
  obtain ⟨run, ⟨before, after, hrun⟩, hplain, rfl⟩ := h
  obtain ⟨tail, htail⟩ := flatMap_chars_tokens 0 text
  refine ⟨before.flatMap Token.chars, after.flatMap Token.chars ++ tail, ?_⟩
  rw [← htail, ← hrun, ← flatMap_chars_plain hplain]
  simp

/-! ## What a reader keeps to -/

/-- What the reader knows of groups: the number of the next one, and the widths of those that are closed. They
have been opened before. -/
structure Table where
  next : Nat
  widths : List (Nat × Width)
  opened : ∀ n, next ≤ n → widths.lookup n = none

namespace Reader

variable {ts : List Token} {known : Table} {α β : Type} {P : α → Prop} {Q : β → Prop}

/-- What is left is an end of the text, the flags of the whole pattern are letters of it, and this much is
known of groups. -/
structure Within (ts : List Token) (known : Table) (s : Progress) : Prop where
  rest : s.rest <:+ ts
  flags : ∀ c ∈ s.wholeFlags, Holds ts [c]
  next : s.nextGroup = known.next
  widths : s.widths = known.widths

/-- Where it ends well, it ends within the text and as `P` says; a fault has its cause in the text. -/
def Reads (ts : List Token) (known : Table) (P : α → Progress → Prop) :
    EStateM.Result Fault Progress α → Prop
  | .ok a s => Within ts known s ∧ P a s
  | .error fault _ => fault.Founded (Holds ts)

/-- The reader stays within the text wherever it starts in it. -/
def Keeps (ts : List Token) (known : Table) (P : α → Prop) (m : Reader α) : Prop :=
  ∀ s, Within ts known s → Reads ts known (fun a _ => P a) (m s)

/-- The reader stays within the text, whatever it gives. -/
abbrev Stays (ts : List Token) (known : Table) (m : Reader α) : Prop :=
  Keeps ts known (fun _ => True) m

theorem Reads.bind {P : α → Progress → Prop} {Q : β → Progress → Prop} {m : Reader α}
    {f : α → Reader β} {s : Progress} (hm : Reads ts known P (m s))
    (hf : ∀ a s', Within ts known s' → P a s' → Reads ts known Q (f a s')) :
    Reads ts known Q ((m >>= f) s) := by
  simp only [Bind.bind, EStateM.bind]
  cases hr : m s with
  | ok a s' =>
    rw [hr] at hm
    exact hf a s' hm.1 hm.2
  | error fault s' =>
    rw [hr] at hm
    exact hm

theorem Reads.imp {P P' : α → Progress → Prop} {r : EStateM.Result Fault Progress α}
    (h : Reads ts known P r) (hP : ∀ a s, P a s → P' a s) : Reads ts known P' r := by
  cases r with
  | ok a s => exact ⟨h.1, hP a s h.2⟩
  | error fault s => exact h

theorem Keeps.bind {m : Reader α} {f : α → Reader β} (hm : Keeps ts known P m)
    (hf : ∀ a, P a → Keeps ts known Q (f a)) : Keeps ts known Q (m >>= f) :=
  fun s hs => (hm s hs).bind fun a s' hs' ha => hf a ha s' hs'

theorem keeps_pure {a : α} (h : P a) : Keeps ts known P (pure a) :=
  fun _ hs => ⟨hs, h⟩

theorem stays_pure (a : α) : Stays ts known (pure a : Reader α) :=
  keeps_pure trivial

/-- Nothing comes after a reader that always stops. -/
theorem Keeps.stop {m : Reader α} {f : α → Reader β} (hm : Keeps ts known (fun _ => False) m) :
    Keeps ts known Q (m >>= f) :=
  hm.bind fun _ h => h.elim

/-- A check that may stop the reader leaves what comes after it. -/
theorem keeps_check {c : Prop} [Decidable c] {stop : Reader PUnit} {m : Reader β}
    (hstop : c → Keeps ts known (fun _ => False) stop) (hm : ¬c → Keeps ts known Q m) :
    Keeps ts known Q (if c then stop >>= fun _ => m else m) := by
  by_cases hc : c
  · rw [if_pos hc]
    exact (hstop hc).stop
  · rw [if_neg hc]
    exact hm hc

theorem keeps_ite {c : Prop} [Decidable c] {m n : Reader α} (hm : c → Keeps ts known P m)
    (hn : ¬c → Keeps ts known P n) : Keeps ts known P (if c then m else n) := by
  split
  · exact hm ‹c›
  · exact hn ‹¬c›

theorem keeps_choice {c : Prop} [Decidable c] {m n : Reader α} {f : α → Reader β}
    (hm : Keeps ts known P m) (hn : Keeps ts known P n) (hf : ∀ a, P a → Keeps ts known Q (f a)) :
    Keeps ts known Q (if c then m >>= f else n >>= f) := by
  split
  · exact hm.bind hf
  · exact hn.bind hf

theorem keeps_when {c : Prop} [Decidable c] {step : Reader PUnit} {m : Reader β}
    (hstep : Stays ts known step) (hm : Keeps ts known Q m) :
    Keeps ts known Q (if c then step >>= fun _ => m else m) := by
  split
  · exact hstep.bind fun _ _ => hm
  · exact hm

theorem keeps_get {f : Progress → Reader β} (hf : ∀ s, Within ts known s → Keeps ts known Q (f s)) :
    Keeps ts known Q (get >>= f) :=
  fun s hs => hf s hs s hs

theorem stays_modify {f : Progress → Progress} (hf : ∀ s, Within ts known s → Within ts known (f s)) :
    Stays ts known (modify f) :=
  fun s hs => ⟨hf s hs, trivial⟩

/-! ## Tokens and names -/

theorem keeps_failAt (place : Nat) (reason : Reason) : Keeps ts known P (failAt place reason) :=
  fun _ _ => trivial

theorem stays_place : Stays ts known place := by
  refine keeps_get fun s _ => ?_
  split <;> exact stays_pure _

theorem keeps_fail (back : Nat) (reason : Reason) : Keeps ts known P (fail back reason) :=
  stays_place.bind fun _ _ => keeps_failAt _ _

theorem stays_left : Stays ts known left :=
  keeps_get fun _ _ => stays_pure _

theorem peek_reads {s : Progress} (hs : Within ts known s) :
    Reads ts known (fun t s' => t = s.rest.head? ∧ s' = s) (peek s) :=
  ⟨hs, rfl, rfl⟩

theorem stays_peek : Stays ts known peek :=
  fun _ hs => ⟨hs, trivial⟩

theorem stays_checkView : Stays ts known checkView := by
  refine keeps_get fun s _ => ?_
  split
  · exact keeps_failAt _ _
  · exact stays_pure _

theorem get_bind (f : Progress → Reader β) (s : Progress) : (get >>= f) s = f s s := rfl

theorem peek_bind (f : Option Token → Reader β) (s : Progress) :
    (peek >>= f) s = f s.rest.head? s := rfl

/-- The next token is the first of what is left. -/
theorem next_reads {s : Progress} (hs : Within ts known s) :
    Reads ts known (fun t s' => t = s.rest.head? ∧ s'.rest = s.rest.tail) (next s) := by
  rw [next, get_bind]
  cases hrest : s.rest with
  | nil => exact ⟨hs, rfl, hrest⟩
  | cons t r =>
    have hr : Within ts known { s with rest := r } := by
      refine { hs with rest := (List.suffix_cons t r).trans ?_ }
      rw [← hrest]
      exact hs.rest
    show Reads ts known _ ((checkView >>= fun _ => pure (some t)) { s with rest := r })
    -- The check may stop the reader, but moves nothing.
    have hview : Reads ts known (fun _ s' => s'.rest = r) (checkView { s with rest := r }) := by
      simp only [checkView, bind, EStateM.bind, get_apply]
      split
      · trivial
      · exact ⟨hr, rfl⟩
    exact hview.bind fun _ s' hs' hrest' => ⟨hs', rfl, hrest'⟩

theorem keeps_next : Keeps ts known (fun t => ∀ u ∈ t, u ∈ ts) next := by
  refine fun s hs => (next_reads hs).imp fun t s' ht u hu => hs.rest.subset ?_
  exact List.mem_of_head? (ht.1 ▸ hu)

/-- A character is accepted where it is the first of what is left. -/
theorem accept_reads (c : Char) {s : Progress} (hs : Within ts known s) :
    Reads ts known (fun b s' => b = true → ∃ t, t.isChar c ∧ s.rest = t :: s'.rest) (accept c s) := by
  rw [accept, peek_bind]
  cases hrest : s.rest with
  | nil => exact ⟨hs, by simp⟩
  | cons t r =>
    simp only [List.head?_cons]
    split
    · next hc =>
      refine (next_reads hs).bind fun u s' hs' hu => ⟨hs', fun _ => ⟨t, hc, ?_⟩⟩
      rw [hu.2, hrest, List.tail_cons]
    · exact ⟨hs, by simp⟩

theorem stays_accept (c : Char) : Stays ts known (accept c) :=
  fun _ hs => (accept_reads c hs).imp fun _ _ _ => trivial

/-- The characters taken stand in a row at the start of what is left. -/
theorem takeWhile_reads (p : Char → Bool) (n : Nat) {s : Progress} (hs : Within ts known s) :
    Reads ts known (fun cs s' => ∃ run, s.rest = run ++ s'.rest ∧ (∀ t ∈ run, t.isPlain p) ∧
      run.map Token.char = cs) (takeWhile p n s) := by
  induction n generalizing s with
  | zero => exact ⟨hs, [], rfl, by simp, rfl⟩
  | succ n ih =>
    rw [takeWhile, peek_bind]
    cases hrest : s.rest with
    | nil => exact ⟨hs, [], by simp [hrest], by simp, rfl⟩
    | cons t r =>
      simp only [List.head?_cons]
      split
      · next hc =>
        refine (next_reads hs).bind fun u s' hs' hu => ?_
        refine (ih hs').bind fun cs s'' hs'' ⟨run, hrun, hplain, hcs⟩ => ?_
        refine ⟨hs'', t :: run, ?_, by simpa [hc] using hplain, by simp [hcs]⟩
        rw [List.cons_append, ← hrun, hu.2, hrest, List.tail_cons]
      · exact ⟨hs, [], by simp [hrest], by simp, rfl⟩

theorem keeps_takeWhile (p : Char → Bool) (n : Nat) :
    Keeps ts known (fun cs => Holds ts cs ∧ ∀ c ∈ cs, p c) (takeWhile p n) := by
  refine fun s hs => (takeWhile_reads p n hs).imp ?_
  rintro cs s' ⟨run, hrest, hplain, rfl⟩
  have hrun : run <:+: ts := by
    refine List.IsInfix.trans ?_ hs.rest.isInfix
    exact (hrest ▸ List.prefix_append run s'.rest).isInfix
  simp only [Token.isPlain, Bool.and_eq_true, Bool.not_eq_true'] at hplain
  refine ⟨⟨run, hrun, fun t ht => (hplain t ht).1, rfl⟩, fun c hc => ?_⟩
  obtain ⟨t, ht, rfl⟩ := List.mem_map.mp hc
  exact (hplain t ht).2

theorem stays_nameUntil (terminator : Char) (what : String) (fuel : Nat) (name : List Char) :
    Stays ts known (nameUntil terminator what fuel name) := by
  induction fuel generalizing name with
  | zero => exact keeps_fail _ _
  | succ fuel ih =>
    refine keeps_next.bind fun t _ => ?_
    split
    · split <;> exact keeps_fail _ _
    · split
      · split
        · exact keeps_fail _ _
        · exact stays_pure _
      · exact ih _

theorem stays_name (terminator : Char) (what : String) :
    Stays ts known (name terminator what) :=
  stays_left.bind fun _ _ => stays_nameUntil _ _ _ _

theorem stays_checkName (name : String) : Stays ts known (checkName name) := by
  unfold checkName
  split
  · exact stays_pure _
  · exact keeps_fail _ _

theorem stays_checkLookBehind (group : Nat) : Stays ts known (checkLookBehind group) := by
  refine keeps_get fun s _ => ?_
  split
  · exact stays_pure _
  · split
    · exact keeps_fail _ _
    · split
      · exact keeps_fail _ _
      · exact stays_pure _

theorem stays_hexEscape (letter : Char) (width : Nat) :
    Stays ts known (hexEscape letter width) := by
  refine (keeps_takeWhile _ _).bind fun digits _ => ?_
  refine keeps_check (fun _ => keeps_fail _ _) fun _ => ?_
  exact keeps_check (fun _ => keeps_fail _ _) fun _ => stays_pure _

theorem stays_namedEscape [CharacterNames] : Stays ts known namedEscape := by
  refine (stays_accept _).bind fun _ _ => ?_
  split
  · refine (stays_name _ _).bind fun name _ => ?_
    split
    · exact stays_pure _
    · exact keeps_fail _ _
  · exact keeps_fail _ _

theorem stays_octalEscape (digits : List Char) : Stays ts known (octalEscape digits) := by
  unfold octalEscape
  split
  · exact keeps_fail _ _
  · exact stays_pure _

theorem stays_codeEscape? [CharacterNames] (c : Char) : Stays ts known (codeEscape? c) := by
  unfold codeEscape?
  split
  · exact (stays_hexEscape _ _).bind fun _ _ => stays_pure _
  · exact (stays_hexEscape _ _).bind fun _ _ => stays_pure _
  · exact (stays_hexEscape _ _).bind fun _ _ => stays_pure _
  · exact stays_namedEscape.bind fun _ _ => stays_pure _
  · exact stays_pure _

theorem stays_setEscape [CharacterNames] (ascii : Bool) (c : Char) : Stays ts known (setEscape ascii c) := by
  unfold setEscape
  split
  · exact stays_pure _
  · split
    · exact stays_pure _
    · refine (stays_codeEscape? c).bind fun code _ => ?_
      split
      · exact stays_pure _
      · split
        · refine (keeps_takeWhile _ _).bind fun _ _ => ?_
          exact (stays_octalEscape _).bind fun _ _ => stays_pure _
        · exact keeps_check (fun _ => keeps_fail _ _) fun _ => stays_pure _

theorem stays_member [CharacterNames] (ascii : Bool) (t : Token) : Stays ts known (member ascii t) := by
  unfold member
  split
  · exact stays_setEscape _ _
  · exact stays_pure _

theorem stays_members [CharacterNames] (ascii : Bool) (start fuel : Nat) (found : List Member) :
    Stays ts known (members ascii start fuel found) := by
  induction fuel generalizing found with
  | zero => exact keeps_failAt _ _
  | succ fuel ih =>
    refine keeps_next.bind fun t _ => ?_
    split
    · exact keeps_failAt _ _
    · split
      · exact stays_pure _
      · refine (stays_member _ _).bind fun first _ => ?_
        refine (stays_accept _).bind fun dash _ => ?_
        split
        · exact ih _
        · refine keeps_next.bind fun u _ => ?_
          split
          · exact keeps_failAt _ _
          · split
            · exact stays_pure _
            · refine (stays_member _ _).bind fun last _ => ?_
              split
              · exact keeps_check (fun _ => keeps_fail _ _) fun _ => ih _
              · exact keeps_fail _ _

/-! ## Repetitions and flags -/

/-- The digits of a count stand in the text. -/
theorem stays_interval : Stays ts known interval := by
  refine keeps_get fun here hhere => ?_
  refine stays_place.bind fun start _ => ?_
  refine stays_peek.bind fun t _ => ?_
  -- Unless a closing brace is in view, the counts come, of which the greatest may be the least again.
  extract_lets counts
  suffices hcounts : Stays ts known (counts ()) by
    cases t with
    | none => exact hcounts
    | some t => exact keeps_ite (fun _ => stays_pure _) fun _ => hcounts
  refine stays_left.bind fun n _ => (keeps_takeWhile _ _).bind fun low hlow => ?_
  refine (stays_accept _).bind fun comma _ => ?_
  extract_lets least close
  suffices hclose : ∀ high, (Holds ts high ∧ ∀ c ∈ high, c.isDigit) → Stays ts known (close high) by
    refine keeps_ite (fun _ => ?_) fun _ => ?_
    · exact stays_left.bind fun n _ => (keeps_takeWhile _ _).bind hclose
    · exact Keeps.bind (P := (· = low)) (keeps_pure rfl) fun high hhigh => hhigh ▸ hclose low hlow
  intro high hhigh
  refine (stays_accept _).bind fun closed _ => keeps_ite (fun _ => ?_) fun _ => ?_
  · exact Keeps.bind (fun s _ => ⟨hhere, trivial⟩) fun _ (_ : True) => stays_pure _
  refine keeps_check (fun h _ _ => ⟨low, hlow.1, hlow.2, h⟩) fun _ => ?_
  refine keeps_ite (fun _ => stays_pure _) fun _ => ?_
  refine keeps_check (fun h _ _ => ⟨high, hhigh.1, hhigh.2, h⟩) fun _ => ?_
  exact keeps_check (fun _ => keeps_failAt _ _) fun _ => stays_pure _

theorem stays_repetition (c : Char) : Stays ts known (repetition c) := by
  unfold repetition
  split
  · exact stays_pure _
  · exact stays_pure _
  · exact stays_pure _
  · exact stays_interval

theorem stays_greed : Stays ts known greed := by
  refine (stays_accept _).bind fun _ _ => keeps_ite (fun _ => stays_pure _) fun _ => ?_
  exact (stays_accept _).bind fun _ _ => keeps_ite (fun _ => stays_pure _) fun _ => stays_pure _

theorem keeps_badFlag (t : Option Token) (missing : Reason) : Keeps ts known P (badFlag t missing) := by
  unfold badFlag
  split <;> exact keeps_fail _ _

/-- Flags are letters of the text. -/
theorem keeps_flagsOn (fuel : Nat) {c : Char} (hc : Holds ts [c]) {on : Flags}
    (hon : ∀ d ∈ on, Holds ts [d]) :
    Keeps ts known (fun r => ∀ d ∈ r.1, Holds ts [d]) (flagsOn fuel c on) := by
  induction fuel generalizing c on with
  | zero => exact keeps_fail _ _
  | succ fuel ih =>
    have hall : ∀ d ∈ on ++ [c], Holds ts [d] := by
      intro d hd
      rcases List.mem_append.mp hd with hd | hd
      · exact hon d hd
      · exact List.mem_singleton.mp hd ▸ hc
    refine keeps_check (fun _ => keeps_fail _ _) fun _ => ?_
    refine keeps_check (fun _ => keeps_fail _ _) fun _ => ?_
    refine keeps_next.bind fun t ht => ?_
    split
    · exact keeps_badFlag _ _
    · next u hu =>
      obtain ⟨hut, hplain⟩ := Option.filter_eq_some_iff.mp hu
      split
      · exact ih (holds_one (ht u hut) (by simp_all [Token.isPlain])) hall
      · exact keeps_pure hall

theorem stays_flagsOff (fuel : Nat) (c : Char) (off : Flags) : Stays ts known (flagsOff fuel c off) := by
  induction fuel generalizing c off with
  | zero => exact keeps_fail _ _
  | succ fuel ih =>
    refine keeps_check (fun _ => keeps_fail _ _) fun _ => ?_
    refine keeps_next.bind fun t _ => ?_
    split
    · exact keeps_badFlag _ _
    · split
      · exact ih _ _
      · exact stays_pure _

theorem keeps_flags {c : Char} (hc : Holds ts [c]) :
    Keeps ts known (fun r => ∀ d ∈ r.1, Holds ts [d]) (flags c) := by
  refine stays_left.bind fun fuel _ => ?_
  refine keeps_choice (keeps_pure (by simp)) (keeps_flagsOn _ hc (by simp)) ?_
  rintro ⟨on, stop⟩ hr
  refine keeps_ite (fun _ => keeps_pure hr) fun _ => ?_
  refine keeps_check (fun _ => keeps_fail _ _) fun _ => ?_
  split
  case' isTrue =>
    refine keeps_next.bind fun t _ => ?_
    split
    · exact Keeps.stop (keeps_badFlag _ _)
    refine (stays_flagsOff _ _ _).bind fun off _ => ?_
  case' isFalse => refine Keeps.bind (stays_pure _) fun off _ => ?_
  all_goals
    refine keeps_check (fun _ => keeps_fail _ _) fun _ => ?_
    exact keeps_check (fun _ => keeps_fail _ _) fun _ => keeps_pure hr

end Reader

end Snippet.Pattern
