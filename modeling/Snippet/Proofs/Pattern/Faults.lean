import Snippet.Proofs.Pattern.Building

/-!
What comes out of reading. The pattern that is read has its groups numbered in order and noted with their
widths. A fault that does not lie in the pattern has its cause in the text: a pattern looks behind only where
its text does, through all groups and alternatives.
-/

namespace Snippet.Pattern

theorem looksBehind_of_tooFar {p : Pattern} (h : p.looksTooFarBehind) : p.looksBehind := by
  induction p with
  | behind negated width p ih => rfl
  | _ => grind [looksTooFarBehind, looksBehind]

namespace Reader

variable {ts : List Token} {known : Table}

/-! ## Patterns without groups -/

theorem keeps_bare {p : Pattern} (hcaptures : p.captures = []) (hreferences : p.references = [])
    (hlooks : p.looksBehind = false) : Keeps ts known (Built ts known known) (pure p) := by
  refine keeps_pure (built_simple known hcaptures (fun n hn => ?_) hlooks)
  rw [hreferences] at hn
  cases hn

theorem lookup_of_isClosed {s : Progress} {group : Nat} (hs : Within ts known s)
    (h : isClosed s group = true) : (known.widths.lookup group).isSome := by
  rw [isClosed, Bool.and_eq_true, hs.widths] at h
  exact h.2

theorem keeps_reference {group : Nat} (folding : Folding)
    (hgroup : (known.widths.lookup group).isSome) :
    Keeps ts known (Built ts known known) (pure (.backref group folding)) := by
  refine keeps_pure (built_simple known rfl (fun n hn => ?_) rfl)
  rw [List.mem_singleton.mp hn]
  exact hgroup

theorem keeps_numberedReference (mode : Mode) (group length : Nat) :
    Keeps ts known (Built ts known known) (numberedReference mode group length) := by
  refine keeps_get fun s hs => keeps_ite (fun _ => ?_) fun _ => keeps_fail _ _
  refine keeps_check (fun _ => keeps_fail _ _) fun hclosed => ?_
  refine (stays_checkLookBehind _).bind fun _ _ => keeps_reference _ ?_
  exact lookup_of_isClosed hs (by simpa using hclosed)

theorem keeps_digitEscape (mode : Mode) (c : Char) :
    Keeps ts known (Built ts known known) (digitEscape mode c) := by
  refine keeps_ite (fun _ => ?_) fun _ => ?_
  · refine (keeps_takeWhile _ _).bind fun _ _ => ?_
    exact (stays_octalEscape _).bind fun _ _ => keeps_bare rfl rfl rfl
  · refine (keeps_takeWhile _ _).bind fun ds _ => ?_
    split
    · exact keeps_numberedReference _ _ _
    · split
      · refine (keeps_takeWhile _ _).bind fun es _ => ?_
        split
        · exact keeps_numberedReference _ _ _
        · exact (stays_octalEscape _).bind fun _ _ => keeps_bare rfl rfl rfl
      · exact keeps_numberedReference _ _ _

theorem keeps_escape [CharacterNames] (mode : Mode) (c : Char) :
    Keeps ts known (Built ts known known) (escape mode c) := by
  unfold escape
  split
  · exact keeps_bare rfl rfl rfl
  · split
    · exact keeps_bare rfl rfl rfl
    · split
      · exact keeps_bare rfl rfl rfl
      · refine (stays_codeEscape? c).bind fun code _ => ?_
        split
        · exact keeps_bare rfl rfl rfl
        · split
          · exact keeps_digitEscape mode c
          · exact keeps_check (fun _ => keeps_fail _ _) fun _ => keeps_bare rfl rfl rfl

theorem keeps_bracketed [CharacterNames] (mode : Mode) (start : Nat) :
    Keeps ts known (Built ts known known) (bracketed mode start) := by
  refine (stays_accept _).bind fun _ _ => stays_left.bind fun _ _ => ?_
  refine (stays_members _ _ _ _).bind fun ms _ => ?_
  split <;> exact keeps_bare rfl rfl rfl

theorem keeps_single [CharacterNames] (mode : Mode) (t : Token) :
    Keeps ts known (Built ts known known) (single mode t) := by
  refine keeps_ite (fun _ => keeps_escape mode t.char) fun _ => ?_
  split
  · exact keeps_bare rfl rfl rfl
  · exact keeps_bare rfl rfl rfl
  · exact keeps_bare rfl rfl rfl
  · exact keeps_bracketed _ _
  · exact keeps_bare rfl rfl rfl

theorem keeps_namedReference (mode : Mode) :
    Keeps ts known (Built ts known known) (namedReference mode) := by
  refine (stays_name _ _).bind fun name _ => ?_
  refine (stays_checkName _).bind fun _ _ => keeps_get fun s _ => ?_
  split
  · exact keeps_fail _ _
  · refine keeps_get fun s hs => ?_
    refine keeps_check (fun _ => keeps_fail _ _) fun hclosed => ?_
    refine (stays_checkLookBehind _).bind fun _ _ => keeps_reference _ ?_
    exact lookup_of_isClosed hs (by simpa using hclosed)

theorem stays_skipPast (c : Char) (fuel : Nat) : Stays ts known (skipPast c fuel) := by
  induction fuel with
  | zero => exact stays_pure _
  | succ fuel ih =>
    refine keeps_next.bind fun t _ => ?_
    split
    · exact stays_pure _
    · exact keeps_ite (fun _ => stays_pure _) fun _ => ih

theorem stays_close (start : Nat) : Stays ts known (close start) :=
  (stays_accept _).bind fun _ _ => keeps_ite (fun _ => keeps_failAt _ _) fun _ => stays_pure _

theorem stays_conditionGroup : Stays ts known conditionGroup := by
  refine (stays_name _ _).bind fun name _ => ?_
  refine keeps_ite (fun _ => ?_) fun _ => ?_
  · refine keeps_get fun s _ => ?_
    split
    · exact stays_pure _
    · exact Keeps.stop (keeps_fail _ _)
  · split
    · exact keeps_fail _ _
    · refine keeps_check (fun _ => keeps_fail _ _) fun _ => ?_
      refine keeps_check (fun _ => keeps_fail _ _) fun _ => ?_
      refine keeps_check (fun _ => keeps_fail _ _) fun _ => ?_
      refine stays_place.bind fun here _ => keeps_get fun s _ => ?_
      exact keeps_when (stays_modify fun s hs => { hs with }) (stays_pure _)

/-! ## Readers that open groups -/

section Leading

variable {α β : Type} {P : α → Prop} {Q : Table → α → Prop} {R : Table → β → Prop}

/-- Where it ends well, it ends within the text, with a table and a result as `Q` says; a fault has its cause
in the text. -/
def Ends (ts : List Token) (Q : Table → α → Prop) : EStateM.Result Fault Progress α → Prop
  | .ok a s => ∃ t, Within ts t s ∧ Q t a
  | .error fault _ => fault.Founded (Holds ts)

/-- From a table the reader leads to another one and a result. -/
def Leads (ts : List Token) (known : Table) (Q : Table → α → Prop) (m : Reader α) : Prop :=
  ∀ s, Within ts known s → Ends ts Q (m s)

theorem Ends.bind {m : Reader α} {f : α → Reader β} {s : Progress} (hm : Ends ts Q (m s))
    (hf : ∀ t a s', Within ts t s' → Q t a → Ends ts R (f a s')) : Ends ts R ((m >>= f) s) := by
  simp only [Bind.bind, EStateM.bind]
  cases hr : m s with
  | ok a s' =>
    rw [hr] at hm
    obtain ⟨t, hs', ha⟩ := hm
    exact hf t a s' hs' ha
  | error fault s' =>
    rw [hr] at hm
    exact hm

theorem Reads.ends {P : α → Progress → Prop} {m : Reader α} {f : α → Reader β} {s : Progress}
    (hm : Reads ts known P (m s))
    (hf : ∀ a s', Within ts known s' → P a s' → Ends ts R (f a s')) : Ends ts R ((m >>= f) s) := by
  simp only [Bind.bind, EStateM.bind]
  cases hr : m s with
  | ok a s' =>
    rw [hr] at hm
    exact hf a s' hm.1 hm.2
  | error fault s' =>
    rw [hr] at hm
    exact hm

theorem Leads.bind {m : Reader α} {f : α → Reader β} (hm : Leads ts known Q m)
    (hf : ∀ t a, Q t a → Leads ts t R (f a)) : Leads ts known R (m >>= f) :=
  fun s hs => (hm s hs).bind fun t a s' hs' ha => hf t a ha s' hs'

theorem Keeps.leads {m : Reader α} {f : α → Reader β} (hm : Keeps ts known P m)
    (hf : ∀ a, P a → Leads ts known R (f a)) : Leads ts known R (m >>= f) :=
  fun s hs => (hm s hs).ends fun a s' hs' ha => hf a ha s' hs'

theorem leads_stop {m : Reader α} {f : α → Reader β} (hm : Keeps ts known (fun _ => False) m) :
    Leads ts known R (m >>= f) :=
  hm.leads fun _ h => h.elim

theorem leads_pure {a : α} (h : Q known a) : Leads ts known Q (pure a) :=
  fun _ hs => ⟨known, hs, h⟩

theorem leads_failAt (place : Nat) (reason : Reason) : Leads ts known Q (failAt place reason) :=
  fun _ _ => trivial

theorem leads_fail (back : Nat) (reason : Reason) : Leads ts known Q (fail back reason) :=
  stays_place.leads fun _ _ => leads_failAt _ _

theorem leads_ite {c : Prop} [Decidable c] {m n : Reader α} (hm : c → Leads ts known Q m)
    (hn : ¬c → Leads ts known Q n) : Leads ts known Q (if c then m else n) := by
  split
  · exact hm ‹c›
  · exact hn ‹¬c›

theorem leads_when {c : Prop} [Decidable c] {step : Reader PUnit} {m : Reader β}
    (hstep : Stays ts known step) (hm : Leads ts known R m) :
    Leads ts known R (if c then step >>= fun _ => m else m) := by
  split
  · exact hstep.leads fun _ _ => hm
  · exact hm

theorem leads_get {f : Progress → Reader β} (hf : ∀ s, Within ts known s → Leads ts known R (f s)) :
    Leads ts known R (get >>= f) :=
  fun s hs => hf s hs s hs

end Leading

def BuiltOpened (ts : List Token) (known t : Table) : Opened → Prop
  | .part part => Built ts known t (joinPieces part.pieces)
  | .comment => t = known
  | .flags _ => t = known

/-- A group gets the next number. -/
theorem openGroup_leads (name : Option String) :
    Leads ts known (fun t number => t = known.opening ∧ number = known.next) (openGroup name) := by
  refine leads_get fun s hs => ?_
  have hnumber : s.nextGroup = known.next := hs.next
  have hopens : Leads ts known (fun t _ => t = known.opening)
      (modify fun s' => { s' with nextGroup := s.nextGroup + 1 }) :=
    fun s' hs' =>
      ⟨known.opening, ⟨hs'.rest, hs'.flags, congrArg Nat.succ hnumber, hs'.widths⟩, rfl⟩
  refine hopens.bind fun t _ ht => ?_
  subst ht
  split
  · exact leads_pure ⟨rfl, hnumber⟩
  · refine leads_get fun s' _ => ?_
    split
    · exact leads_fail _ _
    · exact Keeps.leads (stays_modify fun s hs => { hs with }) fun _ _ => leads_pure ⟨rfl, hnumber⟩

theorem closeGroup_leads {number : Nat} (h : number < known.next) (p : Pattern) :
    Leads ts known (fun t _ => t = known.closing number (p.width known.width) h)
      (closeGroup number p) := by
  intro s hs
  have hwidth : p.width (groupWidth s) = p.width known.width := by
    refine width_congr fun n _ => ?_
    rw [groupWidth, hs.widths]
    rfl
  refine ⟨known.closing number (p.width known.width) h, ⟨hs.rest, hs.flags, hs.next, ?_⟩, rfl⟩
  show (number, p.width (groupWidth s)) :: s.widths = (number, p.width known.width) :: known.widths
  rw [hwidth, hs.widths]

section Inside

variable {sub : Reader (List Piece)}

/-- What is read inside a parenthesis, wherever it starts. -/
def Fills (ts : List Token) (sub : Reader (List Piece)) : Prop :=
  ∀ known, Leads ts known (fun t ps => Built ts known t (joinPieces ps)) sub

theorem wrapped_leads (part : List Piece → Part) (start : Nat)
    (hpart : ∀ t ps, Built ts known t (joinPieces ps) → Built ts known t (joinPieces (part ps).pieces))
    (hsub : Fills ts sub) :
    Leads ts known (BuiltOpened ts known) (do
      let ps ← sub
      close start
      return .part (part ps)) := by
  refine (hsub known).bind fun t ps hps => (stays_close start).leads fun _ _ => ?_
  exact leads_pure (hpart t ps hps)

theorem lookAround_leads {behind : Bool} (negated : Bool) (start : Nat)
    (hbehind : behind = true → Holds ts ['(', '?', '<']) (hsub : Fills ts sub) :
    Leads ts known (BuiltOpened ts known) (lookAround behind negated start sub) := by
  refine leads_get fun s _ => ?_
  refine leads_when (stays_modify fun s hs => { hs with }) ?_
  refine (hsub known).bind fun t ps hps => ?_
  refine leads_when (stays_modify fun s hs => { hs with }) ?_
  refine (stays_close start).leads fun _ _ => ?_
  split
  · next hb =>
    refine leads_get fun s _ => leads_pure ?_
    exact ⟨hps.grows, hps.inOrder, hps.noted.sub (List.Subset.refl _) (List.Subset.refl _),
      fun _ => hbehind hb⟩
  · exact leads_pure (hps.sub (List.Subset.refl _) (List.Subset.refl _) id id)

theorem capture_leads (name : Option String) (start : Nat) (hsub : Fills ts sub) :
    Leads ts known (BuiltOpened ts known) (capture name start sub) := by
  refine (openGroup_leads name).bind fun t number hopened => ?_
  obtain ⟨rfl, rfl⟩ := hopened
  refine (hsub known.opening).bind fun t ps hps => (stays_close start).leads fun _ _ => ?_
  refine (closeGroup_leads hps.grows.next _).bind fun t' _ ht => ?_
  subst ht
  exact leads_pure (built_group hps hps.grows.next)

theorem condition_leads (start : Nat) (hsub : Fills ts sub) :
    Leads ts known (BuiltOpened ts known) (condition start sub) := by
  refine stays_conditionGroup.leads fun group _ => (stays_checkLookBehind _).leads fun _ _ => ?_
  refine (hsub known).bind fun t yes hyes => (stays_accept _).leads fun bar _ => ?_
  have hpart : ∀ t' no, Built ts t t' (joinPieces no) → Leads ts t' (BuiltOpened ts known) (do
      close start
      return .part (.plain (.ifGroup group (joinPieces yes) (joinPieces no)))) := by
    intro t' no hno
    refine (stays_close start).leads fun _ _ => leads_pure ?_
    exact hyes.join hno (List.Subset.refl _) (List.Subset.refl _) (fun hp hq => ⟨_, hp, hq⟩)
      (Bool.or_eq_true _ _).mp
  split
  · refine (hsub t).bind fun t' no hno => stays_peek.leads fun u _ => ?_
    split
    · split
      · exact leads_stop (keeps_fail _ _)
      · exact hpart t' no hno
    · exact hpart t' no hno
  · exact hpart t [] (built_simple t rfl (fun n hn => absurd hn List.not_mem_nil) rfl)

end Inside

/-- What a look-behind starts with. -/
theorem holds_lookBehind {paren mark less : Token} {r : List Token} (hparen : paren.isChar '(')
    (hmark : mark.isChar '?') (hrow : paren :: mark :: less :: r <:+ ts) (hless : less.isChar '<') :
    Holds ts ['(', '?', '<'] := by
  obtain ⟨earlier, htext⟩ := hrow
  simp only [Token.isChar, Bool.and_eq_true, Bool.not_eq_true', decide_eq_true_eq] at *
  exact ⟨[paren, mark, less], ⟨earlier, r, by simpa using htext⟩, by simp [*], by simp [*]⟩

/-- What a parenthesis opens, right after it was taken. -/
theorem opened_ends {s : Progress} (hs : Within ts known s) {paren : Token} (hparen : paren.isChar '(')
    (hbefore : paren :: s.rest <:+ ts) (mode : Mode) (atStart : Bool) (start : Nat)
    {sub sequence : Mode → Reader (List Piece)} (hsub : ∀ mode, Fills ts (sub mode))
    (hsequence : ∀ mode, Fills ts (sequence mode)) :
    Ends ts (BuiltOpened ts known) (opened mode atStart start sub sequence s) := by
  refine (accept_reads '?' hs).ends fun asked s' hs' hasked => ?_
  cases asked with
  | false => exact capture_leads none start (hsub mode) s' hs'
  | true =>
    obtain ⟨mark, hmark, hrest⟩ := hasked rfl
    refine (next_reads hs').ends fun t s'' hs'' ht => ?_
    have htaken : ∀ u, t = some u → u ∈ ts ∧ (u.isChar '<' → Holds ts ['(', '?', '<']) := by
      rintro u rfl
      obtain ⟨r, hu⟩ := List.head?_eq_some_iff.mp ht.1.symm
      rw [hrest, hu] at hbefore
      exact ⟨hbefore.subset (by simp), holds_lookBehind hparen hmark hbefore⟩
    -- From here on the reader may stand anywhere: the token has told what is needed of its place.
    clear ht
    revert s''
    show Leads ts known (BuiltOpened ts known) _
    cases t with
    | none => exact leads_fail _ _
    | some u =>
      obtain ⟨hmem, hlook⟩ := htaken u rfl
      refine leads_ite (fun _ => leads_fail _ _) fun hplain => ?_
      -- The extensions in the order of `opened`, the flags last.
      split
      · refine (stays_accept _).leads fun named _ => leads_ite (fun _ => ?_) fun _ => ?_
        · refine (stays_name _ _).leads fun name _ => (stays_checkName _).leads fun _ _ => ?_
          exact capture_leads _ _ (hsub mode)
        · refine (stays_accept _).leads fun again _ => leads_ite (fun _ => ?_) fun _ => ?_
          · exact (keeps_namedReference mode).leads fun p hp => leads_pure hp
          · refine keeps_next.leads fun v _ => ?_
            split <;> exact leads_fail _ _
      · exact wrapped_leads _ _ (fun _ _ hps => hps) (hsub mode)
      · refine wrapped_leads _ _ (fun t ps hps => ?_) (hsub mode)
        exact hps.sub (List.Subset.refl _) (List.Subset.refl _) id id
      · refine stays_left.leads fun n _ => (stays_skipPast _ _).leads fun closed _ => ?_
        exact leads_ite (fun _ => leads_pure rfl) fun _ => leads_failAt _ _
      · exact lookAround_leads _ _ (by simp) (hsub mode)
      · exact lookAround_leads _ _ (by simp) (hsub mode)
      · next hless =>
        have hbehind : Holds ts ['(', '?', '<'] := hlook (by simp_all [Token.isChar])
        refine keeps_next.leads fun v _ => ?_
        split
        · exact leads_fail _ _
        · refine leads_ite (fun _ => lookAround_leads _ _ (fun _ => hbehind) (hsub mode)) fun _ => ?_
          refine leads_ite (fun _ => lookAround_leads _ _ (fun _ => hbehind) (hsub mode)) fun _ => ?_
          exact leads_fail _ _
      · exact condition_leads _ (hsequence mode)
      · refine leads_ite (fun _ => leads_fail _ _) fun _ => ?_
        have hflag := holds_one hmem (Bool.not_eq_true _ ▸ hplain)
        refine (keeps_flags hflag).leads ?_
        rintro ⟨on, off⟩ hon
        cases off with
        | some off => exact wrapped_leads _ _ (fun t ps hps => built_underFlags hps) (hsub _)
        | none =>
          refine leads_ite (fun _ => leads_stop (keeps_failAt _ _)) fun _ => ?_
          refine Keeps.leads (stays_modify fun s hs => ?_) fun _ _ => leads_pure rfl
          exact { hs with flags := fun d hd => (List.mem_append.mp hd).elim (hs.flags d) (hon d) }

/-! ## Sequences and the whole pattern -/

/-- The pieces of parts of which the last one comes first. -/
def gathered (parts : List Part) : List Piece :=
  parts.reverse.flatMap Part.pieces

theorem gathered_cons (part : Part) (parts : List Part) :
    gathered (part :: parts) = gathered parts ++ part.pieces := by
  simp [gathered]

section Steps

variable {start : Table} {fuel : Nat}

theorem keeps_repeatLast (mode : Mode) (c : Char) (place : Nat) {parts : List Part}
    (hparts : Built ts start known (joinPieces (gathered parts))) :
    Keeps ts known (fun ps => Built ts start known (joinPieces (gathered ps)))
      (repeatLast mode c place parts) := by
  refine (stays_repetition c).bind fun counts _ => ?_
  split
  · refine keeps_pure ?_
    rw [gathered_cons]
    exact built_append hparts (built_char known _)
  · split
    · exact keeps_failAt _ _
    · next part earlier =>
      rw [gathered_cons] at hparts
      split
      · exact Keeps.stop (keeps_failAt _ _)
      · refine stays_greed.bind fun greed _ => keeps_pure ?_
        rw [gathered_cons]
        exact built_repeat hparts _ _ greed

/-- Alternatives are read with one unit of fuel less. -/
def ReadsAlternatives [CharacterNames] (ts : List Token) (fuel : Nat) : Prop :=
  ∀ known mode outermost first,
    Leads ts known (fun t pss => Built ts known t (anyOf pss)) (alternatives fuel mode outermost first)

def ReadsSequence [CharacterNames] (ts : List Token) (fuel : Nat) : Prop :=
  ∀ start known mode atStart parts, Built ts start known (joinPieces (gathered parts)) →
    Leads ts known (fun t ps => Built ts start t (joinPieces ps)) (sequence fuel mode atStart parts)

theorem built_nothing (t : Table) : Built ts t t (joinPieces []) :=
  built_simple t rfl (fun _ hn => absurd hn List.not_mem_nil) rfl

theorem alternatives_succ [CharacterNames] (halternatives : ReadsAlternatives ts fuel)
    (hsequence : ReadsSequence ts fuel) : ReadsAlternatives ts (fuel + 1) := by
  intro known mode outermost first
  refine (hsequence known known _ _ [] (built_nothing known)).bind fun t ps hps => ?_
  have hlast : Built ts t t .fail :=
    built_simple t rfl (fun _ hn => absurd hn List.not_mem_nil) rfl
  have hmore : ∀ t' pss, Built ts t t' (anyOf pss) → Built ts known t' (anyOf (ps :: pss)) :=
    fun t' pss hpss => hps.join hpss (List.Subset.refl _) (List.Subset.refl _)
      (fun hp hq => ⟨_, hp, hq⟩) (Bool.or_eq_true _ _).mp
  refine (stays_accept _).leads fun bar _ => leads_ite (fun _ => ?_) fun _ => ?_
  · refine leads_get fun s _ => (halternatives t _ _ _).bind fun t' pss hpss => ?_
    exact leads_pure (hmore t' pss hpss)
  · exact leads_pure (hmore t [] hlast)

theorem sequence_succ [CharacterNames] (halternatives : ReadsAlternatives ts fuel)
    (hsequence : ReadsSequence ts fuel) : ReadsSequence ts (fuel + 1) := by
  intro start known mode atStart parts hparts
  have hsub : ∀ mode, Fills ts (do
      return choose mode.folding (← alternatives fuel mode false true)) :=
    fun mode known => (halternatives known _ _ _).bind fun t pss hpss =>
      leads_pure (built_choose hpss)
  have hmore : ∀ t (part : Part), Built ts known t (joinPieces part.pieces) →
      Leads ts t (fun t ps => Built ts start t (joinPieces ps))
        (sequence fuel mode atStart (part :: parts)) := by
    intro t part hpart
    refine hsequence start t _ _ _ ?_
    rw [gathered_cons]
    exact built_append hparts hpart
  intro s hs
  refine (peek_reads hs).ends ?_
  rintro _ _ - ⟨rfl, rfl⟩
  generalize hview : Option.filter _ _ = view
  cases view with
  | none => exact leads_pure hparts _ hs
  | some t =>
    obtain ⟨hhead, -⟩ := Option.filter_eq_some_iff.mp hview
    obtain ⟨r, hrest⟩ := List.head?_eq_some_iff.mp hhead
    refine (next_reads hs).ends fun _ s' hs' hnext => ?_
    have hbefore : t :: s'.rest <:+ ts := by
      rw [hnext.2, hrest, List.tail_cons, ← hrest]
      exact hs.rest
    -- A parenthesis needs that it was taken just now; the other cases hold from anywhere.
    split
    · exact hsequence start known _ _ _ hparts s' hs'
    · split
      · refine Keeps.leads stays_left (fun n _ => ?_) s' hs'
        exact (stays_skipPast _ _).leads fun _ _ => hsequence start known _ _ _ hparts
      · split
        · have hrepeated := keeps_repeatLast mode t.char t.start hparts
          exact hrepeated.leads (fun ps hps => hsequence start known _ _ _ hps) s' hs'
        · split
          · next hparen =>
            have hbody := opened_ends hs' hparen hbefore mode (atStart && parts.isEmpty) t.start hsub
              fun mode known => hsequence known known mode false [] (built_nothing known)
            refine hbody.bind fun known' o s'' hs'' ho => ?_
            cases o with
            | part part => exact hmore known' part ho s'' hs''
            | comment =>
              obtain rfl : known' = known := ho
              exact hsequence start known' _ _ _ hparts s'' hs''
            | flags mode =>
              obtain rfl : known' = known := ho
              exact hsequence start known' _ _ _ hparts s'' hs''
          · refine Keeps.leads (keeps_single mode t) (fun p hp => ?_) s' hs'
            exact hmore known _ hp

end Steps

/-- Alternatives, or one of them, are built from the text. -/
theorem alternatives_sequence [CharacterNames] (ts : List Token) (fuel : Nat) :
    ReadsAlternatives ts fuel ∧ ReadsSequence ts fuel := by
  induction fuel with
  | zero => exact ⟨fun _ _ _ _ => leads_fail _ _, fun _ _ _ _ _ _ => leads_fail _ _⟩
  | succ fuel ih =>
    obtain ⟨halternatives, hsequence⟩ := ih
    exact ⟨alternatives_succ halternatives hsequence, sequence_succ halternatives hsequence⟩

theorem whole_leads [CharacterNames] (fuel : Nat) :
    Leads ts known (fun t p => Built ts known t p) (whole fuel) := by
  refine stays_checkView.leads fun _ _ => leads_get fun s _ => ?_
  refine ((alternatives_sequence ts fuel).1 known _ _ _).bind fun t pss hpss => leads_get fun s hs => ?_
  refine leads_ite (fun hflags => ?_) fun _ => ?_
  · simp only [Bool.and_eq_true, List.contains_iff_mem] at hflags
    refine leads_stop fun _ _ => ?_
    exact ⟨hs.flags _ hflags.1, hs.flags _ hflags.2⟩
  · refine stays_peek.leads fun u _ => leads_ite (fun _ => leads_stop (keeps_fail _ _)) fun _ => ?_
    split
    · exact leads_failAt _ _
    · exact leads_pure (built_choose hpss)

/-- Reading goes through the whole text. -/
theorem whole_ends [CharacterNames] (written : String) (mode : Mode) :
    let (ts, dangling) := tokens 0 written.toList
    Ends ts (fun t p => Built ts .start t p)
      (whole (2 * ts.length + 4) { rest := ts, dangling, size := written.length, mode }) :=
  whole_leads _ _ ⟨List.suffix_refl _, by simp, rfl, rfl⟩

end Reader

/-- A fault that does not lie in the pattern has its cause in the text. -/
theorem founded_of_read [CharacterNames] {written : String} {mode : Mode} {fault : Fault}
    (h : read written mode = .error fault) : fault.Founded (· <:+: written.toList) := by
  have hwhole := Reader.whole_ends written mode
  have hholds : ∀ cs, Holds (tokens 0 written.toList).1 cs → cs <:+: written.toList :=
    fun cs => infix_of_holds
  refine Fault.Founded.mono hholds ?_
  unfold read at h
  dsimp only at h hwhole
  split at h
  · next fault' s hr =>
    rw [hr] at hwhole
    cases h
    exact hwhole
  · next p s hr =>
    rw [hr] at hwhole
    obtain ⟨t, -, hp⟩ := hwhole
    split at h
    · cases h
      trivial
    · split at h
      · next hfar =>
        cases h
        exact hp.looksBehind (looksBehind_of_tooFar hfar)
      · cases h

/-- The groups of a pattern that has been read are numbered in order, and its least width takes each reference
for the group that it refers to. -/
theorem built_of_read [CharacterNames] {written : String} {mode : Mode} {c : Compiled}
    (h : read written mode = .ok c) :
    ∃ ts t, Built ts .start t c.pattern ∧ c.least = (c.pattern.width t.width).least := by
  have hwhole := Reader.whole_ends written mode
  unfold read at h
  dsimp only at h hwhole
  split at h
  · cases h
  · next p s hr =>
    rw [hr] at hwhole
    obtain ⟨t, hs, hp⟩ := hwhole
    split at h
    · cases h
    · split at h
      · cases h
      · cases h
        refine ⟨_, t, hp, congrArg Width.least (width_congr fun n _ => ?_)⟩
        rw [Reader.groupWidth, hs.widths]
        rfl

end Snippet.Pattern
