import Snippet.Proofs.Pattern.Marks

/-!
How far a match reaches. What follows a part of a pattern starts behind that part, so a match ends where it
starts or later, and takes up its least width. The exception are repetitions that give nothing back: a failed
attempt at one more leaves the cursor where a look-behind in it has moved it, and outside of other loops it
leaves a group with a new start and its old end.
-/

namespace Snippet.Pattern

/-- No repetition that gives nothing back looks behind. -/
def isForward : Pattern → Bool
  | seq p q => isForward p && isForward q
  | alt p rest => isForward p && isForward rest
  | group _ p => isForward p
  | ifGroup _ yes no => isForward yes && isForward no
  | atomic p => isForward p
  | loop _ _ greed p => isForward p && (greed != .possessive || !p.looksBehind)
  | _ => true

/-- From some place of the text on what follows succeeds with a memory as `I` says, and not from one before
`bound` if it goes `forward`. -/
def Reached (text : Array Char) (forward : Prop) (I : Memory → Prop) (bound : Nat) (follow : Follow)
    (m' : Memory) : Prop :=
  ∃ place m, place ≤ text.size ∧ (forward → bound ≤ place) ∧ I m ∧ follow place m = (true, m')

/-- What follows a success of the step has succeeded at a place that is `gain` further on. The groups hold
their widths from there on if they did before. -/
def Lands (text : Array Char) (widths : Nat → Width) (opened : Nat → Option Nat) (inLoop : Bool)
    (forward : Prop) (gain before after : Nat) (step : Step) : Prop :=
  ∀ place m follow m', place ≤ text.size → Held widths opened before m →
    (inLoop = false → Quiet text widths opened after follow) → step place m follow = (true, m') →
      Reached text forward (Held widths opened after) (place + gain) follow m'

section Lands

variable {text : Array Char} {widths : Nat → Width} {opened : Nat → Option Nat} {forward : Prop}
  {I : Memory → Prop} {inLoop : Bool} {bound limit gain place least count : Nat} {m m' : Memory}
  {follow : Follow} {step : Step} {around : Around} {most : Option Nat}

theorem Reached.mono {forward' : Prop} {J : Memory → Prop} {bound' : Nat}
    (h : Reached text forward I bound follow m') (hforward : forward' → forward)
    (hI : ∀ m, I m → J m) (hbound : bound' ≤ bound) : Reached text forward' J bound' follow m' := by
  obtain ⟨place, m, hsize, hplace, hm, hrun⟩ := h
  exact ⟨place, m, hsize, fun hf => Nat.le_trans hbound (hplace (hforward hf)), hI m hm, hrun⟩

theorem Reached.back {bound' : Nat} (h : Reached text forward I bound follow m')
    (hbound : bound' ≤ bound) : Reached text forward I bound' follow m' :=
  h.mono id (fun _ => id) hbound

theorem reached_of_follow (hplace : place ≤ text.size) (hbound : bound ≤ place) (hm : I m)
    (h : follow place m = (true, m')) : Reached text forward I bound follow m' :=
  ⟨place, m, hplace, fun _ => hbound, hm, h⟩

/-- A part that is passed brings what follows it further on. -/
theorem Reached.bind {J : Memory → Prop} {rest : Follow} {bound' : Nat}
    (h : Reached text forward I bound rest m')
    (hrest : ∀ place m, place ≤ text.size → I m → rest place m = (true, m') →
      Reached text forward J (place + gain) follow m') (hbound : bound' ≤ bound + gain) :
    Reached text forward J bound' follow m' := by
  obtain ⟨place, m, hsize, hplace, hm, hrun⟩ := h
  obtain ⟨place', m₁, hsize', hplace', hm₁, hrun'⟩ := hrest place m hsize hm hrun
  refine ⟨place', m₁, hsize', fun hf => ?_, hm₁, hrun'⟩
  have hfirst := hplace hf
  have hsecond := hplace' hf
  omega

theorem accept_eq_true (h : accept place m = (true, m')) : m' = m.moveTo place := by
  cases h
  rfl

/-! ## Rows of single characters -/

theorem afterRow_eq_true (h : afterRow text around follow place m = (true, m')) :
    follow place (m.moveTo place) = (true, m') := by
  unfold afterRow at h
  split at h
  · split at h
    · exact h
    · cases h
  · exact h

theorem held_of_afterRow (hm : Held widths opened bound m)
    (hquiet : around.inLoop = false → Quiet text widths opened bound follow) (hplace : place ≤ text.size)
    (h : afterRow text around follow place m = (false, m')) :
    Held widths opened bound (m.rewind around.inLoop m') := by
  unfold afterRow at h
  split at h
  · split at h
    · exact hm.recover hquiet hplace h
    · cases h
      exact hm.congr (by simp [Memory.rewind])
  · exact hm.recover hquiet hplace h

theorem giveBack_reached {extra : Nat} (hm : Held widths opened bound m)
    (hquiet : around.inLoop = false → Quiet text widths opened bound follow)
    (hsize : least + extra ≤ text.size)
    (h : giveBack text around follow least extra m = (true, m')) :
    Reached text forward (Held widths opened bound) least follow m' := by
  induction extra generalizing m with
  | zero =>
    rw [giveBack_zero] at h
    rcases retry_eq_true h with hrow | ⟨m₁, -, hfailed⟩
    · exact reached_of_follow hsize (Nat.le_refl _) (hm.moveTo _) (afterRow_eq_true hrow)
    · cases hfailed
  | succ extra ih =>
    rw [giveBack_succ] at h
    rcases retry_eq_true h with hrow | ⟨m₁, hfail, hless⟩
    · exact reached_of_follow hsize (Nat.le_add_right _ _) (hm.moveTo _) (afterRow_eq_true hrow)
    · exact ih (held_of_afterRow hm hquiet hsize hfail) (Nat.le_of_succ_le hsize) hless

theorem takeMore_reached {test : CharTest} {extra : Option Nat} {fuel : Nat}
    (hm : Held widths opened bound m)
    (hquiet : around.inLoop = false → Quiet text widths opened bound follow) (hsize : place ≤ text.size)
    (h : takeMore text test around follow extra fuel place m = (true, m')) :
    Reached text forward (Held widths opened bound) place follow m' := by
  induction fuel generalizing extra place m with
  | zero => cases h
  | succ fuel ih =>
    rw [takeMore_succ] at h
    rcases retry_eq_true h with hnow | ⟨m₁, hfail, hmore⟩
    · exact reached_of_follow hsize (Nat.le_refl _) (hm.moveTo place) hnow
    · have htaken : Held widths opened bound (taking test around place m m₁) := by
        refine (hm.recover hquiet hsize hfail).congr ?_
        unfold taking
        split <;> rfl
      split at hmore
      · next hp =>
        have hlater : ∀ {extra}, takeMore text test around follow extra fuel (place + 1)
            (taking test around place m m₁) = (true, m') →
              Reached text forward (Held widths opened bound) place follow m' :=
          fun h => (ih htaken (passesAt_lt hp) h).back (Nat.le_succ _)
        split at hmore
        · exact hlater hmore
        · cases hmore
        · exact hlater hmore
      · cases hmore

theorem lands_runRow (test : CharTest) (greed : Greed) :
    Lands text widths opened around.inLoop forward least bound bound
      (runRow text test around least most greed) := by
  intro place m follow m' hplace hm hquiet h
  obtain ⟨limit, hrow⟩ := runRow_eq text test around follow least m most greed place
  have hlength := rowLength_le test limit hplace
  rw [hrow] at h
  split at h
  · cases h
  · unfold rowOf at h
    dsimp only at h
    split at h
    · cases h
    · cases greed with
      | greedy => exact giveBack_reached (hm.moveTo _) hquiet (by omega) h
      | lazy => exact takeMore_reached (hm.moveTo _) hquiet (by omega) h
      | possessive => exact reached_of_follow hlength (by omega) (hm.moveTo _) h

/-! ## Repetition -/

/-- One repetition, and those that are still asked for. -/
theorem gain_turn (h : count < least) :
    place + (least - count) * gain ≤ place + gain + (least - (count + 1)) * gain := by
  have hleft : least - count = least - (count + 1) + 1 := by omega
  rw [hleft, Nat.succ_mul]
  omega

theorem gain_done (h : ¬count < least) (place gain : Nat) : place + (least - count) * gain = place := by
  rw [Nat.sub_eq_zero_of_le (Nat.le_of_not_lt h), Nat.zero_mul, Nat.add_zero]

/-- One repetition that can be given back, and those that come after it. -/
theorem Lands.turn (hstep : Lands text widths opened true forward gain bound bound step) {next : Follow}
    {rest : Nat} (hplace : place ≤ text.size) (hm : Held widths opened bound m)
    (hnext : ∀ place m, place ≤ text.size → Held widths opened bound m → next place m = (true, m') →
      Reached text forward (Held widths opened bound) (place + rest) follow m')
    (h : step place m next = (true, m')) :
    Reached text forward (Held widths opened bound) (place + gain + rest) follow m' :=
  (hstep place m next m' hplace hm (fun hf => by cases hf) h).bind hnext (Nat.le_refl _)

theorem greedyLoop_reached (hstep : Lands text widths opened true forward gain bound bound step)
    {fuel : Nat} {started : Option Nat} (hplace : place ≤ text.size)
    (hm : Held widths opened bound m)
    (h : greedyLoop step least most follow fuel count started place m = (true, m')) :
    Reached text forward (Held widths opened bound) (place + (least - count) * gain) follow m' := by
  -- With each repetition the fuel goes down, and so does the number of those that are still asked for.
  induction fuel generalizing count started place m with
  | zero => cases h
  | succ fuel ih =>
    have again : ∀ started place m, place ≤ text.size → Held widths opened bound m →
        greedyLoop step least most follow fuel (count + 1) started place m = (true, m') →
          Reached text forward (Held widths opened bound) (place + (least - (count + 1)) * gain)
            follow m' :=
      fun _ _ _ hsize hm h => ih hsize hm h
    have hhere : Held widths opened bound (m.moveTo place) := hm.moveTo place
    rw [greedyLoop_succ] at h
    dsimp only at h
    split at h
    · next hcount =>
      rcases retry_eq_true h with hturn | ⟨m₁, -, hfailed⟩
      · exact (hstep.turn hplace hhere (again _) hturn).back (gain_turn hcount)
      · cases hfailed
    · next hcount =>
      rw [gain_done hcount]
      rcases retry_eq_true h with hturn | ⟨m₁, hfail, hend⟩
      · split at hturn
        · rcases retry_eq_true hturn with hturn | ⟨m₁, -, hfailed⟩
          · exact (hstep.turn hplace hhere (again _) hturn).back (by omega)
          · cases hfailed
        · cases hturn
      · -- A failed repetition leaves the marks as they were.
        have hm₁ : Held widths opened bound m₁ := by
          split at hfail
          · generalize step place _ _ = r at hfail
            obtain ⟨_ | _, m₂⟩ := r
            · cases hfail
              exact (hhere.undo m₂).moveTo place
            · cases hfail
          · cases hfail
            exact hhere
        rcases retry_eq_true hend with hend | ⟨m₂, -, hfailed⟩
        · exact reached_of_follow hplace (Nat.le_refl _) hm₁ hend
        · cases hfailed

theorem lazyLoop_reached (hstep : Lands text widths opened true forward gain bound bound step)
    (hquiet : inLoop = false → Quiet text widths opened bound follow) {fuel : Nat}
    {started : Option Nat} (hplace : place ≤ text.size) (hm : Held widths opened bound m)
    (h : lazyLoop step inLoop least most follow fuel count started place m = (true, m')) :
    Reached text forward (Held widths opened bound) (place + (least - count) * gain) follow m' := by
  induction fuel generalizing count started place m with
  | zero => cases h
  | succ fuel ih =>
    have again : ∀ started place m, place ≤ text.size → Held widths opened bound m →
        lazyLoop step inLoop least most follow fuel (count + 1) started place m = (true, m') →
          Reached text forward (Held widths opened bound) (place + (least - (count + 1)) * gain)
            follow m' :=
      fun _ _ _ hsize hm h => ih hsize hm h
    have hhere : Held widths opened bound (m.moveTo place) := hm.moveTo place
    rw [lazyLoop_succ] at h
    dsimp only at h
    split at h
    · next hcount =>
      rcases retry_eq_true h with hturn | ⟨m₁, -, hfailed⟩
      · exact (hstep.turn hplace hhere (again _) hturn).back (gain_turn hcount)
      · cases hfailed
    · next hcount =>
      rw [gain_done hcount]
      rcases retry_eq_true h with hend | ⟨m₁, hfail, hmore⟩
      · exact reached_of_follow hplace (Nat.le_refl _) hhere hend
      · have hback : Held widths opened bound (((m.moveTo place).rewind inLoop m₁).moveTo place) :=
          (hhere.recover hquiet hplace hfail).moveTo place
        split at hmore
        · rcases retry_eq_true hmore with hturn | ⟨m₂, -, hfailed⟩
          · exact (hstep.turn hplace hback (again _) hturn).back (by omega)
          · cases hfailed
        · cases hmore

/-- A repetition that gives nothing back goes on from the cursor, also from where a failed attempt has left
it. -/
theorem possessiveLoop_reached (hstep : Lands text widths opened inLoop forward gain bound bound step)
    (hconfining : ∀ low, (forward ∨ low = 0) →
      Confining text low (fun m => Within text low m.cursor) step)
    {start fuel : Nat} {started : Option Nat} (hcursor : m.cursor ≤ text.size)
    (hm : Held widths opened bound m)
    (h : possessiveLoop step least most follow start fuel count started m = (true, m')) :
    Reached text forward (Held widths opened bound) (m.cursor + (least - count) * gain) follow m' := by
  induction fuel generalizing count started m with
  | zero => cases h
  | succ fuel ih =>
    have again : ∀ {started m₁}, step m.cursor m accept = (true, m₁) →
        possessiveLoop step least most follow start fuel (count + 1) started m₁ = (true, m') →
          Reached text forward (Held widths opened bound)
            (m.cursor + gain + (least - (count + 1)) * gain) follow m' := by
      intro started m₁ hturn hrest
      obtain ⟨place, m₂, hsize, hplace, hm₂, haccept⟩ :=
        hstep m.cursor m accept m₁ hcursor hm (fun _ => quiet_accept) hturn
      obtain rfl := accept_eq_true haccept
      obtain ⟨place', m₃, hsize', hplace', hm₃, hend⟩ := ih hsize (hm₂.moveTo place) hrest
      refine ⟨place', m₃, hsize', fun hf => ?_, hm₃, hend⟩
      have hfirst := hplace hf
      have hsecond := hplace' hf
      rw [Memory.cursor_moveTo] at hsecond
      omega
    rw [possessiveLoop_succ] at h
    split at h
    · next hcount =>
      rcases branch_eq_true h with ⟨m₁, hturn, hrest⟩ | ⟨m₁, -, hfailed⟩
      · exact (again hturn hrest).back (gain_turn hcount)
      · cases hfailed
    · next hcount =>
      rw [gain_done hcount]
      split at h
      · rcases branch_eq_true h with ⟨m₁, hturn, hrest⟩ | ⟨m₁, hturn, hend⟩
        · exact (again hturn hrest).back (by omega)
        · have hleft := fun low (hlow : low ≤ m.cursor) hc =>
            hconfining low hc accept (confined_accept (lasting_within text low)) m.cursor m
              ⟨hlow, hcursor⟩ ⟨hlow, hcursor⟩
          simp only [hturn] at hleft
          exact ⟨m₁.cursor, _, (hleft 0 (Nat.zero_le _) (.inr rfl)).2,
            fun hf => (hleft m.cursor (Nat.le_refl _) (.inl hf)).1, hm.undo m₁, hend⟩
      · exact reached_of_follow hcursor (Nat.le_refl _) hm h

theorem lands_runLoop {greed : Greed}
    (hstep : Lands text widths opened (inLoop || greed ≠ .possessive) forward gain bound bound step)
    (hconfining : greed = .possessive → ∀ low, (forward ∨ low = 0) →
      Confining text low (fun m => Within text low m.cursor) step) :
    Lands text widths opened inLoop forward (least * gain) bound bound
      (runLoop text step inLoop least most greed) := by
  intro place m follow m' hplace hm hquiet h
  cases greed with
  | greedy =>
    rw [show (inLoop || Greed.greedy ≠ .possessive) = true from Bool.or_true _] at hstep
    exact greedyLoop_reached hstep hplace hm h
  | lazy =>
    rw [show (inLoop || Greed.lazy ≠ .possessive) = true from Bool.or_true _] at hstep
    exact lazyLoop_reached hstep hquiet hplace hm h
  | possessive =>
    exact possessiveLoop_reached hstep (hconfining rfl) (m := m.moveTo place) hplace (hm.moveTo place) h

theorem Lands.mono {forward' : Prop} {gain' : Nat}
    (h : Lands text widths opened inLoop forward gain bound limit step)
    (hforward : forward' → forward) (hgain : gain' ≤ gain) :
    Lands text widths opened inLoop forward' gain' bound limit step :=
  fun place m follow m' hplace hm hquiet hrun =>
    (h place m follow m' hplace hm hquiet hrun).mono hforward (fun _ => id)
      (Nat.add_le_add_left hgain place)

theorem settle_eq_true {negated : Bool} {r : Outcome}
    (h : settle around place m follow negated r = (true, m')) :
    (∃ m₁, r = (true, m₁) ∧ follow place m₁ = (true, m')) ∨
      ∃ m₁, r = (false, m₁) ∧ follow place (m.rewind around.inLoop m₁) = (true, m') := by
  rcases branch_eq_true h with ⟨m₁, hr, h⟩ | ⟨m₁, hr, h⟩
  · split at h
    · cases h
    · exact .inl ⟨m₁, hr, h⟩
  · split at h
    · exact .inr ⟨m₁, hr, h⟩
    · cases h

end Lands

/-! ## Patterns -/

/-- The widths that count for groups are right for a pattern. No group counts for more than what stands in it.
What stands in a group that counts goes forward and does not refer to the group, and outside of loops that can
give back such a group is in no repetition that gives nothing back. -/
structure Sized (widths : Nat → Width) (inLoop : Bool) (p : Pattern) : Prop where
  wide : ∀ c ∈ p.captures, (widths c.1).least ≤ (c.2.width widths).least
  forward : ∀ c ∈ p.captures, 0 < (widths c.1).least → c.2.isForward = true
  apart : ∀ c ∈ p.captures, 0 < (widths c.1).least → c.1 ∉ c.2.references
  guarded : inLoop = false → ∀ n ∈ p.unguarded, (widths n).least = 0

theorem Sized.sub {widths : Nat → Width} {inLoop : Bool} {p q : Pattern} (h : Sized widths inLoop p)
    (hcaptures : q.captures ⊆ p.captures) (hunguarded : q.unguarded ⊆ p.unguarded) :
    Sized widths inLoop q where
  wide := fun c hc => h.wide c (hcaptures hc)
  forward := fun c hc => h.forward c (hcaptures hc)
  apart := fun c hc => h.apart c (hcaptures hc)
  guarded := fun hin n hn => h.guarded hin n (hunguarded hn)

/-- The pattern may be run where groups below `low` are `opened` and those up to `bound` may have been marked:
its own groups come later, unless it stands in a loop, and it refers to none that is open. -/
structure Placed (widths : Nat → Width) (opened : Nat → Option Nat) (inLoop : Bool)
    (bound low high : Nat) (p : Pattern) : Prop where
  sized : Sized widths inLoop p
  inOrder : p.InOrder low high
  earlier : ∀ n, opened n ≠ none → n < low
  closed : ∀ n ∈ p.references, 0 < (widths n).least → opened n = none
  fresh : inLoop = false → bound ≤ low ∨ ∀ n ∈ p.groups, (widths n).least = 0

/-- Wherever the pattern stands, what follows it starts at its least width further on if it goes forward. -/
def RunLands (text : Array Char) (widths : Nat → Width) (p : Pattern) : Prop :=
  ∀ around opened bound low high, Placed widths opened around.inLoop bound low high p →
    Lands text widths opened around.inLoop (p.isForward = true) (p.width widths).least bound
      (max bound high) (run text p around)

section Parts

variable {text : Array Char} {widths : Nat → Width} {opened : Nat → Option Nat} {inLoop : Bool}
  {bound low high place : Nat} {m m' : Memory} {follow : Follow} {p q r : Pattern}

theorem Placed.part (h : Placed widths opened inLoop bound low high p) {low' high' : Nat}
    (hcaptures : q.captures ⊆ p.captures) (hunguarded : q.unguarded ⊆ p.unguarded)
    (hreferences : q.references ⊆ p.references) (hq : q.InOrder low' high') (hlow : low ≤ low') :
    Placed widths opened inLoop bound low' high' q where
  sized := h.sized.sub hcaptures hunguarded
  inOrder := hq
  earlier := fun n hn => Nat.lt_of_lt_of_le (h.earlier n hn) hlow
  closed := fun n hn => h.closed n (hreferences hn)
  fresh := fun hin => (h.fresh hin).imp (fun hbound => Nat.le_trans hbound hlow) fun hzero n hn =>
    hzero n (List.map_subset Prod.fst hcaptures hn)

theorem Placed.inner (h : Placed widths opened inLoop bound low high r)
    (hcaptures : r.captures = p.captures) (hunguarded : r.unguarded = p.unguarded)
    (hreferences : r.references = p.references) (hinOrder : p.InOrder low high) :
    Placed widths opened inLoop bound low high p := by
  refine h.part ?_ ?_ ?_ hinOrder (Nat.le_refl _)
  all_goals simp [*]

/-- The two parts of a pattern come one after the other. -/
theorem Placed.halves (h : Placed widths opened inLoop bound low high r)
    (hcaptures : r.captures = p.captures ++ q.captures)
    (hunguarded : r.unguarded = p.unguarded ++ q.unguarded)
    (hreferences : r.references = p.references ++ q.references)
    (hinOrder : ∃ middle, p.InOrder low middle ∧ q.InOrder middle high) :
    ∃ middle, middle ≤ high ∧ Placed widths opened inLoop bound low middle p ∧
      Placed widths opened inLoop bound middle high q := by
  obtain ⟨middle, hp, hq⟩ := hinOrder
  refine ⟨middle, hq.bounds.1, h.part ?_ ?_ ?_ hp (Nat.le_refl _), h.part ?_ ?_ ?_ hq hp.bounds.1⟩
  all_goals simp [*]

/-- More groups may have been marked if they come before the pattern. -/
theorem Placed.after (h : Placed widths opened inLoop bound low high p) :
    Placed widths opened inLoop (max bound low) low high p :=
  { h with fresh := fun hin => (h.fresh hin).imp (fun hbound => Nat.max_le.mpr ⟨hbound, Nat.le_refl _⟩) id }

theorem Placed.quiet (h : Placed widths opened inLoop bound low high p)
    (hquiet : inLoop = false → Quiet text widths opened (max bound high) follow) (around : Around) :
    inLoop = false → Quiet text widths opened bound fun place m => run text p around place m follow :=
  fun hin => (hquiet hin).run h.inOrder (h.fresh hin) h.earlier around

theorem Placed.widen (h : Placed widths opened inLoop bound low high p) {high' : Nat}
    (hhigh : high ≤ high') : Placed widths opened inLoop bound low high' p :=
  { h with inOrder := h.inOrder.mono (Nat.le_refl _) hhigh }

/-- Inside a group, its number is open. -/
theorem Placed.inside {n : Nat} (h : Placed widths opened inLoop bound low high (group n p))
    (place : Nat) :
    opened n = none ∧ n < high ∧
      Placed widths (Function.update opened n (some place)) inLoop (max bound (n + 1)) (n + 1) high p := by
  obtain ⟨hlow, hbody⟩ := h.inOrder
  have hnone : opened n = none := by
    by_contra hopen
    have hlt := h.earlier n hopen
    omega
  refine ⟨hnone, hbody.bounds.1, ?_, hbody, fun k hk => ?_, fun k hk hpos => ?_, fun hin => ?_⟩
  · exact h.sized.sub (List.subset_cons_self _ _) (List.Subset.refl _)
  · by_cases hkn : k = n
    · omega
    · rw [Function.update_of_ne hkn] at hk
      have hlt := h.earlier k hk
      omega
  · have hkn : k ≠ n := by
      rintro rfl
      exact h.sized.apart (k, p) List.mem_cons_self hpos hk
    rw [Function.update_of_ne hkn]
    exact h.closed k hk hpos
  · refine (h.fresh hin).imp (fun hbound => by omega) fun hzero k hk => ?_
    exact hzero k (mem_groups_group.mpr (.inr hk))

/-- In a loop, groups of the body may have been marked by an earlier repetition. -/
theorem Placed.body {least : Nat} {most : Option Nat} {greed : Greed}
    (h : Placed widths opened inLoop bound low high (loop least most greed p)) :
    Placed widths opened (inLoop || greed ≠ .possessive) (max bound high) low high p := by
  have hguarded : (inLoop || greed ≠ .possessive) = false → ∀ n ∈ p.groups, (widths n).least = 0 := by
    intro hin n hn
    simp only [ne_eq, decide_not, Bool.or_eq_false_iff, Bool.not_eq_eq_eq_not, Bool.not_false,
      decide_eq_true_eq] at hin
    -- Only a repetition that gives nothing back, outside of loops, does not undo what it has marked.
    obtain ⟨hout, rfl⟩ := hin
    exact h.sized.guarded hout n hn
  exact {
    sized := { h.sized with guarded := fun hin n hn => hguarded hin n (groups_of_unguarded hn) }
    inOrder := h.inOrder
    earlier := h.earlier
    closed := h.closed
    fresh := fun hin => .inr (hguarded hin) }

theorem runLands_seq (hp : RunLands text widths p) (hq : RunLands text widths q) :
    RunLands text widths (seq p q) := by
  intro around opened bound low high hplaced place m follow m' hplace hm hquiet h
  obtain ⟨middle, hmiddle, hfirst, hsecond⟩ := hplaced.halves rfl rfl rfl hplaced.inOrder
  have hhigh : max (max bound middle) high = max bound high := by omega
  have hparts : (seq p q).isForward = true → p.isForward = true ∧ q.isForward = true := by
    simp [isForward]
  have hwidth : ((seq p q).width widths).least ≤ (p.width widths).least + (q.width widths).least :=
    Nat.min_le_left _ _
  -- The first part is followed by the second one, which is as quiet as what follows both.
  have hrest := hsecond.after.quiet (hhigh.symm ▸ hquiet) around
  have hreached := hp { around with next := q.opening around.next } opened bound low middle hfirst
    place m _ m' hplace hm hrest h
  have hlands := (hq around opened (max bound middle) middle high hsecond.after).mono
    (fun hf => (hparts hf).2) (Nat.le_refl (q.width widths).least)
  rw [hhigh] at hlands
  exact (hreached.mono (fun hf => (hparts hf).1) (fun _ => id) (Nat.le_refl _)).bind
    (fun place m hplace hm h => hlands place m follow m' hplace hm hquiet h) (by omega)

theorem runLands_alt (hp : RunLands text widths p) (hq : RunLands text widths q) :
    RunLands text widths (alt p q) := by
  intro around opened bound low high hplaced place m follow m' hplace hm hquiet h
  obtain ⟨middle, hmiddle, hfirst, hsecond⟩ := hplaced.halves rfl rfl rfl hplaced.inOrder
  have hparts : (alt p q).isForward = true → p.isForward = true ∧ q.isForward = true := by
    simp [isForward]
  have hothers := (hq around opened bound middle high hsecond).mono (fun hf => (hparts hf).2)
    (show ((alt p q).width widths).least ≤ (q.width widths).least from Nat.min_le_right _ _)
  have hwide := hfirst.widen hmiddle
  rw [run_alt] at h
  split at h
  · exact hothers place m follow m' hplace hm hquiet h
  · rcases retry_eq_true h with hrun | ⟨m₁, hfail, hrun⟩
    · have hlands := (hp { around with next := none } opened bound low high hwide).mono
        (fun hf => (hparts hf).1)
        (show ((alt p q).width widths).least ≤ (p.width widths).least from Nat.min_le_left _ _)
      exact hlands place _ follow m' hplace (hm.moveTo place) hquiet hrun
    · -- The first alternative has failed, and may have marked its own groups.
      have hback := hm.recover (hwide.quiet hquiet { around with next := none }) hplace hfail
      exact hothers place _ follow m' hplace hback hquiet hrun

theorem runLands_group (n : Nat) (hp : RunLands text widths p) : RunLands text widths (group n p) := by
  intro around opened bound low high hplaced place m follow m' hplace hm hquiet h
  obtain ⟨hopen, hn, hinside⟩ := hplaced.inside place
  have hhigh : max (max bound (n + 1)) high = max bound high := by omega
  have hlimit : n < max bound high := by omega
  have hlands := hp { around with next := none } _ _ _ _ hinside
  rw [hhigh] at hlands
  obtain ⟨place', m₁, hsize, hbound, hm₁, hend⟩ := hlands place _ _ m' hplace (hm.begin hopen)
    (fun hin => (hquiet hin).close hlimit hopen place) h
  refine ⟨place', _, hsize, hbound, hm₁.finish hlimit hopen fun hpos => ?_, hend⟩
  -- A group that counts goes forward, so its end is far enough behind its start.
  have hforward := hbound (hplaced.sized.forward (n, p) List.mem_cons_self hpos)
  have hwide := hplaced.sized.wide (n, p) List.mem_cons_self
  exact Nat.le_trans (Nat.add_le_add_left hwide place) hforward

theorem runLands_backref (n : Nat) (folding : Folding) : RunLands text widths (backref n folding) := by
  intro around opened bound low high hplaced place m follow m' hplace hm hquiet h
  simp only [run] at h
  split at h
  · next start stop hspan =>
    split at h
    · next hrepeats =>
      have hwide : (widths n).least ≤ stop - start := by
        rcases Nat.eq_zero_or_pos (widths n).least with hzero | hpos
        · omega
        · have hopen := hplaced.closed n (List.mem_singleton_self n) hpos
          have hspanned := hm.wide n start stop hopen hspan
          omega
      exact reached_of_follow (repeatsAt_le hplace hrepeats) (Nat.add_le_add_left hwide place)
        (hm.mono (Nat.le_max_left _ _)) h
    · cases h
  · cases h

theorem runLands_ifGroup (n : Nat) (hyes : RunLands text widths p) (hno : RunLands text widths q) :
    RunLands text widths (ifGroup n p q) := by
  intro around opened bound low high hplaced place m follow m' hplace hm hquiet h
  obtain ⟨middle, hmiddle, hfirst, hsecond⟩ := hplaced.halves rfl rfl rfl hplaced.inOrder
  have hparts : (ifGroup n p q).isForward = true → p.isForward = true ∧ q.isForward = true := by
    simp [isForward]
  simp only [run] at h
  split at h
  · have hlands := hyes { around with next := if q = .empty then around.next else none } opened bound
      low high (hfirst.widen hmiddle)
    exact hlands.mono (fun hf => (hparts hf).1) (Nat.min_le_left _ _) place m follow m' hplace hm
      hquiet h
  · exact (hno around opened bound middle high hsecond).mono (fun hf => (hparts hf).2)
      (Nat.min_le_right _ _) place m follow m' hplace hm hquiet h

/-- Looking around moves nothing, whatever it finds. -/
theorem settle_held (hp : RunLands text widths p) {around : Around} {negated : Bool} {back : Nat}
    (hplaced : Placed widths opened around.inLoop bound low high p) (hback : back ≤ text.size)
    (hm : Held widths opened bound m)
    (h : settle around place m follow negated
      (run text p { around with next := none } back (m.moveTo back) accept) = (true, m')) :
    ∃ m₁, Held widths opened (max bound high) m₁ ∧ follow place m₁ = (true, m') := by
  rcases settle_eq_true h with ⟨m₁, hrun, hend⟩ | ⟨m₁, hfail, hend⟩
  · obtain ⟨place', m₂, -, -, hm₂, haccept⟩ := hp { around with next := none } opened bound low high
      hplaced back _ accept m₁ hback (hm.moveTo back) (fun _ => quiet_accept) hrun
    obtain rfl := accept_eq_true haccept
    exact ⟨_, hm₂.moveTo place', hend⟩
  · have hquiet : around.inLoop = false → Quiet text widths opened bound fun place m =>
        run text p { around with next := none } place m accept :=
      hplaced.quiet (fun _ => quiet_accept) _
    exact ⟨_, (hm.recover hquiet hback hfail).mono (Nat.le_max_left _ _), hend⟩

theorem runLands_ahead (negated : Bool) (hp : RunLands text widths p) :
    RunLands text widths (ahead negated p) := by
  intro around opened bound low high hplaced place m follow m' hplace hm hquiet h
  have hpart : Placed widths opened around.inLoop bound low high p :=
    hplaced.inner rfl rfl rfl hplaced.inOrder
  rw [run_ahead] at h
  obtain ⟨m₁, hm₁, hend⟩ := settle_held hp hpart hplace hm h
  exact reached_of_follow hplace (Nat.le_refl _) hm₁ hend

theorem runLands_behind (negated : Bool) (width : Width) (hp : RunLands text widths p) :
    RunLands text widths (behind negated width p) := by
  intro around opened bound low high hplaced place m follow m' hplace hm hquiet h
  have hpart : Placed widths opened around.inLoop bound low high p :=
    hplaced.inner rfl rfl rfl hplaced.inOrder
  rw [run_behind] at h
  split at h
  · split at h
    · exact reached_of_follow hplace (Nat.le_refl _) (hm.mono (Nat.le_max_left _ _)) h
    · cases h
  · obtain ⟨m₁, hm₁, hend⟩ := settle_held hp hpart (Nat.le_trans (Nat.sub_le _ _) hplace) hm h
    exact reached_of_follow hplace (Nat.le_refl _) hm₁ hend

theorem runLands_atomic (hp : RunLands text widths p) : RunLands text widths (atomic p) := by
  intro around opened bound low high hplaced place m follow m' hplace hm hquiet h
  have hpart : Placed widths opened around.inLoop bound low high p :=
    hplaced.inner rfl rfl rfl hplaced.inOrder
  rw [run_atomic] at h
  rcases branch_eq_true h with ⟨m₁, hbody, hend⟩ | ⟨m₁, -, hfailed⟩
  · obtain ⟨place', m₂, hsize, hbound, hm₂, haccept⟩ := hp { around with next := none } opened bound
      low high hpart place _ accept m₁ hplace (hm.moveTo place) (fun _ => quiet_accept) hbody
    obtain rfl := accept_eq_true haccept
    exact ⟨place', _, hsize, hbound, hm₂.moveTo place', hend⟩
  · cases hfailed

theorem eq_char_of_single? {test : CharTest} (h : p.single? = some test) : p = .char test := by
  cases p with
  | char test' => exact congrArg char (Option.some.inj h)
  | _ => cases h

theorem runLands_loop (least : Nat) (most : Option Nat) (greed : Greed) (hp : RunLands text widths p) :
    RunLands text widths (loop least most greed p) := by
  intro around opened bound low high hplaced place m follow m' hplace hm hquiet h
  have hwidth : ((loop least most greed p).width widths).least ≤ least * (p.width widths).least := by
    rw [Nat.mul_comm]
    exact Nat.min_le_left _ _
  have hparts : (loop least most greed p).isForward = true →
      p.isForward = true ∧ (greed = .possessive → p.looksBehind = false) := by
    cases greed <;> simp [isForward]
  have hlimit : Held widths opened (max bound high) m := hm.mono (Nat.le_max_left _ _)
  simp only [run] at h
  split at h
  · next test htest =>
    obtain rfl := eq_char_of_single? htest
    have hone : ((char test).width widths).least = 1 := rfl
    rw [hone, Nat.mul_one] at hwidth
    exact (lands_runRow test greed).mono id hwidth place m follow m' hplace hlimit hquiet h
  · have hlands := hp ⟨none, around.inLoop || greed ≠ .possessive⟩ opened (max bound high) low high
      hplaced.body
    have hhigh : max (max bound high) high = max bound high := by omega
    rw [hhigh] at hlands
    refine (lands_runLoop (hlands.mono (fun hf => (hparts hf).1) (Nat.le_refl _)) ?_).mono id hwidth
      place m follow m' hplace hlimit hquiet h
    -- Where a failed attempt leaves the cursor: behind its start, unless the body looks behind.
    intro hgreed low hlow
    refine confining_run (lasting_within text low) p (fun n _ m place hm => ?_) (fun hb => ?_) _
    · simp only [Memory.cursor_mark]
      exact ⟨hm, hm⟩
    · rcases hlow with hf | hzero
      · rw [(hparts hf).2 hgreed] at hb
        cases hb
      · exact hzero

end Parts

/-- Whatever follows a pattern starts at a place of the text, and at the least width of the pattern further on
if it goes forward. -/
theorem runLands (text : Array Char) (widths : Nat → Width) (p : Pattern) : RunLands text widths p := by
  induction p with
  | empty =>
    intro around opened bound low high hplaced place m follow m' hplace hm hquiet h
    exact reached_of_follow hplace (Nat.le_refl _) (hm.mono (Nat.le_max_left _ _)) h
  | char test =>
    intro around opened bound low high hplaced place m follow m' hplace hm hquiet h
    simp only [run] at h
    split at h
    · next hp => exact reached_of_follow (passesAt_lt hp) (Nat.le_refl _) (hm.mono (Nat.le_max_left _ _)) h
    · cases h
  | anchor a =>
    intro around opened bound low high hplaced place m follow m' hplace hm hquiet h
    simp only [run] at h
    split at h
    · exact reached_of_follow hplace (Nat.le_refl _) (hm.mono (Nat.le_max_left _ _)) h
    · cases h
  | seq p q ihp ihq => exact runLands_seq ihp ihq
  | fail =>
    intro around opened bound low high hplaced place m follow m' hplace hm hquiet h
    cases h
  | alt p rest ihp ihrest => exact runLands_alt ihp ihrest
  | group n p ih => exact runLands_group n ih
  | backref n folding => exact runLands_backref n folding
  | ifGroup n yes no ihyes ihno => exact runLands_ifGroup n ihyes ihno
  | ahead negated p ih => exact runLands_ahead negated ih
  | behind negated width p ih => exact runLands_behind negated width ih
  | atomic p ih => exact runLands_atomic ih
  | loop least most greed p ih => exact runLands_loop least most greed ih

/-! ## Matches -/

section Matches

variable {text : Array Char} {widths : Nat → Width} {p : Pattern} {advance : Bool}
  {start low high : Nat} {m : Match}

/-- A match lies in the text, but it may end before its start unless the pattern goes forward. One that has to
take up something does. -/
theorem matchAt?_span (hp : p.InOrder low high) (hsized : Sized widths false p)
    (hstart : start ≤ text.size) (h : matchAt? p text advance start = some m) :
    m.start = start ∧ m.stop ≤ text.size ∧
      (p.isForward = true → start + (p.width widths).least ≤ m.stop) ∧
        (advance = true → m.stop ≠ start) := by
  unfold matchAt? at h
  split at h
  · next m' hrun =>
    cases h
    have hplaced : Placed widths (fun _ => none) false low low high p :=
      ⟨hsized, hp, fun _ hn => absurd rfl hn, fun _ _ _ => rfl, fun _ => .inl (Nat.le_refl _)⟩
    have hquiet : Quiet text widths (fun _ => none) (max low high) fun place m =>
        if advance && place = start then (false, m) else accept place m := by
      refine ⟨fun _ => False, fun _ _ => ⟨False.elim, fun h => (h.elim id id).elim⟩, ?_⟩
      intro m₀ place m hplace hm
      dsimp only
      split
      · exact hm
      · exact setsOnly_accept m₀ place m hplace hm
    obtain ⟨place, m₁, hsize, hbound, -, hend⟩ := runLands text widths p ⟨none, false⟩ _ low low high
      hplaced start _ _ m' hstart (held_fresh widths low) (fun _ => hquiet) hrun
    dsimp only at hend
    split at hend
    · cases hend
    · next hmoves =>
      obtain rfl := accept_eq_true hend
      refine ⟨rfl, hsize, hbound, fun hadvance hstop => hmoves ?_⟩
      have hplace : place = start := hstop
      simp [hadvance, hplace]
  · cases h

end Matches

end Snippet.Pattern
