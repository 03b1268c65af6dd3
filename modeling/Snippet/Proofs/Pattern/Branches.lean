import Snippet.Pattern.Match

/-!
Matching as a tree of attempts. Every part of the engine runs something and goes on in one way if that has
succeeded and in another if it has failed. Later proofs read the engine through these equations.
-/

namespace Snippet.Pattern

/-- Goes on from an outcome, with the memory that it has left. -/
def branch (r : Outcome) (yes no : Memory → Outcome) : Outcome :=
  match r with
  | (true, m) => yes m
  | (false, m) => no m

/-- Goes on only after a failure. -/
abbrev retry (r : Outcome) (no : Memory → Outcome) : Outcome :=
  branch r (Prod.mk true) no

theorem branch_eq_true {r : Outcome} {yes no : Memory → Outcome} {m' : Memory}
    (h : branch r yes no = (true, m')) :
    (∃ m, r = (true, m) ∧ yes m = (true, m')) ∨ ∃ m, r = (false, m) ∧ no m = (true, m') := by
  obtain ⟨ok, m⟩ := r
  cases ok with
  | true => exact .inl ⟨m, rfl, h⟩
  | false => exact .inr ⟨m, rfl, h⟩

theorem retry_eq_true {r : Outcome} {no : Memory → Outcome} {m' : Memory}
    (h : retry r no = (true, m')) :
    r = (true, m') ∨ ∃ m, r = (false, m) ∧ no m = (true, m') := by
  rcases branch_eq_true h with ⟨m, hr, hm⟩ | hno
  · exact .inl (hr.trans hm)
  · exact .inr hno

section Rows

variable (text : Array Char) (test : CharTest) (around : Around) (follow : Follow) (least : Nat)
  (m : Memory)

theorem giveBack_zero :
    giveBack text around follow least 0 m =
      retry (afterRow text around follow least m) fun m' => (false, m.rewind around.inLoop m') :=
  rfl

theorem giveBack_succ (extra : Nat) :
    giveBack text around follow least (extra + 1) m =
      retry (afterRow text around follow (least + (extra + 1)) m) fun m' =>
        giveBack text around follow least extra (m.rewind around.inLoop m') :=
  rfl

/-- The memory with which the next character of a row is taken. -/
def taking (place : Nat) (m m' : Memory) : Memory :=
  let m := (m.rewind around.inLoop m').moveTo place
  if test.isStepwise then m.moveTo (place + 1) else m

theorem takeMore_succ (extra : Option Nat) (fuel place : Nat) :
    takeMore text test around follow extra (fuel + 1) place m =
      retry (follow place (m.moveTo place)) fun m' =>
        if passesAt text test place then
          match extra with
          | none => takeMore text test around follow none fuel (place + 1) (taking test around place m m')
          | some 0 => (false, taking test around place m m')
          | some (extra + 1) =>
              takeMore text test around follow (some extra) fuel (place + 1)
                (taking test around place m m')
        else (false, (m.rewind around.inLoop m').moveTo place) :=
  rfl

/-- What is done with a row of `length` characters. -/
def rowOf (most : Option Nat) (greed : Greed) (place length : Nat) : Outcome :=
  let m := m.moveTo (if test.isStepwise then place + length else place)
  if length < least then (false, m)
  else match greed with
    | .greedy => giveBack text around follow (place + least) (length - least) m
    | .lazy =>
        takeMore text test around follow (most.map (· - least)) (text.size + 1 - place)
          (place + least) m
    | .possessive => follow (place + length) m

theorem runRow_eq (most : Option Nat) (greed : Greed) (place : Nat) :
    ∃ limit, runRow text test around least most greed place m follow =
      if text.size < place + least then (false, m)
      else rowOf text test around follow least m most greed place
        (rowLength text test limit place) :=
  ⟨_, rfl⟩

end Rows

section Loops

variable (step : Step) (inLoop : Bool) (least : Nat) (most : Option Nat) (follow : Follow)
  (start fuel count : Nat) (started : Option Nat) (place : Nat) (m : Memory)

/-- One more repetition may start at the place. -/
def mayStart : Bool :=
  mayRepeat most count && started ≠ some place

theorem greedyLoop_succ :
    greedyLoop step least most follow (fuel + 1) count started place m =
      let m := m.moveTo place
      if count < least then
        retry (step place m (greedyLoop step least most follow fuel (count + 1) started))
          fun m' => (false, m'.moveTo place)
      else
        retry
          (if mayStart most count started place then
            retry (step place m (greedyLoop step least most follow fuel (count + 1) (some place)))
              fun m' => (false, (m.rewind true m').moveTo place)
          else (false, m))
          fun m => retry (follow place m) fun m' => (false, m'.moveTo place) := by
  rw [greedyLoop]
  unfold mayStart
  dsimp only
  split
  · rfl
  · by_cases hstart : (mayRepeat most count && decide (started ≠ some place)) = true
    · rw [if_pos hstart, if_pos hstart]
      rcases step place (m.moveTo place)
        (greedyLoop step least most follow fuel (count + 1) (some place)) with ⟨_ | _, m'⟩ <;> rfl
    · rw [if_neg hstart, if_neg hstart]
      rfl

theorem lazyLoop_succ :
    lazyLoop step inLoop least most follow (fuel + 1) count started place m =
      let m := m.moveTo place
      if count < least then
        retry (step place m (lazyLoop step inLoop least most follow fuel (count + 1) started))
          fun m' => (false, m'.moveTo place)
      else
        retry (follow place m) fun m' =>
          let m := (m.rewind inLoop m').moveTo place
          if mayStart most count started place then
            retry
              (step place m (lazyLoop step inLoop least most follow fuel (count + 1) (some place)))
              fun m' => (false, m'.moveTo place)
          else (false, m) :=
  rfl

theorem possessiveLoop_succ :
    possessiveLoop step least most follow start (fuel + 1) count started m =
      if count < least then
        branch (step m.cursor m accept)
          (possessiveLoop step least most follow start fuel (count + 1) started)
          fun m' => (false, m'.moveTo start)
      else if mayStart most count started m.cursor then
        branch (step m.cursor m accept)
          (possessiveLoop step least most follow start fuel (count + 1) (some m.cursor))
          fun m' => follow m'.cursor (m.rewind true m')
      else follow m.cursor m :=
  rfl

end Loops

section Patterns

variable (text : Array Char) (around : Around) (place : Nat) (m : Memory) (follow : Follow)
  (p rest : Pattern) (negated : Bool) (width : Width)

theorem run_alt :
    run text (.alt p rest) around place m follow =
      if ruledOut text place p then run text rest around place m follow
      else retry (run text p { around with next := none } place (m.moveTo place) follow)
        fun m' => run text rest around place (m.rewind around.inLoop m') follow :=
  rfl

/-- What a condition on the surroundings makes of its attempt. -/
def settle (r : Outcome) : Outcome :=
  branch r (fun m' => if negated then (false, m') else follow place m')
    fun m' => if negated then follow place (m.rewind around.inLoop m') else (false, m')

theorem settle_eq (r : Outcome) :
    settle around place m follow negated r =
      match r, negated with
      | (true, m'), false => follow place m'
      | (true, m'), true => (false, m')
      | (false, m'), false => (false, m')
      | (false, m'), true => follow place (m.rewind around.inLoop m') := by
  rcases r with ⟨_ | _, m'⟩ <;> cases negated <;> rfl

theorem run_ahead :
    run text (.ahead negated p) around place m follow =
      settle around place m follow negated
        (run text p { around with next := none } place (m.moveTo place) accept) :=
  (settle_eq around place m follow negated _).symm

theorem run_behind :
    run text (.behind negated width p) around place m follow =
      if place < width.least then (if negated then follow place m else (false, m))
      else
        let back := place - width.least
        settle around place m follow negated
          (run text p { around with next := none } back (m.moveTo back) accept) := by
  simp only [settle_eq]
  rfl

theorem run_atomic :
    run text (.atomic p) around place m follow =
      branch (run text p { around with next := none } place (m.moveTo place) accept)
        (fun m' => follow m'.cursor m') fun m' => (false, m'.moveTo place) :=
  rfl

end Patterns

end Snippet.Pattern
