import Snippet.Pattern.Basic

/-!
Matching by trying alternatives in order. A pattern is run at a place with a continuation that says
what has to match after it; where the continuation refuses, the next alternative is tried. A match
is the first success, from the leftmost place that has one.

Attempts share a memory that a failed attempt leaves changed: it holds a cursor, and the marks where
groups begin and end. A failure takes marks back that were set for the first time, and inside a loop
also those that were moved. The cursor is not taken back, and a possessive loop goes on from where
its last, failed attempt has left it.
-/

namespace Snippet.Pattern

/-- What attempts share. Group `n` begins at mark `2 * n` and ends at mark `2 * n + 1`. -/
structure Memory where
  cursor : Nat
  marks : List (Option Nat)
deriving DecidableEq, Repr

namespace Memory

def fresh (place : Nat) : Memory := ⟨place, []⟩

def moveTo (m : Memory) (place : Nat) : Memory :=
  { m with cursor := place }

def mark (m : Memory) (n place : Nat) : Memory :=
  if n < m.marks.length then { m with marks := m.marks.set n (some place) }
  else
    let gap := List.replicate (n - m.marks.length) none
    { m with marks := m.marks ++ gap ++ [some place] }

def group? (m : Memory) (n : Nat) : Option (Nat × Nat) :=
  match m.marks[2 * n]?, m.marks[2 * n + 1]? with
  | some (some start), some (some stop) => some (start, stop)
  | _, _ => none

/-- Where a group lies, unless a new start has been marked behind its end. -/
def span? (m : Memory) (n : Nat) : Option (Nat × Nat) :=
  (m.group? n).filter fun (start, stop) => start ≤ stop

/-- The memory after a failure, given the one before the attempt. -/
def rewind (before : Memory) (inLoop : Bool) (after : Memory) : Memory :=
  { after with
    marks := if inLoop then before.marks else after.marks.take before.marks.length }

end Memory

/-- Success or failure, and the memory afterwards. A success leaves the cursor at the end. -/
abbrev Outcome := Bool × Memory

abbrev Follow := Nat → Memory → Outcome

/-- One way to get past a pattern, for all that may follow it. -/
abbrev Step := Nat → Memory → Follow → Outcome

def accept : Follow := fun place m => (true, m.moveTo place)

namespace Anchor

/-- The place is at a boundary between a word and what is none; an empty text has no boundary. -/
def wordChange (inWord : Char → Bool) (text : Array Char) (place : Nat) : Bool :=
  let before := if place = 0 then false else (text[place - 1]?).any inWord
  before != (text[place]?).any inWord

def holds (text : Array Char) (place : Nat) : Anchor → Bool
  | textStart => place = 0
  | textEnd => place = text.size
  | firstLineStart => place = 0
  | lineStart => place = 0 || text[place - 1]? = some '\n'
  | lineEnd => place = text.size || text[place]? = some '\n'
  | lastLineEnd =>
      place = text.size || (place + 1 = text.size && text[place]? = some '\n')
  | wordEdge ascii =>
      text.size ≠ 0 && wordChange (if ascii then Unicode.isAsciiWord else Unicode.isWord) text place
  | wordInside ascii =>
      text.size ≠ 0 && !wordChange (if ascii then Unicode.isAsciiWord else Unicode.isWord) text place

end Anchor

/-- What is known of the surroundings of a pattern: the plain test that comes next, if one does, and
whether a loop that can give back is around it. -/
structure Around where
  next : Option CharTest
  inLoop : Bool
deriving DecidableEq, Repr

def passesAt (text : Array Char) (test : CharTest) (place : Nat) : Bool :=
  (text[place]?).any test.accepts

/-! ## Rows of single characters -/

/-- How many characters from a place on pass the test, `limit` at most. -/
def rowLength (text : Array Char) (test : CharTest) : Nat → Nat → Nat
  | 0, _ => 0
  | limit + 1, place =>
      if passesAt text test place then rowLength text test limit (place + 1) + 1 else 0

/-- How many characters there may be in a row that starts at a place. -/
def rowLimit (text : Array Char) (most : Option Nat) (place : Nat) : Nat :=
  match most with
  | some m => min m (text.size - place)
  | none => text.size - place

/-- Goes on after a row, unless the character that has to come next is known and another is
there. -/
def afterRow (text : Array Char) (around : Around) (follow : Follow) : Follow := fun place m =>
  match around.next.bind CharTest.code? with
  | some code =>
      if (text[place]?).any (·.toNat = code) then follow place (m.moveTo place) else (false, m)
  | none => follow place (m.moveTo place)

/-- Tries what follows after `least` characters and `extra` more, then after fewer and fewer. -/
def giveBack (text : Array Char) (around : Around) (follow : Follow) (least : Nat) :
    Nat → Memory → Outcome
  | 0, m =>
      match afterRow text around follow least m with
      | (true, m') => (true, m')
      | (false, m') => (false, m.rewind around.inLoop m')
  | extra + 1, m =>
      match afterRow text around follow (least + (extra + 1)) m with
      | (true, m') => (true, m')
      | (false, m') => giveBack text around follow least extra (m.rewind around.inLoop m')

/-- Tries what follows after each character of a row, which may have `extra` more at most. -/
def takeMore (text : Array Char) (test : CharTest) (around : Around) (follow : Follow) :
    Option Nat → Nat → Nat → Memory → Outcome
  | _, 0, _, m => (false, m)
  | extra, fuel + 1, place, m =>
      match follow place (m.moveTo place) with
      | (true, m') => (true, m')
      | (false, m') =>
          let m := (m.rewind around.inLoop m').moveTo place
          if passesAt text test place then
            let m := if test.isStepwise then m.moveTo (place + 1) else m
            match extra with
            | none => takeMore text test around follow none fuel (place + 1) m
            | some 0 => (false, m)
            | some (extra + 1) =>
                takeMore text test around follow (some extra) fuel (place + 1) m
          else (false, m)

def runRow (text : Array Char) (test : CharTest) (around : Around) (least : Nat)
    (most : Option Nat) (greed : Greed) : Step := fun place m follow =>
  if text.size < place + least then (false, m)
  else
    let limit := match greed with
      | .lazy => least
      | _ => rowLimit text most place
    let length := rowLength text test limit place
    let m := m.moveTo (if test.isStepwise then place + length else place)
    if length < least then (false, m)
    else match greed with
      | .greedy => giveBack text around follow (place + least) (length - least) m
      | .lazy =>
          takeMore text test around follow (most.map (· - least)) (text.size + 1 - place)
            (place + least) m
      | .possessive => follow (place + length) m

/-! ## Repetition -/

def mayRepeat (most : Option Nat) (count : Nat) : Bool :=
  match most with
  | some m => count < m
  | none => true

/-- As many repetitions as possible first. Beyond the least count a repetition may not start where
the last such one started, so an empty one is not followed by another. -/
def greedyLoop (step : Step) (least : Nat) (most : Option Nat) (follow : Follow) :
    Nat → Nat → Option Nat → Nat → Memory → Outcome
  | 0, _, _, _, m => (false, m)
  | fuel + 1, count, started, place, m =>
      let m := m.moveTo place
      if count < least then
        match step place m (greedyLoop step least most follow fuel (count + 1) started) with
        | (true, m') => (true, m')
        | (false, m') => (false, m'.moveTo place)
      else
        let (done, m) :=
          if mayRepeat most count && started ≠ some place then
            match step place m
                (greedyLoop step least most follow fuel (count + 1) (some place)) with
            | (true, m') => (true, m')
            | (false, m') => (false, (m.rewind true m').moveTo place)
          else (false, m)
        if done then (true, m)
        else match follow place m with
          | (true, m') => (true, m')
          | (false, m') => (false, m'.moveTo place)

/-- As few repetitions as possible first; `inLoop` tells whether another loop is around this one. -/
def lazyLoop (step : Step) (inLoop : Bool) (least : Nat) (most : Option Nat) (follow : Follow) :
    Nat → Nat → Option Nat → Nat → Memory → Outcome
  | 0, _, _, _, m => (false, m)
  | fuel + 1, count, started, place, m =>
      let m := m.moveTo place
      if count < least then
        match step place m (lazyLoop step inLoop least most follow fuel (count + 1) started) with
        | (true, m') => (true, m')
        | (false, m') => (false, m'.moveTo place)
      else match follow place m with
        | (true, m') => (true, m')
        | (false, m') =>
            let m := (m.rewind inLoop m').moveTo place
            if mayRepeat most count && started ≠ some place then
              match step place m
                  (lazyLoop step inLoop least most follow fuel (count + 1) (some place)) with
              | (true, m') => (true, m')
              | (false, m') => (false, m'.moveTo place)
            else (false, m)

/-- As many repetitions as possible, each the first success by itself, and none given back. A
repetition starts at the cursor, and so does what follows after a failed one. -/
def possessiveLoop (step : Step) (least : Nat) (most : Option Nat) (follow : Follow)
    (start : Nat) : Nat → Nat → Option Nat → Memory → Outcome
  | 0, _, _, m => (false, m)
  | fuel + 1, count, started, m =>
      if count < least then
        match step m.cursor m accept with
        | (true, m') => possessiveLoop step least most follow start fuel (count + 1) started m'
        | (false, m') => (false, m'.moveTo start)
      else if mayRepeat most count && started ≠ some m.cursor then
        match step m.cursor m accept with
        | (true, m') =>
            possessiveLoop step least most follow start fuel (count + 1) (some m.cursor) m'
        | (false, m') =>
            let m := m.rewind true m'
            follow m.cursor m
      else follow m.cursor m

/-- A bound on repetitions. Beyond the least count each starts further on in the text, unless a
greatest count bounds them. -/
def loopFuel (text : Array Char) (least : Nat) (most : Option Nat) : Nat :=
  least + most.getD 0 + text.size + 2

def runLoop (text : Array Char) (step : Step) (inLoop : Bool) (least : Nat) (most : Option Nat)
    (greed : Greed) : Step := fun place m follow =>
  let fuel := loopFuel text least most
  match greed with
  | .greedy => greedyLoop step least most follow fuel 0 none place m
  | .lazy => lazyLoop step inLoop least most follow fuel 0 none place m
  | .possessive => possessiveLoop step least most follow place fuel 0 none (m.moveTo place)

/-! ## Patterns -/

/-- The text from `start` to `stop` stands once more at `place`, compared in folded form. -/
def repeatsAt (text : Array Char) (folding : Folding) (start stop place : Nat) : Bool :=
  (List.range (stop - start)).all fun i =>
    match text[start + i]?, text[place + i]? with
    | some c, some d => folding.fold c.toNat = folding.fold d.toNat
    | _, _ => false

def single? : Pattern → Option CharTest
  | char test => some test
  | _ => none

/-- The character at a place rules an alternative out. -/
def ruledOut (text : Array Char) (place : Nat) (p : Pattern) : Bool :=
  (p.opening none).any fun test => !passesAt text test place

/-- Runs a pattern at a place and then what follows. -/
def run (text : Array Char) : Pattern → Around → Step
  | empty, _, place, m, follow => follow place m
  | char test, _, place, m, follow =>
      if passesAt text test place then follow (place + 1) m else (false, m)
  | anchor a, _, place, m, follow => if a.holds text place then follow place m else (false, m)
  | seq p q, around, place, m, follow =>
      run text p { around with next := q.opening around.next } place m fun place m =>
        run text q around place m follow
  | fail, _, _, m, _ => (false, m)
  | alt p rest, around, place, m, follow =>
      if ruledOut text place p then run text rest around place m follow
      else match run text p { around with next := none } place (m.moveTo place) follow with
        | (true, m') => (true, m')
        | (false, m') => run text rest around place (m.rewind around.inLoop m') follow
  | group n p, around, place, m, follow =>
      run text p { around with next := none } place (m.mark (2 * n) place) fun place m =>
        follow place (m.mark (2 * n + 1) place)
  | backref n folding, _, place, m, follow =>
      match m.span? n with
      | some (start, stop) =>
          if repeatsAt text folding start stop place then follow (place + (stop - start)) m
          else (false, m)
      | none => (false, m)
  | ifGroup n yes no, around, place, m, follow =>
      if (m.span? n).isSome then
        let next := if no = .empty then around.next else none
        run text yes { around with next } place m follow
      else run text no around place m follow
  | ahead negated p, around, place, m, follow =>
      match run text p { around with next := none } place (m.moveTo place) accept, negated with
      | (true, m'), false => follow place m'
      | (true, m'), true => (false, m')
      | (false, m'), false => (false, m')
      | (false, m'), true => follow place (m.rewind around.inLoop m')
  | behind negated width p, around, place, m, follow =>
      if place < width.least then (if negated then follow place m else (false, m))
      else
        let back := place - width.least
        match run text p { around with next := none } back (m.moveTo back) accept, negated with
        | (true, m'), false => follow place m'
        | (true, m'), true => (false, m')
        | (false, m'), false => (false, m')
        | (false, m'), true => follow place (m.rewind around.inLoop m')
  | atomic p, around, place, m, follow =>
      match run text p { around with next := none } place (m.moveTo place) accept with
      | (true, m') => follow m'.cursor m'
      | (false, m') => (false, m'.moveTo place)
  | loop least most greed p, around, place, m, follow =>
      match p.single? with
      | some test => runRow text test around least most greed place m follow
      | none =>
          let inLoop := around.inLoop || greed ≠ .possessive
          runLoop text (run text p ⟨none, inLoop⟩) around.inLoop least most greed place m follow

/-! ## Searching -/

/-- A part of the text that matches, with the marks of the groups inside it. -/
structure Match where
  start : Nat
  stop : Nat
  marks : List (Option Nat)
deriving DecidableEq, Repr

namespace Match

/-- Where a group lies in the text; group zero is the whole match. -/
def span? (m : Match) (group : Nat) : Option (Nat × Nat) :=
  if group = 0 then some (m.start, m.stop) else Memory.group? ⟨m.stop, m.marks⟩ group

/-- Some group has its start marked behind its end. -/
def isBroken (m : Match) (groups : Nat) : Bool :=
  (List.range groups).any fun i => (m.span? (i + 1)).any fun (start, stop) => stop < start

end Match

/-- The match at one place; `advance` refuses a match that ends there. -/
def matchAt? (p : Pattern) (text : Array Char) (advance : Bool) (start : Nat) : Option Match :=
  match run text p ⟨none, false⟩ start (.fresh start) fun place m =>
      if advance && place = start then (false, m) else accept place m with
  | (true, m) => some ⟨start, m.cursor, m.marks⟩
  | (false, _) => none

/-- The first match among the next `count` places. -/
def findAmong (p : Pattern) (text : Array Char) : Nat → Nat → Option Match
  | 0, _ => none
  | count + 1, start =>
      match matchAt? p text false start with
      | some m => some m
      | none => findAmong p text count (start + 1)

/-- How many places behind `start` are tried. Unless the first character of a match is known, those
with too little text left are not. -/
def laterPlaces (c : Compiled) (text : Array Char) (start : Nat) : Nat :=
  if c.pattern.startsPlainly then text.size - start else text.size - start - (c.least - 1)

/-- The first match from a place on. With `advance`, a match at that very place has to end
elsewhere. -/
def find? (c : Compiled) (text : Array Char) (advance : Bool) (start : Nat) : Option Match :=
  if text.size < start + c.least then none
  else match matchAt? c.pattern text advance start with
    | some m => some m
    | none => findAmong c.pattern text (laterPlaces c text start) (start + 1)

/-- So many matches from a place on, each found where the one before it ended; after a match that takes
up nothing the next one has to. -/
def matchesFrom (c : Compiled) (text : Array Char) : Nat → Bool → Nat → List Match
  | 0, _, _ => []
  | count + 1, advance, start =>
      match find? c text advance start with
      | none => []
      | some m => m :: matchesFrom c text count (m.start = m.stop) m.stop

/-- The matches of a pattern in a text from left to right: all of them, or only the first. What comes next
depends on where a match has ended and whether it took up something, so that no search that goes forward
comes to more matches than this. One that runs backwards may come to the same matches without end; it
is cut off. -/
def findAll (c : Compiled) (text : Array Char) (all : Bool) : List Match :=
  matchesFrom c text (if all then 2 * (text.size + 1) else 1) false 0

end Snippet.Pattern
