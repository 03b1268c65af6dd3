import Snippet.Pattern.Basic

/-!
Pieces: what a sequence is made of while a pattern is read. Alternatives are simplified piece by
piece before they become one pattern. What all of them start with is taken out to the front, and
alternatives of one character each become a single set.
-/

namespace Snippet.Pattern

/-- A piece of a sequence. A flagged one has flags of its own, which keep it apart from others. -/
structure Piece where
  pattern : Pattern
  flagged : Bool
deriving DecidableEq, Repr

def joinPieces : List Piece → Pattern
  | [] => .empty
  | [p] => p.pattern
  | p :: ps => .seq p.pattern (joinPieces ps)

namespace Piece

/-- A sequence under flags of its own; it is there even if it holds nothing. -/
def underFlags (ps : List Piece) : Piece where
  pattern := if ps.isEmpty then .seq .empty .empty else joinPieces ps
  flagged := true

/-- Two pieces of this kind can be found equal: they hold no other pattern. -/
def isComparable (p : Piece) : Bool :=
  !p.flagged && match p.pattern with
    | .char _ => true
    | .anchor _ => true
    | .backref _ _ => true
    | _ => false

/-- The members of a piece that is one character and says what it may be. -/
def members? (p : Piece) : Option (List Member) :=
  if p.flagged then none
  else match p.pattern with
    | .char (.one _ false code) => some [.code code]
    | .char (.set _ false members) => some members
    | _ => none

end Piece

/-- How many pieces an alternative shares with the start of all others. -/
def sharedCount : List Piece → List (List Piece) → Nat
  | [], _ => 0
  | p :: ps, others =>
      if p.isComparable && others.all (fun qs => qs.head? = some p) then
        sharedCount ps (others.map List.tail) + 1
      else 0

/-- The members of all alternatives, if each is one character. -/
def commonMembers? : List (List Piece) → Option (List Member)
  | [] => some []
  | [p] :: rest => do return (← p.members?) ++ (← commonMembers? rest)
  | _ => none

def anyOf : List (List Piece) → Pattern
  | [] => .fail
  | ps :: rest => .alt (joinPieces ps) (anyOf rest)

/-- Alternatives as a sequence: the pieces that they share, and a choice between what is left. -/
def choose (folding : Folding) : List (List Piece) → List Piece
  | [] => []
  | [ps] => ps
  | ps :: others =>
      let shared := sharedCount ps others
      let rest := (ps :: others).map (·.drop shared)
      let choice := match commonMembers? rest with
        | some members => Pattern.char (.ofMembers folding false members.eraseDups)
        | none => anyOf rest
      ps.take shared ++ [⟨choice, false⟩]

end Snippet.Pattern
