import Snippet.Transform

/-!
What happens during a conversion that a host may want to know.
-/

namespace Snippet

inductive Event where
  /-- A repeated position becomes a mirror of its primary node. -/
  | mirrored (position : Int)
  /-- A position had a primary node already, which stays. -/
  | primaryKept (position : Int)
  /-- A placeholder body cannot change and is replaced by its text. -/
  | flattened (position : Int)
  /-- A node gets another tab position. -/
  | renumbered (old new : Int)
  /-- A variable is known to nobody and has an empty line for its text. -/
  | unknownVariable (name : String)
  /-- The host's transform factory is called. -/
  | transformMade (spec : TransformSpec)
deriving DecidableEq, Repr

/-- The line that a log of the conversion has for an event, if any. -/
def Event.message? : Event → Option String
  | mirrored p => some ("Position " ++ toString p ++ " repeats, building mirror")
  | primaryKept p =>
      some ("Position " ++ toString p ++ " already has a primary node, keeping the first")
  | flattened p => some ("Flattening static placeholder at position " ++ toString p)
  | renumbered p q => some ("Renumbering position " ++ toString p ++ " to " ++ toString q)
  | unknownVariable name => some ("Unknown variable '" ++ name ++ "' renders empty")
  | transformMade _ => none

end Snippet
