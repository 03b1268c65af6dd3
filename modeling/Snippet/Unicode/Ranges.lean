/-!
Sets of code points as lists of closed ranges in ascending order.
-/

namespace Snippet.Unicode

/-- The code point lies in one of the ranges, which ascend. -/
def inRanges : List (Nat × Nat) → Nat → Bool
  | [], _ => false
  | (first, last) :: r, code =>
      if code < first then false else if code ≤ last then true else inRanges r code

/-- Where the range that holds the code point starts. -/
def startOfRange? : List (Nat × Nat) → Nat → Option Nat
  | [], _ => none
  | (first, last) :: r, code =>
      if code < first then none else if code ≤ last then some first else startOfRange? r code

end Snippet.Unicode
