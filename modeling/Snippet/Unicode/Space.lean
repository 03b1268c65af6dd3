import Snippet.Unicode.Ranges

/-!
White space: the characters with the bidirectional class of white space or the category of
space separators, as of Unicode 14.
-/

namespace Snippet.Unicode

def spaceRanges : List (Nat × Nat) := [
  (0x9, 0xd), (0x1c, 0x20), (0x85, 0x85), (0xa0, 0xa0), (0x1680, 0x1680), (0x2000, 0x200a),
  (0x2028, 0x2029), (0x202f, 0x202f), (0x205f, 0x205f), (0x3000, 0x3000)]

/-- The character is white space, the line and information separators included. -/
def isSpace (c : Char) : Bool :=
  inRanges spaceRanges c.toNat

theorem isSpace_space : isSpace ' ' = true := by decide

end Snippet.Unicode
