import Snippet.Format.Reader

/-!
Writing a format down. Every list of tokens has a written form, in which references always stand in
braces and a literal or conditional text has those characters escaped that would end it.
-/

namespace Snippet.Format

/-- Puts a backslash before the characters with a property. -/
def escapeWhere (p : Char → Bool) (s : List Char) : List Char :=
  s.flatMap fun c => if p c then ['\\', c] else [c]

/-- The text of a literal as written. -/
def writeLiteral (s : String) : List Char :=
  escapeWhere (fun c => c = '\\' || c = '$') s.toList

/-- The text of a conditional as written. -/
def writeBranch (s : String) : List Char :=
  escapeWhere (fun c => c = '\\' || c = ':' || c = '\x7b' || c = '\x7d') s.toList

/-- What stands between the braces of a reference after the group number. -/
def writeChoice : Token → List Char
  | .literal _ => []
  | .group _ => []
  | .case _ change => ':' :: '/' :: change.name.toList
  | .conditional _ present absent => ':' :: '?' :: writeBranch present ++ ':' :: writeBranch absent

namespace Token

/-- A token as written. -/
def write (t : Token) : List Char :=
  match t with
  | literal s => writeLiteral s
  | group number | case number _ | conditional number _ _ =>
      '$' :: '\x7b' :: (toString number).toList ++ writeChoice t ++ ['\x7d']

end Token

/-- A format as written. -/
def write (f : Format) : String :=
  String.ofList (f.flatMap Token.write)

/-- The tokens are what reading gives: no literal is empty, and no two of them stand together. -/
def IsCanonical : Format → Prop
  | [] => True
  | .literal s :: ts =>
      s ≠ "" ∧ (∀ s' ts', ts ≠ .literal s' :: ts') ∧ IsCanonical ts
  | _ :: ts => IsCanonical ts

end Snippet.Format
