import Snippet.Format.Basic
import Snippet.Unicode.Digit

/-!
Reading a written format from left to right. A backslash makes the next character literal, or a line
feed or tab where it is `n` or `t`. A dollar sign before digits, or before a body in braces, is a
reference; the body ends at the first closing brace that no brace inside it claims.
-/

namespace Snippet.Format

/-- The character that a backslash and `c` write. -/
def escaped (c : Char) : Char :=
  if c = 'n' then '\n' else if c = 't' then '\t' else c

/-- Resolves the escapes of a text; a backslash at its end stands for itself. -/
def unescape : List Char → List Char
  | [] => []
  | ['\\'] => ['\\']
  | '\\' :: c :: r => escaped c :: unescape r
  | c :: r => c :: unescape r

/-- The body of a reference and what comes after its closing brace, where `depth` braces are open
inside the body. -/
def splitBody : Nat → List Char → Option (List Char × List Char)
  | _, [] => none
  | _, ['\\'] => none
  | depth, '\\' :: c :: r => (splitBody depth r).map fun (b, t) => ('\\' :: c :: b, t)
  | depth, '\x7b' :: r => (splitBody (depth + 1) r).map fun (b, t) => ('\x7b' :: b, t)
  | 0, '\x7d' :: r => some ([], r)
  | depth + 1, '\x7d' :: r => (splitBody depth r).map fun (b, t) => ('\x7d' :: b, t)
  | depth, c :: r => (splitBody depth r).map fun (b, t) => (c :: b, t)

/-- The text before the first unescaped separator and the text after it, or the whole text and
nothing. -/
def splitAt (separator : Char) : List Char → List Char × List Char
  | [] => ([], [])
  | ['\\'] => (['\\'], [])
  | '\\' :: c :: r => let (a, b) := splitAt separator r; ('\\' :: c :: a, b)
  | c :: r =>
      if c = separator then ([], r)
      else let (a, b) := splitAt separator r; (c :: a, b)

/-- The text of a conditional, its escapes resolved. -/
def branch (s : List Char) : String :=
  String.ofList (unescape s)

/-- What follows the colon of a reference to a group. -/
def readChoice (number : Nat) : List Char → Except Fault Token
  | '/' :: name =>
      match CaseChange.ofName? (String.ofList name) with
      | some change => .ok (.case number change)
      | none => .error (.unknownCase (String.ofList name))
  | '+' :: r => .ok (.conditional number (branch r) "")
  | '?' :: r =>
      let (present, absent) := splitAt ':' r
      .ok (.conditional number (branch present) (branch absent))
  | '-' :: r => .ok (.conditional number "" (branch r))
  | r => .ok (.conditional number "" (branch r))

/-- A reference with the given body: a group number, alone or with a colon and a choice. -/
def readBody (body : List Char) : Except Fault Token :=
  match body.takeWhile Unicode.isDigit, body.dropWhile Unicode.isDigit with
  | d :: ds, [] => .ok (.group (Unicode.decimalValue (d :: ds)))
  | d :: ds, ':' :: r => readChoice (Unicode.decimalValue (d :: ds)) r
  | _, _ => .error (.badReference (String.ofList body))

/-- Puts a literal character before the tokens, into the literal that they start with if any. -/
def addLiteral (c : Char) : Format → Format
  | .literal s :: ts => .literal (String.singleton c ++ s) :: ts
  | ts => .literal (String.singleton c) :: ts

theorem splitBody_length {depth : Nat} {s b t : List Char} (h : splitBody depth s = some (b, t)) :
    t.length < s.length := by
  fun_induction splitBody depth s generalizing b t <;>
    grind [Option.map_eq_some_iff, List.length_cons]

/-- The tokens that a written format reads as. -/
def readChars : List Char → Except Fault Format
  | [] => .ok []
  | ['\\'] => .ok [.literal "\\"]
  | '\\' :: c :: r => (readChars r).map (addLiteral (escaped c))
  | '$' :: '\x7b' :: inside =>
      match h : splitBody 0 inside with
      | none => .error .unterminated
      | some (body, rest) =>
          have := splitBody_length h
          match readBody body with
          | .error fault => .error fault
          | .ok t => (readChars rest).map (t :: ·)
  | '$' :: r =>
      match r.takeWhile Unicode.isDigit with
      | [] => (readChars r).map (addLiteral '$')
      | d :: ds =>
          have : (r.dropWhile Unicode.isDigit).length ≤ r.length :=
            (List.dropWhile_sublist Unicode.isDigit).length_le
          (readChars (r.dropWhile Unicode.isDigit)).map
            (Token.group (Unicode.decimalValue (d :: ds)) :: ·)
  | c :: r => (readChars r).map (addLiteral c)
termination_by s => s.length

/-- Reads a written format. -/
def read (written : String) : Except Fault Format :=
  readChars written.toList

end Snippet.Format
