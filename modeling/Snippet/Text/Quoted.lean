import Snippet.Unicode.Printable

/-!
A text in quotation marks, on one line and in printable characters. Single marks are used unless
the text holds a single mark and no double one. The mark in use, the backslash and the three usual
controls are escaped by name, other characters that do not print by their code.
-/

namespace Snippet.Text

def hexDigit (n : Nat) : Char :=
  if n < 10 then Char.ofNat (48 + n) else Char.ofNat (87 + n)

/-- The last `width` hexadecimal digits of a number. -/
def hexDigits : Nat → Nat → List Char
  | 0, _ => []
  | width + 1, n => hexDigits width (n / 16) ++ [hexDigit (n % 16)]

/-- The escape of a character by its code, in two, four or eight digits. -/
def codeEscape (code : Nat) : List Char :=
  if code < 0x100 then '\\' :: 'x' :: hexDigits 2 code
  else if code < 0x10000 then '\\' :: 'u' :: hexDigits 4 code
  else '\\' :: 'U' :: hexDigits 8 code

/-- A character inside quotation marks `mark`. -/
def quoteChar (mark c : Char) : List Char :=
  if c = mark then ['\\', c]
  else if c = '\\' then ['\\', '\\']
  else if c = '\n' then ['\\', 'n']
  else if c = '\r' then ['\\', 'r']
  else if c = '\t' then ['\\', 't']
  else if Unicode.isPrintable c then [c]
  else codeEscape c.toNat

def quoteMark (s : List Char) : Char :=
  if s.contains '\'' && !s.contains '"' then '"' else '\''

def quoted (s : String) : String :=
  let mark := quoteMark s.toList
  String.ofList (mark :: s.toList.flatMap (quoteChar mark) ++ [mark])

end Snippet.Text
