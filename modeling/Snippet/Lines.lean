/-!
Text as a list of lines. A text is cut at its line feeds and at nothing else, so cutting gives at
least one line, and joining the lines with line feeds gives the text back. Rendered pieces are put
together as they stand in a buffer: the last line of one goes on in the first line of the next.
-/

namespace Snippet

/-- A text, or a piece of one, line by line. -/
abbrev Lines := List String

/-- What the environment or a value function supplies: nothing, a text, or lines. -/
inductive Value where
  | nothing
  | text (s : String)
  | lines (ls : Lines)
deriving DecidableEq, Repr

namespace Lines

/-- Cuts characters at each line feed. -/
def cut : List Char → List (List Char)
  | [] => [[]]
  | c :: r =>
      if c = '\n' then [] :: cut r
      else match cut r with
        | [] => [[c]]
        | l :: ls => (c :: l) :: ls

/-- The lines of a text. -/
def ofText (t : String) : Lines :=
  (cut t.toList).map String.ofList

/-- The text whose lines these are. -/
def toText : Lines → String
  | [] => ""
  | [l] => l
  | l :: ls => l ++ "\n" ++ toText ls

/-- Goes on with the lines `ys` where `xs` ends; a piece without lines adds nothing. -/
def glue : Lines → Lines → Lines
  | [], ys => ys
  | xs, [] => xs
  | [x], y :: ys => (x ++ y) :: ys
  | x :: xs, ys => x :: glue xs ys

/-- Pieces side by side, as adjacent nodes appear in a buffer. -/
def concat : List Lines → Lines
  | [] => [""]
  | c :: cs => glue c (concat cs)

theorem cut_ne_nil (cs : List Char) : cut cs ≠ [] := by
  cases cs with
  | nil => simp [cut]
  | cons c r =>
    rw [cut]
    split
    · simp
    · split <;> simp

theorem ofText_ne_nil (t : String) : ofText t ≠ [] := by
  simp [ofText, cut_ne_nil]

end Lines

namespace Value

/-- A value as lines, never without a line: a field that shows nothing still has its place. -/
def toLines : Value → Lines
  | nothing => [""]
  | text s => Lines.ofText s
  | lines [] => [""]
  | lines ls => ls

theorem toLines_ne_nil (v : Value) : v.toLines ≠ [] := by
  cases v with
  | nothing => simp [toLines]
  | text s => exact Lines.ofText_ne_nil s
  | lines ls => cases ls <;> simp [toLines]

end Value

end Snippet
