import Snippet.Lines
import Snippet.Unicode.Space

/-!
Indentation of multi-line values. A value that stands behind a line break and white space has that
white space put before each of its lines but the first, which is indented already.
-/

namespace Snippet

/-- Indentation of continuation lines. -/
structure Indent where
  text : String
  /-- The indentation of the line that the template is inserted on goes before `text`. -/
  withParent : Bool
deriving DecidableEq, Repr

namespace Indent

/-- What is put before a continuation line. -/
def lead (i : Indent) (parent : String) : String :=
  if i.withParent then parent ++ i.text else i.text

/-- Indents all lines but the first. -/
def apply (i : Indent) (parent : String) : Lines → Lines
  | [] => []
  | l :: ls => l :: ls.map (i.lead parent ++ ·)

/-- The text is not empty and all white space. -/
def isBlank (s : String) : Bool :=
  !s.isEmpty && s.toList.all Unicode.isSpace

/-- The white space that what follows a text stands behind, if the text ends in a line of it. -/
def captured? : Lines → Option String
  | [] => none
  | [_] => none
  | l :: ls => (some ((l :: ls).getLast (by simp))).filter isBlank

/-- The variable whose value already has the indentation of the place it was cut from. -/
def selectedText : String := "TM_SELECTED_TEXT"

/-- The indentation for the variable `name` after a text. -/
def forVariable? (name : String) (lastText : Option Lines) : Option Indent :=
  (lastText.bind captured?).map fun text => ⟨text, name ≠ selectedText⟩

end Indent

end Snippet
