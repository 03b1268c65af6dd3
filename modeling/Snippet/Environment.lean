import Snippet.Lines
import Snippet.Text.Quoted
import Snippet.Unicode.Digit

/-!
Environment variables: the values a host supplies by name, and which names count as variables. Names
are recognised from the standard set, from what a host registers, and as captures of the trigger. An
environment may lack a value for a name it recognises.
-/

namespace Snippet

/-- Values by name, each name once, in the order in which the names were first given. -/
abbrev Bindings := List (String × Value)

namespace Bindings

/-- Gives a name a value; a name that has one keeps its place. -/
def assign (name : String) (value : Value) : Bindings → Bindings
  | [] => [(name, value)]
  | (n, v) :: r => if n = name then (n, value) :: r else (n, v) :: assign name value r

def ofList (pairs : List (String × Value)) : Bindings :=
  pairs.foldl (fun b (name, value) => b.assign name value) []

def names (b : Bindings) : List String :=
  b.map (·.1)

end Bindings

/-- The variables that every host is expected to supply. -/
def standardVariables : List String := [
  "TM_SELECTED_TEXT", "TM_CURRENT_LINE", "TM_CURRENT_WORD", "TM_LINE_INDEX", "TM_LINE_NUMBER",
  "SELECT_RAW", "SELECT_DEDENT", "LS_SELECT_RAW", "LS_SELECT_DEDENT", "LS_TRIGGER",
  "POSTFIX_MATCH", "CLIPBOARD",
  "TM_FILENAME", "TM_FILENAME_BASE", "TM_DIRECTORY", "TM_FILEPATH", "RELATIVE_FILEPATH",
  "WORKSPACE_NAME", "WORKSPACE_FOLDER",
  "CURRENT_YEAR", "CURRENT_YEAR_SHORT", "CURRENT_MONTH", "CURRENT_MONTH_NAME",
  "CURRENT_MONTH_NAME_SHORT", "CURRENT_DATE", "CURRENT_DAY_NAME", "CURRENT_DAY_NAME_SHORT",
  "CURRENT_HOUR", "CURRENT_MINUTE", "CURRENT_SECOND", "CURRENT_SECONDS_UNIX",
  "CURRENT_TIMEZONE_OFFSET",
  "RANDOM", "RANDOM_HEX", "UUID",
  "LINE_COMMENT", "BLOCK_COMMENT_START", "BLOCK_COMMENT_END"]

def captureStem : List Char := "LS_CAPTURE_".toList

/-- The name of a capture of the trigger: the stem and at least one digit of any script. -/
def isCapture (name : String) : Bool :=
  let digits := name.toList.drop captureStem.length
  captureStem.isPrefixOf name.toList && !digits.isEmpty && digits.all Unicode.isDigit

def isVariable (known : List String) (name : String) : Bool :=
  known.contains name || isCapture name

def sortedNames (names : List String) : List String :=
  names.eraseDups.mergeSort

def nonStandard (names : List String) : List String :=
  sortedNames (names.filter fun n => !standardVariables.contains n)

structure Environment where
  values : Bindings
  /-- The names recognised besides the standard ones. -/
  registered : List String

namespace Environment

/-- An environment with values, whose names are recognised, and further recognised names. -/
def ofValues (values : Bindings) (extra : List String) : Environment :=
  ⟨values, extra ++ values.names⟩

def get? (e : Environment) (name : String) : Option Value :=
  e.values.lookup name

def contains (e : Environment) (name : String) : Bool :=
  e.values.names.contains name

def register (e : Environment) (name : String) : Environment :=
  { e with registered := e.registered ++ [name] }

/-- All recognised names but those of captures. -/
def recognised (e : Environment) : List String :=
  standardVariables ++ e.registered

def isVariable (e : Environment) (name : String) : Bool :=
  Snippet.isVariable e.recognised name

end Environment

def Value.written : Value → String
  | nothing => "None"
  | text s => Text.quoted s
  | lines ls => "[" ++ ", ".intercalate (ls.map Text.quoted) ++ "]"

def Environment.written (e : Environment) : String :=
  let entries := e.values.map fun (name, value) => Text.quoted name ++ ": " ++ value.written
  "Environment(\x7b" ++ ", ".intercalate entries ++ "\x7d)"

end Snippet
