import Snippet.Environment
import Snippet.Transform

/-!
What nodes see while they render, and the functions that compute text from it. A value function gets
the lines of the nodes it depends on and the scope it is rendered in.
-/

namespace Snippet

/-- The values of the environment, and the indentation of the line that a template is inserted
on. -/
structure Scope where
  values : Bindings
  indent : String

def Scope.empty : Scope := ⟨[], ""⟩

def Scope.get? (s : Scope) (name : String) : Option Value :=
  s.values.lookup name

abbrev ValueFunction := List Lines → Scope → Except Error Value

namespace ValueFunction

/-- The first dependency's lines, transformed: the function of a mirror. -/
def copy (transform : LineTransform) : ValueFunction := fun args _ =>
  match args with
  | [] => .error .indexOutOfRange
  | lines :: _ => (transform lines).map .lines

/-- The value of a variable at the time of rendering, transformed. -/
def ofVariable (name : String) (transform : LineTransform) : ValueFunction := fun _ scope =>
  (transform ((scope.get? name).getD .nothing).toLines).map .lines

def const (value : Value) : ValueFunction := fun _ _ => .ok value

def lookup (name : String) : ValueFunction := fun _ scope =>
  .ok ((scope.get? name).getD .nothing)

/-- The value of a name that the environment has to have. -/
def require (name : String) : ValueFunction := fun _ scope =>
  match scope.get? name with
  | some value => .ok value
  | none => .error (.missingName name)

def indentation : ValueFunction := fun _ scope => .ok (.text scope.indent)

/-- The lines of one dependency; negative numbers count from the last one. -/
def argument (index : Int) : ValueFunction := fun args _ =>
  (itemAt args index).map .lines

def join (separator : String) : ValueFunction := fun args _ =>
  .ok (.text (separator.intercalate (args.map Lines.toText)))

end ValueFunction

end Snippet
