import Snippet.Conversion.Context
import Snippet.Proofs.Element

/-!
A direct reading of syntax trees. The interpreter goes through a tree from left to right and builds
no nodes; it remembers the lines of each position that it has met, and the text that came last.
-/

namespace Snippet

structure Memory where
  fields : Nat → Option Lines
  lastText : Option Lines

namespace Memory

def empty : Memory := ⟨fun _ => none, none⟩

def withLastText (m : Memory) (lines : Option Lines) : Memory :=
  { m with lastText := lines }

/-- Gives lines to a position that has none. -/
def assign (m : Memory) (position : Nat) (lines : Lines) : Memory :=
  { m with
    fields := fun p => (m.fields p).or (if p = position then some lines else none) }

/-- After an element among its siblings: its text stays in sight if it passes it on. -/
def after (m : Memory) (e : Element) : Memory :=
  if e.passesText then m else m.withLastText none

end Memory

namespace Interpreter

/-- Lines after a transform. A field without lines still has its place. -/
def transformed (settings : Settings) (spec : Option TransformSpec) (lines : Lines) :
    Except Error Lines :=
  (settings.transform spec).bind fun f => (f lines).map fun ls => (Value.lines ls).toLines

/-- Lines of a variable, indented where it stands behind white space. -/
def indented (scope : Scope) (name : String) (lastText : Option Lines) (lines : Lines) : Lines :=
  match Indent.forVariable? name lastText with
  | none => lines
  | some indent => indent.apply scope.indent lines

/-- The value of a variable: from the environment, transformed, or from a resolver, or empty. -/
def variableLines (settings : Settings) (scope : Scope) (name : String)
    (spec : Option TransformSpec) (lastText : Option Lines) : Except Error Lines :=
  if settings.knows name then
    (transformed settings spec ((scope.get? name).getD .nothing).toLines).map
      (indented scope name lastText)
  else match settings.resolvers.lookup name with
    | some f => (f [] scope).map fun value => indented scope name lastText value.toLines
    | none => .ok [""]

def firstItem : List String → Lines
  | [] => [""]
  | item :: _ => Lines.ofText item

/-- What stands in the place of a placeholder's body. A body without fields is one text, and cut like
one, also where a value has line feeds in its lines; in other bodies lines stay as they are. -/
def body (children : List Element) (lines : Lines) : Lines :=
  if Element.hasFieldAmong children then lines else Lines.ofText lines.toText

mutual

def interpret (settings : Settings) (scope : Scope) :
    Element → Memory → Except Error (Lines × Memory)
  | .text content, m => .ok (Lines.ofText content, m.withLastText (some (Lines.ofText content)))
  | .choice _ items, m => .ok (firstItem items, m)
  | .tabstop position spec, m =>
      match m.fields position with
      | some lines => (transformed settings spec lines).map fun ls => (ls, m)
      | none => .ok ([""], m.assign position [""])
  | .placeholder position spec children, m =>
      match m.fields position with
      | some lines => (transformed settings spec lines).map fun ls => (ls, m)
      | none =>
          (interpretAll settings scope children (m.withLastText none)).map fun (lines, m) =>
            (body children lines, m.assign position (body children lines))
  | .var name spec, m => (variableLines settings scope name spec m.lastText).map fun ls => (ls, m)
  | .snippet children, m => interpretAll settings scope children (m.withLastText none)
  | e, _ => .error (.unknownKind e.tag)

def interpretAll (settings : Settings) (scope : Scope) :
    List Element → Memory → Except Error (Lines × Memory)
  | [], m => .ok ([""], m)
  | e :: es, m => do
      let (lines, m) ← interpret settings scope e m
      let (rest, m) ← interpretAll settings scope es (m.after e)
      return (Lines.glue lines rest, m)

end

def text (settings : Settings) (scope : Scope) (e : Element) : Except Error String :=
  (interpret settings scope e Memory.empty).map fun r => r.1.toText

end Interpreter

end Snippet
