import Snippet.Event
import Snippet.Store.Static

/-!
What conversion leaves to the host: the node that a live placeholder body becomes, and how a
transform description is turned into a function. Beside the usual policies here are some others.
-/

namespace Snippet

/-- Makes the node for a placeholder at a position from its body, a group. -/
abbrev Assembler := Int → NodeId → Store → NodeId × Store

namespace Assembler

/-- The body itself, with the position of the placeholder. -/
def embed : Assembler := fun position group s =>
  (group, s.setPosition group (some position))

def tabstop (default : Option String) : Assembler := fun position _ s =>
  s.add (.tabstop default none) (some position)

def text (lines : Lines) : Assembler := fun _ _ s =>
  s.add (.text lines) none

/-- The body with its continuation lines indented. -/
def indent (text : String) : Assembler := fun _ group s =>
  s.add (.wrap group ⟨text, true⟩) none

/-- The nodes of the body in a row, without the body. -/
def spread : Assembler := fun _ group s =>
  match s.node? group with
  | some (.group children) => s.add (.row children) none
  | _ => s.add (.row []) none

end Assembler

/-- Turns a transform description into a function on lines. -/
abbrev TransformFactory := TransformSpec → Except Error LineTransform

namespace TransformFactory

/-- What a description says, with the names that characters have. -/
def standard [Pattern.CharacterNames] : TransformFactory := TransformSpec.toFunction

def backwards : TransformFactory := fun _ =>
  .ok fun lines => .ok (lines.map fun l => String.ofList l.toList.reverse)

/-- The description itself, a line for each of its parts, before the lines. -/
def showing : TransformFactory := fun spec =>
  .ok fun lines => .ok ([spec.pattern, spec.format, spec.options] ++ lines)

def erasing : TransformFactory := fun _ =>
  .ok fun _ => .ok []

end TransformFactory

structure Policy where
  assembler : Assembler
  transforms : TransformFactory

/-- Live bodies are embedded as they are, and transforms are read as pattern, format and options. -/
def Policy.standard [Pattern.CharacterNames] : Policy :=
  ⟨Assembler.embed, TransformFactory.standard⟩

namespace Store

/-- A node that becomes the text of a static body when it is first rendered. -/
def flattenStatic (position : Int) (group : NodeId) (s : Store) : NodeId × Store :=
  let (slot, s) := s.add .vacant none
  s.add (.dynamic (some (.body group)) slot) (some position)

/-- The node for a placeholder with a body of several parts: its text if that cannot change, else
what the host makes of it. -/
def classify (assembler : Assembler) (position : Int) (group : NodeId) (s : Store) :
    NodeId × Store :=
  if s.isInteractive group then assembler position group s else s.flattenStatic position group

def classifyEvents (position : Int) (group : NodeId) (s : Store) : List Event :=
  if s.isInteractive group then [] else [.flattened position]

end Store

end Snippet
