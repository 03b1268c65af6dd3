import Snippet.Store.Basic

/-!
What a user does to a live template: text is typed into an insertion point, and an alternative is
chosen. An operation on a node of another type fails and changes nothing. A host can also move a node
in the tab order.
-/

namespace Snippet

/-- Changes of a live template, which may fail. -/
abbrev Edit := EStateM Error Store

namespace Store

def setText (id : NodeId) (value : Value) : Edit Unit := do
  match (← get).node? id with
  | some (.tabstop default _) =>
      modify fun s => s.setNode id (.tabstop default (some value.toLines))
  | n => throw (.unsupported (n.getD .vacant).typeName "set_text")

/-- Chooses an alternative by its number, which has to be that of one. -/
def select (id : NodeId) (index : Int) : Edit Unit := do
  match (← get).node? id with
  | some (.choice choices _) =>
      if 0 ≤ index ∧ index < choices.length then
        modify fun s => s.setNode id (.choice choices index.toNat)
      else throw (.choiceOutOfRange index choices.length)
  | n => throw (.unsupported (n.getD .vacant).typeName "select")

def selected (s : Store) (id : NodeId) : Except Error Lines :=
  match s.node? id with
  | some (.choice choices index) => Node.selected choices index
  | n => .error (.unsupported (n.getD .vacant).typeName "selected")

/-- Gives a node a tab position, or takes it away. A node of the host's has a place for a position
from then on. -/
def move (s : Store) (id : NodeId) (position : Option Int) : Store :=
  match s.node? id with
  | some (.host type lines _) => (s.setNode id (.host type lines true)).setPosition id position
  | _ => s.setPosition id position

end Store

end Snippet
