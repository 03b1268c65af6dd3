import Snippet.Indent
import Snippet.Scope

/-!
The nodes that a template is made of once compiled. Nodes refer to each other by number, so that one
node can be the source of several mirrors.
-/

namespace Snippet

abbrev NodeId := Nat

/-- What a dynamic node is built with: an insertion point with a text to start with, or a node that is
there already. A node that the host makes up for the purpose is there from the start; nothing else refers
to it. -/
inductive Filling where
  | text (content : String)
  | node (id : NodeId)

/-- How a dynamic node gets its content when it is first rendered. -/
inductive Rebuild where
  /-- The text of a body that cannot change during editing. -/
  | body (group : NodeId)
  /-- What a function of the host gives. -/
  | host (make : Scope → Except Error Filling)

inductive Node where
  | text (lines : Lines)
  /-- An insertion point, with the text it starts with and the text the user has put in. -/
  | tabstop (default : Option String) (text : Option Lines)
  /-- A selection between alternatives. -/
  | choice (choices : List Lines) (index : Nat)
  /-- Text computed from the lines of other nodes and the scope. -/
  | computed (fn : ValueFunction) (dependencies : List NodeId)
  /-- A node whose content is built when it is first rendered. A text is put into `slot`. -/
  | dynamic (rebuild : Option Rebuild) (slot : NodeId)
  | group (children : List NodeId)
  /-- A node whose continuation lines are indented. -/
  | wrap (child : NodeId) (indent : Indent)
  /-- A node of a type of the host's own, which renders itself. -/
  | host (type : String) (lines : Scope → Except Error Lines) (positioned : Bool)
  /-- Nodes in a row that stand for one until they are spliced in. -/
  | row (members : List NodeId)
  /-- The slot of a dynamic node that has not been rendered. -/
  | vacant
  /-- A dynamic node that has been built with a node which was there before. -/
  | bound (target : NodeId)

namespace Node

def typeName : Node → String
  | text _ => "TextNode"
  | tabstop _ _ => "TabstopNode"
  | choice _ _ => "ChoiceNode"
  | computed _ _ => "ComputedNode"
  | dynamic _ _ => "DynamicNode"
  | group _ => "SnippetGroupNode"
  | wrap _ _ => "IndentWrapNode"
  | host type _ _ => type
  | row _ => "list"
  | vacant => "nothing"
  | bound _ => "DynamicNode"

def edges : Node → List NodeId
  | text _ => []
  | tabstop _ _ => []
  | choice _ _ => []
  | computed _ dependencies => dependencies
  | dynamic (some (.body source)) slot => [source, slot]
  | dynamic _ slot => [slot]
  | group children => children
  | wrap child _ => [child]
  | host _ _ _ => []
  | row members => members
  | vacant => []
  | bound target => [target]

/-- The lines of the active alternative; without alternatives, one empty line. -/
def selected (choices : List Lines) (index : Nat) : Except Error Lines :=
  match choices with
  | [] => .ok [""]
  | _ => itemAt choices index

/-- The lines of an insertion point: what the user has put in, else what it starts with. -/
def tabstopLines (default : Option String) (text : Option Lines) : Lines :=
  text.getD (Lines.ofText (default.getD ""))

end Node

end Snippet
