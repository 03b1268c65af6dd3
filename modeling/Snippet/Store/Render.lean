import Snippet.Store.Static

/-!
Rendering. The text of a node is computed anew each time from the nodes it refers to and the scope.
The one thing that rendering changes is that dynamic nodes are built, each at its first rendering,
and a dynamic node built on the way to an error stays built.
-/

namespace Snippet

/-- Computations that may build dynamic nodes and may fail, and keep what was built when they do. -/
abbrev Render := EStateM Error Store

namespace Store

/-- The outcome of a computation that changes nothing. -/
def lift {α : Type} : Except Error α → Render α
  | .ok a => pure a
  | .error e => throw e

/-- What a dynamic node is built with. -/
def rebuilt (s : Store) (scope : Scope) : Option Rebuild → Except Error Filling
  | none => .error .noRebuild
  | some (.body group) => (s.evaluateStatic scope group).map fun lines => .text lines.toText
  | some (.host make) => make scope

/-- Where the node is that a dynamic node is built with. -/
def place (slot : NodeId) : Filling → NodeId
  | .text _ => slot
  | .node target => target

/-- Builds a dynamic node unless it is built, and gives the node that it is built with. -/
def build (id : NodeId) (rebuild : Option Rebuild) (slot : NodeId) (scope : Scope) :
    Render NodeId := do
  let s ← get
  match s.node? slot with
  | some .vacant =>
      let filling ← lift (s.rebuilt scope rebuild)
      set (s.fill id slot filling)
      return place slot filling
  | _ => return slot

/-- The node that a dynamic node is built with. -/
def realize (id : NodeId) (scope : Scope) : Render NodeId := do
  match (← get).node? id with
  | some (.dynamic rebuild slot) => build id rebuild slot scope
  | some (.bound target) => return target
  | n => throw (.unsupported (n.getD .vacant).typeName "realize")

/-- The lines of a node; `fuel` bounds the depth. -/
def renderWith (scope : Scope) : Nat → NodeId → Render Lines
  | 0, _ => throw .cyclic
  | fuel + 1, id => do
      match (← get).node? id with
      | some (.text lines) => return lines
      | some (.tabstop default text) => return Node.tabstopLines default text
      | some (.choice choices index) => lift (Node.selected choices index)
      | some (.computed fn dependencies) =>
          let args ← dependencies.mapM (renderWith scope fuel)
          return (← lift (fn args scope)).toLines
      | some (.dynamic rebuild slot) => renderWith scope fuel (← build id rebuild slot scope)
      | some (.group children) => return Lines.concat (← children.mapM (renderWith scope fuel))
      | some (.wrap child indent) => return indent.apply scope.indent (← renderWith scope fuel child)
      | some (.host _ lines _) => lift (lines scope)
      | some (.bound target) => renderWith scope fuel target
      | some n => throw (.unsupported n.typeName "render")
      | none => throw (.unsupported Node.vacant.typeName "render")

/-- The lines of a node. No path through a store without cycles is longer than the store. -/
def render (scope : Scope) (id : NodeId) : Render Lines := do
  renderWith scope ((← get).size + 1) id

def renderNodes (scope : Scope) (ids : List NodeId) : Render Lines := do
  return Lines.concat (← ids.mapM (render scope))

def renderText (scope : Scope) (id : NodeId) : Render String := do
  return (← render scope id).toText

def renderNodesText (scope : Scope) (ids : List NodeId) : Render String := do
  return (← renderNodes scope ids).toText

end Store

end Snippet
