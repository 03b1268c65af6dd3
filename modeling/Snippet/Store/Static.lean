import Snippet.Store.Basic

/-!
Text that cannot change while a template is edited. Insertion points, choices, dynamic nodes, mirrors
and nodes of the host can; what is made of the others alone is static, and has a text that depends on
the scope only.
-/

namespace Snippet.Store

/-- A node, or one below it, can change during editing. A node that reaches itself counts as one
that can; `fuel` bounds the depth. -/
def isInteractiveWith (s : Store) : Nat → NodeId → Bool
  | 0, _ => true
  | fuel + 1, id =>
      match s.node? id with
      | some (.text _) => false
      | some (.computed _ dependencies) => !dependencies.isEmpty
      | some (.group children) => children.any (s.isInteractiveWith fuel)
      | some (.wrap child _) => s.isInteractiveWith fuel child
      | _ => true

/-- A node, or one below it, can change during editing. No path through a store without cycles is
longer than the store. -/
def isInteractive (s : Store) (id : NodeId) : Bool :=
  s.isInteractiveWith (s.size + 1) id

/-- The lines of static nodes, each in turn. -/
def evaluateWith (s : Store) (scope : Scope) : Nat → NodeId → Except Error Lines
  | 0, _ => .error .cyclic
  | fuel + 1, id =>
      match s.node? id with
      | some (.text lines) => .ok lines
      | some (.computed fn []) => (fn [] scope).map Value.toLines
      | some (.group children) => (children.mapM (s.evaluateWith scope fuel)).map Lines.concat
      | some (.wrap child indent) =>
          (s.evaluateWith scope fuel child).map (indent.apply scope.indent)
      | some n => .error (.interactive n.typeName)
      | none => .error (.interactive Node.vacant.typeName)

/-- The lines of a static node. Reaching one that can change is an error. -/
def evaluateStatic (s : Store) (scope : Scope) (id : NodeId) : Except Error Lines :=
  s.evaluateWith scope (s.size + 1) id

end Snippet.Store
