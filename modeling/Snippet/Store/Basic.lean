import Snippet.Node

/-!
The store that holds all nodes of a session. A node is never removed, and edits change its text, its
selection, or its position only. A dynamic node is built once.
-/

namespace Snippet

/-- A node with its place in the tab order. -/
structure Cell where
  node : Node
  position : Option Int

structure Store where
  cells : Array Cell

namespace Store

def empty : Store := ⟨#[]⟩

def size (s : Store) : Nat := s.cells.size

def node? (s : Store) (id : NodeId) : Option Node :=
  s.cells[id]?.map (·.node)

def position? (s : Store) (id : NodeId) : Option Int :=
  s.cells[id]?.bind (·.position)

/-- Adds a node, whose number is the size of the store so far. -/
def add (s : Store) (node : Node) (position : Option Int) : NodeId × Store :=
  (s.size, ⟨s.cells.push ⟨node, position⟩⟩)

def setNode (s : Store) (id : NodeId) (node : Node) : Store :=
  ⟨s.cells.modify id fun c => { c with node }⟩

def setPosition (s : Store) (id : NodeId) (position : Option Int) : Store :=
  ⟨s.cells.modify id fun c => { c with position }⟩

/-- Builds a dynamic node: a text is put into its slot, at the position that the node has at this moment,
and a node that is there already is put in its place. -/
def fill (s : Store) (id slot : NodeId) : Filling → Store
  | .text content =>
      (s.setNode slot (.tabstop (some content) none)).setPosition slot (s.position? id)
  | .node target => s.setNode id (.bound target)

/-! ## What each operation does to nodes and positions -/

@[simp] theorem add_fst (s : Store) (n : Node) (p : Option Int) : (s.add n p).1 = s.size := rfl

@[simp] theorem size_add (s : Store) (n : Node) (p : Option Int) :
    (s.add n p).2.size = s.size + 1 := by
  simp [add, size]

@[simp] theorem size_setNode (s : Store) (id : NodeId) (n : Node) :
    (s.setNode id n).size = s.size := by
  simp [setNode, size]

@[simp] theorem size_setPosition (s : Store) (id : NodeId) (p : Option Int) :
    (s.setPosition id p).size = s.size := by
  simp [setPosition, size]

theorem node?_eq_none_iff {s : Store} {id : NodeId} : s.node? id = none ↔ s.size ≤ id := by
  simp [node?, size]

theorem node?_add (s : Store) (n : Node) (p : Option Int) (id : NodeId) :
    (s.add n p).2.node? id = if id = s.size then some n else s.node? id := by
  by_cases h : id = s.cells.size <;> simp [node?, add, size, Array.getElem?_push, h]

theorem position?_add (s : Store) (n : Node) (p : Option Int) (id : NodeId) :
    (s.add n p).2.position? id = if id = s.size then p else s.position? id := by
  by_cases h : id = s.cells.size <;> simp [position?, add, size, Array.getElem?_push, h]

theorem node?_setNode (s : Store) (id : NodeId) (n : Node) (other : NodeId) :
    (s.setNode id n).node? other =
      if id = other then (s.node? other).map fun _ => n else s.node? other := by
  simp only [node?, setNode, Array.getElem?_modify]
  split <;> simp [Function.comp_def]

@[simp] theorem position?_setNode (s : Store) (id : NodeId) (n : Node) (other : NodeId) :
    (s.setNode id n).position? other = s.position? other := by
  simp only [position?, setNode, Array.getElem?_modify]
  split
  · cases s.cells[other]? <;> rfl
  · rfl

@[simp] theorem node?_setPosition (s : Store) (id : NodeId) (p : Option Int) (other : NodeId) :
    (s.setPosition id p).node? other = s.node? other := by
  simp only [node?, setPosition, Array.getElem?_modify]
  split <;> simp [Function.comp_def]

theorem position?_setPosition (s : Store) (id : NodeId) (p : Option Int) (other : NodeId) :
    (s.setPosition id p).position? other =
      if id = other ∧ id < s.size then p else s.position? other := by
  simp only [position?, setPosition, size, Array.getElem?_modify]
  by_cases h : id = other
  · subst h
    by_cases hs : id < s.cells.size <;> simp [hs]
  · simp [h]

@[simp] theorem size_fill (s : Store) (id slot : NodeId) (filling : Filling) :
    (s.fill id slot filling).size = s.size := by
  cases filling <;> simp [fill]

theorem node?_fill_text (s : Store) (id slot : NodeId) (content : String) (other : NodeId) :
    (s.fill id slot (.text content)).node? other =
      if slot = other then (s.node? other).map fun _ => .tabstop (some content) none
      else s.node? other := by
  rw [fill, node?_setPosition, node?_setNode]

theorem position?_fill_text (s : Store) (id slot : NodeId) (content : String) (other : NodeId) :
    (s.fill id slot (.text content)).position? other =
      if slot = other ∧ slot < s.size then s.position? id else s.position? other := by
  rw [fill, position?_setPosition, size_setNode, position?_setNode]

theorem node?_fill_node (s : Store) (id slot target other : NodeId) :
    (s.fill id slot (.node target)).node? other =
      if id = other then (s.node? other).map fun _ => .bound target else s.node? other := by
  rw [fill, node?_setNode]

@[simp] theorem position?_fill_node (s : Store) (id slot target other : NodeId) :
    (s.fill id slot (.node target)).position? other = s.position? other := by
  rw [fill, position?_setNode]

end Store

end Snippet
