import Snippet.Event
import Snippet.Store.Basic

/-!
Compaction of tab positions among siblings. The siblings with a positive position are ranked by it,
equal ones in document order, and get their ranks 1, 2, 3, … for positions. All else stays.
-/

namespace Snippet

namespace Positions

/-- The things with a positive position, each where it stands first, unless it is among `seen`. -/
def numbered {α : Type} [DecidableEq α] : List α → List (α × Option Int) → List (α × Int)
  | _, [] => []
  | seen, (a, some p) :: r =>
      if 0 < p ∧ a ∉ seen then (a, p) :: numbered (a :: seen) r else numbered seen r
  | seen, (_, none) :: r => numbered seen r

/-- By position, equal positions in the order of the list. -/
def ranked {α : Type} [DecidableEq α] (siblings : List (α × Option Int)) : List (α × Int) :=
  (numbered [] siblings).mergeSort fun a b => a.2 ≤ b.2

/-- One renumbering: what gets a new position, and the old and the new one. -/
structure Change (α : Type) where
  what : α
  old : Int
  new : Int
deriving DecidableEq, Repr

/-- Gives out ranks from `rank` on, and lists what changes. -/
def changesFrom {α : Type} : Int → List (α × Int) → List (Change α)
  | _, [] => []
  | rank, (a, p) :: r =>
      if p = rank then changesFrom (rank + 1) r else ⟨a, p, rank⟩ :: changesFrom (rank + 1) r

/-- What changes its position when siblings are compacted, in the order of the new positions. -/
def changes {α : Type} [DecidableEq α] (siblings : List (α × Option Int)) : List (Change α) :=
  changesFrom 1 (ranked siblings)

end Positions

namespace Store

/-- What compacting the positions of sibling nodes changes. -/
def compaction (s : Store) (ids : List NodeId) : List (Positions.Change NodeId) :=
  Positions.changes (ids.map fun id => (id, s.position? id))

def renumber (s : Store) (changes : List (Positions.Change NodeId)) : Store :=
  changes.foldl (fun s c => s.setPosition c.what (some c.new)) s

def compact (s : Store) (ids : List NodeId) : Store :=
  s.renumber (s.compaction ids)

def compactionEvents (s : Store) (ids : List NodeId) : List Event :=
  (s.compaction ids).map fun c => .renumbered c.old c.new

end Store

end Snippet
