import Snippet.Proofs.State
import Snippet.Store.Render

/-!
What a node shows, read off a store without building anything. A part of a store is closed when it
refers to nothing outside itself, has no cycle, and refers to the empty slot of a dynamic node through
that node only. On a closed part the view of a node is an equation in the views of the nodes it
refers to.
-/

namespace Snippet

/-- The nodes that the text of a node is made from. The slot of a dynamic node is not one of them,
but what the slot is filled from is. -/
def Node.sources : Node → List NodeId
  | computed _ dependencies => dependencies
  | dynamic (some (.body source)) _ => [source]
  | group children => children
  | wrap child _ => [child]
  | row members => members
  | bound target => [target]
  | _ => []

theorem Node.sources_subset_edges (n : Node) : n.sources ⊆ n.edges := by
  cases n with
  | dynamic rebuild slot =>
    match rebuild with
    | none => simp [sources]
    | some (.body source) => simp [sources, edges]
    | some (.host make) => simp [sources]
  | _ => simp [sources, edges]

theorem Node.slot_mem_edges (rebuild : Option Rebuild) (slot : NodeId) :
    slot ∈ (dynamic rebuild slot).edges := by
  match rebuild with
  | none => simp [edges]
  | some (.body source) => simp [edges]
  | some (.host make) => simp [edges]

/-- The nodes that rendering goes on to from a node. A dynamic node shows its slot; what the slot is filled
from is evaluated, not rendered. -/
def Node.links : Node → List NodeId
  | computed _ dependencies => dependencies
  | dynamic _ slot => [slot]
  | group children => children
  | wrap child _ => [child]
  | bound target => [target]
  | _ => []

theorem Node.links_subset_edges (n : Node) : n.links ⊆ n.edges := by
  cases n with
  | dynamic rebuild slot =>
    intro x hx
    rw [List.mem_singleton.mp hx]
    exact Node.slot_mem_edges rebuild slot
  | _ => simp [Node.links, Node.edges]

/-- The lines of what a dynamic node is built with, given those of the nodes that are there. -/
def Filling.shown (lines : NodeId → Except Error Lines) : Filling → Except Error Lines
  | text content => .ok (Lines.ofText content)
  | node id => lines id

namespace Store

/-- Rendering leaves the node as it is, since there is nothing in it to be built. -/
def Lasting (s : Store) : Node → Prop
  | .vacant => False
  | .dynamic _ slot => s.node? slot ≠ some .vacant
  | _ => True

/-- The node `d` is not built yet, and the function of the host that is to build it may give the node
`x`. -/
def Offers (s : Store) (d slot x : NodeId) : Prop :=
  s.node? slot = some .vacant ∧ ∃ make scope,
    s.node? d = some (.dynamic (some (.host make)) slot) ∧ make scope = .ok (.node x)

/-- Only functions of the host build dynamic nodes with nodes that are there. -/
theorem offers_of_rebuilt {s : Store} {scope : Scope} {d slot x : NodeId} {rebuild : Option Rebuild}
    (hd : s.node? d = some (.dynamic rebuild slot)) (hv : s.node? slot = some .vacant)
    (hr : s.rebuilt scope rebuild = .ok (.node x)) : s.Offers d slot x := by
  match rebuild with
  | none => cases hr
  | some (.body group) =>
    obtain ⟨lines, -, hlines⟩ := map_eq_ok hr
    cases hlines
  | some (.host make) => exact ⟨hv, make, scope, hd, hr⟩

/-- The lines that a node shows, given those of the nodes it refers to. A dynamic node that is not
built yet shows what it would be built with. -/
def showing (s : Store) (scope : Scope) (lines : NodeId → Except Error Lines) :
    Node → Except Error Lines
  | .text ls => .ok ls
  | .tabstop default text => .ok (Node.tabstopLines default text)
  | .choice choices index => Node.selected choices index
  | .computed fn dependencies => do
      let args ← dependencies.mapM lines
      return (← fn args scope).toLines
  | .dynamic rebuild slot =>
      match s.node? slot with
      | some .vacant => do (← s.rebuilt scope rebuild).shown lines
      | _ => lines slot
  | .group children => (children.mapM lines).map Lines.concat
  | .wrap child indent => (lines child).map (indent.apply scope.indent)
  | .host _ ls _ => ls scope
  | .bound target => lines target
  | n => .error (.unsupported n.typeName "render")

/-- The lines that a node shows; `fuel` bounds the depth. -/
def viewWith (s : Store) (scope : Scope) : Nat → NodeId → Except Error Lines
  | 0, _ => .error .cyclic
  | fuel + 1, id => s.showing scope (s.viewWith scope fuel) ((s.node? id).getD .vacant)

def view (s : Store) (scope : Scope) (id : NodeId) : Except Error Lines :=
  s.viewWith scope (s.size + 1) id

/-- The store itself counts for dynamic nodes only. -/
theorem showing_congr_store (s t : Store) (scope : Scope) {f g : NodeId → Except Error Lines}
    {n : Node} (hn : ∀ rebuild slot, n ≠ .dynamic rebuild slot) (h : ∀ x ∈ n.edges, f x = g x) :
    s.showing scope f n = t.showing scope g n := by
  cases n with
  | computed fn dependencies =>
    have hd : dependencies.mapM f = dependencies.mapM g := mapM_congr h
    rw [showing, showing, hd]
  | dynamic rebuild slot => exact absurd rfl (hn rebuild slot)
  | group children =>
    have hc : children.mapM f = children.mapM g := mapM_congr h
    rw [showing, showing, hc]
  | wrap child indent => rw [showing, showing, h child (by simp [Node.edges])]
  | bound target => rw [showing, showing, h target (by simp [Node.edges])]
  | _ => rfl

theorem showing_unbuilt {s : Store} {scope : Scope} {lines : NodeId → Except Error Lines}
    {rebuild : Option Rebuild} {slot : NodeId} (hs : s.node? slot = some .vacant) :
    s.showing scope lines (.dynamic rebuild slot) =
      (do (← s.rebuilt scope rebuild).shown lines) := by
  simp [showing, hs]

theorem showing_body {s : Store} {scope : Scope} {lines : NodeId → Except Error Lines}
    {body slot : NodeId} (hs : s.node? slot = some .vacant) :
    s.showing scope lines (.dynamic (some (.body body)) slot) =
      (s.evaluateStatic scope body).map fun ls => Lines.ofText ls.toText := by
  rw [showing_unbuilt hs, rebuilt]
  cases s.evaluateStatic scope body <;> rfl

theorem showing_built {s : Store} {scope : Scope} {lines : NodeId → Except Error Lines}
    {rebuild : Option Rebuild} {slot : NodeId} (hs : s.node? slot ≠ some .vacant) :
    s.showing scope lines (.dynamic rebuild slot) = lines slot := by
  rw [showing]
  split
  · next hv => exact absurd hv hs
  · rfl

/-- Beside the nodes that a node refers to, those count that it may still be built with. -/
theorem showing_congr {s : Store} (scope : Scope) {f g : NodeId → Except Error Lines} {id : NodeId}
    {n : Node} (hn : s.node? id = some n) (h : ∀ x ∈ n.edges, f x = g x)
    (ho : ∀ slot x, s.Offers id slot x → f x = g x) :
    s.showing scope f n = s.showing scope g n := by
  cases n with
  | dynamic rebuild slot =>
    by_cases hs : s.node? slot = some .vacant
    · rw [showing_unbuilt hs, showing_unbuilt hs]
      cases hr : s.rebuilt scope rebuild with
      | error e => rfl
      | ok filling =>
        cases filling with
        | text content => rfl
        | node x => exact ho slot x (offers_of_rebuilt hn hs hr)
    · rw [showing_built hs, showing_built hs, h slot (Node.slot_mem_edges rebuild slot)]
  | _ => exact showing_congr_store s s scope (by simp) h

/-- A part of a store that can be rendered by itself. Each node of it ranks above those it refers
to and those it may still be built with; only its dynamic node refers to an empty slot. -/
structure Closed (s : Store) (part : NodeId → Prop) (rank : NodeId → Nat) : Prop where
  present : ∀ id, part id → ∃ n, s.node? id = some n
  bounded : ∀ id, part id → rank id ≤ s.size
  edge : ∀ id n, part id → s.node? id = some n → ∀ x ∈ n.edges, part x ∧ rank x < rank id
  source : ∀ id n, part id → s.node? id = some n → ∀ x ∈ n.sources, s.node? x ≠ some .vacant
  owner : ∀ d d' r r' slot, part d → part d' → s.node? d = some (.dynamic r slot) →
    s.node? d' = some (.dynamic r' slot) → s.node? slot = some .vacant → r = r'
  offered : ∀ d slot x, part d → s.Offers d slot x →
    part x ∧ rank x < rank d ∧ s.node? x ≠ some .vacant

variable {s : Store} {scope : Scope} {part : NodeId → Prop} {rank : NodeId → Nat} {id : NodeId}

theorem Closed.sources (h : s.Closed part rank) (hp : part id) {n : Node}
    (hn : s.node? id = some n) {x : NodeId} (hx : x ∈ n.sources) :
    part x ∧ rank x < rank id ∧ s.node? x ≠ some .vacant := by
  have he := h.edge id n hp hn x (n.sources_subset_edges hx)
  exact ⟨he.1, he.2, h.source id n hp hn x hx⟩

theorem Offers.node {d slot x : NodeId} (h : s.Offers d slot x) :
    ∃ rebuild, s.node? d = some (.dynamic rebuild slot) := by
  obtain ⟨-, make, -, hd, -⟩ := h
  exact ⟨_, hd⟩

theorem Closed.slot (h : s.Closed part rank) (hp : part id) {rebuild : Option Rebuild}
    {slot : NodeId} (hn : s.node? id = some (.dynamic rebuild slot)) :
    part slot ∧ rank slot < rank id :=
  h.edge id _ hp hn slot (Node.slot_mem_edges rebuild slot)

/-- Any two amounts of fuel above the rank of a node give the same. -/
theorem viewWith_fuel (h : s.Closed part rank) {fuel fuel' : Nat} (hp : part id)
    (hf : rank id < fuel) (hf' : rank id < fuel') :
    s.viewWith scope fuel id = s.viewWith scope fuel' id := by
  induction fuel generalizing fuel' id with
  | zero => omega
  | succ fuel ih =>
    obtain ⟨fuel', rfl⟩ : ∃ k, fuel' = k + 1 := ⟨fuel' - 1, by omega⟩
    obtain ⟨n, hn⟩ := h.present id hp
    rw [viewWith, viewWith, hn]
    -- Each node referred to ranks lower, so the rest of the fuel is enough on both sides.
    refine showing_congr scope hn (fun x hx => ?_) fun slot x hx => ?_
    · have he := h.edge id n hp hn x hx
      exact ih he.1 (by omega) (by omega)
    · have ho := h.offered id slot x hp hx
      exact ih ho.1 (by omega) (by omega)

theorem viewWith_eq_view (h : s.Closed part rank) {fuel : Nat} (hp : part id)
    (hf : rank id < fuel) : s.viewWith scope fuel id = s.view scope id :=
  viewWith_fuel h hp hf (Nat.lt_succ_of_le (h.bounded id hp))

/-- On a closed part, a node shows what the views of the nodes it refers to make. -/
theorem view_eq (h : s.Closed part rank) (hp : part id) {n : Node} (hn : s.node? id = some n) :
    s.view scope id = s.showing scope (s.view scope) n := by
  have hb := h.bounded id hp
  rw [view, viewWith, hn]
  refine showing_congr scope hn (fun x hx => ?_) fun slot x hx => ?_
  · have he := h.edge id n hp hn x hx
    exact viewWith_eq_view h he.1 (by omega)
  · have ho := h.offered id slot x hp hx
    exact viewWith_eq_view h ho.1 (by omega)

end Store

end Snippet
