import Snippet.Proofs.Store.Graph
import Snippet.Proofs.Store.Locality

/-!
Positions do not show. Rendering copies the position of a dynamic node into what is built for it, and
nothing else looks at a position. So stores that differ in positions only go on to differ in positions only,
whatever is rendered, typed and chosen, and no renumbering in between is ever seen in a text.
-/

namespace Snippet

theorem Node.isLive_unplaced (below : NodeId → Bool) (n : Node) :
    n.unplaced.isLive below = n.isLive below := by
  cases n <;> rfl

theorem Node.evaluated_unplaced (scope : Scope) (below : NodeId → Except Error Lines) (n : Node) :
    n.unplaced.evaluated scope below = n.evaluated scope below := by
  cases n <;> rfl

namespace Store

open Conversion

/-- The store `t` is `s` with other positions. -/
structure Repositioned (s t : Store) : Prop where
  size : t.size = s.size
  node : ∀ id, (t.node? id).map Node.unplaced = (s.node? id).map Node.unplaced

section Repositioned

variable {s t u : Store} {id : NodeId} {scope : Scope}

theorem Repositioned.refl (s : Store) : s.Repositioned s := ⟨rfl, fun _ => rfl⟩

theorem Repositioned.trans (h : s.Repositioned t) (h' : t.Repositioned u) : s.Repositioned u :=
  ⟨h'.size.trans h.size, fun id => (h'.node id).trans (h.node id)⟩

theorem Repositioned.symm (h : s.Repositioned t) : t.Repositioned s :=
  ⟨h.size.symm, fun id => (h.node id).symm⟩

/-- The node in the other store, which is the same but for its place for a position. -/
theorem Repositioned.exists_node? (h : s.Repositioned t) {n : Node} (hn : s.node? id = some n) :
    ∃ n', t.node? id = some n' ∧ n'.unplaced = n.unplaced := by
  have hnode := h.node id
  rw [hn] at hnode
  exact Option.map_eq_some_iff.mp hnode

theorem repositioned_setPosition (s : Store) (id : NodeId) (position : Option Int) :
    s.Repositioned (s.setPosition id position) :=
  ⟨size_setPosition s id position, fun other => by rw [node?_setPosition]⟩

theorem repositioned_compact (s : Store) (ids : List NodeId) : s.Repositioned (s.compact ids) :=
  ⟨size_compact s ids, fun id => by rw [node?_compact]⟩

/-- The same change of a node, alike but for the position in both stores. -/
theorem Repositioned.setNode (h : s.Repositioned t) (id : NodeId) {n n' : Node}
    (hn : n'.unplaced = n.unplaced) : (s.setNode id n).Repositioned (t.setNode id n') where
  size := by rw [size_setNode, size_setNode, h.size]
  node other := by
    rw [node?_setNode, node?_setNode]
    by_cases hid : id = other
    · have hnode := congrArg Option.isSome (h.node other)
      rw [Option.isSome_map, Option.isSome_map] at hnode
      rw [if_pos hid, if_pos hid]
      cases hs : s.node? other <;> cases ht : t.node? other <;> simp_all
    · rw [if_neg hid, if_neg hid, h.node other]

theorem repositioned_move (s : Store) (id : NodeId) (position : Option Int) :
    s.Repositioned (s.move id position) := by
  unfold move
  split
  · next type lines positioned hn =>
    -- A node of the host's gets a place for the position, and is the same node otherwise.
    have hnode : s.Repositioned (s.setNode id (.host type lines true)) := by
      refine ⟨size_setNode s id _, fun other => ?_⟩
      rw [node?_setNode]
      by_cases hid : id = other
      · subst hid
        rw [if_pos rfl, hn]
        rfl
      · rw [if_neg hid]
    exact hnode.trans (repositioned_setPosition _ id position)
  · exact repositioned_setPosition s id position

/-! ## Classification and evaluation -/

theorem Repositioned.isInteractiveWith_eq (h : s.Repositioned t) (fuel : Nat) (id : NodeId) :
    t.isInteractiveWith fuel id = s.isInteractiveWith fuel id := by
  induction fuel generalizing id with
  | zero => rfl
  | succ fuel ih =>
    have below : t.isInteractiveWith fuel = s.isInteractiveWith fuel := funext ih
    cases hn : s.node? id with
    | none =>
      have hn' : t.node? id = none := by simpa [hn] using h.node id
      rw [isInteractiveWith, isInteractiveWith, hn, hn']
    | some n =>
      obtain ⟨n', hn', he⟩ := h.exists_node? hn
      rw [isInteractiveWith_succ hn, isInteractiveWith_succ hn', below, ← Node.isLive_unplaced, he,
        Node.isLive_unplaced]

theorem Repositioned.evaluateWith_eq (h : s.Repositioned t) (scope : Scope) (fuel : Nat)
    (id : NodeId) : t.evaluateWith scope fuel id = s.evaluateWith scope fuel id := by
  induction fuel generalizing id with
  | zero => rfl
  | succ fuel ih =>
    have below : t.evaluateWith scope fuel = s.evaluateWith scope fuel := funext ih
    cases hn : s.node? id with
    | none =>
      have hn' : t.node? id = none := by simpa [hn] using h.node id
      rw [evaluateWith, evaluateWith, hn, hn']
    | some n =>
      obtain ⟨n', hn', he⟩ := h.exists_node? hn
      rw [evaluateWith_succ hn, evaluateWith_succ hn', below, ← Node.evaluated_unplaced, he,
        Node.evaluated_unplaced]

theorem Repositioned.evaluateStatic_eq (h : s.Repositioned t) (scope : Scope) (id : NodeId) :
    t.evaluateStatic scope id = s.evaluateStatic scope id := by
  rw [evaluateStatic, evaluateStatic, h.size, h.evaluateWith_eq]

theorem Repositioned.rebuilt_eq (h : s.Repositioned t) (scope : Scope)
    (rebuild : Option Rebuild) : t.rebuilt scope rebuild = s.rebuilt scope rebuild := by
  match rebuild with
  | none => rfl
  | some (.host make) => rfl
  | some (.body group) => rw [rebuilt, rebuilt, h.evaluateStatic_eq]

/-! ## Rendering -/

/-- What is built gets other positions in the two stores, and the same text. -/
theorem alike_repositioned (scope : Scope) : Alike Repositioned scope fun _ => True where
  node h _ := h.node _
  link _ _ _ _ _ := trivial
  rebuilt h _ _ _ := h.rebuilt_eq scope _
  fill {t t' id _ slot filling} h _ _ _ _ := by
    cases filling with
    | text content =>
      exact ((repositioned_setPosition _ slot (t.position? id)).symm.trans (h.setNode slot rfl)).trans
        (repositioned_setPosition _ slot (t'.position? id))
    | node target => exact h.setNode id rfl

theorem Repositioned.render (h : s.Repositioned t) (scope : Scope) (id : NodeId) :
    Match Repositioned (render scope id s) (render scope id t) :=
  (alike_repositioned scope).render h.size trivial h

theorem Repositioned.renderNodes (h : s.Repositioned t) (scope : Scope) (ids : List NodeId) :
    Match Repositioned (renderNodes scope ids s) (renderNodes scope ids t) := by
  refine (Match.mapM h fun id _ u v hu => hu.render scope id).bind fun lines u v hu => ?_
  exact match_leaving hu (.ok (Lines.concat lines))

end Repositioned

end Store

/-! ## Runs -/

/-- What happens to nodes in use: they are rendered and edited, and they get another tab order. -/
inductive Turn where
  | act (a : Action)
  | compact (ids : List NodeId)
  | move (id : NodeId) (position : Option Int)

namespace Turn

def perform (s : Store) : Turn → Store
  | act a => a.perform s
  | compact ids => s.compact ids
  | move id position => s.move id position

def action? : Turn → Option Action
  | act a => some a
  | _ => none

variable {s t : Store}

theorem perform_repositioned (h : s.Repositioned t) (a : Action) :
    (a.perform s).Repositioned (a.perform t) := by
  induction a using Action.cases_edit with
  | render scope id =>
    obtain ⟨o, u, v, hu, hs, ht⟩ := h.render scope id
    rw [Action.perform, Action.perform, hs, ht, Store.last_leaving, Store.last_leaving]
    exact hu
  | edit a ha =>
    rcases Action.perform_edit_congr ha (h.node a.target) with ⟨hs, ht⟩ | ⟨n, hs, ht⟩
    · rw [hs, ht]
      exact h
    · rw [hs, ht]
      exact h.setNode a.target rfl

/-- A run goes as it does without the turns that renumber nodes. -/
theorem foldl_repositioned (h : s.Repositioned t) (turns : List Turn) :
    (turns.foldl perform s).Repositioned ((turns.filterMap action?).foldl Action.perform t) := by
  induction turns generalizing s t with
  | nil => exact h
  | cons turn turns ih =>
    cases turn with
    | act a => exact ih (perform_repositioned h a)
    | compact ids => exact ih ((Store.repositioned_compact s ids).symm.trans h)
    | move id position => exact ih ((Store.repositioned_move s id position).symm.trans h)

end Turn

namespace Store

variable {s t : Store}

/-- In stores that differ in positions only, nodes are rendered and evaluated with the same outcome, and
stores that differ in positions only are left. The same nodes can change in both. So whatever renumbers
nodes in the course of a run, and whenever it does, every node is rendered as in the run without it. -/
theorem Repositioned.unseen (h : s.Repositioned t) :
    (∀ scope id, Match Repositioned (Store.render scope id s) (Store.render scope id t)) ∧
    (∀ scope ids,
      Match Repositioned (Store.renderNodes scope ids s) (Store.renderNodes scope ids t)) ∧
    (∀ scope id, t.evaluateStatic scope id = s.evaluateStatic scope id) ∧
    (∀ id, t.isInteractive id = s.isInteractive id) ∧
    ∀ turns : List Turn,
      let u := turns.foldl Turn.perform s
      let v := (turns.filterMap Turn.action?).foldl Action.perform t
      u.Repositioned v ∧
        ∀ scope id, outcome (Store.render scope id u) = outcome (Store.render scope id v) := by
  refine ⟨h.render, h.renderNodes, h.evaluateStatic_eq, fun id => ?classified, fun turns => ?run⟩
  case classified => rw [isInteractive, isInteractive, h.size, h.isInteractiveWith_eq]
  case run =>
    have hrun := Turn.foldl_repositioned h turns
    exact ⟨hrun, fun scope id => (hrun.render scope id).outcome_eq.symm⟩

/-- A flattened body at position 7, and a mirror of it. -/
def renumberable : Store :=
  ⟨#[⟨.text ["a"], none⟩, ⟨.group [0], none⟩, ⟨.vacant, none⟩,
    ⟨.dynamic (some (.body 1)) 2, some 7⟩, ⟨.computed (.copy .ok) [3], none⟩]⟩

/-- The mirror builds the flattened body at the one position or the other, and shows the same. After that
the body is renumbered again, which the mirror does not show either. -/
theorem Repositioned.unseen_renumbered :
    let t := renumberable.compact [3, 4]
    renumberable.position? 3 = some 7 ∧ t.position? 3 = some 1 ∧
      Match Repositioned (Store.render Scope.empty 4 renumberable) (Store.render Scope.empty 4 t) ∧
        let turns := [.act (.render Scope.empty 4), .compact [3], .move 3 (some 5),
          .act (.setText 2 (.text "b"))]
        let u := turns.foldl Turn.perform renumberable
        outcome (Store.render Scope.empty 4 u) = .ok ["b"] ∧ u.position? 3 = some 5 := by
  intro t
  obtain ⟨hrender, -, -, -, hrun⟩ := (repositioned_compact renumberable [3, 4]).unseen
  refine ⟨rfl, by decide +kernel, hrender Scope.empty 4, ?_⟩
  intro turns u
  have hu := (hrun turns).2 Scope.empty 4
  exact ⟨hu.trans (by decide +kernel), by decide +kernel⟩

end Store

end Snippet
