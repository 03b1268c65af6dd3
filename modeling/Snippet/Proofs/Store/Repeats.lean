import Snippet.Proofs.Store.Lasting

/-!
Rendering again in the same scope. A dynamic node is built with what it had shown before, or stays as it
is where building it fails. So no rendering can be seen in a later one of that scope, and what
has been rendered is left as it is when it is rendered once more.
-/

namespace Snippet.Store

open Conversion

/-- An empty slot belongs to one dynamic node, and no other node refers to it. What functions of the host may
give is no slot, and there is no cycle through it; this asks for nothing where they give texts. -/
structure Slotted (s : Store) : Prop where
  source : ∀ id n, s.node? id = some n → ∀ x ∈ n.sources, s.node? x ≠ some .vacant
  owner : ∀ d d' r r' slot, s.node? d = some (.dynamic r slot) →
    s.node? d' = some (.dynamic r' slot) → s.node? slot = some .vacant → d = d'
  offers : s.OffersDescend
  offered : ∀ d slot x, s.Offers d slot x → s.node? x ≠ some .vacant

variable {s t : Store} {scope : Scope} {id : NodeId}

/-- Without cycles, the whole store is closed. -/
theorem Slotted.closed (hs : s.Slotted) (h : ∀ id < s.size, s.Acyclic id) :
    s.Closed (fun id => id < s.size) (extent s.MayRefer s.size) := by
  have hstays : ∀ id < s.size, s.StaysAcyclic id := fun id hid => hs.offers.staysAcyclic (h id hid)
  -- What a node refers to, or may refer to, is in the store and ranks lower.
  have lower : ∀ id < s.size, ∀ x, s.MayRefer id x →
      x < s.size ∧ extent s.MayRefer s.size x < extent s.MayRefer s.size id := fun id hid x hx =>
    ⟨(hstays id hid).present x (.single hx), (hstays id hid).extent_lt hx⟩
  refine ⟨fun id hid => exists_node? hid, fun id _ => extent_le_size _ _ _,
    fun id n hid hn x hx => lower id hid x (.inl ⟨n, hn, hx⟩), fun id n _ hn => hs.source id n hn,
    ?owner, fun d slot x hd ho => ?offered⟩
  case owner =>
    intro d d' r r' slot _ _ hd hd' hv
    obtain rfl := hs.owner d d' r r' slot hd hd' hv
    rw [hd] at hd'
    cases hd'
    rfl
  case offered =>
    have hlower := lower d hd x (.inr ⟨slot, ho⟩)
    exact ⟨hlower.1, hlower.2, hs.offered d slot x ho⟩

theorem render_vacant (h : s.node? id = some .vacant) : last (render scope id s) = s := by
  have hrun : render scope id s = renderWith scope (s.size + 1) id s := rfl
  rw [hrun, renderWith_succ, h]
  rfl

/-- A slot, empty or filled, has nothing below it to be built. -/
theorem last_render_slot {part : NodeId → Prop} (ht : s.Settled scope part t)
    (hv : s.node? id = some .vacant) : last (render scope id t) = t := by
  cases ht.node id with
  | same heq => exact render_vacant (heq.trans hv)
  | filled _ _ _ _ hfilled =>
    have hrun : render scope id t = renderWith scope (t.size + 1) id t := rfl
    rw [hrun, renderWith_tabstop hfilled]
    rfl
  | bound _ _ hd =>
    rw [hv] at hd
    cases hd

section Closed

variable {part : NodeId → Prop} {rank : NodeId → Nat}

theorem Settled.render (hc : s.Closed part rank) (ht : s.Settled scope part t) (hp : part id) :
    s.Settled scope part (last (render scope id t)) := by
  by_cases hv : s.node? id = some .vacant
  · rwa [last_render_slot ht hv]
  · obtain ⟨u, hu, hr⟩ := render_eq_view hc hp hv ht
    rwa [hr, last_leaving]

theorem Settled.renderAll (hc : s.Closed part rank) (before : List NodeId)
    (hp : ∀ id ∈ before, part id) (ht : s.Settled scope part t) :
    s.Settled scope part (before.foldl (fun u id => last (Store.render scope id u)) t) := by
  induction before generalizing t with
  | nil => exact ht
  | cons id before ih =>
    exact ih (fun x hx => hp x (by simp [hx])) (ht.render hc (hp id (by simp)))

end Closed

/-- Any rendering in a scope has the outcome that it has at first, whatever else has been rendered in that
scope before. -/
theorem Closed.outcome_again {part : NodeId → Prop} {rank : NodeId → Nat} (hc : s.Closed part rank)
    {x y : NodeId} (hx : part x) (hy : part y) (hxv : s.node? x ≠ some .vacant)
    (hyv : s.node? y ≠ some .vacant) :
    outcome (render scope x (last (render scope y s))) = outcome (render scope x s) := by
  have hstart := Settled.refl s scope part
  obtain ⟨u, -, hr⟩ := render_eq_view hc hx hxv hstart
  obtain ⟨v, hv, hr'⟩ := render_eq_view hc hy hyv hstart
  obtain ⟨w, -, hr''⟩ := render_eq_view hc hx hxv hv
  rw [hr', last_leaving, hr'', hr, outcome_leaving, outcome_leaving]

/-- Whatever has been rendered in a scope before, rendering in that scope has the outcome that it has at
first, and rendering the same nodes once more leaves all nodes as they are. -/
theorem render_again (hs : s.Slotted) (h : ∀ id < s.size, s.Acyclic id) (scope : Scope)
    (before : List NodeId) (hbefore : ∀ id ∈ before, id < s.size) :
    let t := before.foldl (fun u id => last (render scope id u)) s
    (∀ id < s.size, s.node? id ≠ some .vacant →
      outcome (render scope id t) = outcome (render scope id s)) ∧
    ∀ ids : List NodeId, (∀ id ∈ ids, id < s.size ∧ s.node? id ≠ some .vacant) →
      outcome (renderNodes scope ids t) = outcome (renderNodes scope ids s) ∧
        let u := last (renderNodes scope ids t)
        renderNodes scope ids u = leaving (outcome (renderNodes scope ids s)) u := by
  intro t
  have hc := hs.closed h
  have hstart := Settled.refl s scope fun id => id < s.size
  have ht : s.Settled scope (fun id => id < s.size) t := hstart.renderAll hc before hbefore
  constructor
  · intro id hid hv
    obtain ⟨u, -, hr⟩ := render_eq_view hc hid hv hstart
    obtain ⟨u', -, hr'⟩ := render_eq_view hc hid hv ht
    rw [hr, hr', outcome_leaving, outcome_leaving]
  · intro ids hids
    have hsteady := renderNodes_steady scope hc hids
    obtain ⟨v, -, -, hr, -⟩ := hsteady s hstart
    obtain ⟨u, hu, -, hr', hagain⟩ := hsteady t ht
    rw [hr, hr', outcome_leaving, outcome_leaving, last_leaving]
    exact ⟨rfl, hagain u hu (.refl u)⟩

/-- A dynamic node with two nodes that are made from its lines, of which one always fails, and a node that
the host builds with the other one. -/
def shared : Store :=
  ⟨#[⟨.text ["a"], none⟩, ⟨.group [0], none⟩, ⟨.vacant, none⟩,
    ⟨.dynamic (some (.body 1)) 2, some 1⟩, ⟨.computed (fun _ _ => .error .noRebuild) [3], none⟩,
    ⟨.computed (.copy .ok) [3], none⟩, ⟨.vacant, none⟩,
    ⟨.dynamic (some (.host fun _ => .ok (.node 5))) 6, some 2⟩]⟩

theorem shared_offers {d slot x : NodeId} (h : shared.Offers d slot x) : d = 7 ∧ x = 5 := by
  obtain ⟨-, make, scope, hd, hmake⟩ := h
  have hone : ∀ d < 8, ((shared.node? d).getD .vacant).typeName = "DynamicNode" →
      ((shared.node? d).getD .vacant).edges.length = 1 → d = 7 := by decide
  obtain rfl := hone d (lt_size hd) (by rw [hd]; rfl) (by rw [hd]; rfl)
  have hnode : shared.node? 7 = some (.dynamic (some (.host fun _ => .ok (.node 5))) 6) := rfl
  cases hnode.symm.trans hd
  cases hmake
  exact ⟨rfl, rfl⟩

theorem shared_ne_vacant {id : NodeId} (h : id ∉ [2, 6]) : shared.node? id ≠ some .vacant := by
  intro hv
  have hvacant : ∀ id < 8, ((shared.node? id).getD .vacant).typeName = Node.vacant.typeName →
      id ∈ [2, 6] := by decide
  exact h (hvacant id (lt_size hv) (by rw [hv]; rfl))

theorem shared_slotted : shared.Slotted where
  source id n hn x hx := by
    have hsource : ∀ id < 8, ∀ x ∈ ((shared.node? id).getD .vacant).sources, x ∉ [2, 6] := by decide
    exact shared_ne_vacant (hsource id (lt_size hn) x (by rw [hn]; exact hx))
  owner d d' r r' slot hd hd' _ := by
    have hslots : ∀ d < 8, ∀ d' < 8,
        ((shared.node? d).getD .vacant).links = ((shared.node? d').getD .vacant).links →
          ((shared.node? d).getD .vacant).typeName = "DynamicNode" →
            ((shared.node? d').getD .vacant).typeName = "DynamicNode" → d = d' := by decide
    exact hslots d (lt_size hd) d' (lt_size hd') (by rw [hd, hd']; rfl) (by rw [hd]; rfl)
      (by rw [hd']; rfl)
  offers := offersDescend_of_older (by decide) fun d slot x h => by
    obtain ⟨rfl, rfl⟩ := shared_offers h
    decide
  offered d slot x h := by
    obtain ⟨-, rfl⟩ := shared_offers h
    exact shared_ne_vacant (by decide)

/-- The node that fails builds the dynamic node first, and the node of the host's is built with the other
one. -/
theorem render_again_failing :
    let t := [4, 7, 5, 4].foldl (fun u id => last (render Scope.empty id u)) shared
    outcome (render Scope.empty 4 shared) = .error .noRebuild ∧
      outcome (render Scope.empty 7 t) = outcome (render Scope.empty 7 shared) ∧
        let u := last (renderNodes Scope.empty [5, 7, 3] t)
        renderNodes Scope.empty [5, 7, 3] u =
          leaving (outcome (renderNodes Scope.empty [5, 7, 3] shared)) u := by
  have hacyclic : ∀ id < shared.size, shared.Acyclic id := fun id hid =>
    acyclic_of_older (by decide) hid
  have hagain := render_again shared_slotted hacyclic Scope.empty [4, 7, 5, 4] (by decide)
  have hnot : ∀ id ∈ [5, 7, 3], id < shared.size ∧ shared.node? id ≠ some .vacant := fun id hid =>
    ⟨by revert id; decide, shared_ne_vacant (by revert id; decide)⟩
  exact ⟨rfl, hagain.1 7 (by decide) (shared_ne_vacant (by decide)), (hagain.2 [5, 7, 3] hnot).2⟩

end Snippet.Store
