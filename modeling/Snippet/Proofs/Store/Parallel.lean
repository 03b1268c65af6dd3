import Snippet.Proofs.Conversion.Steps
import Snippet.Proofs.Store.Rendering

/-!
Two renderings side by side. Where related stores look the same to rendering on some part, which it does
not leave, and stay related when a dynamic node there is built in both, the nodes of the part have the same
outcome in both, and the stores that are left are related again.
-/

namespace Snippet

/-- The node without its place for a position. Only nodes of the host may have none. -/
def Node.unplaced : Node → Node
  | host type lines _ => host type lines false
  | n => n

/-- The node is no node of the host's. -/
def Node.isOwn : Node → Bool
  | host _ _ _ => false
  | _ => true

theorem Node.unplaced_eq_iff {n m : Node} (hm : m.isOwn) : n.unplaced = m ↔ n = m := by
  cases n with
  | host type lines positioned =>
    constructor
    · rintro rfl
      cases hm
    · rintro rfl
      cases hm
  | _ => exact .rfl

/-- Nodes that are the same but for places are the same node, unless they are the host's. -/
theorem node_iff_of_unplaced {o o' : Option Node} (h : o'.map Node.unplaced = o.map Node.unplaced)
    {n : Node} (hn : n.isOwn) : o' = some n ↔ o = some n := by
  have hmap : ∀ o : Option Node, o.map Node.unplaced = some n ↔ o = some n := by
    intro o
    cases o with
    | none => simp
    | some m => simp [Node.unplaced_eq_iff hn]
  rw [← hmap o', h, hmap o]

namespace Store

open Conversion

theorem last_leaving {α : Type} (r : Except Error α) (t : Store) : last (leaving r t) = t := by
  cases r <;> rfl

theorem outcome_leaving {α : Type} (r : Except Error α) (t : Store) : outcome (leaving r t) = r := by
  cases r <;> rfl

/-- The same outcome, and related stores. -/
def Match {α : Type} (J : Store → Store → Prop) (r r' : EStateM.Result Error Store α) : Prop :=
  ∃ o u u', J u u' ∧ r = leaving o u ∧ r' = leaving o u'

section Match

variable {α β : Type} {J : Store → Store → Prop} {t t' : Store}

theorem match_leaving (h : J t t') (o : Except Error α) : Match J (leaving o t) (leaving o t') :=
  ⟨o, t, t', h, rfl, rfl⟩

theorem match_lift (h : J t t') (o : Except Error α) : Match J (lift o t) (lift o t') := by
  cases o with
  | ok a => exact match_leaving h (.ok a)
  | error e => exact match_leaving h (.error e)

theorem Match.bind {m : Render α} {f : α → Render β} (h : Match J (m t) (m t'))
    (hf : ∀ a u u', J u u' → Match J (f a u) (f a u')) :
    Match J ((m >>= f) t) ((m >>= f) t') := by
  obtain ⟨o, u, u', hu, hm, hm'⟩ := h
  rw [bind_apply, bind_apply, hm, hm']
  cases o with
  | ok a => exact hf a u u' hu
  | error e => exact match_leaving hu (.error e)

theorem Match.mapM {f : α → Render β} {l : List α} (h : J t t')
    (hf : ∀ x ∈ l, ∀ u u', J u u' → Match J (f x u) (f x u')) :
    Match J (l.mapM f t) (l.mapM f t') := by
  induction l generalizing t t' with
  | nil => exact match_leaving h (.ok [])
  | cons x l ih =>
    rw [List.mapM_cons]
    refine (hf x (by simp) t t' h).bind fun b u u' hu => ?_
    refine (ih hu fun y hy => hf y (by simp [hy])).bind fun bs v v' hv => ?_
    exact match_leaving hv (.ok (b :: bs))

end Match

/-- Related stores have the same nodes on a part that rendering does not leave, but for places for
positions. Dynamic nodes of the part are built alike in both, and the stores stay related then. -/
structure Alike (J : Store → Store → Prop) (scope : Scope) (part : NodeId → Prop) : Prop where
  node : ∀ {t t' id}, J t t' → part id →
    (t'.node? id).map Node.unplaced = (t.node? id).map Node.unplaced
  link : ∀ {t t' id n}, J t t' → part id → t.node? id = some n → ∀ x ∈ n.links, part x
  rebuilt : ∀ {t t' id rebuild slot}, J t t' → part id →
    t.node? id = some (.dynamic rebuild slot) → t.node? slot = some .vacant →
      t'.rebuilt scope rebuild = t.rebuilt scope rebuild
  fill : ∀ {t t' id rebuild slot filling}, J t t' → part id →
    t.node? id = some (.dynamic rebuild slot) → t.node? slot = some .vacant →
      t.rebuilt scope rebuild = .ok filling →
        J (t.fill id slot filling) (t'.fill id slot filling)

/-- A step of rendering does not see places for positions. -/
theorem renderNode_of_unplaced {scope : Scope} {below : NodeId → Render Lines} {id : NodeId}
    {o o' : Option Node} (h : o'.map Node.unplaced = o.map Node.unplaced) :
    renderNode scope below id (o'.getD .vacant) = renderNode scope below id (o.getD .vacant) := by
  have hstep : ∀ n, renderNode scope below id n = renderNode scope below id n.unplaced := by
    intro n
    cases n <;> rfl
  have hgetD : ∀ o : Option Node, (o.getD .vacant).unplaced = (o.map Node.unplaced).getD .vacant := by
    intro o
    cases o <;> rfl
  rw [hstep, hgetD, h, ← hgetD, ← hstep]

section Alike

variable {J : Store → Store → Prop} {scope : Scope} {part : NodeId → Prop} {t t' : Store}
  {id slot : NodeId} {rebuild : Option Rebuild}

theorem Alike.renderWith (hJ : Alike J scope part) (fuel : Nat) (hp : part id) (h : J t t') :
    Match J (renderWith scope fuel id t) (renderWith scope fuel id t') := by
  induction fuel generalizing id t t' with
  | zero => exact match_leaving h (.error .cyclic)
  | succ fuel ih =>
    rw [renderWith_succ, renderWith_succ, renderNode_of_unplaced (hJ.node h hp)]
    cases hn : t.node? id with
    | none => exact match_leaving h (.error _)
    | some n =>
      have below : ∀ x ∈ n.links, ∀ u u', J u u' →
          Match J (Store.renderWith scope fuel x u) (Store.renderWith scope fuel x u') :=
        fun x hx u u' hu => ih (hJ.link h hp hn x hx) hu
      rw [Option.getD_some]
      cases n with
      | choice choices index => exact match_lift h _
      | computed fn dependencies =>
        refine (Match.mapM h below).bind fun args u u' hu => ?_
        exact (match_lift hu (fn args scope)).bind fun value v v' hv =>
          match_leaving hv (.ok value.toLines)
      | dynamic rebuild slot =>
        have hslot := hJ.link h hp hn slot (by simp [Node.links])
        have hvac := node_iff_of_unplaced (hJ.node h hslot) (n := .vacant) rfl
        simp only [renderNode, bind_apply]
        by_cases hs : t.node? slot = some .vacant
        · have hrebuilt := hJ.rebuilt h hp hn hs
          cases hr : t.rebuilt scope rebuild with
          | error e =>
            rw [build_fails hs hr, build_fails (hvac.mpr hs) (hrebuilt.trans hr)]
            exact match_leaving h (.error e)
          | ok filling =>
            rw [build_vacant hs hr, build_vacant (hvac.mpr hs) (hrebuilt.trans hr)]
            have hfill := hJ.fill h hp hn hs hr
            cases filling with
            | text content => exact ih hslot hfill
            | node target =>
              have hbound := node?_fill_bound hn slot target
              exact ih (hJ.link hfill hp hbound target (by simp [Node.links])) hfill
        · rw [build_built hs, build_built fun hs' => hs (hvac.mp hs')]
          exact ih hslot h
      | group children =>
        exact (Match.mapM h below).bind fun lines u u' hu => match_leaving hu (.ok _)
      | wrap child indent =>
        refine (below child (by simp [Node.links]) t t' h).bind fun lines u u' hu => ?_
        exact match_leaving hu (.ok _)
      | host type lines positioned => exact match_lift h _
      | bound target => exact below target (by simp [Node.links]) t t' h
      | row members => exact match_leaving h (.error _)
      | vacant => exact match_leaving h (.error _)
      | _ => exact match_leaving h (.ok _)

theorem Alike.render (hJ : Alike J scope part) (hsize : t'.size = t.size) (hp : part id)
    (h : J t t') : Match J (render scope id t) (render scope id t') := by
  have hrun : ∀ u, Store.render scope id u = Store.renderWith scope (u.size + 1) id u := fun _ => rfl
  rw [hrun, hrun, hsize]
  exact hJ.renderWith _ hp h

end Alike

/-! ## What rendering writes -/

/-- What becomes of the node `id` where dynamic nodes are built. -/
inductive FilledAt (s t : Store) (id : NodeId) : Prop
  | same (node : t.node? id = s.node? id)
  | text (content : String) (vacant : s.node? id = some .vacant)
      (node : t.node? id = some (.tabstop (some content) none))
  | bound {slot target : NodeId} (offer : s.Offers id slot target)
      (node : t.node? id = some (.bound target))

/-- The store `t` is `s` with some dynamic nodes built. -/
structure Filled (s t : Store) : Prop where
  size : t.size = s.size
  node : ∀ id, s.FilledAt t id
  position : ∀ id, s.node? id ≠ some .vacant → t.position? id = s.position? id

section Filled

variable {s t u : Store} {id slot : NodeId} {rebuild : Option Rebuild} {scope : Scope}

theorem Filled.refl (s : Store) : s.Filled s :=
  ⟨rfl, fun _ => .same rfl, fun _ _ => rfl⟩

theorem Filled.node_eq (h : s.Filled t) {n : Node} (hn : s.node? id = some n) (hl : s.Lasting n) :
    t.node? id = some n := by
  cases h.node id with
  | same heq => rw [heq, hn]
  | text _ hv =>
    rw [hn] at hv
    cases hv
    exact hl.elim
  | bound ho =>
    obtain ⟨hv, make, _, hd, -⟩ := ho
    rw [hn] at hd
    cases hd
    exact absurd hv hl

/-- The node that stands for a static body stands for it for good. -/
theorem Filled.body (h : s.Filled t) {body : NodeId}
    (hn : s.node? id = some (.dynamic (some (.body body)) slot)) :
    t.node? id = some (.dynamic (some (.body body)) slot) := by
  cases h.node id with
  | same heq => rw [heq, hn]
  | text _ hv =>
    rw [hn] at hv
    cases hv
  | bound ho =>
    obtain ⟨-, make, _, hd, -⟩ := ho
    rw [hn] at hd
    cases hd

/-- What is a dynamic node after it, was the same one before. -/
theorem Filled.dynamic (h : s.Filled t) (hn : t.node? id = some (.dynamic rebuild slot)) :
    s.node? id = some (.dynamic rebuild slot) := by
  cases h.node id with
  | same heq => rw [← heq, hn]
  | text _ _ hb =>
    rw [hn] at hb
    cases hb
  | bound _ hb =>
    rw [hn] at hb
    cases hb

theorem Filled.vacant_of_vacant (h : s.Filled t) (hv : t.node? id = some .vacant) :
    s.node? id = some .vacant := by
  cases h.node id with
  | same heq => rw [← heq, hv]
  | text _ hvac => exact hvac
  | bound _ hb =>
    rw [hv] at hb
    cases hb

theorem Filled.offers (h : s.Filled t) {x : NodeId} (ho : t.Offers id slot x) : s.Offers id slot x := by
  obtain ⟨hv, make, scope, hd, hmake⟩ := ho
  exact ⟨h.vacant_of_vacant hv, make, scope, h.dynamic hd, hmake⟩

theorem Filled.trans (h : s.Filled t) (h' : t.Filled u) : s.Filled u where
  size := h'.size.trans h.size
  node id := by
    cases h'.node id with
    | same heq =>
      cases h.node id with
      | same heq' => exact .same (heq.trans heq')
      | text content hv hb => exact .text content hv (heq.trans hb)
      | bound ho hb => exact .bound ho (heq.trans hb)
    | text content hv hb => exact .text content (h.vacant_of_vacant hv) hb
    | bound ho hb => exact .bound (h.offers ho) hb
  position id hv := by
    have hne : t.node? id ≠ some .vacant := fun he => hv (h.vacant_of_vacant he)
    rw [h'.position id hne, h.position id hv]

theorem filled_fill {filling : Filling} (hd : s.node? id = some (.dynamic rebuild slot))
    (hs : s.node? slot = some .vacant) (hr : s.rebuilt scope rebuild = .ok filling) :
    s.Filled (s.fill id slot filling) where
  size := by simp
  node x := by
    cases filling with
    | text content =>
      by_cases hx : slot = x
      · subst hx
        exact .text content hs (node?_fill_slot hs id content)
      · exact .same (by rw [node?_fill_text, if_neg hx])
    | node target =>
      by_cases hx : id = x
      · subst hx
        exact .bound (offers_of_rebuilt hd hs hr) (node?_fill_bound hd slot target)
      · exact .same (by rw [node?_fill_node, if_neg hx])
  position x hv := by
    cases filling with
    | text content =>
      have hx : ¬(slot = x ∧ slot < s.size) := by
        rintro ⟨rfl, -⟩
        exact hv hs
      rw [position?_fill_text, if_neg hx]
    | node target => simp

theorem Filled.fill (h : s.Filled t) {filling : Filling}
    (hd : t.node? id = some (.dynamic rebuild slot)) (hs : t.node? slot = some .vacant)
    (hr : t.rebuilt scope rebuild = .ok filling) : s.Filled (t.fill id slot filling) :=
  h.trans (filled_fill hd hs hr)

theorem filled_build (scope : Scope) (hd : s.node? id = some (.dynamic rebuild slot)) :
    s.Filled (last (build id rebuild slot scope s)) := by
  by_cases hs : s.node? slot = some .vacant
  · cases hr : s.rebuilt scope rebuild with
    | error e =>
      rw [build_fails hs hr]
      exact Filled.refl s
    | ok filling =>
      rw [build_vacant hs hr]
      exact filled_fill hd hs hr
  · rw [build_built hs]
    exact Filled.refl s

/-- Rendering builds dynamic nodes at most. -/
theorem filled_renderWith (scope : Scope) (fuel : Nat) (id : NodeId) (s : Store) :
    s.Filled (last (renderWith scope fuel id s)) := by
  -- Of two runs from the same store nothing is to be said but that they build nodes of `s`.
  have hJ : Alike (fun t t' => t' = t ∧ s.Filled t) scope fun _ => True := {
    node := fun h _ => by rw [h.1]
    link := fun _ _ _ _ _ => trivial
    rebuilt := fun h _ _ _ => by rw [h.1]
    fill := fun h _ hn hs hr => ⟨by rw [h.1], h.2.fill hn hs hr⟩ }
  have hmatch : Match _ (renderWith scope fuel id s) (renderWith scope fuel id s) :=
    hJ.renderWith fuel trivial ⟨rfl, Filled.refl s⟩
  obtain ⟨o, u, u', ⟨rfl, hu⟩, hr, -⟩ := hmatch
  rw [hr]
  cases o <;> exact hu

theorem filled_render (scope : Scope) (id : NodeId) (s : Store) :
    s.Filled (last (render scope id s)) :=
  filled_renderWith scope (s.size + 1) id s

end Filled

end Store

end Snippet
