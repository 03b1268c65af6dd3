import Snippet.Proofs.State
import Snippet.Proofs.Store.View

/-!
Rendering is reading. On a closed part of a store, rendering a node gives its view, and the one thing
it does to the store is to build dynamic nodes of that part, each with what it had shown before. So what has
been rendered in a scope shows in no later rendering in that scope.
-/

namespace Snippet.Store

/-- The end of a computation, from its outcome and the store it leaves. -/
def leaving {α : Type} (r : Except Error α) (t : Store) : EStateM.Result Error Store α :=
  match r with
  | .ok a => .ok a t
  | .error e => .error e t

/-- What becomes of the node `id` where dynamic nodes of a part are built in a scope. -/
inductive Settles (s : Store) (scope : Scope) (part : NodeId → Prop) (t : Store) (id : NodeId) : Prop
  | same (node : t.node? id = s.node? id)
  | filled {d : NodeId} {rebuild : Option Rebuild} {content : String} (vacant : s.node? id = some .vacant)
      (inside : part d) (dynamic : s.node? d = some (.dynamic rebuild id))
      (rebuilt : s.rebuilt scope rebuild = .ok (.text content))
      (node : t.node? id = some (.tabstop (some content) none))
  | bound {rebuild : Option Rebuild} {slot target : NodeId} (vacant : s.node? slot = some .vacant)
      (inside : part id) (dynamic : s.node? id = some (.dynamic rebuild slot))
      (rebuilt : s.rebuilt scope rebuild = .ok (.node target)) (node : t.node? id = some (.bound target))

/-- The store `t` is `s` with some dynamic nodes of a part built in a scope. -/
structure Settled (s : Store) (scope : Scope) (part : NodeId → Prop) (t : Store) : Prop where
  size : t.size = s.size
  node : ∀ id, s.Settles scope part t id

variable {s t : Store} {scope : Scope} {part : NodeId → Prop} {rank : NodeId → Nat} {id : NodeId}

theorem Settled.refl (s : Store) (scope : Scope) (part : NodeId → Prop) :
    s.Settled scope part s :=
  ⟨rfl, fun _ => .same rfl⟩

theorem Settled.node_eq (h : s.Settled scope part t) {n : Node} (hn : s.node? id = some n)
    (hl : s.Lasting n) : t.node? id = some n := by
  cases h.node id with
  | same heq => rw [heq, hn]
  | filled hv =>
    rw [hn] at hv
    cases hv
    exact hl.elim
  | bound hv _ hd =>
    rw [hn] at hd
    cases hd
    exact absurd hv hl

theorem Settled.vacant_of_vacant (h : s.Settled scope part t) (hv : t.node? id = some .vacant) :
    s.node? id = some .vacant := by
  cases h.node id with
  | same heq => rw [← heq, hv]
  | filled hvac => exact hvac
  | bound _ _ _ _ hb =>
    rw [hv] at hb
    cases hb

/-! ## Static evaluation does not see slots -/

theorem evaluateWith_settled (hc : s.Closed part rank) (h : s.Settled scope part t)
    (scope' : Scope) (fuel : Nat) (hp : part id) (hv : s.node? id ≠ some .vacant) :
    t.evaluateWith scope' fuel id = s.evaluateWith scope' fuel id := by
  -- Sources are no slots, so what is evaluated has not been filled in the meantime.
  induction fuel generalizing id with
  | zero => rfl
  | succ fuel ih =>
    obtain ⟨n, hn⟩ := hc.present id hp
    have below : ∀ x ∈ n.sources,
        t.evaluateWith scope' fuel x = s.evaluateWith scope' fuel x := by
      intro x hx
      have hs := hc.sources hp hn hx
      exact ih hs.1 hs.2.2
    cases h.node id with
    | same heq =>
      simp only [evaluateWith, heq, hn]
      cases n with
      | computed fn dependencies => cases dependencies <;> rfl
      | group children =>
        have hm : children.mapM (t.evaluateWith scope' fuel) =
            children.mapM (s.evaluateWith scope' fuel) := mapM_congr below
        simp only [hm]
      | wrap child indent =>
        have hw := below child (by simp [Node.sources])
        simp only [hw]
      | _ => rfl
    | filled hvac => exact absurd hvac hv
    | bound _ _ hd _ hb =>
      -- Built or not, a dynamic node is not evaluated.
      simp only [evaluateWith, hd, hb]
      rfl

theorem rebuilt_settled (hc : s.Closed part rank) (h : s.Settled scope part t)
    {rebuild : Option Rebuild} {slot : NodeId} (hp : part id)
    (hn : s.node? id = some (.dynamic rebuild slot)) :
    t.rebuilt scope rebuild = s.rebuilt scope rebuild := by
  match rebuild with
  | none => rfl
  | some (.host make) => rfl
  | some (.body group) =>
    have hg := hc.sources (x := group) hp hn (by simp [Node.sources])
    rw [rebuilt, rebuilt, evaluateStatic, evaluateStatic, h.size,
      evaluateWith_settled hc h scope _ hg.1 hg.2.2]

/-! ## Building -/

theorem build_vacant {rebuild : Option Rebuild} {slot : NodeId} {filling : Filling}
    (hs : s.node? slot = some .vacant) (hr : s.rebuilt scope rebuild = .ok filling) :
    build id rebuild slot scope s = .ok (place slot filling) (s.fill id slot filling) := by
  simp [build, bind, EStateM.bind, get_apply, hs, hr, lift, pure, EStateM.pure, set_apply]

theorem build_fails {rebuild : Option Rebuild} {slot : NodeId} {e : Error}
    (hs : s.node? slot = some .vacant) (hr : s.rebuilt scope rebuild = .error e) :
    build id rebuild slot scope s = .error e s := by
  simp [build, bind, EStateM.bind, get_apply, hs, hr, lift, throw_apply]

theorem build_built {rebuild : Option Rebuild} {slot : NodeId}
    (hs : s.node? slot ≠ some .vacant) : build id rebuild slot scope s = .ok slot s := by
  simp only [build, bind, EStateM.bind, get_apply]
  cases hn : s.node? slot with
  | none => rfl
  | some n =>
    cases n with
    | vacant => exact absurd hn hs
    | _ => rfl

theorem node?_fill_slot {slot : NodeId} (hs : s.node? slot = some .vacant) (id : NodeId)
    (content : String) :
    (s.fill id slot (.text content)).node? slot = some (.tabstop (some content) none) := by
  rw [node?_fill_text, if_pos rfl, hs]
  rfl

theorem node?_fill_bound {n : Node} (hn : s.node? id = some n) (slot target : NodeId) :
    (s.fill id slot (.node target)).node? id = some (.bound target) := by
  rw [node?_fill_node, if_pos rfl, hn]
  rfl

theorem Settles.congr {u : Store} (h : s.Settles scope part t id) (heq : u.node? id = t.node? id) :
    s.Settles scope part u id := by
  cases h with
  | same h => exact .same (heq.trans h)
  | filled hv hd hn hr h => exact .filled hv hd hn hr (heq.trans h)
  | bound hv hd hn hr h => exact .bound hv hd hn hr (heq.trans h)

/-- Building a node that is not built yet settles the store further. -/
theorem Settled.fill (h : s.Settled scope part t) {slot : NodeId} {rebuild : Option Rebuild}
    {filling : Filling} (hp : part id) (hn : s.node? id = some (.dynamic rebuild slot))
    (ht : t.node? id = some (.dynamic rebuild slot)) (hs : t.node? slot = some .vacant)
    (hr : s.rebuilt scope rebuild = .ok filling) :
    s.Settled scope part (t.fill id slot filling) := by
  have hv := h.vacant_of_vacant hs
  refine ⟨by simp [h.size], fun x => ?_⟩
  cases filling with
  | text content =>
    by_cases hx : slot = x
    · subst hx
      exact .filled hv hp hn hr (node?_fill_slot hs id content)
    · exact (h.node x).congr (by rw [node?_fill_text, if_neg hx])
  | node target =>
    by_cases hx : id = x
    · subst hx
      exact .bound hv hp hn hr (node?_fill_bound ht slot target)
    · exact (h.node x).congr (by rw [node?_fill_node, if_neg hx])

/-! ## Steady computations -/

/-- What is built in `t` is built in `u`. -/
structure BuiltIn (t u : Store) : Prop where
  filled : ∀ id, u.node? id = some .vacant → t.node? id = some .vacant
  bound : ∀ id target, t.node? id = some (.bound target) → u.node? id = some (.bound target)

theorem BuiltIn.refl (t : Store) : t.BuiltIn t := ⟨fun _ h => h, fun _ _ h => h⟩

theorem BuiltIn.trans {u : Store} (h : s.BuiltIn t) (h' : t.BuiltIn u) : s.BuiltIn u :=
  ⟨fun id hv => h.filled id (h'.filled id hv), fun id x hb => h'.bound id x (h.bound id x hb)⟩

theorem builtIn_fill {rebuild : Option Rebuild} {slot : NodeId}
    (hn : t.node? id = some (.dynamic rebuild slot)) (hs : t.node? slot = some .vacant)
    (filling : Filling) : t.BuiltIn (t.fill id slot filling) := by
  cases filling with
  | text content =>
    refine ⟨fun x hx => ?_, fun x target hx => ?_⟩
    · rw [node?_fill_text] at hx
      split at hx
      · next he => exact he ▸ hs
      · exact hx
    · have hne : slot ≠ x := by
        rintro rfl
        rw [hs] at hx
        cases hx
      rwa [node?_fill_text, if_neg hne]
  | node y =>
    refine ⟨fun x hx => ?_, fun x target hx => ?_⟩
    · rw [node?_fill_node] at hx
      split at hx
      · next he =>
        rw [← he, hn] at hx
        cases hx
      · exact hx
    · have hne : id ≠ x := by
        rintro rfl
        rw [hn] at hx
        cases hx
      rwa [node?_fill_node, if_neg hne]

/-- From every store of a kind the computation has the outcome `r`. Where all is built that it builds,
it has that outcome as well, and leaves the store as it is. -/
def Steady {α : Type} (P : Store → Prop) (m : Render α) (r : Except Error α) : Prop :=
  ∀ t, P t → ∃ u, P u ∧ t.BuiltIn u ∧ m t = leaving r u ∧
    ∀ v, P v → u.BuiltIn v → m v = leaving r v

section Steady

variable {α β : Type} {P : Store → Prop} {m m' : Render α} {r : Except Error α}

theorem steady_of_leaving (h : ∀ t, P t → m t = leaving r t) : Steady P m r :=
  fun t ht => ⟨t, ht, .refl t, h t ht, fun v hv _ => h v hv⟩

theorem steady_pure (a : α) : Steady P (pure a) (.ok a) :=
  steady_of_leaving fun _ _ => rfl

theorem steady_throw (e : Error) : Steady P (throw e : Render α) (.error e) :=
  steady_of_leaving fun _ _ => rfl

theorem steady_lift (r : Except Error α) : Steady P (lift r) r := by
  cases r with
  | ok a => exact steady_pure a
  | error e => exact steady_throw e

theorem Steady.congr (h : Steady P m' r) (he : ∀ t, P t → m t = m' t) : Steady P m r := by
  intro t ht
  obtain ⟨u, hu, hb, hm, hagain⟩ := h t ht
  exact ⟨u, hu, hb, (he t ht).trans hm, fun v hv hbv => (he v hv).trans (hagain v hv hbv)⟩

theorem Steady.bind {f : α → Render β} {g : α → Except Error β} (h : Steady P m r)
    (hf : ∀ a, Steady P (f a) (g a)) : Steady P (m >>= f) (r >>= g) := by
  intro t ht
  obtain ⟨u, hu, hb, hm, hagain⟩ := h t ht
  simp only [Bind.bind, EStateM.bind]
  cases r with
  | error e =>
    refine ⟨u, hu, hb, by rw [hm]; rfl, fun v hv hbv => ?_⟩
    rw [hagain v hv hbv]
    rfl
  | ok a =>
    obtain ⟨w, hw, hbw, hfw, hagain'⟩ := hf a u hu
    refine ⟨w, hw, hb.trans hbw, by rw [hm]; exact hfw, fun v hv hbv => ?_⟩
    -- What the first part builds is built in `w`, and so it is in `v`.
    rw [hagain v hv (hbw.trans hbv)]
    exact hagain' v hv hbv

theorem Steady.map (h : Steady P m r) (f : α → β) :
    Steady P (do return f (← m)) (r.map f) := by
  have hbind := h.bind fun a => steady_pure (P := P) (f a)
  cases r <;> exact hbind

theorem Steady.mapM {f : α → Except Error β} {g : α → Render β} {l : List α}
    (h : ∀ x ∈ l, Steady P (g x) (f x)) : Steady P (l.mapM g) (l.mapM f) := by
  induction l with
  | nil => exact steady_pure []
  | cons x l ih =>
    rw [List.mapM_cons, List.mapM_cons]
    have htail := ih fun y hy => h y (by simp [hy])
    exact (h x (by simp)).bind fun b => htail.bind fun bs => steady_pure (b :: bs)

end Steady

/-! ## Rendering -/

/-- One step of rendering, given how the nodes are rendered that a node refers to. -/
def renderNode (scope : Scope) (below : NodeId → Render Lines) (id : NodeId) : Node → Render Lines
  | .text lines => return lines
  | .tabstop default text => return Node.tabstopLines default text
  | .choice choices index => lift (Node.selected choices index)
  | .computed fn dependencies => do
      let args ← dependencies.mapM below
      return (← lift (fn args scope)).toLines
  | .dynamic rebuild slot => do below (← build id rebuild slot scope)
  | .group children => return Lines.concat (← children.mapM below)
  | .wrap child indent => return indent.apply scope.indent (← below child)
  | .host _ lines _ => lift (lines scope)
  | .bound target => below target
  | n => throw (.unsupported n.typeName "render")

theorem renderWith_succ (scope : Scope) (fuel : Nat) (id : NodeId) (s : Store) :
    renderWith scope (fuel + 1) id s =
      renderNode scope (renderWith scope fuel) id ((s.node? id).getD .vacant) s := by
  simp only [renderWith, bind, EStateM.bind, get_apply]
  cases hn : s.node? id with
  | none => rfl
  | some n => cases n <;> rfl

theorem renderWith_tabstop {fuel : Nat} {default : Option String} {text : Option Lines}
    (hn : s.node? id = some (.tabstop default text)) :
    renderWith scope (fuel + 1) id s = .ok (Node.tabstopLines default text) s := by
  rw [renderWith_succ, hn]
  rfl

theorem renderWith_bound {fuel : Nat} {target : NodeId} (hn : s.node? id = some (.bound target)) :
    renderWith scope (fuel + 1) id s = renderWith scope fuel target s := by
  rw [renderWith_succ, hn]
  rfl

section Dynamic

variable {fuel : Nat} {rebuild : Option Rebuild} {slot : NodeId}

theorem renderWith_built (hn : s.node? id = some (.dynamic rebuild slot))
    (hs : s.node? slot ≠ some .vacant) :
    renderWith scope (fuel + 1) id s = renderWith scope fuel slot s := by
  rw [renderWith_succ, hn]
  simp only [Option.getD_some, renderNode, bind, EStateM.bind, build_built hs]

theorem renderWith_unbuilt {filling : Filling} (hn : s.node? id = some (.dynamic rebuild slot))
    (hs : s.node? slot = some .vacant) (hr : s.rebuilt scope rebuild = .ok filling) :
    renderWith scope (fuel + 1) id s =
      renderWith scope fuel (place slot filling) (s.fill id slot filling) := by
  rw [renderWith_succ, hn]
  simp only [Option.getD_some, renderNode, bind, EStateM.bind, build_vacant hs hr]

theorem renderWith_fails {e : Error} (hn : s.node? id = some (.dynamic rebuild slot))
    (hs : s.node? slot = some .vacant) (hr : s.rebuilt scope rebuild = .error e) :
    renderWith scope (fuel + 1) id s = .error e s := by
  rw [renderWith_succ, hn]
  simp only [Option.getD_some, renderNode, bind, EStateM.bind, build_fails hs hr]

/-- What has become of a dynamic node that was not built: it is not built yet, its slot has been filled, or it
is bound to another node. -/
inductive Stage (s : Store) (scope : Scope) (id slot : NodeId) (rebuild : Option Rebuild) (t : Store) : Prop
  | unbuilt (node : t.node? id = some (.dynamic rebuild slot)) (vacant : t.node? slot = some .vacant)
  | filled {content : String} (rebuilt : s.rebuilt scope rebuild = .ok (.text content))
      (node : t.node? id = some (.dynamic rebuild slot))
      (filled : t.node? slot = some (.tabstop (some content) none))
  | bound {target : NodeId} (rebuilt : s.rebuilt scope rebuild = .ok (.node target))
      (node : t.node? id = some (.bound target))

section Unbuilt

variable (hc : s.Closed part rank) (hp : part id) (hn : s.node? id = some (.dynamic rebuild slot))
  (hs : s.node? slot = some .vacant)

include hc hp hn hs

theorem Settled.stage (h : s.Settled scope part t) : s.Stage scope id slot rebuild t := by
  cases h.node id with
  | same hid =>
    rw [hn] at hid
    cases h.node slot with
    | same heq => exact .unbuilt hid (heq.trans hs)
    | @filled d rebuild' content _ hd hnd hr hfilled =>
      -- The slot has one source.
      obtain rfl := hc.owner d id rebuild' rebuild slot hd hp hnd hn hs
      exact .filled hr hid hfilled
    | bound _ _ hd =>
      rw [hs] at hd
      cases hd
  | filled hv =>
    rw [hn] at hv
    cases hv
  | bound _ _ hd hr hb =>
    rw [hn] at hd
    cases hd
    exact .bound hr hb

theorem failing_steady {e : Error} (hr : s.rebuilt scope rebuild = .error e) :
    Steady (s.Settled scope part) (renderWith scope (fuel + 1) id) (.error e) := by
  refine steady_of_leaving fun t ht => ?_
  cases ht.stage hc hp hn hs with
  | unbuilt hid hslot => exact renderWith_fails hid hslot ((rebuilt_settled hc ht hp hn).trans hr)
  | filled hok => cases hr.symm.trans hok
  | bound hok => cases hr.symm.trans hok

/-- The text goes into the slot, and shows from there ever after. -/
theorem filling_steady {content : String} (hr : s.rebuilt scope rebuild = .ok (.text content)) :
    Steady (s.Settled scope part) (renderWith scope (fuel + 2) id) (.ok (Lines.ofText content)) := by
  have built : ∀ v, s.Settled scope part v → v.node? slot ≠ some .vacant →
      renderWith scope (fuel + 2) id v = .ok (Lines.ofText content) v := by
    intro v hv hslot
    cases hv.stage hc hp hn hs with
    | unbuilt _ hvac => exact absurd hvac hslot
    | filled hok hid hfilled =>
      cases hr.symm.trans hok
      rw [renderWith_built hid hslot, renderWith_tabstop hfilled]
      rfl
    | bound hok => cases hr.symm.trans hok
  intro t ht
  by_cases hslot : t.node? slot = some .vacant
  · cases ht.stage hc hp hn hs with
    | unbuilt hid =>
      have hfilled := node?_fill_slot hslot id content
      refine ⟨_, ht.fill hp hn hid hslot hr, builtIn_fill hid hslot _, ?_, fun v hv hb => ?_⟩
      · rw [renderWith_unbuilt hid hslot ((rebuilt_settled hc ht hp hn).trans hr), place,
          renderWith_tabstop hfilled]
        rfl
      · -- Nothing empties a slot again.
        refine built v hv fun hvac => ?_
        rw [hb.filled slot hvac] at hfilled
        cases hfilled
    | filled _ _ hfilled =>
      rw [hslot] at hfilled
      cases hfilled
    | bound hok => cases hr.symm.trans hok
  · exact ⟨t, ht, .refl t, built t ht hslot, fun v hv hb =>
      built v hv fun hvac => hslot (hb.filled slot hvac)⟩

/-- The node is bound to the other one, and is rendered as that one is ever after. -/
theorem binding_steady {target : NodeId} (hr : s.rebuilt scope rebuild = .ok (.node target))
    (hshown : Steady (s.Settled scope part) (renderWith scope fuel target) (s.view scope target)) :
    Steady (s.Settled scope part) (renderWith scope (fuel + 1) id) (s.view scope target) := by
  intro t ht
  cases ht.stage hc hp hn hs with
  | unbuilt hid hslot =>
    have hbound := node?_fill_bound hid slot target
    obtain ⟨u, hu, hb, hru, hagain⟩ := hshown _ (ht.fill hp hn hid hslot hr)
    refine ⟨u, hu, (builtIn_fill hid hslot _).trans hb, ?_, fun v hv hbv => ?_⟩
    · rw [renderWith_unbuilt hid hslot ((rebuilt_settled hc ht hp hn).trans hr)]
      exact hru
    · rw [renderWith_bound (hbv.bound id target (hb.bound id target hbound))]
      exact hagain v hv hbv
  | filled hok => cases hr.symm.trans hok
  | bound hok hbound =>
    cases hr.symm.trans hok
    obtain ⟨u, hu, hb, hru, hagain⟩ := hshown t ht
    refine ⟨u, hu, hb, (renderWith_bound hbound).trans hru, fun v hv hbv => ?_⟩
    rw [renderWith_bound (hbv.bound id target (hb.bound id target hbound))]
    exact hagain v hv hbv

/-- A dynamic node that is not built in `s` is built by the first rendering that succeeds, and shows what
it has been built with from then on. -/
theorem unbuilt_steady
    (offered : ∀ x, s.Offers id slot x →
      Steady (s.Settled scope part) (renderWith scope (fuel + 1) x) (s.view scope x)) :
    Steady (s.Settled scope part) (renderWith scope (fuel + 2) id)
      (do (← s.rebuilt scope rebuild).shown (s.view scope)) := by
  cases hr : s.rebuilt scope rebuild with
  | error e => exact failing_steady hc hp hn hs hr
  | ok filling =>
    cases filling with
    | text content => exact filling_steady hc hp hn hs hr
    | node target =>
      exact binding_steady hc hp hn hs hr (offered target (offers_of_rebuilt hn hs hr))

end Unbuilt

end Dynamic

/-- In a store that some renderings in the scope have settled, rendering still gives the view of the
node in the store before them. -/
theorem renderWith_steady (hc : s.Closed part rank) {fuel : Nat} (hp : part id)
    (hv : s.node? id ≠ some .vacant) (hf : rank id < fuel) :
    Steady (s.Settled scope part) (renderWith scope fuel id) (s.view scope id) := by
  induction fuel generalizing id with
  | zero => omega
  | succ fuel ih =>
    obtain ⟨n, hn⟩ := hc.present id hp
    rw [view_eq hc hp hn]
    have step : s.Lasting n → ∀ t, s.Settled scope part t →
        renderWith scope (fuel + 1) id t = renderNode scope (renderWith scope fuel) id n t := by
      intro hl t ht
      rw [renderWith_succ, ht.node_eq hn hl]
      rfl
    have sources : ∀ x ∈ n.sources,
        Steady (s.Settled scope part) (renderWith scope fuel x) (s.view scope x) := by
      intro x hx
      have hs := hc.sources hp hn hx
      exact ih hs.1 hs.2.2 (by omega)
    cases n with
    | choice choices index => exact (steady_lift _).congr (step trivial)
    | computed fn dependencies =>
      refine Steady.congr ?_ (step trivial)
      refine (Steady.mapM sources).bind fun args => ?_
      exact (steady_lift (fn args scope)).bind fun value => steady_pure _
    | dynamic rebuild slot =>
      have hslot := hc.slot hp hn
      by_cases hvac : s.node? slot = some .vacant
      · obtain ⟨fuel, rfl⟩ : ∃ k, fuel = k + 1 := ⟨fuel - 1, by omega⟩
        rw [showing_unbuilt hvac]
        refine unbuilt_steady hc hp hn hvac fun x hx => ?_
        have ho := hc.offered id slot x hp hx
        exact ih ho.1 ho.2.2 (by omega)
      · rw [showing_built hvac]
        refine Steady.congr (ih hslot.1 hvac (by omega)) fun t ht => ?_
        have hbuilt : t.node? slot ≠ some .vacant := fun hv => hvac (ht.vacant_of_vacant hv)
        exact renderWith_built (ht.node_eq hn hvac) hbuilt
    | group children => exact ((Steady.mapM sources).map Lines.concat).congr (step trivial)
    | wrap child indent =>
      exact ((sources child (by simp [Node.sources])).map _).congr (step trivial)
    | host type lines positioned => exact (steady_lift _).congr (step trivial)
    | bound target => exact (sources target (by simp [Node.sources])).congr (step trivial)
    | row members => exact (steady_throw _).congr (step trivial)
    | vacant => exact absurd hn hv
    | _ => exact (steady_pure _).congr (step trivial)

theorem render_steady (hc : s.Closed part rank) (hp : part id)
    (hv : s.node? id ≠ some .vacant) :
    Steady (s.Settled scope part) (render scope id) (s.view scope id) := by
  have hb := hc.bounded id hp
  refine Steady.congr (renderWith_steady hc hp hv (Nat.lt_succ_of_le hb)) fun t ht => ?_
  rw [← ht.size]
  rfl

variable (scope) in
theorem renderNodes_steady (hc : s.Closed part rank) {ids : List NodeId}
    (hp : ∀ id ∈ ids, part id ∧ s.node? id ≠ some .vacant) :
    Steady (s.Settled scope part) (renderNodes scope ids)
      ((ids.mapM (s.view scope)).map Lines.concat) :=
  Steady.map (Steady.mapM fun id hid => render_steady hc (hp id hid).1 (hp id hid).2) Lines.concat

theorem render_eq_view (hc : s.Closed part rank) (hp : part id)
    (hv : s.node? id ≠ some .vacant) (ht : s.Settled scope part t) :
    ∃ u, s.Settled scope part u ∧ render scope id t = leaving (s.view scope id) u := by
  obtain ⟨u, hu, -, hr, -⟩ := render_steady hc hp hv t ht
  exact ⟨u, hu, hr⟩

variable (scope) in
theorem renderNodes_eq_view (hc : s.Closed part rank) {ids : List NodeId}
    (hp : ∀ id ∈ ids, part id ∧ s.node? id ≠ some .vacant) :
    ∃ u, s.Settled scope part u ∧
      renderNodes scope ids s = leaving ((ids.mapM (s.view scope)).map Lines.concat) u := by
  obtain ⟨u, hu, -, hr, -⟩ := renderNodes_steady scope hc hp s (Settled.refl s scope part)
  exact ⟨u, hu, hr⟩

end Snippet.Store
