import Mathlib.Data.Finset.Card
import Mathlib.Data.Nat.Find
import Snippet.Proofs.Store.Graph
import Snippet.Proofs.Store.Parallel

/-!
How deep reading goes. A way down that ends has no node twice, so the size of a store is fuel enough. Where
every way down from a node ends, whatever dynamic nodes may be built with, rendering the node unfolds
without fuel. What is rendered to the end has an end on every way down afterwards, so a success unfolds as
well. The same goes for static evaluation.
-/

namespace Snippet

/-! ## Ways down -/

/-- Every way down from the node along `R` has fewer than `depth` steps and stays where `ok` holds. -/
def Falls (ok : NodeId → Prop) (R : NodeId → NodeId → Prop) : Nat → NodeId → Prop
  | 0, _ => False
  | depth + 1, id => ok id ∧ ∀ x, R id x → Falls ok R depth x

section Falls

variable {ok ok' : NodeId → Prop} {R R' : NodeId → NodeId → Prop} {depth depth' size : Nat} {id : NodeId}

theorem Falls.mono (h : Falls ok R depth id) (hle : depth ≤ depth') : Falls ok R depth' id := by
  induction depth generalizing depth' id with
  | zero => exact h.elim
  | succ depth ih =>
    obtain ⟨depth', rfl⟩ : ∃ k, depth' = k + 1 := ⟨depth' - 1, by omega⟩
    exact ⟨h.1, fun x hx => ih (h.2 x hx) (by omega)⟩

theorem Falls.imp (h : Falls ok R depth id) (hok : ∀ x, ok x → ok' x)
    (hsub : ∀ x y, ok x → R' x y → R x y) : Falls ok' R' depth id := by
  induction depth generalizing id with
  | zero => exact h
  | succ depth ih => exact ⟨hok id h.1, fun x hx => ih (h.2 x (hsub id x h.1 hx))⟩

/-- On the longest way down there is a node for every smaller depth. -/
theorem Falls.exists_exact (h : Falls ok R (depth + 1) id) (hnot : ¬Falls ok R depth id) :
    ∀ d ≤ depth, ∃ x, ok x ∧ Falls ok R (d + 1) x ∧ ¬Falls ok R d x := by
  induction depth generalizing id with
  | zero =>
    intro d hd
    obtain rfl := Nat.le_zero.mp hd
    exact ⟨id, h.1, h, hnot⟩
  | succ depth ih =>
    intro d hd
    rcases Nat.lt_or_ge depth d with hlt | hge
    · obtain rfl : d = depth + 1 := by omega
      exact ⟨id, h.1, h, hnot⟩
    · -- Some node below goes down as far as is left.
      obtain ⟨x, hx, hlong⟩ : ∃ x, R id x ∧ ¬Falls ok R depth x := by
        by_contra hall
        push Not at hall
        exact hnot ⟨h.1, hall⟩
      exact ih (h.2 x hx) hlong d hge

/-- No way down that ends is longer than there are nodes. -/
theorem Falls.within (h : Falls ok R depth id) (hsize : ∀ x, ok x → x < size) :
    Falls ok R size id := by
  classical
  have hfalls : ∃ depth, Falls ok R depth id := ⟨depth, h⟩
  have hleast := Nat.find_spec hfalls
  cases hd : Nat.find hfalls with
  | zero =>
    rw [hd] at hleast
    exact hleast.elim
  | succ least =>
    rw [hd] at hleast
    have hnot : ¬Falls ok R least id := Nat.find_min hfalls (by omega)
    refine hleast.mono ?_
    by_contra hlong
    -- More depths than nodes, so one node has two of them.
    choose! at_ hok hends hshort using hleast.exists_exact hnot
    obtain ⟨d, hd, d', hd', hne, heq⟩ := Finset.exists_ne_map_eq_of_card_lt_of_maps_to
      (s := Finset.range (least + 1)) (t := Finset.range size) (f := at_) (by simpa using hlong)
      (by
        intro d hd
        have hd : d < least + 1 := by simpa using hd
        simpa using hsize _ (hok d (by omega)))
    rw [Finset.mem_range] at hd hd'
    rcases Nat.lt_or_gt_of_ne hne with hlt | hgt
    · exact hshort d' (by omega) (heq ▸ (hends d (by omega)).mono hlt)
    · exact hshort d (by omega) (heq ▸ (hends d' (by omega)).mono hgt)

theorem Descending.falls (h : Descending R size id) :
    Falls (· < size) R (extent R size id + 1) id := by
  induction hk : extent R size id using Nat.strongRecOn generalizing id with
  | _ k ih =>
    refine ⟨h.present id .refl, fun x hx => ?_⟩
    have hlt := h.extent_lt hx
    rw [hk] at hlt
    exact (ih _ hlt (h.of_reaches (.single hx)) rfl).mono hlt

end Falls

namespace Store

open Conversion

/-! ## What rendering goes on to -/

/-- Rendering the node `a` goes on to the node `b`. -/
def Links (s : Store) (a b : NodeId) : Prop :=
  ∃ n, s.node? a = some n ∧ b ∈ n.links

/-- Rendering the node `a` goes on to the node `b`, or may do so. -/
def MayLink (s : Store) (a b : NodeId) : Prop :=
  s.Links a b ∨ ∃ slot, s.Offers a slot b

/-- Every way down from the node ends, whatever functions of the host give. -/
def Grounded (s : Store) (id : NodeId) : Prop :=
  ∃ depth, Falls (· < s.size) s.MayLink depth id

/-- The node is there, and nothing in it is still to be built. -/
def Whole (s : Store) (id : NodeId) : Prop :=
  ∃ n, s.node? id = some n ∧ s.Lasting n

section Links

variable {s t : Store} {a b id x : NodeId} {n : Node} {depth : Nat}

theorem mayLink_iff (hn : s.node? id = some n) (hl : s.Lasting n) : s.MayLink id x ↔ x ∈ n.links := by
  refine ⟨?_, fun hx => .inl ⟨n, hn, hx⟩⟩
  rintro (⟨m, hm, hx⟩ | ⟨slot, hv, make, scope, hd, -⟩)
  · rw [hn] at hm
    cases hm
    exact hx
  · rw [hn] at hd
    cases hd
    exact absurd hv hl

theorem Links.refers (h : s.Links a b) : s.Refers a b := by
  obtain ⟨n, hn, hb⟩ := h
  exact ⟨n, hn, n.links_subset_edges hb⟩

theorem MayLink.mayRefer (h : s.MayLink a b) : s.MayRefer a b :=
  h.imp Links.refers id

/-- Building nodes adds nothing to what may come. -/
theorem Filled.mayLink (h : s.Filled t) (hab : t.MayLink a b) : s.MayLink a b := by
  rcases hab with ⟨n, hn, hb⟩ | ⟨slot, ho⟩
  · cases h.node a with
    | same heq => exact .inl ⟨n, heq ▸ hn, hb⟩
    | text content _ hnode =>
      cases hnode.symm.trans hn
      cases hb
    | @bound slot target ho hnode =>
      cases hnode.symm.trans hn
      obtain rfl := List.mem_singleton.mp hb
      exact .inr ⟨slot, ho⟩
  · exact .inr ⟨slot, h.offers ho⟩

theorem Grounded.falls (h : s.Grounded id) : Falls (· < s.size) s.MayLink s.size id := by
  obtain ⟨depth, h⟩ := h
  exact h.within fun _ hx => hx

theorem Grounded.below (h : s.Grounded id) (hx : s.MayLink id x) : s.Grounded x := by
  obtain ⟨depth, h⟩ := h
  exact ⟨depth, (h.mono (Nat.le_succ depth)).2 x hx⟩

theorem grounded_iff (hn : s.node? id = some n) (hl : s.Lasting n) :
    s.Grounded id ↔ ∀ x ∈ n.links, s.Grounded x :=
  ⟨fun h _ hx => h.below ((mayLink_iff hn hl).mpr hx), fun h =>
    ⟨s.size + 1, lt_size hn, fun x hx => (h x ((mayLink_iff hn hl).mp hx)).falls⟩⟩

theorem Grounded.filled (h : s.Grounded id) (ht : s.Filled t) : t.Grounded id := by
  obtain ⟨depth, h⟩ := h
  refine ⟨depth, ?_⟩
  rw [ht.size]
  exact h.imp (fun _ hx => hx) fun _ _ _ => ht.mayLink

theorem StaysAcyclic.grounded (h : s.StaysAcyclic id) : s.Grounded id :=
  ⟨_, h.falls.imp (fun _ hx => hx) fun _ _ _ => MayLink.mayRefer⟩

theorem Filled.lasting (h : s.Filled t) (hl : s.Lasting n) : t.Lasting n := by
  cases n with
  | dynamic rebuild slot => exact fun hv => hl (h.vacant_of_vacant hv)
  | vacant => exact hl
  | _ => trivial

theorem Whole.filled (h : s.Whole id) (ht : s.Filled t) : t.Whole id := by
  obtain ⟨n, hn, hl⟩ := h
  exact ⟨n, ht.node_eq hn hl, ht.lasting hl⟩

theorem Links.filled (h : s.Links a b) (hw : s.Whole a) (ht : s.Filled t) : t.Links a b := by
  obtain ⟨n, hn, hl⟩ := hw
  obtain ⟨m, hm, hb⟩ := h
  rw [hn] at hm
  cases hm
  exact ⟨n, ht.node_eq hn hl, hb⟩

/-- Where all is built, building changes nothing. -/
theorem whole_filled (h : Falls s.Whole s.Links depth id) (ht : s.Filled t) :
    Falls t.Whole t.Links depth id := by
  refine h.imp (fun _ hx => hx.filled ht) ?_
  rintro x y ⟨n, hn, hl⟩ ⟨m, hm, hy⟩
  rw [ht.node_eq hn hl] at hm
  cases hm
  exact ⟨n, hn, hy⟩

end Links

/-! ## Rendering without fuel -/

section Rendering

variable {α β : Type} {s t u : Store} {scope : Scope} {id : NodeId} {n : Node} {depth fuel fuel' : Nat}
  {lines : Lines}

/-- Computations that start alike and go on alike from there. -/
theorem bind_congr_at {m m' : Render α} {f f' : α → Render β} (h : m t = m' t)
    (hf : ∀ a u, m t = .ok a u → f a u = f' a u) : (m >>= f) t = (m' >>= f') t := by
  rw [bind_apply, bind_apply, ← h]
  cases hm : m t with
  | ok a u => exact hf a u hm
  | error e u => rfl

theorem Filled.of_ok {m : Render α} {a : α} (h : t.Filled (last (m t))) (hm : m t = .ok a u) :
    t.Filled u := by
  rwa [hm] at h

/-- The two computations do the same in `t` and wherever slots have been filled since. -/
theorem mapM_congr_at {f g : α → Render β} {l : List α} (hfilled : ∀ x (u : Store), u.Filled (last (f x u)))
    (h : ∀ x ∈ l, ∀ u, t.Filled u → f x u = g x u) : l.mapM f t = l.mapM g t := by
  induction l generalizing t with
  | nil => rfl
  | cons x l ih =>
    rw [List.mapM_cons, List.mapM_cons]
    refine bind_congr_at (h x (by simp) t (Filled.refl t)) fun b u hu => ?_
    have htu := (hfilled x t).of_ok hu
    exact bind_congr_at (ih fun y hy v hv => h y (by simp [hy]) v (htu.trans hv)) fun _ _ _ => rfl

section Build

variable {rebuild : Option Rebuild} {slot x y : NodeId} {v : Store}

/-- Once a dynamic node is built, it goes on to what it has been built with, and stays as it is. -/
theorem lasting_of_build (hn : t.node? id = some (.dynamic rebuild slot))
    (h : build id rebuild slot scope t = .ok y v) :
    ∃ m, v.node? id = some m ∧ v.Lasting m ∧ m.links = [y] := by
  by_cases hs : t.node? slot = some .vacant
  · cases hr : t.rebuilt scope rebuild with
    | error e =>
      rw [build_fails hs hr] at h
      cases h
    | ok filling =>
      rw [build_vacant hs hr] at h
      cases h
      cases filling with
      | text content =>
        have hne : slot ≠ id := by
          rintro rfl
          rw [hs] at hn
          cases hn
        refine ⟨.dynamic rebuild slot, ?_, ?_, rfl⟩
        · rw [node?_fill_text, if_neg hne, hn]
        · rw [Lasting, node?_fill_slot hs]
          simp
      | node target => exact ⟨_, node?_fill_bound hn slot target, trivial, rfl⟩
  · rw [build_built hs] at h
    cases h
    exact ⟨_, hn, hs, rfl⟩

theorem mayLink_of_build (hn : t.node? id = some (.dynamic rebuild slot))
    (h : build id rebuild slot scope t = .ok x u) : t.MayLink id x := by
  obtain ⟨m, hm, -, hlinks⟩ := lasting_of_build hn h
  exact ((filled_build scope hn).of_ok h).mayLink (.inl ⟨m, hm, by simp [hlinks]⟩)

theorem links_of_build (hn : t.node? id = some (.dynamic rebuild slot))
    (h : build id rebuild slot scope t = .ok y v) (hu : v.Filled u) : u.Links id x ↔ x = y := by
  obtain ⟨m, hm, hl, hlinks⟩ := lasting_of_build hn h
  have hm' := hu.node_eq hm hl
  rw [← List.mem_singleton (a := x), ← hlinks]
  refine ⟨?_, fun hx => ⟨m, hm', hx⟩⟩
  rintro ⟨m', hm'', hx⟩
  rw [hm'] at hm''
  cases hm''
  exact hx

end Build

theorem renderNode_congr {f g : NodeId → Render Lines} (hfilled : ∀ x (u : Store), u.Filled (last (f x u)))
    (hn : t.node? id = some n) (h : ∀ x, t.MayLink id x → ∀ u, t.Filled u → f x u = g x u) :
    renderNode scope f id n t = renderNode scope g id n t := by
  have hlinks : ∀ x ∈ n.links, ∀ u, t.Filled u → f x u = g x u := fun x hx => h x (.inl ⟨n, hn, hx⟩)
  cases n with
  | computed fn dependencies => exact bind_congr_at (mapM_congr_at hfilled hlinks) fun _ _ _ => rfl
  | dynamic rebuild slot =>
    refine bind_congr_at rfl fun x u hu => ?_
    exact h x (mayLink_of_build hn hu) u ((filled_build scope hn).of_ok hu)
  | group children => exact bind_congr_at (mapM_congr_at hfilled hlinks) fun _ _ _ => rfl
  | wrap child indent =>
    exact bind_congr_at (hlinks child (by simp [Node.links]) t (Filled.refl t)) fun _ _ _ => rfl
  | bound target => exact hlinks target (by simp [Node.links]) t (Filled.refl t)
  | _ => rfl

/-- Any two amounts of fuel that are enough render a node alike. -/
theorem renderWith_eq_of_falls (h : Falls (· < t.size) t.MayLink depth id) (hf : depth ≤ fuel)
    (hf' : depth ≤ fuel') : renderWith scope fuel id t = renderWith scope fuel' id t := by
  induction depth generalizing fuel fuel' id t with
  | zero => exact h.elim
  | succ depth ih =>
    obtain ⟨fuel, rfl⟩ : ∃ k, fuel = k + 1 := ⟨fuel - 1, by omega⟩
    obtain ⟨fuel', rfl⟩ : ∃ k, fuel' = k + 1 := ⟨fuel' - 1, by omega⟩
    obtain ⟨n, hn⟩ := exists_node? h.1
    rw [renderWith_succ, renderWith_succ, hn]
    refine renderNode_congr (filled_renderWith scope fuel) hn fun x hx u hu => ?_
    refine ih ?_ (by omega) (by omega)
    rw [hu.size]
    exact (h.2 x hx).imp (fun _ hx => hx) fun _ _ _ => hu.mayLink

theorem Grounded.renderWith_eq (h : s.Grounded id) (hf : s.size ≤ fuel) :
    renderWith scope fuel id s = render scope id s :=
  renderWith_eq_of_falls h.falls hf (Nat.le_succ s.size)

theorem Grounded.render_eq (h : s.Grounded id) (hn : s.node? id = some n) :
    render scope id s = renderNode scope (render scope) id n s := by
  have hrun : ∀ x u, render scope x u = renderWith scope (u.size + 1) x u := fun _ _ => rfl
  rw [hrun, renderWith_succ, hn]
  refine renderNode_congr (filled_renderWith scope s.size) hn fun x hx u hu => ?_
  exact ((h.below hx).filled hu).renderWith_eq (Nat.le_of_eq hu.size)

/-! ## What is rendered to the end -/

theorem bind_eq_ok_at {m : Render α} {f : α → Render β} {b : β} (h : (m >>= f) t = .ok b u) :
    ∃ a v, m t = .ok a v ∧ f a v = .ok b u := by
  rw [bind_apply] at h
  exact chain_eq_ok h

theorem lift_eq_ok {r : Except Error α} {a : α} (h : lift r t = .ok a u) : r = .ok a ∧ t = u := by
  cases r with
  | ok b =>
    cases h
    exact ⟨rfl, rfl⟩
  | error e => cases h

/-- A row that succeeds is run by any computation that does as well where the row has come to. -/
theorem mapM_ok_congr {f g : α → Render β} {l : List α} {bs : List β}
    (hfilled : ∀ x (u : Store), u.Filled (last (f x u))) (h : l.mapM f t = .ok bs u)
    (hfg : ∀ x ∈ l, ∀ v b w, t.Filled v → f x v = .ok b w → w.Filled u → g x v = .ok b w) :
    t.Filled u ∧ l.mapM g t = .ok bs u := by
  induction l generalizing t bs with
  | nil =>
    cases h
    exact ⟨Filled.refl _, rfl⟩
  | cons x l ih =>
    rw [List.mapM_cons] at h ⊢
    obtain ⟨b, v, hx, h⟩ := bind_eq_ok_at h
    obtain ⟨bs', w, hl, hend⟩ := bind_eq_ok_at h
    cases hend
    have htv := (hfilled x t).of_ok hx
    obtain ⟨hvu, hrest⟩ := ih hl fun y hy v' b w hv => hfg y (by simp [hy]) v' b w (htv.trans hv)
    refine ⟨htv.trans hvu, ?_⟩
    rw [bind_apply, hfg x (by simp) t b v (Filled.refl t) hx hvu]
    simp only [chain, bind_apply, hrest]
    rfl

theorem filled_of_mapM {f : α → Render β} {l : List α} {bs : List β}
    (hfilled : ∀ x (u : Store), u.Filled (last (f x u))) (h : l.mapM f t = .ok bs u) : t.Filled u :=
  (mapM_ok_congr hfilled h fun _ _ _ _ _ _ hok _ => hok).1

theorem exists_ok_of_mapM {f : α → Render β} {l : List α} {bs : List β}
    (hfilled : ∀ x (u : Store), u.Filled (last (f x u))) (h : l.mapM f t = .ok bs u) {x : α} (hx : x ∈ l) :
    ∃ v b w, f x v = .ok b w ∧ w.Filled u := by
  induction l generalizing t bs with
  | nil => cases hx
  | cons y l ih =>
    rw [List.mapM_cons] at h
    obtain ⟨b, v, hy, h⟩ := bind_eq_ok_at h
    obtain ⟨bs', w, hl, hend⟩ := bind_eq_ok_at h
    cases hend
    rcases List.mem_cons.mp hx with rfl | hx
    · exact ⟨_, b, v, hy, filled_of_mapM hfilled hl⟩
    · exact ih hl hx

/-- A step of rendering builds nodes at most, as long as what it goes on with does. -/
theorem filled_of_renderNode {below : NodeId → Render Lines}
    (hfilled : ∀ x (u : Store), u.Filled (last (below x u))) (hn : t.node? id = some n)
    (h : renderNode scope below id n t = .ok lines u) : t.Filled u := by
  cases n with
  | computed fn dependencies =>
    obtain ⟨args, v, hargs, h⟩ := bind_eq_ok_at h
    obtain ⟨value, w, hvalue, hend⟩ := bind_eq_ok_at h
    cases hend
    obtain ⟨-, rfl⟩ := lift_eq_ok hvalue
    exact filled_of_mapM hfilled hargs
  | dynamic rebuild slot =>
    obtain ⟨y, v, hbuild, h⟩ := bind_eq_ok_at h
    exact ((filled_build scope hn).of_ok hbuild).trans ((hfilled y v).of_ok h)
  | group children =>
    obtain ⟨ls, v, hls, hend⟩ := bind_eq_ok_at h
    cases hend
    exact filled_of_mapM hfilled hls
  | wrap child indent =>
    obtain ⟨ls, v, hls, hend⟩ := bind_eq_ok_at h
    cases hend
    exact (hfilled child t).of_ok hls
  | bound target => exact (hfilled target t).of_ok h
  | choice choices index =>
    obtain ⟨-, rfl⟩ := lift_eq_ok h
    exact Filled.refl _
  | host type ls positioned =>
    obtain ⟨-, rfl⟩ := lift_eq_ok h
    exact Filled.refl _
  | row members => cases h
  | vacant => cases h
  | _ =>
    cases h
    exact Filled.refl _

/-- A step of rendering that succeeds has rendered all that the node goes on to then. -/
theorem exists_ok_of_renderNode {below : NodeId → Render Lines}
    (hfilled : ∀ x (u : Store), u.Filled (last (below x u))) (hn : t.node? id = some n)
    (h : renderNode scope below id n t = .ok lines u) {x : NodeId} (hx : u.Links id x) :
    ∃ v ls w, below x v = .ok ls w ∧ w.Filled u := by
  have htu := filled_of_renderNode hfilled hn h
  have hlinks : t.Lasting n → x ∈ n.links := by
    intro hl
    obtain ⟨m, hm, hx⟩ := hx
    rw [htu.node_eq hn hl] at hm
    cases hm
    exact hx
  cases n with
  | computed fn dependencies =>
    obtain ⟨args, v, hargs, h⟩ := bind_eq_ok_at h
    obtain ⟨value, w, hvalue, hend⟩ := bind_eq_ok_at h
    cases hend
    obtain ⟨-, rfl⟩ := lift_eq_ok hvalue
    exact exists_ok_of_mapM hfilled hargs (hlinks trivial)
  | dynamic rebuild slot =>
    obtain ⟨y, v, hbuild, h⟩ := bind_eq_ok_at h
    obtain rfl := (links_of_build hn hbuild ((hfilled y v).of_ok h)).mp hx
    exact ⟨v, lines, u, h, Filled.refl u⟩
  | group children =>
    obtain ⟨ls, v, hls, hend⟩ := bind_eq_ok_at h
    cases hend
    exact exists_ok_of_mapM hfilled hls (hlinks trivial)
  | wrap child indent =>
    obtain rfl : x = child := by simpa [Node.links] using hlinks trivial
    obtain ⟨ls, v, hls, hend⟩ := bind_eq_ok_at h
    cases hend
    exact ⟨t, ls, u, hls, Filled.refl u⟩
  | bound target =>
    obtain rfl : x = target := by simpa [Node.links] using hlinks trivial
    exact ⟨t, lines, u, h, Filled.refl u⟩
  | vacant => cases h
  | _ => cases hlinks trivial

/-- A step of rendering that succeeds is made by any computation that does as well below the node. -/
theorem renderNode_ok_congr {f g : NodeId → Render Lines}
    (hfilled : ∀ x (u : Store), u.Filled (last (f x u))) (hn : t.node? id = some n)
    (h : renderNode scope f id n t = .ok lines u)
    (hfg : ∀ x, u.Links id x → ∀ v ls w, t.Filled v → f x v = .ok ls w → w.Filled u →
      g x v = .ok ls w) : renderNode scope g id n t = .ok lines u := by
  have htu := filled_of_renderNode hfilled hn h
  have hlinks : t.Lasting n → ∀ x ∈ n.links, ∀ v ls w, t.Filled v → f x v = .ok ls w →
      w.Filled u → g x v = .ok ls w :=
    fun hl x hx => hfg x ⟨n, htu.node_eq hn hl, hx⟩
  cases n with
  | computed fn dependencies =>
    obtain ⟨args, v, hargs, h⟩ := bind_eq_ok_at h
    obtain ⟨value, w, hvalue, hend⟩ := bind_eq_ok_at h
    cases hend
    obtain ⟨hfn, rfl⟩ := lift_eq_ok hvalue
    rw [renderNode, bind_apply, (mapM_ok_congr hfilled hargs (hlinks trivial)).2]
    simp only [chain, bind_apply, hfn]
    rfl
  | dynamic rebuild slot =>
    obtain ⟨y, v, hbuild, h⟩ := bind_eq_ok_at h
    have hy := (links_of_build hn hbuild ((hfilled y v).of_ok h)).mpr rfl
    rw [renderNode, bind_apply, hbuild]
    exact hfg y hy v lines u ((filled_build scope hn).of_ok hbuild) h (Filled.refl u)
  | group children =>
    obtain ⟨ls, v, hls, hend⟩ := bind_eq_ok_at h
    cases hend
    rw [renderNode, bind_apply, (mapM_ok_congr hfilled hls (hlinks trivial)).2]
    rfl
  | wrap child indent =>
    obtain ⟨ls, v, hls, hend⟩ := bind_eq_ok_at h
    cases hend
    have hchild := hlinks trivial child (by simp [Node.links]) t ls u (Filled.refl t) hls (Filled.refl u)
    rw [renderNode, bind_apply, hchild]
    rfl
  | bound target =>
    exact hlinks trivial target (by simp [Node.links]) t lines u (Filled.refl t) h (Filled.refl u)
  | _ => exact h

/-- A node that has been rendered is there, and it is built. -/
theorem whole_of_renderNode {below : NodeId → Render Lines}
    (hfilled : ∀ x (u : Store), u.Filled (last (below x u))) (hn : t.node? id = some n)
    (h : renderNode scope below id n t = .ok lines u) : u.Whole id := by
  have htu := filled_of_renderNode hfilled hn h
  have hwhole : t.Lasting n → u.Whole id := fun hl => ⟨n, htu.node_eq hn hl, htu.lasting hl⟩
  cases n with
  | dynamic rebuild slot =>
    obtain ⟨y, v, hbuild, h⟩ := bind_eq_ok_at h
    have hvu := (hfilled y v).of_ok h
    obtain ⟨m, hm, hl, -⟩ := lasting_of_build hn hbuild
    exact ⟨m, hvu.node_eq hm hl, hvu.lasting hl⟩
  | vacant => cases h
  | _ => exact hwhole trivial

/-- What has been rendered is all built, and every way down from it ends. -/
theorem whole_of_renderWith (h : renderWith scope fuel id t = .ok lines u) :
    Falls u.Whole u.Links fuel id := by
  induction fuel generalizing id t u lines with
  | zero => cases h
  | succ fuel ih =>
    rw [renderWith_succ] at h
    cases hn : t.node? id with
    | none =>
      rw [hn] at h
      cases h
    | some n =>
      rw [hn] at h
      refine ⟨whole_of_renderNode (filled_renderWith scope fuel) hn h, fun x hx => ?_⟩
      obtain ⟨v, ls, w, hls, hwu⟩ :=
        exists_ok_of_renderNode (filled_renderWith scope fuel) hn h hx
      exact whole_filled (ih hls) hwu

/-- As much fuel as there are steps to go down renders a node that more fuel renders. -/
theorem renderWith_of_whole {v : Store} (h : renderWith scope fuel id t = .ok lines u)
    (huv : u.Filled v) (hv : Falls v.Whole v.Links depth id) :
    renderWith scope depth id t = .ok lines u := by
  induction fuel generalizing depth id t u lines with
  | zero => cases h
  | succ fuel ih =>
    obtain ⟨depth, rfl⟩ : ∃ k, depth = k + 1 := by
      cases depth with
      | zero => exact hv.elim
      | succ depth => exact ⟨depth, rfl⟩
    have hwhole := (whole_of_renderWith h).1
    rw [renderWith_succ] at h ⊢
    cases hn : t.node? id with
    | none =>
      rw [hn] at h
      cases h
    | some n =>
      rw [hn] at h
      refine renderNode_ok_congr (filled_renderWith scope fuel) hn h fun x hx v' ls w _ hls hwu => ?_
      exact ih hls (hwu.trans huv) (hv.2 x (hx.filled hwhole huv))

/-- Rendering that succeeds does so with any fuel that the store has. -/
theorem renderWith_ok_iff (hf : t.size ≤ fuel) (hf' : t.size ≤ fuel') :
    renderWith scope fuel id t = .ok lines u ↔ renderWith scope fuel' id t = .ok lines u := by
  have stays : ∀ {fuel fuel'}, t.size ≤ fuel' → renderWith scope fuel id t = .ok lines u →
      renderWith scope fuel' id t = .ok lines u := by
    intro fuel fuel' hf' h
    have hsize : ∀ x, u.Whole x → x < u.size := by
      rintro x ⟨n, hn, -⟩
      exact lt_size hn
    have hwhole := (whole_of_renderWith h).within hsize
    rw [((filled_renderWith scope fuel id t).of_ok h).size] at hwhole
    exact renderWith_of_whole h (Filled.refl u) (hwhole.mono hf')
  exact ⟨stays hf', stays hf⟩

theorem render_ok_iff (hn : s.node? id = some n) :
    render scope id s = .ok lines u ↔ renderNode scope (render scope) id n s = .ok lines u := by
  have hrun : ∀ x u, render scope x u = renderWith scope (u.size + 1) x u := fun _ _ => rfl
  rw [hrun, renderWith_succ, hn]
  constructor
  · refine fun h => renderNode_ok_congr (filled_renderWith scope s.size) hn h fun x _ v ls w hv hls _ => ?_
    exact (renderWith_ok_iff (Nat.le_of_eq hv.size) (Nat.le_succ v.size)).mp hls
  · refine fun h => renderNode_ok_congr (filled_render scope) hn h fun x _ v ls w hv hls _ => ?_
    exact (renderWith_ok_iff (Nat.le_succ v.size) (Nat.le_of_eq hv.size)).mp hls

end Rendering

end Store

end Snippet
