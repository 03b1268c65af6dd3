import Mathlib.Data.Finset.Card
import Mathlib.Logic.Relation
import Snippet.Proofs.Store.Static

/-!
The nodes of a store as a graph. Where the graph below a node has no cycle, each step down leaves fewer
nodes to come to. So the store has fuel enough for every recursion along its references, and what the
recursion gives does not depend on the fuel. Beside the references there are those that may still come, where
a function of the host builds a dynamic node with another node.
-/

namespace Snippet

open Relation

/-! ## Graphs of finitely many nodes -/

/-- All that can be come to from a node has a number below `size`, and none of it comes back to itself. -/
structure Descending (R : NodeId → NodeId → Prop) (size : Nat) (id : NodeId) : Prop where
  present : ∀ x, ReflTransGen R id x → x < size
  no_cycle : ∀ x, ReflTransGen R id x → ¬TransGen R x x

open Classical in
/-- The number of nodes that can be come to from a node, itself included. -/
noncomputable def extent (R : NodeId → NodeId → Prop) (size : Nat) (id : NodeId) : Nat :=
  ((Finset.range size).filter (ReflTransGen R id)).card

section Descending

variable {R R' : NodeId → NodeId → Prop} {size : Nat} {a b id : NodeId}

theorem Descending.of_reaches (h : Descending R size a) (hab : ReflTransGen R a b) :
    Descending R size b where
  present x hx := h.present x (hab.trans hx)
  no_cycle x hx := h.no_cycle x (hab.trans hx)

/-- Fewer ways lead to no more nodes. -/
theorem Descending.mono (h : Descending R size id) (hsub : ∀ x y, R' x y → R x y) :
    Descending R' size id where
  present x hx := h.present x (ReflTransGen.mono hsub _ _ hx)
  no_cycle x hx hxx := h.no_cycle x (ReflTransGen.mono hsub _ _ hx) (TransGen.mono hsub _ _ hxx)

/-- A node from which steps lead to nodes without cycles below them has none below itself. -/
theorem Descending.of_steps (hid : id < size) (h : ∀ x, R id x → Descending R size x) :
    Descending R size id := by
  refine ⟨fun x hx => ?_, fun x hx hxx => ?_⟩
  · rcases hx.cases_head with rfl | ⟨y, hy, hyx⟩
    · exact hid
    · exact (h y hy).present x hyx
  · rcases hx.cases_head with rfl | ⟨y, hy, hyx⟩
    · obtain ⟨y, hy, hyx⟩ := TransGen.head'_iff.mp hxx
      exact (h y hy).no_cycle id hyx hxx
    · exact (h y hy).no_cycle x hyx hxx

theorem extent_le_size (R : NodeId → NodeId → Prop) (size : Nat) (id : NodeId) :
    extent R size id ≤ size := by
  classical
  have hle := Finset.card_filter_le (Finset.range size) (ReflTransGen R id)
  rwa [Finset.card_range] at hle

theorem Descending.extent_lt (h : Descending R size a) (hab : R a b) :
    extent R size b < extent R size a := by
  classical
  -- What can be come to from `b` can be come to from `a`, and `a` itself cannot from `b`.
  apply Finset.card_lt_card
  rw [Finset.ssubset_iff_of_subset]
  · refine ⟨a, ?_, ?_⟩
    · exact Finset.mem_filter.mpr ⟨Finset.mem_range.mpr (h.present a .refl), .refl⟩
    · intro hba
      exact h.no_cycle a .refl (TransGen.head' hab (Finset.mem_filter.mp hba).2)
  · intro x hx
    obtain ⟨hsize, hbx⟩ := Finset.mem_filter.mp hx
    exact Finset.mem_filter.mpr ⟨hsize, hbx.head hab⟩

/-- Every way down ends. -/
theorem Descending.acc (h : Descending R size id) : Acc (fun b a => R a b) id := by
  induction hk : extent R size id using Nat.strongRecOn generalizing id with
  | _ k ih =>
    constructor
    intro b hb
    subst hk
    exact ih (extent R size b) (h.extent_lt hb) (h.of_reaches (.single hb)) rfl

end Descending

/-! ## Evaluation as a recursion -/

/-- The lines of a node for static evaluation, given those of the nodes it refers to. -/
def Node.evaluated (scope : Scope) (below : NodeId → Except Error Lines) : Node → Except Error Lines
  | text lines => .ok lines
  | computed fn [] => (fn [] scope).map Value.toLines
  | group children => (children.mapM below).map Lines.concat
  | wrap child indent => (below child).map (indent.apply scope.indent)
  | n => .error (.interactive n.typeName)

theorem Node.evaluated_congr {scope : Scope} {f g : NodeId → Except Error Lines} {n : Node}
    (h : ∀ x ∈ n.links, f x = g x) : n.evaluated scope f = n.evaluated scope g := by
  cases n with
  | computed fn dependencies => cases dependencies <;> rfl
  | group children =>
    have hm : children.mapM f = children.mapM g := mapM_congr h
    rw [evaluated, evaluated, hm]
  | wrap child indent => rw [evaluated, evaluated, h child (by simp [links])]
  | _ => rfl

theorem Node.evaluated_congr_edges {scope : Scope} {f g : NodeId → Except Error Lines} {n : Node}
    (h : ∀ x ∈ n.edges, f x = g x) : n.evaluated scope f = n.evaluated scope g :=
  evaluated_congr fun x hx => h x (n.links_subset_edges hx)

namespace Store

theorem evaluateWith_succ {s : Store} {scope : Scope} {fuel : Nat} {id : NodeId} {n : Node}
    (hn : s.node? id = some n) :
    s.evaluateWith scope (fuel + 1) id = n.evaluated scope (s.evaluateWith scope fuel) := by
  rw [evaluateWith, hn]
  cases n with
  | computed fn dependencies => cases dependencies <;> rfl
  | _ => rfl

/-! ## References -/

/-- The node `a` refers to the node `b`. -/
def Refers (s : Store) (a b : NodeId) : Prop :=
  ∃ n, s.node? a = some n ∧ b ∈ n.edges

abbrev Reaches (s : Store) : NodeId → NodeId → Prop :=
  ReflTransGen s.Refers

/-- All that can be come to from a node is in the store, and none of it comes back to itself. -/
abbrev Acyclic (s : Store) (id : NodeId) : Prop :=
  Descending s.Refers s.size id

section Graphs

variable {s : Store} {a b id : NodeId} {n : Node}

theorem Acyclic.step (h : s.Acyclic id) (hn : s.node? id = some n) (hb : b ∈ n.edges) :
    s.Acyclic b :=
  h.of_reaches (.single ⟨n, hn, hb⟩)

theorem Acyclic.exists_node? (h : s.Acyclic id) : ∃ n, s.node? id = some n :=
  Store.exists_node? (h.present id .refl)

theorem Acyclic.edge_lt (h : s.Acyclic id) (hn : s.node? id = some n) (hb : b ∈ n.edges) :
    extent s.Refers s.size b < extent s.Refers s.size id :=
  h.extent_lt ⟨n, hn, hb⟩

/-- A node that refers to nodes without cycles below them has none below itself. -/
theorem Acyclic.of_edges (hn : s.node? id = some n) (h : ∀ x ∈ n.edges, s.Acyclic x) :
    s.Acyclic id := by
  refine .of_steps (Store.lt_size hn) ?_
  rintro x ⟨m, hm, hx⟩
  rw [hn] at hm
  cases hm
  exact h x hx

/-- Where nodes refer to older ones there is no cycle. -/
theorem acyclic_of_older (h : ∀ x < s.size, ∀ y ∈ ((s.node? x).getD .vacant).edges, y < x)
    (hid : id < s.size) : s.Acyclic id := by
  have older : ∀ x y, s.Refers x y → y < x := by
    rintro x y ⟨n, hn, hy⟩
    refine h x (Store.lt_size hn) y ?_
    rwa [hn]
  have older' : ∀ x y, TransGen s.Refers x y → y < x := by
    intro x y hxy
    induction hxy with
    | single hb => exact older x _ hb
    | tail _ hbc ih => exact Nat.lt_trans (older _ _ hbc) ih
  refine ⟨fun x hx => ?_, fun x _ hxx => Nat.lt_irrefl x (older' x x hxx)⟩
  rcases reflTransGen_iff_eq_or_transGen.mp hx with rfl | hx
  · exact hid
  · exact Nat.lt_trans (older' id x hx) hid

/-! ## Fuel -/

/-- A recursion along references, given by what it does at a node with the results at those it refers
to. In an acyclic graph any two amounts of fuel that are enough give the same. -/
theorem Acyclic.fuel_irrelevant {α : Type} {F : Nat → NodeId → α} {body : Node → (NodeId → α) → α}
    (hstep : ∀ fuel id n, s.node? id = some n → F (fuel + 1) id = body n (F fuel))
    (hcongr : ∀ n f g, (∀ x ∈ n.edges, f x = g x) → body n f = body n g)
    (h : s.Acyclic id) {fuel fuel' : Nat} (hf : extent s.Refers s.size id < fuel)
    (hf' : extent s.Refers s.size id < fuel') :
    F fuel id = F fuel' id := by
  induction fuel generalizing fuel' id with
  | zero => omega
  | succ fuel ih =>
    obtain ⟨fuel', rfl⟩ : ∃ k, fuel' = k + 1 := ⟨fuel' - 1, by omega⟩
    obtain ⟨n, hn⟩ := h.exists_node?
    rw [hstep fuel id n hn, hstep fuel' id n hn]
    apply hcongr
    intro x hx
    have hlt := h.edge_lt hn hx
    exact ih (h.step hn hx) (by omega) (by omega)

/-- With the size of the store for fuel, the recursion unfolds without any. -/
theorem Acyclic.unfolds {α : Type} {F : Nat → NodeId → α} {body : Node → (NodeId → α) → α}
    (hstep : ∀ fuel id n, s.node? id = some n → F (fuel + 1) id = body n (F fuel))
    (hcongr : ∀ n f g, (∀ x ∈ n.edges, f x = g x) → body n f = body n g)
    (h : s.Acyclic id) (hn : s.node? id = some n) :
    F (s.size + 1) id = body n (F (s.size + 1)) := by
  rw [hstep s.size id n hn]
  apply hcongr
  intro x hx
  have hlt := h.edge_lt hn hx
  have hle := extent_le_size s.Refers s.size id
  exact (h.step hn hx).fuel_irrelevant hstep hcongr (by omega) (by omega)

theorem Acyclic.isInteractiveWith_eq (h : s.Acyclic id) {fuel : Nat} (hf : s.size < fuel) :
    s.isInteractiveWith fuel id = s.isInteractive id := by
  have hle := extent_le_size s.Refers s.size id
  exact h.fuel_irrelevant (fun _ _ _ hn => isInteractiveWith_succ hn)
    (fun _ _ _ => Node.isLive_congr) (by omega) (by omega)

theorem Acyclic.evaluateWith_eq (h : s.Acyclic id) (scope : Scope) {fuel : Nat}
    (hf : s.size < fuel) : s.evaluateWith scope fuel id = s.evaluateStatic scope id := by
  have hle := extent_le_size s.Refers s.size id
  exact h.fuel_irrelevant (fun _ _ _ hn => evaluateWith_succ hn)
    (fun _ _ _ => Node.evaluated_congr_edges) (by omega) (by omega)

theorem Acyclic.isInteractive_eq (h : s.Acyclic id) (hn : s.node? id = some n) :
    s.isInteractive id = n.isLive s.isInteractive :=
  h.unfolds (fun _ _ _ hn => isInteractiveWith_succ hn) (fun _ _ _ => Node.isLive_congr) hn

theorem Acyclic.evaluateStatic_eq (h : s.Acyclic id) (hn : s.node? id = some n) (scope : Scope) :
    s.evaluateStatic scope id = n.evaluated scope (s.evaluateStatic scope) :=
  h.unfolds (fun _ _ _ hn => evaluateWith_succ hn) (fun _ _ _ => Node.evaluated_congr_edges) hn

/-- Facts about a node of an acyclic graph may be proved from those about the nodes it refers to. -/
theorem Acyclic.induction {P : NodeId → Prop} (h : s.Acyclic id)
    (step : ∀ id n, s.Acyclic id → s.node? id = some n → (∀ x ∈ n.edges, P x) → P id) : P id := by
  have hacc := h.acc
  induction hacc with
  | intro id _ ih =>
    obtain ⟨n, hn⟩ := h.exists_node?
    exact step id n h hn fun x hx => ih x ⟨n, hn, hx⟩ (h.step hn hx)

theorem Acyclic.keeps {t : Store} (h : s.Acyclic id) (hk : s.Keeps t) : t.Acyclic id :=
  h.induction fun id n _ hn ih => .of_edges (hk id n hn) ih

end Graphs

/-! ## References to come -/

/-- The node `a` refers to the node `b`, or may be built with it. -/
def MayRefer (s : Store) (a b : NodeId) : Prop :=
  s.Refers a b ∨ ∃ slot, s.Offers a slot b

abbrev MayReach (s : Store) : NodeId → NodeId → Prop :=
  ReflTransGen s.MayRefer

/-- There is no cycle below the node, and none comes about, whatever functions of the host give. -/
abbrev StaysAcyclic (s : Store) (id : NodeId) : Prop :=
  Descending s.MayRefer s.size id

/-- What functions of the host may give for a node has no cycle below it and does not lead back to the
node. -/
structure OffersDescend (s : Store) : Prop where
  acyclic : ∀ d slot x, s.Offers d slot x → s.Acyclic x
  forward : ∀ d slot x, s.Offers d slot x → ¬s.MayReach x d

section Offers

variable {s : Store} {id x y : NodeId}

/-- A way leads along references, or through what may be given for some node. -/
theorem refers_or_offers (h : TransGen s.MayRefer x y) :
    TransGen s.Refers x y ∨
      ∃ d slot z, s.Offers d slot z ∧ s.MayReach x d ∧ s.MayReach z y := by
  induction h with
  | single h =>
    rcases h with h | ⟨slot, h⟩
    · exact .inl (.single h)
    · exact .inr ⟨_, slot, _, h, .refl, .refl⟩
  | @tail y z hxy hyz ih =>
    rcases ih with ih | ⟨d, slot, u, hd, hxd, hu⟩
    · rcases hyz with hyz' | ⟨slot, ho⟩
      · exact .inl (ih.tail hyz')
      · exact .inr ⟨y, slot, z, ho, hxy.to_reflTransGen, .refl⟩
    · exact .inr ⟨d, slot, u, hd, hxd, hu.tail hyz⟩

theorem StaysAcyclic.acyclic (h : s.StaysAcyclic id) : s.Acyclic id :=
  h.mono fun _ _ => .inl

/-- A node that functions of the host do not build, and that refers to nodes below which no cycle comes
about, has none below itself. -/
theorem StaysAcyclic.of_edges {n : Node} (hn : s.node? id = some n)
    (hown : ∀ make slot, n ≠ .dynamic (some (.host make)) slot) (h : ∀ x ∈ n.edges, s.StaysAcyclic x) :
    s.StaysAcyclic id := by
  refine .of_steps (Store.lt_size hn) ?_
  rintro x (⟨m, hm, hx⟩ | ⟨slot, -, make, scope, hd, -⟩)
  · cases hn.symm.trans hm
    exact h x hx
  · exact absurd (Option.some.inj (hn.symm.trans hd)) (hown make slot)

theorem StaysAcyclic.keeps {t : Store} (h : s.StaysAcyclic id) (hk : s.Keeps t) :
    t.StaysAcyclic id := by
  have hacc := h.acc
  induction hacc with
  | intro id _ ih =>
    obtain ⟨n, hn⟩ := Store.exists_node? (h.present id .refl)
    refine .of_steps (Nat.lt_of_lt_of_le (h.present id .refl) hk.size_le) fun x hx => ?_
    -- No other node has come in the place of a slot, so nothing else may be given for the node.
    have hold : s.MayRefer id x := by
      rcases hx with ⟨m, hm, hx⟩ | ⟨slot, hv, make, scope, hd, hmake⟩
      · cases (hk id n hn).symm.trans hm
        exact .inl ⟨n, hn, hx⟩
      · cases (hk id n hn).symm.trans hd
        have hslot := h.present slot (.single (.inl ⟨_, hn, Node.slot_mem_edges _ slot⟩))
        rw [hk.node_eq hslot] at hv
        exact .inr ⟨slot, hv, make, scope, hn, hmake⟩
    exact ih x hold (h.of_reaches (.single hold))

theorem OffersDescend.acyclic_of_mayReach (h : s.OffersDescend) (ha : s.Acyclic x)
    (hxy : s.MayReach x y) : s.Acyclic y := by
  induction hxy with
  | refl => exact ha
  | tail _ hyz ih =>
    rcases hyz with hyz | ⟨slot, hd⟩
    · exact ih.of_reaches (.single hyz)
    · exact h.acyclic _ slot _ hd

theorem OffersDescend.staysAcyclic (h : s.OffersDescend) (ha : s.Acyclic id) : s.StaysAcyclic id where
  present x hx := (h.acyclic_of_mayReach ha hx).present x .refl
  no_cycle x hx hxx := by
    rcases refers_or_offers hxx with hxx | ⟨d, slot, z, hd, hxd, hz⟩
    · exact (h.acyclic_of_mayReach ha hx).no_cycle x .refl hxx
    · exact h.forward d slot z hd (hz.trans hxd)

/-- It is so where nodes refer to older ones, and functions of the host give older ones. -/
theorem offersDescend_of_older (h : ∀ x < s.size, ∀ y ∈ ((s.node? x).getD .vacant).edges, y < x)
    (ho : ∀ d slot x, s.Offers d slot x → x < d) : s.OffersDescend := by
  have edge : ∀ a b, s.MayRefer a b → b < a := by
    rintro a b (⟨n, hn, hb⟩ | ⟨slot, hab⟩)
    · exact h a (Store.lt_size hn) b (by rwa [hn])
    · exact ho a slot b hab
  have older : ∀ a b, s.MayReach a b → b ≤ a := by
    intro a b hab
    induction hab with
    | refl => exact Nat.le_refl a
    | tail _ hbc ih => exact Nat.le_trans (Nat.le_of_lt (edge _ _ hbc)) ih
  refine ⟨fun d slot x hx => ?_, fun d slot x hx hback => ?_⟩
  · obtain ⟨rebuild, hd⟩ := hx.node
    exact acyclic_of_older h (Nat.lt_trans (ho d slot x hx) (Store.lt_size hd))
  · exact absurd (ho d slot x hx) (Nat.not_lt_of_le (older x d hback))

end Offers

end Store

end Snippet
