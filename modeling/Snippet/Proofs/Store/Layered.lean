import Snippet.Proofs.Store.Static

/-!
Parts of a store that are built up in layers. From some node on, the text of each node is made from older
nodes among them, a dynamic node has the slot right before it, and the nodes that functions of the host give
for it are older too. Such a part is closed.
-/

namespace Snippet

theorem Node.mem_edges {n : Node} {x : NodeId} (hx : x ∈ n.edges) :
    x ∈ n.sources ∨ ∃ rebuild, n = .dynamic rebuild x := by
  cases n with
  | dynamic rebuild slot =>
    match rebuild with
    | none => exact .inr ⟨_, by rw [List.mem_singleton.mp hx]⟩
    | some (.host make) => exact .inr ⟨_, by rw [List.mem_singleton.mp hx]⟩
    | some (.body body) =>
      simp only [edges, List.mem_cons, List.not_mem_nil, or_false] at hx
      rcases hx with rfl | rfl
      · exact .inl (by simp [sources])
      · exact .inr ⟨_, rfl⟩
  | text lines => cases hx
  | tabstop default typed => cases hx
  | choice choices index => cases hx
  | host type lines positioned => cases hx
  | vacant => cases hx
  | _ => exact .inl hx

namespace Store

/-- The node `d` is older than `id`, not older than `base`, and no empty slot. -/
def Readable (s : Store) (base id d : Nat) : Prop :=
  base ≤ d ∧ d < id ∧ s.node? d ≠ some .vacant

variable {s t : Store} {base id d : NodeId} {n : Node}

theorem Readable.keeps (hk : s.Keeps t) (hid : id ≤ s.size) (h : s.Readable base id d) :
    t.Readable base id d := by
  refine ⟨h.1, h.2.1, ?_⟩
  rw [hk.node_eq (Nat.lt_of_lt_of_le h.2.1 hid)]
  exact h.2.2

theorem Readable.older {id' : NodeId} (h : s.Readable base id d) (hid : id ≤ id') :
    s.Readable base id' d :=
  ⟨h.1, Nat.lt_of_lt_of_le h.2.1 hid, h.2.2⟩

/-- What is there to be read is so in a store with more nodes. -/
theorem Readable.extend (hk : s.Keeps t) (h : s.Readable base s.size d) :
    t.Readable base t.size d :=
  (h.keeps hk (Nat.le_refl _)).older hk.size_le

theorem readable_add (hb : base ≤ s.size) (hn : n ≠ .vacant) (position : Option Int) :
    (s.add n position).2.Readable base (s.add n position).2.size s.size := by
  refine ⟨hb, by simp, ?_⟩
  rw [node?_add, if_pos rfl]
  exact fun he => hn (Option.some.inj he)

/-- From `base` on, nodes are made from older ones, a slot stands right before its node, and what is not
built yet may be built with older nodes. -/
structure Layered (base : NodeId) (s : Store) : Prop where
  source : ∀ id n, base ≤ id → s.node? id = some n → ∀ x ∈ n.sources, s.Readable base id x
  slot : ∀ id rebuild slot, base ≤ id → s.node? id = some (.dynamic rebuild slot) →
    base ≤ slot ∧ slot + 1 = id
  offered : ∀ id slot x, base ≤ id → s.Offers id slot x → s.Readable base id x

/-- Behind its last node every store is in layers. -/
theorem layered_end (s : Store) : s.Layered s.size where
  source _ _ hb hn := absurd (lt_size hn) (Nat.not_lt_of_le hb)
  slot _ _ _ hb hn := absurd (lt_size hn) (Nat.not_lt_of_le hb)
  offered _ _ _ hb hx := absurd (lt_size hx.node.choose_spec) (Nat.not_lt_of_le hb)

theorem Layered.keeps (hk : s.Keeps t) (hsize : t.size = s.size) (h : s.Layered base) :
    t.Layered base where
  source id n hb hn x hx := by
    have hid : id < s.size := hsize ▸ lt_size hn
    rw [hk.node_eq hid] at hn
    exact (h.source id n hb hn x hx).keeps hk (Nat.le_of_lt hid)
  slot id rebuild slot hb hn := by
    rw [hk.node_eq (hsize ▸ lt_size hn)] at hn
    exact h.slot id rebuild slot hb hn
  offered id slot x hb hx := by
    obtain ⟨hv, make, scope, hn, hmake⟩ := hx
    have hid : id < s.size := hsize ▸ lt_size hn
    rw [hk.node_eq (hsize ▸ lt_size hv)] at hv
    rw [hk.node_eq hid] at hn
    exact (h.offered id slot x hb ⟨hv, make, scope, hn, hmake⟩).keeps hk (Nat.le_of_lt hid)

theorem Layered.add (h : s.Layered base) (hsource : ∀ x ∈ n.sources, s.Readable base s.size x)
    (hslot : ∀ rebuild slot, n = .dynamic rebuild slot → base ≤ slot ∧ slot + 1 = s.size)
    (hoffered : ∀ make slot scope x, n = .dynamic (some (.host make)) slot →
      make scope = .ok (.node x) → s.Readable base s.size x)
    (position : Option Int) : (s.add n position).2.Layered base where
  source id m hb hm x hx := by
    have hk := keeps_add s n position
    rw [node?_add] at hm
    split at hm
    · next hid =>
      cases hm
      rw [hid]
      exact (hsource x hx).keeps hk (Nat.le_refl _)
    · exact (h.source id m hb hm x hx).keeps hk (Nat.le_of_lt (lt_size hm))
  slot id rebuild slot hb hm := by
    rw [node?_add] at hm
    split at hm
    · next hid =>
      cases hm
      rw [hid]
      exact hslot rebuild slot rfl
    · exact h.slot id rebuild slot hb hm
  offered id slot x hb hx := by
    have hk := keeps_add s n position
    obtain ⟨hv, make, scope, hm, hmake⟩ := hx
    rw [node?_add] at hm
    split at hm
    · next hid =>
      cases hm
      rw [hid]
      exact (hoffered make slot scope x rfl hmake).keeps hk (Nat.le_refl _)
    · have hslot : slot < s.size :=
        Nat.lt_trans (Nat.lt_of_succ_le (Nat.le_of_eq (h.slot id _ slot hb hm).2)) (lt_size hm)
      rw [hk.node_eq hslot] at hv
      exact (h.offered id slot x hb ⟨hv, make, scope, hm, hmake⟩).keeps hk (Nat.le_of_lt (lt_size hm))

/-- A node that is not dynamic needs older sources only. -/
theorem Layered.add_plain (h : s.Layered base) (hsource : ∀ x ∈ n.sources, s.Readable base s.size x)
    (hn : ∀ rebuild slot, n ≠ .dynamic rebuild slot) (position : Option Int) :
    (s.add n position).2.Layered base :=
  h.add hsource (fun rebuild slot he => absurd he (hn rebuild slot))
    (fun _ _ _ _ he => absurd he (hn _ _)) position

/-- A part in layers is closed, ranked by the numbers of its nodes. -/
theorem Layered.closed (h : s.Layered base) :
    s.Closed (fun id => base ≤ id ∧ id < s.size) (fun id => id) where
  present _ hp := exists_node? hp.2
  bounded _ hp := Nat.le_of_lt hp.2
  edge id n hp hn x hx := by
    rcases Node.mem_edges hx with hx | ⟨rebuild, rfl⟩
    · have hr := h.source id n hp.1 hn x hx
      exact ⟨⟨hr.1, Nat.lt_trans hr.2.1 hp.2⟩, hr.2.1⟩
    · have hs := h.slot id rebuild x hp.1 hn
      have hlt : x < id := Nat.lt_of_succ_le (Nat.le_of_eq hs.2)
      exact ⟨⟨hs.1, Nat.lt_trans hlt hp.2⟩, hlt⟩
  source id n hp hn x hx := (h.source id n hp.1 hn x hx).2.2
  -- A dynamic node stands right behind its slot, so no other node has that slot.
  owner d d' r r' slot hp hp' hn hn' _ := by
    have hd := (h.slot d r slot hp.1 hn).2
    have hd' := (h.slot d' r' slot hp'.1 hn').2
    obtain rfl : d = d' := hd.symm.trans hd'
    rw [hn] at hn'
    cases hn'
    rfl
  offered d slot x hp hx := by
    have hr := h.offered d slot x hp.1 hx
    exact ⟨⟨hr.1, Nat.lt_trans hr.2.1 hp.2⟩, hr.2.1, hr.2.2⟩

end Store

end Snippet
