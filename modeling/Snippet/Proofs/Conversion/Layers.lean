import Snippet.Proofs.Conversion.Invariants
import Snippet.Proofs.Store.Layered

/-!
Conversion builds a store up in layers, whatever the host makes of live bodies, as long as it changes no
node and refers to older nodes only.
-/

namespace Snippet

namespace Assembler

/-- The assembler changes no node. In a part in layers from `base` on, it makes a node of that part from
the body, and the part is in layers still. -/
structure Regular (base : NodeId) (assembler : Assembler) : Prop where
  keeping : assembler.Keeping
  layered : ∀ {s : Store} {group : NodeId} (position : Int), s.Layered base →
    s.Readable base s.size group → (assembler position group s).2.Layered base
  readable : ∀ {s : Store} {group : NodeId} (position : Int), s.Layered base →
    s.Readable base s.size group →
      (assembler position group s).2.Readable base (assembler position group s).2.size
        (assembler position group s).1

theorem base_le_of_readable {s : Store} {base id d : NodeId} (h : s.Readable base id d) :
    base ≤ id :=
  Nat.le_trans h.1 (Nat.le_of_lt h.2.1)

/-- What is spread of a body. -/
def spreading (group : NodeId) (s : Store) : List NodeId :=
  match s.node? group with
  | some (.group children) => children
  | _ => []

theorem spread_eq : spread = fun _ group s => s.add (.row (spreading group s)) none := by
  funext position group s
  unfold spread spreading
  cases s.node? group with
  | none => rfl
  | some n => cases n <;> rfl

section Library

variable (base : NodeId)

theorem regular_embed : Regular base embed where
  keeping := keeping_embed
  layered _ h _ := h.keeps (Store.keeps_setPosition _ _ _) (Store.size_setPosition _ _ _)
  readable _ _ hg := hg.extend (Store.keeps_setPosition _ _ _)

/-- An assembler that adds a node made from the body. -/
theorem regular_add (node : NodeId → Store → Node) (place : Int → Option Int)
    (hv : ∀ group s, node group s ≠ .vacant) (hd : ∀ group s r slot, node group s ≠ .dynamic r slot)
    (hsource : ∀ {s : Store} {group : NodeId}, s.Layered base → s.Readable base s.size group →
      ∀ x ∈ (node group s).sources, s.Readable base s.size x) :
    Regular base fun position group s => s.add (node group s) (place position) where
  keeping _ _ s := Store.keeps_add s _ _
  layered _ h hg := h.add_plain (hsource h hg) (hd _ _) _
  readable _ _ hg := Store.readable_add (base_le_of_readable hg) (hv _ _) _

theorem regular_tabstop (default : Option String) : Regular base (tabstop default) :=
  regular_add base (fun _ _ => .tabstop default none) some (by simp) (by simp)
    (by simp [Node.sources])

theorem regular_text (lines : Lines) : Regular base (text lines) :=
  regular_add base (fun _ _ => .text lines) (fun _ => none) (by simp) (by simp)
    (by simp [Node.sources])

theorem regular_indent (blank : String) : Regular base (indent blank) :=
  regular_add base (fun group _ => .wrap group ⟨blank, true⟩) (fun _ => none) (by simp) (by simp)
    fun _ hg x hx => List.mem_singleton.mp hx ▸ hg

/-- The row refers to what the body refers to. -/
theorem regular_spread : Regular base spread := by
  rw [spread_eq]
  refine regular_add base (fun group s => .row (spreading group s)) (fun _ => none) (by simp)
    (by simp) fun {s group} h hg x hx => ?_
  simp only [Node.sources, spreading] at hx
  split at hx
  · next children hn =>
    exact (h.source group _ hg.1 hn x hx).older (Nat.le_of_lt hg.2.1)
  · cases hx

end Library

end Assembler

namespace Conversion

/-- From `base` on the store is in layers. Only nodes of this part are referred to, or stand among
siblings. -/
def layers (base : NodeId) : Upkeep where
  holds s := base ≤ s.size ∧ s.Layered base
  refs s id := s.Readable base s.size id
  made s id := s.Readable base s.size id
  units s id := s.Readable base s.size id
  rows s id := s.Readable base s.size id

variable {base : NodeId} {s t : Store} {n : Node}

theorem layers_next (hb : base ≤ s.size) (hk : s.Keeps t) (ht : t.Layered base) :
    (layers base).Next s t where
  holds := ⟨Nat.le_trans hb hk.size_le, ht⟩
  refs _ hid := hid.extend hk
  made _ hid := hid.extend hk
  units _ hid := hid.extend hk
  rows _ hid := hid.extend hk

theorem layers_added (h : (layers base).holds s) (hv : n ≠ .vacant) {p : Option Int}
    (ht : (s.add n p).2.Layered base) :
    (layers base).Next s (s.add n p).2 ∧ (layers base).made (s.add n p).2 s.size :=
  ⟨layers_next h.1 (Store.keeps_add s n p) ht, Store.readable_add h.1 hv p⟩

theorem made_sources {R : NodeId → Prop} (hn : n.Made (fun x x' => x' = x ∧ R x) n) :
    ∀ x ∈ n.sources, R x :=
  fun x hx => hn.rename.2 x (n.sources_subset_edges hx)

/-- The body stands before the slot, and the slot right before the dynamic node. -/
theorem layers_flattened (h : (layers base).holds s) {group : NodeId}
    (hg : (layers base).made s group) (position : Int) :
    let r := s.flattenStatic position group
    (layers base).Next s r.2 ∧ (layers base).made r.2 r.1 := by
  have hkeeps := Store.keeps_add s .vacant none
  have hsize : (s.add .vacant none).2.size = s.size + 1 := Store.size_add s .vacant none
  have hvacant : (layers base).holds (s.add .vacant none).2 :=
    ⟨Nat.le_trans h.1 hkeeps.size_le, h.2.add_plain (by simp [Node.sources]) (by simp) none⟩
  have hlayered := hvacant.2.add (n := .dynamic (some (.body group)) s.size)
    (fun x hx => List.mem_singleton.mp hx ▸ hg.extend hkeeps)
    (fun r slot he => by
      cases he
      exact ⟨h.1, hsize.symm⟩)
    (fun _ _ _ _ he => by cases he) (some position)
  refine ⟨layers_next h.1 (hkeeps.trans (Store.keeps_add _ _ _)) hlayered, ?_⟩
  exact (layers_added hvacant (by simp) hlayered).2

theorem layers_kept {assembler : Assembler} (hregular : assembler.Regular base) :
    (layers base).Kept assembler where
  madeRefs _ hid := hid
  madeUnits _ hid := hid
  rowRefs _ hid := hid
  spliced {s id} h hid x hx := by
    simp only [spliced] at hx
    split at hx
    · next members hn =>
      exact (h.2.source id _ hid.1 hn x hx).older (Nat.le_of_lt hid.2.1)
    · exact List.mem_singleton.mp hx ▸ hid
  added p h hn :=
    layers_added h (by rintro rfl; cases hn)
      (h.2.add_plain (made_sources hn) (by rintro r slot rfl; cases hn) p)
  compacted {s ids} h _ :=
    layers_next h.1 (Store.keeps_compact s ids)
      (h.2.keeps (Store.keeps_compact s ids) (Store.size_compact s ids))
  classified {s group} p h hg := by
    simp only [Store.classify]
    split
    · exact ⟨layers_next h.1 (hregular.keeping _ _ _) (hregular.layered p h.2 hg),
        hregular.readable p h.2 hg⟩
    · exact layers_flattened h hg p

end Conversion

end Snippet
