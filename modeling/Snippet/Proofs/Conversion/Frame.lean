import Snippet.Proofs.Conversion.Invariants
import Snippet.Proofs.Conversion.Placing

/-!
What a conversion leaves alone. With live bodies embedded as they are, it changes nothing of a node that
was there before, whether it succeeds or not, but for the positions of the nodes that stand ready among
siblings of the tree.
-/

namespace Snippet

/-- The nodes that stand ready among siblings of a tree. A row of nodes stands for its members. -/
def Element.siblingSupply (s : Store) (e : Element) : List NodeId :=
  e.inside.flatMap fun id => Conversion.spliced s (.one id)

theorem Element.supplied_cases (e : Element) : (∃ id, e = .built id) ∨ e.inside = e.supplied := by
  cases e with
  | built id => exact .inl ⟨id, rfl⟩
  | _ => exact .inr rfl

namespace Store

/-- The store `t` has the nodes of `s` as they are, and their positions but for those among `touched`. -/
structure Frames (touched : List NodeId) (s t : Store) : Prop where
  keeps : s.Keeps t
  still : ∀ id < s.size, id ∉ touched → t.position? id = s.position? id

variable {touched : List NodeId} {s t : Store} {id : NodeId}

theorem Frames.refl (touched : List NodeId) (s : Store) : s.Frames touched s :=
  ⟨.refl s, fun _ _ _ => rfl⟩

theorem Frames.add (h : s.Frames touched t) (n : Node) (p : Option Int) :
    s.Frames touched (t.add n p).2 where
  keeps := h.keeps.trans (keeps_add t n p)
  still id hid hnot := by
    have hne : id ≠ t.size := Nat.ne_of_lt (Nat.lt_of_lt_of_le hid h.keeps.size_le)
    rw [position?_add, if_neg hne, h.still id hid hnot]

theorem Frames.setPosition (h : s.Frames touched t) (hid : s.size ≤ id) (p : Option Int) :
    s.Frames touched (t.setPosition id p) where
  keeps := h.keeps.trans (keeps_setPosition t id p)
  still x hx hnot := by
    have hne : id ≠ x := by
      rintro rfl
      exact absurd hx (Nat.not_lt_of_le hid)
    rw [position?_setPosition, if_neg fun he => hne he.1, h.still x hx hnot]

theorem Frames.compact (h : s.Frames touched t) {ids : List NodeId}
    (hids : ∀ id ∈ ids, s.size ≤ id ∨ id ∈ touched) : s.Frames touched (t.compact ids) where
  keeps := h.keeps.trans (keeps_compact t ids)
  still x hx hnot := by
    have hrow : x ∉ ids := by
      intro hmem
      rcases hids x hmem with hnew | ht
      · exact absurd hx (Nat.not_lt_of_le hnew)
      · exact hnot ht
    rw [position?_compact_of fun hmem => absurd hmem hrow, h.still x hx hnot]

end Store

namespace Conversion

/-- The store frames `s`, and no node has been made that stands for a row. -/
def framing (s : Store) (given touched : List NodeId) : Upkeep where
  holds t := s.Frames touched t ∧ ∀ id, s.size ≤ id → ∀ members, t.node? id ≠ some (.row members)
  refs _ _ := True
  made _ id := s.size ≤ id
  units _ id := s.size ≤ id ∨ id ∈ given
  rows _ id := s.size ≤ id ∨ id ∈ touched

variable {s t : Store} {given touched : List NodeId}

theorem framing_next (hf : s.Frames touched t)
    (hrow : ∀ id, s.size ≤ id → ∀ members, t.node? id ≠ some (.row members)) (u : Store) :
    (framing s given touched).Next u t :=
  ⟨⟨hf, hrow⟩, fun _ _ => trivial, fun _ h => h, fun _ h => h, fun _ h => h⟩

theorem framing_added (h : (framing s given touched).holds t) {n : Node}
    (hn : ∀ members, n ≠ .row members) (p : Option Int) :
    (framing s given touched).Next t (t.add n p).2 ∧
      (framing s given touched).made (t.add n p).2 t.size := by
  refine ⟨framing_next (h.1.add n p) (fun id hid members hm => ?_) t, h.1.keeps.size_le⟩
  rw [Store.node?_add] at hm
  split at hm
  · exact hn members (Option.some.inj hm)
  · exact h.2 id hid members hm

theorem framing_kept (hgiven : ∀ id ∈ given, ∀ x ∈ spliced s (.one id), x ∈ touched) :
    (framing s given touched).Kept Assembler.embed where
  madeRefs _ _ := trivial
  madeUnits _ h := .inl h
  rowRefs _ _ := trivial
  spliced {t id} h hid x hx := by
    simp only [spliced] at hx
    by_cases hnew : s.size ≤ id
    · split at hx
      · next members hn => exact absurd hn (h.2 id hnew members)
      · exact .inl (List.mem_singleton.mp hx ▸ hnew)
    · -- The node is an old one, so it stands for what it has stood for at first.
      rw [h.1.keeps.node_eq (Nat.lt_of_not_le hnew)] at hx
      exact .inr (hgiven id (hid.resolve_left hnew) x hx)
  added p h hn := framing_added h (by rintro members rfl; cases hn) p
  compacted {t ids} h hids :=
    framing_next (h.1.compact hids) (fun id hid members => by
      rw [Store.node?_compact]
      exact h.2 id hid members) t
  classified {t group} p h hg := by
    simp only [Store.classify]
    split
    · exact ⟨framing_next (h.1.setPosition hg (some p)) (fun id hid members => by
        rw [Store.node?_setPosition]
        exact h.2 id hid members) t, hg⟩
    · have hslot := framing_added (n := .vacant) h (by simp) none
      have hdynamic := framing_added (n := .dynamic (some (.body group)) t.size) hslot.1.holds
        (by simp) (some p)
      exact ⟨framing_next hdynamic.1.holds.1 hdynamic.1.holds.2 t, hdynamic.2⟩

/-- However a conversion ends, old nodes are what they were, and where they were, unless they stand ready
among siblings. -/
theorem convert_frames {settings : Settings}
    (hassembler : settings.policy.assembler = Assembler.embed) (e : Element) (w : Workspace) :
    w.store.Frames (e.siblingSupply w.store) (last (convert settings e w)).store := by
  rcases e.supplied_cases with ⟨id, rfl⟩ | hinside
  · exact .refl _ _
  · have hgiven : ∀ id ∈ e.supplied, ∀ x ∈ spliced w.store (.one id),
        x ∈ e.siblingSupply w.store :=
      fun id hid x hx => List.mem_flatMap.mpr ⟨id, hinside ▸ hid, hx⟩
    have hkept := hassembler ▸ framing_kept hgiven
    have hstart : (framing w.store e.supplied (e.siblingSupply w.store)).Holds w :=
      ⟨⟨.refl _ _, fun id hid members hn => absurd (Store.lt_size hn) (Nat.not_lt_of_le hid)⟩,
        fun _ _ _ => trivial⟩
    exact (hkept.convert e hstart fun id hid => .inr hid).last.store.1

end Conversion

end Snippet
