import Mathlib.Data.List.Basic
import Mathlib.Logic.ExistsUnique
import Snippet.Proofs.Store.Ranks

/-!
What compaction makes of a list of nodes in which a node may stand more than once. The numbers of its
nodes are 1, 2, 3, … then, each once, and they follow the numbers before, and where these are equal the
order of the list.
-/

namespace Snippet

theorem pair_sublist_or {α : Type} {x y : α} {l : List α} (hx : x ∈ l) (hy : y ∈ l) (h : x ≠ y) :
    [x, y].Sublist l ∨ [y, x].Sublist l := by
  obtain ⟨before, after, rfl⟩ := List.append_of_mem hx
  rcases List.mem_append.mp hy with hy | hy
  · exact .inr ((List.singleton_sublist.mpr hy).append (List.singleton_sublist.mpr (by simp)))
  · rcases List.mem_cons.mp hy with rfl | hy
    · exact absurd rfl h
    · have hpair : [x, y].Sublist (x :: after) := (List.singleton_sublist.mpr hy).cons_cons x
      exact .inl (hpair.trans (List.sublist_append_right _ _))

theorem exists_split_at {α : Type} {l : List α} {k : Nat} (hk : 1 ≤ k) (h : k ≤ l.length) :
    ∃ before x after, l = before ++ x :: after ∧ before.length + 1 = k := by
  have hlt : k - 1 < l.length := by omega
  refine ⟨l.take (k - 1), l[k - 1], l.drop (k - 1 + 1), ?_, ?_⟩
  · rw [← List.drop_eq_getElem_cons hlt, List.take_append_drop]
  · rw [List.length_take]
    omega

namespace Positions

variable {α : Type} [DecidableEq α] {position? : α → Option Int} {seen l : List α} {a b : α}
  {p q : Int}

theorem mem_numbered_of (hseen : a ∉ seen) (ha : a ∈ l) (hp : position? a = some p) (hpos : 0 < p) :
    (a, p) ∈ numbered seen (l.map fun x => (x, position? x)) := by
  induction l generalizing seen with
  | nil => cases ha
  | cons x l ih =>
    rw [List.map_cons]
    -- The first node is `a`, or `a` stands behind it and is none of those seen.
    by_cases hx : x = a
    · subst hx
      rw [hp, numbered, if_pos ⟨hpos, hseen⟩]
      exact List.mem_cons_self
    · have hl : a ∈ l := by simpa [Ne.symm hx] using ha
      cases hpx : position? x with
      | none => exact ih hseen hl
      | some p' =>
        rw [numbered]
        split
        · have hfresh : a ∉ x :: seen := by simp [hseen, Ne.symm hx]
          exact List.mem_cons_of_mem _ (ih hfresh hl)
        · exact ih hseen hl

/-- Numbers stand in the order in which their nodes stand first. -/
theorem pair_sublist_numbered (ha : a ∉ seen) (hb : b ∉ seen) (hal : a ∈ l) (hbl : b ∈ l)
    (hfirst : l.idxOf a < l.idxOf b) (hp : position? a = some p) (hpos : 0 < p)
    (hq : position? b = some q) (hqos : 0 < q) :
    [(a, p), (b, q)].Sublist (numbered seen (l.map fun x => (x, position? x))) := by
  induction l generalizing seen with
  | nil => cases hal
  | cons x l ih =>
    have hxb : x ≠ b := by
      rintro rfl
      rw [List.idxOf_cons_self] at hfirst
      omega
    have hbl' : b ∈ l := by simpa [Ne.symm hxb] using hbl
    rw [List.map_cons]
    by_cases hxa : x = a
    · subst hxa
      have hfresh : b ∉ x :: seen := by simp [hb, Ne.symm hxb]
      rw [hp, numbered, if_pos ⟨hpos, ha⟩]
      exact (List.singleton_sublist.mpr (mem_numbered_of hfresh hbl' hq hqos)).cons_cons _
    · have hal' : a ∈ l := by simpa [Ne.symm hxa] using hal
      have hfirst' : l.idxOf a < l.idxOf b := by
        rw [List.idxOf_cons_ne _ hxa, List.idxOf_cons_ne _ hxb] at hfirst
        omega
      cases hpx : position? x with
      | none => exact ih ha hb hal' hbl' hfirst'
      | some p' =>
        rw [numbered]
        split
        · have ha' : a ∉ x :: seen := by simp [ha, Ne.symm hxa]
          have hb' : b ∉ x :: seen := by simp [hb, Ne.symm hxb]
          exact (ih ha' hb' hal' hbl' hfirst').cons _
        · exact ih ha hb hal' hbl' hfirst'

theorem mem_ranked_of (ha : a ∈ l) (hp : position? a = some p) (hpos : 0 < p) :
    (a, p) ∈ ranked (l.map fun x => (x, position? x)) :=
  List.mem_mergeSort.mpr (mem_numbered_of List.not_mem_nil ha hp hpos)

theorem pairwise_ranked (l : List (α × Option Int)) :
    (ranked l).Pairwise fun x y => x.2 ≤ y.2 := by
  have hsorted : (ranked l).Pairwise fun x y => decide (x.2 ≤ y.2) = true :=
    List.pairwise_mergeSort byNumber_trans byNumber_total (numbered [] l)
  exact hsorted.imp fun h => by simpa using h

/-- Ranks stand in the order of the numbers, and equal numbers as their nodes stand first. -/
theorem pair_sublist_ranked (hal : a ∈ l) (hbl : b ∈ l) (hp : position? a = some p) (hpos : 0 < p)
    (hq : position? b = some q) (h : p < q ∨ p = q ∧ l.idxOf a < l.idxOf b) :
    [(a, p), (b, q)].Sublist (ranked (l.map fun x => (x, position? x))) := by
  have hqos : 0 < q := by omega
  rcases h with hlt | ⟨rfl, hfirst⟩
  · have hne : (a, p) ≠ (b, q) := by
      intro he
      rw [(Prod.mk.inj he).2] at hlt
      omega
    rcases pair_sublist_or (mem_ranked_of hal hp hpos) (mem_ranked_of hbl hq hqos) hne with hs | hs
    · exact hs
    · have hle := (pairwise_ranked (l.map fun x => (x, position? x))).sublist hs
      have hqp : q ≤ p := by simpa using hle
      omega
  · exact List.pair_sublist_mergeSort byNumber_trans byNumber_total (by simp)
      (pair_sublist_numbered List.not_mem_nil List.not_mem_nil hal hbl hfirst hp hpos hq hqos)

end Positions

namespace Store

open Positions

/-- The positive positions of the nodes of a list are 1, 2, …, `n`, each of them once. -/
def Dense (s : Store) (ids : List NodeId) : Prop :=
  ∃ n : Nat, (∀ id ∈ ids, ∀ p, s.position? id = some p → p ≤ n) ∧
    ∀ k : Nat, 1 ≤ k → k ≤ n → ∃! id, id ∈ ids ∧ s.position? id = some (k : Int)

variable {s t : Store} {ids : List NodeId} {a b : NodeId} {p q : Int}

theorem Dense.congr (h : s.Dense ids) (heq : ∀ id ∈ ids, t.position? id = s.position? id) :
    t.Dense ids := by
  obtain ⟨n, hle, hall⟩ := h
  refine ⟨n, fun id hid p hp => hle id hid p (heq id hid ▸ hp), fun k hk hkn => ?_⟩
  obtain ⟨id, ⟨hid, hpos⟩, huniq⟩ := hall k hk hkn
  exact ⟨id, ⟨hid, (heq id hid).trans hpos⟩,
    fun y ⟨hy, hyp⟩ => huniq y ⟨hy, (heq y hy).symm.trans hyp⟩⟩

/-- A number is replaced by its place among the ranked ones. -/
theorem position?_compact_of_ranked {l r : List (NodeId × Int)}
    (h : ranked (ids.map fun id => (id, s.position? id)) = l ++ (a, p) :: r) :
    (s.compact ids).position? a = some ↑(l.length + 1) := by
  have hmem : (a, p) ∈ ranked (ids.map fun id => (id, s.position? id)) := by simp [h]
  obtain ⟨hin, -⟩ := mem_ranked hmem
  obtain ⟨x, -, hx⟩ := List.mem_map.mp hin
  obtain ⟨rfl, hp⟩ := Prod.mk.inj hx
  have hnodup := nodup_ranked (ids.map fun id => (id, s.position? id))
  rw [h] at hnodup
  rw [compact, compaction, changes, h]
  exact position?_renumber hnodup hp

theorem exists_ranked_split (ha : a ∈ ids) (hp : s.position? a = some p) (hpos : 0 < p) :
    ∃ l r, ranked (ids.map fun id => (id, s.position? id)) = l ++ (a, p) :: r :=
  List.append_of_mem (mem_ranked_of ha hp hpos)

theorem dense_compact (s : Store) (ids : List NodeId) : (s.compact ids).Dense ids := by
  -- There are as many numbers as nodes that had one.
  have place : ∀ id ∈ ids, ∀ p, (s.compact ids).position? id = some p → 0 < p →
      ∃ l r q, ranked (ids.map fun id => (id, s.position? id)) = l ++ (id, q) :: r ∧
        p = ((l.length + 1 : Nat) : Int) := by
    intro id hid p hp hpos
    cases hnum : isNumber (s.position? id) with
    | false =>
      rw [position?_compact_of fun _ => hnum] at hp
      rw [hp] at hnum
      simp [isNumber, hpos] at hnum
    | true =>
      obtain ⟨q, hq, hqos⟩ : ∃ q, s.position? id = some q ∧ 0 < q := by
        simpa [isNumber, Option.any_eq_true] using hnum
      obtain ⟨l, r, hsplit⟩ := exists_ranked_split hid hq hqos
      rw [position?_compact_of_ranked hsplit] at hp
      exact ⟨l, r, q, hsplit, (Option.some.inj hp).symm⟩
  refine ⟨(ranked (ids.map fun id => (id, s.position? id))).length, ?bound, ?each⟩
  case bound =>
    intro id hid p hp
    by_cases hpos : 0 < p
    · obtain ⟨l, r, q, hsplit, rfl⟩ := place id hid p hp hpos
      rw [hsplit, List.length_append, List.length_cons]
      omega
    · omega
  case each =>
    intro k hk hkn
    obtain ⟨l, ⟨id, q⟩, r, hsplit, hl⟩ := exists_split_at hk hkn
    have hmem : (id, q) ∈ ranked (ids.map fun id => (id, s.position? id)) := by simp [hsplit]
    obtain ⟨hin, -⟩ := mem_ranked hmem
    obtain ⟨y, hy, he⟩ := List.mem_map.mp hin
    obtain ⟨rfl, -⟩ := Prod.mk.inj he
    refine ⟨y, ⟨hy, by rw [position?_compact_of_ranked hsplit, hl]⟩, ?_⟩
    rintro z ⟨hz, hzk⟩
    -- The node that has the number stands in the place that the number tells.
    obtain ⟨l', r', q', hsplit', hk'⟩ := place z hz k hzk (by omega)
    have hlength : l'.length = l.length := by omega
    have hcons := List.append_inj_right (hsplit'.symm.trans hsplit) hlength
    exact (Prod.mk.inj (List.cons.inj hcons).1).1

/-- What comes first by its number, or first in the list at equal numbers, comes first after
compaction. -/
theorem compact_order (ha : a ∈ ids) (hb : b ∈ ids) (hp : s.position? a = some p) (hpos : 0 < p)
    (hq : s.position? b = some q) (h : p < q ∨ p = q ∧ ids.idxOf a < ids.idxOf b) :
    ∃ m n, (s.compact ids).position? a = some m ∧ (s.compact ids).position? b = some n ∧
      0 < m ∧ m < n := by
  have hpair := pair_sublist_ranked ha hb hp hpos hq h
  obtain ⟨front, back, hsplit, hfront, hback⟩ := List.cons_sublist_iff.mp hpair
  obtain ⟨l, l', rfl⟩ := List.append_of_mem hfront
  obtain ⟨m, m', rfl⟩ := List.append_of_mem (List.singleton_sublist.mp hback)
  have ha' := position?_compact_of_ranked (a := a) (p := p) (l := l) (r := l' ++ (m ++ (b, q) :: m'))
    (hsplit.trans (by simp))
  have hb' := position?_compact_of_ranked (a := b) (p := q) (l := l ++ (a, p) :: l' ++ m) (r := m')
    (hsplit.trans (by simp))
  refine ⟨_, _, ha', hb', by omega, ?_⟩
  simp only [List.length_append, List.length_cons]
  omega

end Store

end Snippet
