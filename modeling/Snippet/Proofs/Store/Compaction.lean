import Mathlib.Data.List.Nodup
import Snippet.Proofs.Conversion.Steps
import Snippet.Proofs.Store.Dense
import Snippet.Proofs.Store.Static

/-!
Compaction as a whole. The numbers of a list become 1, 2, 3, … in their order, and all else stays. Where
the numbers are dense already there is nothing to change, so a second compaction does nothing; and what
has no number might as well not stand in the list.
-/

namespace Snippet

namespace Positions

theorem changesFrom_eq_nil {α : Type} {k : Int} {l : List (α × Int)}
    (h : l.map Prod.snd = (List.range l.length).map fun i : Nat => k + (i : Int)) : changesFrom k l = [] := by
  induction l generalizing k with
  | nil => rfl
  | cons x l ih =>
    rw [List.length_cons, List.range_succ_eq_map, List.map_cons, List.map_cons, List.map_map] at h
    obtain ⟨hx, hl⟩ := List.cons.inj h
    have hk : x.2 = k := hx.trans (Int.add_zero k)
    rw [changesFrom, if_pos hk]
    apply ih
    rw [hl]
    apply List.map_congr_left
    intro i _
    show k + ((i + 1 : Nat) : Int) = k + 1 + i
    omega

/-- What has no number is passed over. -/
theorem numbered_filter {α : Type} [DecidableEq α] (position? : α → Option Int) (seen l : List α) :
    numbered seen ((l.filter fun a => isNumber (position? a)).map fun a => (a, position? a)) =
      numbered seen (l.map fun a => (a, position? a)) := by
  induction l generalizing seen with
  | nil => rfl
  | cons a l ih =>
    rw [List.map_cons]
    cases hp : position? a with
    | none =>
      rw [List.filter_cons_of_neg (by simp [hp, isNumber]), numbered, ih]
    | some p =>
      rw [numbered]
      by_cases hpos : 0 < p
      · rw [List.filter_cons_of_pos (by simpa [hp, isNumber] using hpos), List.map_cons, hp, numbered, ih,
          ih]
      · rw [List.filter_cons_of_neg (by simpa [hp, isNumber] using hpos), if_neg fun h => hpos h.1, ih]

end Positions

namespace Store

open Positions

variable {s : Store} {ids : List NodeId}

/-! ## Dense lists -/

/-- The ranked numbers of a dense list are 1, 2, 3, …. -/
theorem Dense.ranked_numbers (h : s.Dense ids) :
    let l := ranked (ids.map fun id => (id, s.position? id))
    l.map Prod.snd = (List.range l.length).map fun i : Nat => 1 + (i : Int) := by
  intro l
  obtain ⟨n, hbound, heach⟩ := h
  have mem_of : ∀ x ∈ l, x.1 ∈ ids ∧ s.position? x.1 = some x.2 ∧ 0 < x.2 := by
    intro x hx
    obtain ⟨hmem, hpos⟩ := mem_ranked hx
    obtain ⟨id, hid, he⟩ := List.mem_map.mp hmem
    obtain ⟨rfl, hp⟩ := Prod.mk.inj he
    exact ⟨hid, hp, hpos⟩
  -- No number is there twice, as only one node has it.
  have hdistinct : (l.map Prod.snd).Nodup := by
    refine List.Nodup.map_on ?_ (List.Nodup.of_map Prod.fst (nodup_ranked _))
    intro x hx y hy hxy
    obtain ⟨hxid, hxp, hxpos⟩ := mem_of x hx
    obtain ⟨hyid, hyp, -⟩ := mem_of y hy
    have hxn := hbound x.1 hxid x.2 hxp
    have hcast : ((x.2.toNat : Nat) : Int) = x.2 := Int.toNat_of_nonneg (Int.le_of_lt hxpos)
    obtain ⟨id, -, hunique⟩ := heach x.2.toNat (by omega) (by omega)
    rw [hcast] at hunique
    have hxid' := hunique x.1 ⟨hxid, hxp⟩
    have hyid' := hunique y.1 ⟨hyid, hxy ▸ hyp⟩
    exact Prod.ext (hxid'.trans hyid'.symm) hxy
  have hrange : ((List.range n).map fun i : Nat => 1 + (i : Int)).Pairwise (· < ·) := by
    refine List.pairwise_map.mpr (List.pairwise_lt_range.imp ?_)
    intro i j hij
    omega
  have hmem : ∀ p : Int, p ∈ l.map Prod.snd ↔ p ∈ (List.range n).map fun i : Nat => 1 + (i : Int) := by
    intro p
    constructor
    · intro hp
      obtain ⟨x, hx, rfl⟩ := List.mem_map.mp hp
      obtain ⟨hid, hxp, hpos⟩ := mem_of x hx
      have hle := hbound x.1 hid x.2 hxp
      exact List.mem_map.mpr ⟨(x.2 - 1).toNat, List.mem_range.mpr (by omega), by omega⟩
    · intro hp
      obtain ⟨i, hi, rfl⟩ := List.mem_map.mp hp
      rw [List.mem_range] at hi
      obtain ⟨id, ⟨hid, hp⟩, -⟩ := heach (i + 1) (by omega) (by omega)
      refine List.mem_map.mpr ⟨_, mem_ranked_of hid hp (by omega), ?_⟩
      show ((i + 1 : Nat) : Int) = 1 + i
      omega
  -- Both lists are in order and have the same numbers.
  have hperm := (List.perm_ext_iff_of_nodup hdistinct (hrange.imp Int.ne_of_lt)).mpr hmem
  have hlength : l.length = n := by simpa using hperm.length_eq
  rw [hlength]
  have hsorted : (l.map Prod.snd).Pairwise (· ≤ ·) := List.pairwise_map.mpr (pairwise_ranked _)
  refine hperm.eq_of_pairwise ?_ hsorted (hrange.imp Int.le_of_lt)
  intro p q _ _ hpq hqp
  exact Int.le_antisymm hpq hqp

/-- Compaction has nothing to change just where the numbers are dense. -/
theorem compaction_eq_nil_iff : s.compaction ids = [] ↔ s.Dense ids := by
  constructor
  · intro h
    have hdense := dense_compact s ids
    rwa [compact, h] at hdense
  · exact fun h => changesFrom_eq_nil h.ranked_numbers

theorem Dense.compact_eq (h : s.Dense ids) : s.compact ids = s := by
  rw [compact, compaction_eq_nil_iff.mpr h]
  rfl

theorem compaction_filter (s : Store) (ids : List NodeId) :
    s.compaction (ids.filter fun id => isNumber (s.position? id)) = s.compaction ids := by
  rw [compaction, compaction, changes, changes, ranked, ranked, numbered_filter]

/-! ## All that compaction does -/

/-- The store `t` has the nodes of `s`. Those of the list that have a number in `s` have the numbers 1, 2, …,
`n` in `t`, each of them once, in the order of their numbers in `s`, and where these are equal as they come
first in the list. No other position is another one in `t`. -/
structure Renumbered (s : Store) (ids : List NodeId) (t : Store) : Prop where
  numbers : ∃ n : Nat,
    (∀ id ∈ ids, isNumber (s.position? id) →
      ∃ k : Nat, 1 ≤ k ∧ k ≤ n ∧ t.position? id = some (k : Int)) ∧
    ∀ k : Nat, 1 ≤ k → k ≤ n →
      ∃! id, (id ∈ ids ∧ isNumber (s.position? id)) ∧ t.position? id = some (k : Int)
  order : ∀ a ∈ ids, ∀ b ∈ ids, ∀ p q, s.position? a = some p → 0 < p → s.position? b = some q →
    (p < q ∨ p = q ∧ ids.idxOf a < ids.idxOf b) →
      ∃ m n, t.position? a = some m ∧ t.position? b = some n ∧ m < n
  others : ∀ id, ¬(id ∈ ids ∧ isNumber (s.position? id)) → t.position? id = s.position? id
  nodes : ∀ id, t.node? id = s.node? id
  size : t.size = s.size

theorem exists_number {p : Option Int} (h : isNumber p) : ∃ q, p = some q ∧ 0 < q := by
  simpa [isNumber, Option.any_eq_true] using h

theorem renumbered_compact (s : Store) (ids : List NodeId) : s.Renumbered ids (s.compact ids) := by
  have others : ∀ id, ¬(id ∈ ids ∧ isNumber (s.position? id)) →
      (s.compact ids).position? id = s.position? id := by
    intro id hid
    exact position?_compact_of fun hmem => Bool.eq_false_iff.mpr fun hnum => hid ⟨hmem, hnum⟩
  refine ⟨?numbers, ?order, others, fun id => node?_compact s ids id, size_compact s ids⟩
  case numbers =>
    obtain ⟨n, hbound, heach⟩ := dense_compact s ids
    refine ⟨n, ?_, ?_⟩
    · intro id hid hnum
      obtain ⟨p, hp, hpos⟩ := exists_number hnum
      obtain ⟨l, r, hsplit⟩ := exists_ranked_split hid hp hpos
      have hplace := position?_compact_of_ranked hsplit
      have hle := hbound id hid _ hplace
      exact ⟨l.length + 1, by omega, by omega, hplace⟩
    · intro k hk hkn
      obtain ⟨id, ⟨hid, hpos⟩, hunique⟩ := heach k hk hkn
      refine ⟨id, ⟨⟨hid, ?_⟩, hpos⟩, fun other ho => hunique other ⟨ho.1.1, ho.2⟩⟩
      -- What has no number in the first place has none afterwards.
      by_contra hnum
      have hkept := others id fun h => hnum h.2
      rw [← hkept, hpos] at hnum
      exact hnum (by rw [isNumber, Option.any_some, decide_eq_true_eq]; omega)
  case order =>
    intro a ha b hb p q hp hpos hq h
    obtain ⟨m, n, hm, hn, -, hlt⟩ := compact_order ha hb hp hpos hq h
    exact ⟨m, n, hm, hn, hlt⟩

/-- Compaction renumbers a list of nodes densely and in order, changes nothing else and gives the list back.
A second compaction changes nothing, and where nodes without a number stand makes no difference. -/
theorem compact_renumbers (s : Store) (ids : List NodeId) :
    s.Renumbered ids (s.compact ids) ∧
      (∀ w : Workspace, Conversion.compact ids w = .ok ids (w.compacted ids)) ∧
      (s.compact ids).compact ids = s.compact ids ∧ (s.compact ids).compactionEvents ids = [] ∧
      s.compact (ids.filter fun id => isNumber (s.position? id)) = s.compact ids := by
  have hdense := dense_compact s ids
  refine ⟨renumbered_compact s ids, fun _ => rfl, hdense.compact_eq, ?events, ?filter⟩
  case events =>
    rw [compactionEvents, compaction_eq_nil_iff.mpr hdense]
    rfl
  case filter => rw [compact, compact, compaction_filter]

/-- Node 2 stands twice and takes one number. Of the nodes at 4, node 3 comes first in the list. -/
example :
    let s : Store := ⟨#[⟨.group [], some 4⟩, ⟨.text [], none⟩, ⟨.group [], some 2⟩, ⟨.group [], some 4⟩,
      ⟨.group [], some 0⟩, ⟨.group [], some (-1)⟩]⟩
    let ids := [2, 4, 3, 2, 1, 0, 5]
    ids.map (s.compact ids).position? =
      [some 1, some 0, some 2, some 1, none, some 3, some (-1)] := by
  cbv

end Store

end Snippet
