import Snippet.Pattern.Basic

/-!
The groups of a pattern: what stands in them, in which order they are numbered, and which of them the pattern
refers to.
-/

namespace Snippet.Pattern

/-- The groups of a pattern in the order in which they open, each with what stands in it. -/
def captures : Pattern → List (Nat × Pattern)
  | seq p q => captures p ++ captures q
  | alt p rest => captures p ++ captures rest
  | group n p => (n, p) :: captures p
  | ifGroup _ yes no => captures yes ++ captures no
  | ahead _ p => captures p
  | behind _ _ p => captures p
  | atomic p => captures p
  | loop _ _ _ p => captures p
  | _ => []

def groups (p : Pattern) : List Nat :=
  p.captures.map Prod.fst

/-- The groups whose text the pattern asks for once more. -/
def references : Pattern → List Nat
  | seq p q => references p ++ references q
  | alt p rest => references p ++ references rest
  | group _ p => references p
  | backref n _ => [n]
  | ifGroup _ yes no => references yes ++ references no
  | ahead _ p => references p
  | behind _ _ p => references p
  | atomic p => references p
  | loop _ _ _ p => references p
  | _ => []

/-- The groups in a repetition that gives nothing back, unless a repetition around it can. -/
def unguarded : Pattern → List Nat
  | seq p q => unguarded p ++ unguarded q
  | alt p rest => unguarded p ++ unguarded rest
  | group _ p => unguarded p
  | ifGroup _ yes no => unguarded yes ++ unguarded no
  | ahead _ p => unguarded p
  | behind _ _ p => unguarded p
  | atomic p => unguarded p
  | loop _ _ .possessive p => groups p
  | _ => []

/-- The groups of the pattern have the numbers from `low` on in the order in which they open, and all numbers
are below `high`. -/
def InOrder : Pattern → Nat → Nat → Prop
  | seq p q, low, high => ∃ middle, InOrder p low middle ∧ InOrder q middle high
  | alt p rest, low, high => ∃ middle, InOrder p low middle ∧ InOrder rest middle high
  | group n p, low, high => low ≤ n ∧ InOrder p (n + 1) high
  | ifGroup _ yes no, low, high => ∃ middle, InOrder yes low middle ∧ InOrder no middle high
  | ahead _ p, low, high => InOrder p low high
  | behind _ _ p, low, high => InOrder p low high
  | atomic p, low, high => InOrder p low high
  | loop _ _ _ p, low, high => InOrder p low high
  | _, low, high => low ≤ high

section

variable {p : Pattern} {low high : Nat}

theorem mem_groups_seq {p q : Pattern} {n : Nat} :
    n ∈ (seq p q).groups ↔ n ∈ p.groups ∨ n ∈ q.groups := by
  rw [groups, captures, List.map_append, List.mem_append]
  rfl

theorem mem_groups_alt {p rest : Pattern} {n : Nat} :
    n ∈ (alt p rest).groups ↔ n ∈ p.groups ∨ n ∈ rest.groups :=
  mem_groups_seq

theorem mem_groups_ifGroup {k n : Nat} {yes no : Pattern} :
    n ∈ (ifGroup k yes no).groups ↔ n ∈ yes.groups ∨ n ∈ no.groups :=
  mem_groups_seq

theorem mem_groups_group {k n : Nat} {p : Pattern} :
    n ∈ (group k p).groups ↔ n = k ∨ n ∈ p.groups :=
  List.mem_cons

theorem InOrder.mono {low' high' : Nat} (h : InOrder p low high) (hlow : low' ≤ low)
    (hhigh : high ≤ high') : InOrder p low' high' := by
  induction p generalizing low high low' high' with
  | seq p q ihp ihq =>
    obtain ⟨middle, hp, hq⟩ := h
    exact ⟨middle, ihp hp hlow (Nat.le_refl _), ihq hq (Nat.le_refl _) hhigh⟩
  | alt p rest ihp ihrest =>
    obtain ⟨middle, hp, hrest⟩ := h
    exact ⟨middle, ihp hp hlow (Nat.le_refl _), ihrest hrest (Nat.le_refl _) hhigh⟩
  | group n p ih => exact ⟨Nat.le_trans hlow h.1, ih h.2 (Nat.le_refl _) hhigh⟩
  | ifGroup n yes no ihyes ihno =>
    obtain ⟨middle, hyes, hno⟩ := h
    exact ⟨middle, ihyes hyes hlow (Nat.le_refl _), ihno hno (Nat.le_refl _) hhigh⟩
  | ahead negated p ih => exact ih h hlow hhigh
  | behind negated width p ih => exact ih h hlow hhigh
  | atomic p ih => exact ih h hlow hhigh
  | loop least most greed p ih => exact ih h hlow hhigh
  | _ => exact Nat.le_trans hlow (Nat.le_trans h hhigh)

/-- A group has a number between the bounds. -/
theorem InOrder.bounds (h : InOrder p low high) :
    low ≤ high ∧ ∀ n ∈ p.groups, low ≤ n ∧ n < high := by
  induction p generalizing low high with
  | seq p q ihp ihq =>
    obtain ⟨middle, hp, hq⟩ := h
    have hfirst := ihp hp
    have hsecond := ihq hq
    grind [mem_groups_seq]
  | alt p rest ihp ihrest =>
    obtain ⟨middle, hp, hrest⟩ := h
    have hfirst := ihp hp
    have hothers := ihrest hrest
    grind [mem_groups_alt]
  | group n p ih =>
    have hbody := ih h.2
    have hstart := h.1
    grind [mem_groups_group]
  | ifGroup n yes no ihyes ihno =>
    obtain ⟨middle, hyes, hno⟩ := h
    have hfirst := ihyes hyes
    have hsecond := ihno hno
    grind [mem_groups_ifGroup]
  | ahead negated p ih => exact ih h
  | behind negated width p ih => exact ih h
  | atomic p ih => exact ih h
  | loop least most greed p ih => exact ih h
  | _ => exact ⟨h, by simp [groups, captures]⟩

theorem groups_of_unguarded {n : Nat} (h : n ∈ p.unguarded) : n ∈ p.groups := by
  induction p with
  | seq p q ihp ihq => exact mem_groups_seq.mpr ((List.mem_append.mp h).imp ihp ihq)
  | alt p rest ihp ihrest => exact mem_groups_alt.mpr ((List.mem_append.mp h).imp ihp ihrest)
  | group k p ih => exact mem_groups_group.mpr (.inr (ih h))
  | ifGroup k yes no ihyes ihno => exact mem_groups_ifGroup.mpr ((List.mem_append.mp h).imp ihyes ihno)
  | ahead negated p ih => exact ih h
  | behind negated width p ih => exact ih h
  | atomic p ih => exact ih h
  | loop least most greed p ih =>
    cases greed with
    | possessive => exact h
    | _ => cases h
  | _ => cases h

theorem references_of_capture {c : Nat × Pattern} (h : c ∈ p.captures) :
    c.2.references ⊆ p.references := by
  induction p with
  | seq p q ihp ihq =>
    exact (List.mem_append.mp h).elim (fun hc => List.subset_append_of_subset_left _ (ihp hc))
      fun hc => List.subset_append_of_subset_right _ (ihq hc)
  | alt p rest ihp ihrest =>
    exact (List.mem_append.mp h).elim (fun hc => List.subset_append_of_subset_left _ (ihp hc))
      fun hc => List.subset_append_of_subset_right _ (ihrest hc)
  | group n p ih =>
    rcases List.mem_cons.mp h with rfl | hc
    · exact List.Subset.refl _
    · exact ih hc
  | ifGroup n yes no ihyes ihno =>
    exact (List.mem_append.mp h).elim (fun hc => List.subset_append_of_subset_left _ (ihyes hc))
      fun hc => List.subset_append_of_subset_right _ (ihno hc)
  | ahead negated p ih => exact ih h
  | behind negated width p ih => exact ih h
  | atomic p ih => exact ih h
  | loop least most greed p ih => exact ih h
  | _ => cases h

/-- Without groups, any bounds will do. -/
theorem inOrder_of_captures_nil (h : p.captures = []) (hle : low ≤ high) : p.InOrder low high := by
  induction p generalizing low with
  | seq p q ihp ihq =>
    obtain ⟨hp, hq⟩ := List.append_eq_nil_iff.mp h
    exact ⟨high, ihp hp hle, ihq hq (Nat.le_refl _)⟩
  | alt p rest ihp ihrest =>
    obtain ⟨hp, hrest⟩ := List.append_eq_nil_iff.mp h
    exact ⟨high, ihp hp hle, ihrest hrest (Nat.le_refl _)⟩
  | group n p ih => cases h
  | ifGroup n yes no ihyes ihno =>
    obtain ⟨hyes, hno⟩ := List.append_eq_nil_iff.mp h
    exact ⟨high, ihyes hyes hle, ihno hno (Nat.le_refl _)⟩
  | ahead negated p ih => exact ih h hle
  | behind negated width p ih => exact ih h hle
  | atomic p ih => exact ih h hle
  | loop least most greed p ih => exact ih h hle
  | _ => exact hle

/-- The width of a pattern depends on the widths of the groups that it refers to. -/
theorem width_congr {f g : Nat → Width} (h : ∀ n ∈ p.references, f n = g n) : p.width f = p.width g := by
  induction p with
  | seq p q ihp ihq =>
    rw [width, width, ihp fun n hn => h n (List.mem_append_left _ hn),
      ihq fun n hn => h n (List.mem_append_right _ hn)]
  | alt p rest ihp ihrest =>
    rw [width, width, ihp fun n hn => h n (List.mem_append_left _ hn),
      ihrest fun n hn => h n (List.mem_append_right _ hn)]
  | group n p ih => rw [width, width, ih h]
  | backref n folding => exact h n (List.mem_singleton_self n)
  | ifGroup n yes no ihyes ihno =>
    rw [width, width, ihyes fun n hn => h n (List.mem_append_left _ hn),
      ihno fun n hn => h n (List.mem_append_right _ hn)]
  | atomic p ih => rw [width, width, ih h]
  | loop least most greed p ih => rw [width, width, ih h]
  | _ => rfl

end

end Snippet.Pattern
