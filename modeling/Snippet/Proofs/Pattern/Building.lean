import Snippet.Pattern.Piece
import Snippet.Proofs.Pattern.Cursor
import Snippet.Proofs.Pattern.Reading

/-!
What is known of a pattern while it is put together. Its groups are numbered in the order in which they open,
each closed one is noted with the width of what stands in it, and it refers to closed groups only. It looks
behind only where its text does. Alternatives that are simplified bring in nothing new.
-/

namespace Snippet.Pattern

/-! ## Tables -/

namespace Table

/-- The width that is noted for a group. -/
def width (t : Table) (n : Nat) : Width :=
  (t.widths.lookup n).getD ⟨0, 0⟩

/-- Before reading, no group has been opened. -/
def start : Table :=
  ⟨1, [], fun _ _ => rfl⟩

/-- A group opens. -/
def opening (t : Table) : Table where
  next := t.next + 1
  widths := t.widths
  opened := fun n hn => t.opened n (Nat.le_of_succ_le hn)

/-- An opened group is closed. -/
def closing (t : Table) (n : Nat) (w : Width) (h : n < t.next) : Table where
  next := t.next
  widths := (n, w) :: t.widths
  opened := by
    intro k hk
    rw [List.lookup_cons, beq_false_of_ne (by omega : k ≠ n)]
    exact t.opened k hk

/-- Of the groups that were opened before, the same are closed. -/
structure Grows (t t' : Table) : Prop where
  next : t.next ≤ t'.next
  earlier : ∀ n < t.next, t'.widths.lookup n = t.widths.lookup n

/-- What was noted is still noted. -/
def Keeps (t t' : Table) : Prop :=
  ∀ n w, t.widths.lookup n = some w → t'.widths.lookup n = some w

variable {t t' t'' : Table} {n : Nat} {w : Width}

theorem Grows.refl (t : Table) : t.Grows t := ⟨Nat.le_refl _, fun _ _ => rfl⟩

theorem Grows.trans (h : t.Grows t') (h' : t'.Grows t'') : t.Grows t'' where
  next := Nat.le_trans h.next h'.next
  earlier := fun n hn => (h'.earlier n (Nat.lt_of_lt_of_le hn h.next)).trans (h.earlier n hn)

theorem Grows.keeps (h : t.Grows t') : t.Keeps t' := by
  intro n w hn
  rcases Nat.lt_or_ge n t.next with hlt | hge
  · rw [h.earlier n hlt]
    exact hn
  · rw [t.opened n hge] at hn
    cases hn

theorem Keeps.width_eq (h : t.Keeps t') (hn : (t.widths.lookup n).isSome) : t'.width n = t.width n := by
  obtain ⟨w, hw⟩ := Option.isSome_iff_exists.mp hn
  rw [width, width, hw, h n w hw]

end Table

/-! ## Patterns that are put together -/

/-- The groups of the pattern are noted with their widths and do not refer to themselves, and those that it
refers to are noted. -/
structure Noted (t : Table) (p : Pattern) : Prop where
  captured : ∀ c ∈ p.captures,
    t.widths.lookup c.1 = some (c.2.width t.width) ∧ c.1 ∉ c.2.references
  closed : ∀ n ∈ p.references, (t.widths.lookup n).isSome

/-- The pattern has been read from the text. Its groups are those between the two tables. -/
structure Built (ts : List Token) (t t' : Table) (p : Pattern) : Prop where
  grows : t.Grows t'
  inOrder : p.InOrder t.next t'.next
  noted : Noted t' p
  looksBehind : p.looksBehind = true → Holds ts ['(', '?', '<']

section Built

variable {ts : List Token} {t t' t'' : Table} {p q r : Pattern}

theorem Noted.later (h : Noted t p) (hkeeps : t.Keeps t') : Noted t' p where
  captured := by
    intro c hc
    obtain ⟨hwidth, hself⟩ := h.captured c hc
    have hsame : c.2.width t'.width = c.2.width t.width :=
      width_congr fun n hn => hkeeps.width_eq (h.closed n (references_of_capture hc hn))
    rw [hsame]
    exact ⟨hkeeps _ _ hwidth, hself⟩
  closed := by
    intro n hn
    obtain ⟨w, hw⟩ := Option.isSome_iff_exists.mp (h.closed n hn)
    rw [hkeeps n w hw]
    rfl

theorem Noted.sub (h : Noted t p) (hcaptures : q.captures ⊆ p.captures)
    (hreferences : q.references ⊆ p.references) : Noted t q where
  captured := fun c hc => h.captured c (hcaptures hc)
  closed := fun n hn => h.closed n (hreferences hn)

/-- What is left of a pattern when some of its parts are dropped. -/
theorem Built.sub (h : Built ts t t' p) (hcaptures : q.captures ⊆ p.captures)
    (hreferences : q.references ⊆ p.references)
    (hinOrder : p.InOrder t.next t'.next → q.InOrder t.next t'.next)
    (hlooks : q.looksBehind = true → p.looksBehind = true) : Built ts t t' q where
  grows := h.grows
  inOrder := hinOrder h.inOrder
  noted := h.noted.sub hcaptures hreferences
  looksBehind := fun hq => h.looksBehind (hlooks hq)

/-- A pattern of two parts, read one after the other. -/
theorem Built.join (hp : Built ts t t' p) (hq : Built ts t' t'' q)
    (hcaptures : r.captures ⊆ p.captures ++ q.captures)
    (hreferences : r.references ⊆ p.references ++ q.references)
    (hinOrder : p.InOrder t.next t'.next → q.InOrder t'.next t''.next → r.InOrder t.next t''.next)
    (hlooks : r.looksBehind = true → p.looksBehind = true ∨ q.looksBehind = true) :
    Built ts t t'' r where
  grows := hp.grows.trans hq.grows
  inOrder := hinOrder hp.inOrder hq.inOrder
  noted := by
    have hfirst := hp.noted.later hq.grows.keeps
    exact {
      captured := fun c hc => (List.mem_append.mp (hcaptures hc)).elim (hfirst.captured c)
        (hq.noted.captured c)
      closed := fun n hn => (List.mem_append.mp (hreferences hn)).elim (hfirst.closed n)
        (hq.noted.closed n) }
  looksBehind := fun hr => (hlooks hr).elim hp.looksBehind hq.looksBehind

/-- A pattern without groups leaves the table as it was. -/
theorem built_simple (t : Table) (hcaptures : p.captures = [])
    (hreferences : ∀ n ∈ p.references, (t.widths.lookup n).isSome) (hlooks : p.looksBehind = false) :
    Built ts t t p where
  grows := .refl t
  inOrder := inOrder_of_captures_nil hcaptures (Nat.le_refl _)
  noted := ⟨by rw [hcaptures]; exact fun c hc => absurd hc List.not_mem_nil, hreferences⟩
  looksBehind := by
    intro hp
    rw [hlooks] at hp
    cases hp

theorem built_char (t : Table) (test : CharTest) : Built ts t t (.char test) :=
  built_simple t rfl (fun _ hn => absurd hn List.not_mem_nil) rfl

theorem built_group (h : Built ts t.opening t' p) (hnext : t.next < t'.next) :
    Built ts t (t'.closing t.next (p.width t'.width) hnext) (.group t.next p) := by
  have hfree : t'.widths.lookup t.next = none := by
    rw [h.grows.earlier t.next (Nat.lt_succ_self _)]
    exact t.opened t.next (Nat.le_refl _)
  have hkeeps : t'.Keeps (t'.closing t.next (p.width t'.width) hnext) := by
    intro n w hn
    have hne : n ≠ t.next := by
      rintro rfl
      rw [hfree] at hn
      cases hn
    rw [Table.closing, List.lookup_cons, beq_false_of_ne hne]
    exact hn
  have hself : t.next ∉ p.references := by
    intro hmem
    have hsome := h.noted.closed t.next hmem
    rw [hfree] at hsome
    cases hsome
  have hbody := h.noted.later hkeeps
  refine ⟨⟨Nat.le_of_lt hnext, fun n hn => ?_⟩, ⟨Nat.le_refl _, h.inOrder⟩,
    ⟨fun c hc => ?_, hbody.closed⟩,
    h.looksBehind⟩
  · rw [Table.closing, List.lookup_cons, beq_false_of_ne (Nat.ne_of_lt hn)]
    exact h.grows.earlier n (Nat.lt_succ_of_lt hn)
  · rcases List.mem_cons.mp hc with rfl | hc
    · refine ⟨?_, hself⟩
      have hsame : p.width (t'.closing t.next (p.width t'.width) hnext).width = p.width t'.width :=
        width_congr fun n hn => hkeeps.width_eq (h.noted.closed n hn)
      rw [hsame, Table.closing, List.lookup_cons_self]
    · exact hbody.captured c hc

end Built

/-! ## Pieces -/

section Pieces

variable {ts : List Token} {t t' : Table} {low high : Nat}

theorem captures_joinPieces (ps : List Piece) :
    (joinPieces ps).captures = ps.flatMap (·.pattern.captures) := by
  fun_induction joinPieces ps with
  | case1 => rfl
  | case2 p => simp
  | case3 p ps _ ih => rw [captures, ih, List.flatMap_cons]

theorem references_joinPieces (ps : List Piece) :
    (joinPieces ps).references = ps.flatMap (·.pattern.references) := by
  fun_induction joinPieces ps with
  | case1 => rfl
  | case2 p => simp
  | case3 p ps _ ih => rw [references, ih, List.flatMap_cons]

theorem looksBehind_joinPieces (ps : List Piece) :
    (joinPieces ps).looksBehind = ps.any (·.pattern.looksBehind) := by
  fun_induction joinPieces ps with
  | case1 => rfl
  | case2 p => simp
  | case3 p ps _ ih => rw [looksBehind, ih, List.any_cons]

theorem inOrder_joinPieces_cons {p : Piece} {ps : List Piece} :
    (joinPieces (p :: ps)).InOrder low high ↔
      ∃ middle, p.pattern.InOrder low middle ∧ (joinPieces ps).InOrder middle high := by
  cases ps with
  | nil =>
    refine ⟨fun h => ⟨high, h, Nat.le_refl _⟩, ?_⟩
    rintro ⟨middle, hp, hle⟩
    exact hp.mono (Nat.le_refl _) hle
  | cons q qs => exact Iff.rfl

theorem inOrder_joinPieces_append {ps qs : List Piece} :
    (joinPieces (ps ++ qs)).InOrder low high ↔
      ∃ middle, (joinPieces ps).InOrder low middle ∧ (joinPieces qs).InOrder middle high := by
  induction ps generalizing low with
  | nil =>
    refine ⟨fun h => ⟨low, Nat.le_refl _, h⟩, ?_⟩
    rintro ⟨middle, hle, hqs⟩
    exact hqs.mono hle (Nat.le_refl _)
  | cons p ps ih =>
    simp only [List.cons_append, inOrder_joinPieces_cons, ih]
    grind

theorem built_append {t'' : Table} {ps qs : List Piece} (hps : Built ts t t' (joinPieces ps))
    (hqs : Built ts t' t'' (joinPieces qs)) : Built ts t t'' (joinPieces (ps ++ qs)) := by
  refine hps.join hqs ?_ ?_ (fun hp hq => inOrder_joinPieces_append.mpr ⟨_, hp, hq⟩) ?_
  · simp [captures_joinPieces]
  · simp [references_joinPieces]
  · simp [looksBehind_joinPieces]

/-- What is repeated takes the place of the last pieces. -/
theorem built_repeat {ps qs : List Piece} (h : Built ts t t' (joinPieces (ps ++ qs))) (least : Nat)
    (most : Option Nat) (greed : Greed) :
    Built ts t t' (joinPieces (ps ++ [⟨.loop least most greed (joinPieces qs), false⟩])) := by
  refine h.sub ?_ ?_ (fun hin => ?_) ?_
  · simp [captures_joinPieces, captures]
  · simp [references_joinPieces, references]
  · obtain ⟨middle, hps, hqs⟩ := inOrder_joinPieces_append.mp hin
    exact inOrder_joinPieces_append.mpr ⟨middle, hps, hqs⟩
  · simp [looksBehind_joinPieces, looksBehind]

theorem built_underFlags {ps : List Piece} (h : Built ts t t' (joinPieces ps)) :
    Built ts t t' (Piece.underFlags ps).pattern := by
  unfold Piece.underFlags
  dsimp only
  split
  · next hempty =>
    obtain rfl := List.isEmpty_iff.mp hempty
    exact h.sub (List.Subset.refl _) (List.Subset.refl _)
      (fun hle => ⟨_, Nat.le_refl _, hle⟩) id
  · exact h

/-! ### Alternatives -/

theorem captures_anyOf (pss : List (List Piece)) :
    (anyOf pss).captures = pss.flatMap fun ps => (joinPieces ps).captures := by
  induction pss with
  | nil => rfl
  | cons ps pss ih => rw [anyOf, captures, ih, List.flatMap_cons]

theorem references_anyOf (pss : List (List Piece)) :
    (anyOf pss).references = pss.flatMap fun ps => (joinPieces ps).references := by
  induction pss with
  | nil => rfl
  | cons ps pss ih => rw [anyOf, references, ih, List.flatMap_cons]

theorem looksBehind_anyOf (pss : List (List Piece)) :
    (anyOf pss).looksBehind = pss.any fun ps => (joinPieces ps).looksBehind := by
  induction pss with
  | nil => rfl
  | cons ps pss ih => rw [anyOf, looksBehind, ih, List.any_cons]

/-- The alternatives may each lose some of their first pieces. -/
theorem inOrder_anyOf_drop {pss : List (List Piece)} (n : Nat) (h : (anyOf pss).InOrder low high) :
    (anyOf (pss.map (·.drop n))).InOrder low high := by
  induction pss generalizing low with
  | nil => exact h
  | cons ps pss ih =>
    obtain ⟨middle, hps, hpss⟩ := h
    refine ⟨middle, ?_, ih hpss⟩
    rw [← List.take_append_drop n ps] at hps
    obtain ⟨start, htaken, hdropped⟩ := inOrder_joinPieces_append.mp hps
    exact hdropped.mono htaken.bounds.1 (Nat.le_refl _)

/-- No piece that alternatives share has a group in it. -/
theorem captures_of_shared {ps : List Piece} {others : List (List Piece)} :
    (joinPieces (ps.take (sharedCount ps others))).captures = [] := by
  fun_induction sharedCount ps others with
  | case1 => rfl
  | case2 p ps others hshared ih =>
    simp only [Bool.and_eq_true] at hshared
    have hpiece : p.pattern.captures = [] := by
      have hcomparable := hshared.1
      unfold Piece.isComparable at hcomparable
      split at hcomparable <;> simp_all [captures]
    rw [captures_joinPieces] at ih
    rw [captures_joinPieces, List.take_succ_cons, List.flatMap_cons, hpiece, ih]
    rfl
  | case3 => rfl

/-- What is left of the alternatives behind the pieces that they share. -/
theorem built_rest {pss : List (List Piece)} (h : Built ts t t' (anyOf pss)) (n : Nat) :
    Built ts t t' (anyOf (pss.map (·.drop n))) := by
  refine h.sub ?_ ?_ (inOrder_anyOf_drop n) ?_
  · simp only [captures_anyOf, captures_joinPieces, List.flatMap_map]
    grind
  · simp only [references_anyOf, references_joinPieces, List.flatMap_map]
    grind
  · simp only [looksBehind_anyOf, looksBehind_joinPieces, List.any_map]
    grind

/-- Pieces without groups come before what has been built. -/
theorem built_behind {shared : List Piece} {p q : Pattern} (h : Built ts t t' p)
    (hcaptures : (joinPieces shared).captures = [])
    (hreferences : (joinPieces shared).references ⊆ p.references)
    (hlooks : (joinPieces shared).looksBehind = true → p.looksBehind = true) (hq : Built ts t t' q) :
    Built ts t t' (joinPieces (shared ++ [⟨q, false⟩])) where
  grows := h.grows
  inOrder := inOrder_joinPieces_append.mpr
    ⟨t.next, inOrder_of_captures_nil hcaptures (Nat.le_refl _), hq.inOrder⟩
  noted := by
    rw [captures_joinPieces] at hcaptures
    refine ⟨fun c hc => ?_, fun n hn => ?_⟩
    · rw [captures_joinPieces, List.flatMap_append, hcaptures, List.nil_append,
        List.flatMap_singleton] at hc
      exact hq.noted.captured c hc
    · rw [references_joinPieces, List.flatMap_append, List.flatMap_singleton, List.mem_append,
        ← references_joinPieces] at hn
      exact hn.elim (fun hn => h.noted.closed n (hreferences hn)) (hq.noted.closed n)
  looksBehind := by
    intro hb
    rw [looksBehind_joinPieces, List.any_append, Bool.or_eq_true, ← looksBehind_joinPieces] at hb
    exact hb.elim (fun hb => h.looksBehind (hlooks hb)) fun hb => hq.looksBehind (by simpa using hb)

/-- Simplifying alternatives brings in nothing new. -/
theorem built_choose {folding : Folding} {pss : List (List Piece)} (h : Built ts t t' (anyOf pss)) :
    Built ts t t' (joinPieces (choose folding pss)) := by
  fun_cases choose folding pss with
  | case1 => exact h.sub (List.Subset.refl _) (List.Subset.refl _) id id
  | case2 ps =>
    refine h.sub ?_ ?_ (fun ⟨middle, hps, hle⟩ => hps.mono (Nat.le_refl _) hle) ?_
    · simp [captures_anyOf]
    · simp [references_anyOf]
    · simp [looksBehind_anyOf]
  | case3 ps others _ shared rest choice =>
    have hchoice : Built ts t t' choice := by
      have hrest : Built ts t t' (anyOf rest) := built_rest h shared
      unfold choice
      split
      · exact hrest.sub (List.nil_subset _) (List.nil_subset _) (fun hin => hin.bounds.1)
          fun hb => by cases hb
      · exact hrest
    refine built_behind h captures_of_shared ?_ ?_ hchoice
    · rw [references_anyOf, List.flatMap_cons, references_joinPieces, references_joinPieces]
      intro n hn
      obtain ⟨p, hp, hn⟩ := List.mem_flatMap.mp hn
      exact List.mem_append_left _ (List.mem_flatMap.mpr ⟨p, List.mem_of_mem_take hp, hn⟩)
    · rw [looksBehind_anyOf, List.any_cons, looksBehind_joinPieces, looksBehind_joinPieces,
        Bool.or_eq_true]
      intro hb
      obtain ⟨p, hp, hb⟩ := List.any_eq_true.mp hb
      exact .inl (List.any_eq_true.mpr ⟨p, List.mem_of_mem_take hp, hb⟩)

end Pieces

end Snippet.Pattern
