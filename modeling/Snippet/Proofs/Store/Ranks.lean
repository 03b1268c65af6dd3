import Snippet.Store.Positions

/-!
Compaction gives out ranks. The rank of a numbered place says how many places come up to it, where a
smaller number comes first and equal numbers come in the order of the list. So the ranks of two lists
agree if and only if their numbers are in the same order.
-/

namespace Snippet

/-! ## The place of an item in a stable sort -/

section Sorting

variable {α : Type}

/-- A stable sort puts before an item what is not larger and stood before it, and what is smaller and
stood behind it. -/
theorem mergeSort_split (le : α → α → Bool) (trans : ∀ a b c, le a b → le b c → le a c)
    (total : ∀ a b, (le a b || le b a) = true) (before : List α) (x : α) (after : List α) :
    ∃ l r, (before ++ x :: after).mergeSort le = l ++ x :: r ∧
      l.length = before.countP (le · x) + after.countP fun y => !le x y := by
  induction before with
  | nil =>
    obtain ⟨l, r, hsort, hrest, hl⟩ := List.mergeSort_cons trans total x after
    refine ⟨l, r, hsort, ?_⟩
    have hsorted : (l ++ x :: r).Pairwise fun a b => le a b := by
      rw [← hsort]
      exact List.pairwise_mergeSort trans total _
    have hr : ∀ y ∈ r, le x y := (List.pairwise_cons.mp (List.pairwise_append.mp hsorted).2.1).1
    -- What the sort puts before `x` are those of `after` that are smaller, all of them.
    have hperm := (List.mergeSort_perm after le).countP_eq fun y => !le x y
    rw [hrest, List.countP_append, List.countP_eq_length.mpr hl,
      List.countP_eq_zero.mpr fun y hy => by simp [hr y hy]] at hperm
    rw [List.countP_nil, ← hperm]
    omega
  | cons a before ih =>
    obtain ⟨l, r, hsort, hlength⟩ := ih
    obtain ⟨l', r', hsort', hrest, hl'⟩ :=
      List.mergeSort_cons trans total a (before ++ x :: after)
    rw [hsort] at hrest
    have hsorted : (l' ++ a :: r').Pairwise fun a b => le a b := by
      rw [← hsort']
      exact List.pairwise_mergeSort trans total _
    -- The new item goes either before or behind `x`, as the two compare.
    rcases List.append_eq_append_iff.mp hrest with ⟨c, rfl, hx⟩ | ⟨c, rfl, hx⟩
    · cases c with
      | nil =>
        obtain rfl : r' = x :: r := by simpa using hx.symm
        have hle : le a x := (List.pairwise_cons.mp (List.pairwise_append.mp hsorted).2.1).1 x (by simp)
        refine ⟨l ++ [a], r, by simpa using hsort', ?_⟩
        rw [List.countP_cons, if_pos hle, List.length_append, hlength, List.length_singleton]
        omega
      | cons y c =>
        obtain ⟨rfl, rfl⟩ : x = y ∧ r = c ++ r' := by simpa using hx
        have hle : ¬le a x := by simpa using hl' x (by simp)
        refine ⟨l, c ++ a :: r', by simpa using hsort', ?_⟩
        rw [List.countP_cons, if_neg hle, hlength, Nat.add_zero]
    · have hmem : x ∈ r' := by simp [hx]
      have hle : le a x := (List.pairwise_cons.mp (List.pairwise_append.mp hsorted).2.1).1 x hmem
      refine ⟨l' ++ a :: c, r, by simpa [hx] using hsort', ?_⟩
      rw [List.length_append] at hlength
      rw [List.countP_cons, if_pos hle, List.length_append, List.length_cons]
      omega

end Sorting

namespace Positions

/-! ## Ranks -/

def isNumber (p : Option Int) : Bool := p.any (0 < ·)

def upTo : Option Int → Option Int → Bool
  | some q, some p => 0 < q && 0 < p && q ≤ p
  | _, _ => false

def below : Option Int → Option Int → Bool
  | some q, some p => 0 < q && 0 < p && q < p
  | _, _ => false

/-- What compaction makes of a place among others: how many of them come up to it, counting the place
itself. Without a number it stays as it is. -/
def rank (before : List (Option Int)) (p : Option Int) (after : List (Option Int)) : Option Int :=
  if isNumber p then some ↑(before.countP (upTo · p) + after.countP (below · p) + 1) else p

def ranksAfter (before : List (Option Int)) : List (Option Int) → List (Option Int)
  | [] => []
  | p :: after => rank before p after :: ranksAfter (before ++ [p]) after

def ranks (ps : List (Option Int)) : List (Option Int) := ranksAfter [] ps

/-- What stays of a place when numbers are not told apart. -/
def shape : Option Int → Option Int := Option.map (min 1)

/-- The numbers of two lists compare in the same way, place by place. -/
def SameOrder (ps qs : List (Option Int)) : Prop :=
  (ps.zip qs).Pairwise fun x y => upTo x.1 y.1 = upTo x.2 y.2

instance (ps qs : List (Option Int)) : Decidable (SameOrder ps qs) :=
  inferInstanceAs (Decidable (List.Pairwise _ _))

section Ranks

variable {p q : Option Int} {ps qs before before' after after' : List (Option Int)}

theorem below_eq (p q : Option Int) : below q p = (isNumber q && isNumber p && !upTo p q) := by
  cases p with
  | none => cases q <;> simp [below, isNumber]
  | some p =>
    cases q with
    | none => rfl
    | some q =>
      simp only [below, isNumber, upTo, Option.any_some]
      by_cases hp : 0 < p <;> by_cases hq : 0 < q <;> simp [hp, hq, ← decide_not]

theorem isNumber_eq_shape (p : Option Int) : isNumber p = (shape p == some 1) := by
  cases p with
  | none => rfl
  | some p =>
    have h : min 1 p = 1 ↔ 0 < p := by omega
    by_cases hp : 0 < p <;> simp [isNumber, shape, hp, h]

theorem eq_of_shape (h : shape p = shape q) (hp : isNumber p = false) : p = q := by
  have hq : isNumber q = false := by rw [isNumber_eq_shape, ← h, ← isNumber_eq_shape, hp]
  cases p with
  | none =>
    cases q with
    | none => rfl
    | some q => cases h
  | some p =>
    cases q with
    | none => cases h
    | some q =>
      have hmin : min 1 p = min 1 q := Option.some.inj h
      simp only [isNumber, Option.any_some, decide_eq_false_iff_not] at hp hq
      rw [Int.min_eq_right (by omega), Int.min_eq_right (by omega)] at hmin
      rw [hmin]

@[simp] theorem shape_rank : shape (rank before p after) = shape p := by
  unfold rank
  cases hp : isNumber p with
  | false => rw [if_neg (by simp)]
  | true =>
    rw [isNumber_eq_shape, beq_iff_eq] at hp
    rw [if_pos rfl, hp]
    show some (min 1 _) = some 1
    congr 1
    omega

theorem shape_ranksAfter (before ps : List (Option Int)) :
    (ranksAfter before ps).map shape = ps.map shape := by
  induction ps generalizing before with
  | nil => rfl
  | cons p ps ih => rw [ranksAfter, List.map_cons, List.map_cons, shape_rank, ih]

@[simp] theorem shape_ranks (ps : List (Option Int)) : (ranks ps).map shape = ps.map shape :=
  shape_ranksAfter [] ps

@[simp] theorem length_ranks (ps : List (Option Int)) : (ranks ps).length = ps.length := by
  rw [← List.length_map shape, shape_ranks, List.length_map]

theorem isNumber_of_upTo (h : upTo p q) : isNumber p ∧ isNumber q := by
  cases p <;> cases q <;> simp_all [upTo, isNumber]

theorem upTo_trans {r : Option Int} (h : upTo p q) (h' : upTo q r) : upTo p r := by
  cases p <;> cases q <;> cases r <;> simp_all [upTo]
  omega

theorem upTo_of_below (h : below p q) : upTo p q := by
  cases p <;> cases q <;> simp_all [upTo, below]
  omega

theorem below_of_upTo {r : Option Int} (h : upTo p q) (h' : below q r) : below p r := by
  cases p <;> cases q <;> cases r <;> simp_all [upTo, below]
  omega

theorem below_of_below {r : Option Int} (h : below p q) (h' : upTo q r) : below p r := by
  cases p <;> cases q <;> cases r <;> simp_all [upTo, below]
  omega

theorem upTo_succ (m n : Nat) : upTo (some ↑(m + 1)) (some ↑(n + 1)) = decide (m ≤ n) := by
  simp [upTo]

/-- Ranks compare as the numbers do. -/
theorem upTo_rank (before : List (Option Int)) (p : Option Int) (middle : List (Option Int))
    (q : Option Int) (after : List (Option Int)) :
    upTo (rank before p (middle ++ q :: after)) (rank (before ++ p :: middle) q after) =
      upTo p q := by
  -- What counts for the smaller of the two counts for the larger one as well, in each part of the
  -- row, and the smaller itself counts for the larger only.
  by_cases hnum : isNumber p ∧ isNumber q
  · obtain ⟨hp, hq⟩ := hnum
    rw [rank, rank, if_pos hp, if_pos hq, upTo_succ]
    simp only [List.countP_append, List.countP_cons]
    cases h : upTo p q with
    | true =>
      have hbefore : before.countP (upTo · p) ≤ before.countP (upTo · q) :=
        List.countP_mono_left fun x _ hx => upTo_trans hx h
      have hmiddle : middle.countP (below · p) ≤ middle.countP (upTo · q) :=
        List.countP_mono_left fun x _ hx => upTo_trans (upTo_of_below hx) h
      have hafter : after.countP (below · p) ≤ after.countP (below · q) :=
        List.countP_mono_left fun x _ hx => below_of_below hx h
      have hqp : below q p = false := by rw [below_eq, h, Bool.not_true, Bool.and_false]
      rw [hqp, if_neg (by simp), decide_eq_true_eq]
      omega
    | false =>
      have hqp : below q p = true := by rw [below_eq, h, hp, hq]; rfl
      have hbefore : before.countP (upTo · q) ≤ before.countP (upTo · p) :=
        List.countP_mono_left fun x _ hx => upTo_trans hx (upTo_of_below hqp)
      have hmiddle : middle.countP (upTo · q) ≤ middle.countP (below · p) :=
        List.countP_mono_left fun x _ hx => below_of_upTo hx hqp
      have hafter : after.countP (below · q) ≤ after.countP (below · p) :=
        List.countP_mono_left fun x _ hx => below_of_below hx (upTo_of_below hqp)
      rw [hqp, if_pos rfl, decide_eq_false_iff_not]
      simp only [Bool.false_eq_true, if_false]
      omega
  · have hranks : ¬(isNumber (rank before p (middle ++ q :: after)) ∧
        isNumber (rank (before ++ p :: middle) q after)) := by
      rw [isNumber_eq_shape, isNumber_eq_shape, shape_rank, shape_rank, ← isNumber_eq_shape,
        ← isNumber_eq_shape]
      exact hnum
    rw [Bool.eq_false_iff.mpr fun h => hranks (isNumber_of_upTo h),
      Bool.eq_false_iff.mpr fun h => hnum (isNumber_of_upTo h)]

/-! ## Lists in the same order -/

theorem mem_zip_ranksAfter {x : Option Int × Option Int}
    (h : x ∈ ps.zip (ranksAfter before ps)) :
    ∃ l r, ps = l ++ x.1 :: r ∧ x.2 = rank (before ++ l) x.1 r := by
  induction ps generalizing before with
  | nil => cases h
  | cons p ps ih =>
    rw [ranksAfter, List.zip_cons_cons, List.mem_cons] at h
    rcases h with rfl | h
    · exact ⟨[], ps, rfl, by rw [List.append_nil]⟩
    · obtain ⟨l, r, hps, hx⟩ := ih h
      refine ⟨p :: l, r, by rw [hps, List.cons_append], ?_⟩
      rw [hx, List.append_assoc, List.singleton_append]

theorem pairwise_ranksAfter (before ps : List (Option Int)) :
    (ps.zip (ranksAfter before ps)).Pairwise fun x y => upTo x.1 y.1 = upTo x.2 y.2 := by
  induction ps generalizing before with
  | nil => exact List.Pairwise.nil
  | cons p ps ih =>
    refine List.pairwise_cons.mpr ⟨fun y hy => ?_, ih (before ++ [p])⟩
    obtain ⟨l, r, hps, hrank⟩ := mem_zip_ranksAfter hy
    rw [hrank, List.append_assoc, List.singleton_append, hps]
    exact (upTo_rank before p l y.1 r).symm

theorem sameOrder_ranks (ps : List (Option Int)) : SameOrder ps (ranks ps) :=
  pairwise_ranksAfter [] ps

theorem sameOrder_iff (h : ps.length = qs.length) : SameOrder ps qs ↔
    ∀ i j (_ : i < j) (_ : i < ps.length) (_ : j < ps.length) (_ : i < qs.length)
      (_ : j < qs.length), upTo ps[i] ps[j] = upTo qs[i] qs[j] := by
  -- Pairs of a zip and pairs of indices are the same thing where the lengths are.
  have hlength : (ps.zip qs).length = ps.length := by rw [List.length_zip, ← h, Nat.min_self]
  rw [SameOrder, List.pairwise_iff_getElem]
  constructor
  · intro hpairs i j hij hi hj hi' hj'
    have hcompare := hpairs i j (by omega) (by omega) hij
    rw [List.getElem_zip, List.getElem_zip] at hcompare
    exact hcompare
  · intro horder i j hi hj hij
    rw [List.getElem_zip, List.getElem_zip]
    exact horder i j hij (by omega) (by omega) (by omega) (by omega)

theorem SameOrder.trans {rs : List (Option Int)} (h : SameOrder ps qs) (h' : SameOrder qs rs)
    (hpq : ps.length = qs.length) (hqr : qs.length = rs.length) : SameOrder ps rs := by
  rw [sameOrder_iff hpq] at h
  rw [sameOrder_iff hqr] at h'
  rw [sameOrder_iff (hpq.trans hqr)]
  intro i j hij hi hj hi' hj'
  exact (h i j hij hi hj (by omega) (by omega)).trans (h' i j hij (by omega) (by omega) hi' hj')

theorem SameOrder.symm (h : SameOrder ps qs) (hpq : ps.length = qs.length) : SameOrder qs ps := by
  rw [sameOrder_iff hpq] at h
  rw [sameOrder_iff hpq.symm]
  intro i j hij hi hj hi' hj'
  exact (h i j hij hi' hj' hi hj).symm

theorem SameOrder.of_append (h : SameOrder (before ++ ps) (before' ++ qs))
    (hbefore : before.length = before'.length) :
    SameOrder before before' ∧ SameOrder ps qs := by
  rw [SameOrder, List.zip_append hbefore, List.pairwise_append] at h
  exact ⟨h.1, h.2.1⟩

theorem countP_congr_zip {α β : Type} {f : α → Bool} {g : β → Bool} {l : List α} {m : List β}
    (hlength : l.length = m.length) (h : ∀ x ∈ l.zip m, f x.1 = g x.2) :
    l.countP f = m.countP g := by
  induction l generalizing m with
  | nil =>
    cases m with
    | nil => rfl
    | cons y m => cases hlength
  | cons x l ih =>
    cases m with
    | nil => cases hlength
    | cons y m =>
      rw [List.zip_cons_cons] at h
      rw [List.countP_cons, List.countP_cons, h (x, y) (by simp),
        ih (Nat.succ.inj hlength) fun z hz => h z (by simp [hz])]

theorem shape_of_mem_zip (h : ps.map shape = qs.map shape) {x : Option Int × Option Int}
    (hx : x ∈ ps.zip qs) : shape x.1 = shape x.2 := by
  induction ps generalizing qs with
  | nil => cases hx
  | cons p ps ih =>
    cases qs with
    | nil => cases hx
    | cons q qs =>
      obtain ⟨hpq, hrest⟩ := List.cons.inj h
      rw [List.zip_cons_cons, List.mem_cons] at hx
      rcases hx with rfl | hx
      · exact hpq
      · exact ih hrest hx

/-- Lists of one shape and in the same order have the same ranks. -/
theorem ranksAfter_congr (hshape : ps.map shape = qs.map shape)
    (hbefore : before.map shape = before'.map shape)
    (h : SameOrder (before ++ ps) (before' ++ qs)) :
    ranksAfter before ps = ranksAfter before' qs := by
  induction ps generalizing qs before before' with
  | nil =>
    rw [List.map_nil, eq_comm, List.map_eq_nil_iff] at hshape
    rw [hshape]
    rfl
  | cons p ps ih =>
    cases qs with
    | nil => cases hshape
    | cons q qs =>
      obtain ⟨hpq, hrest⟩ := List.cons.inj hshape
      have hlength : before.length = before'.length := by simpa using congrArg List.length hbefore
      have hlength' : ps.length = qs.length := by simpa using congrArg List.length hrest
      have hnum : isNumber p = isNumber q := by rw [isNumber_eq_shape, hpq, ← isNumber_eq_shape]
      -- A rank is told by the comparisons of the place with those before it and behind it.
      have hhead : rank before p ps = rank before' q qs := by
        rw [SameOrder, List.zip_append hlength, List.pairwise_append, List.zip_cons_cons,
          List.pairwise_cons] at h
        obtain ⟨-, ⟨hafter, -⟩, hcross⟩ := h
        have hup : before.countP (upTo · p) = before'.countP (upTo · q) :=
          countP_congr_zip hlength fun x hx => hcross x hx (p, q) (by simp)
        have hbelow : ps.countP (below · p) = qs.countP (below · q) := by
          refine countP_congr_zip hlength' fun x hx => ?_
          rw [below_eq, below_eq, isNumber_eq_shape x.1, shape_of_mem_zip hrest hx,
            ← isNumber_eq_shape, hnum, hafter x hx]
        unfold rank
        rw [← hnum, hup, hbelow]
        cases hp : isNumber p with
        | true => rfl
        | false => rw [if_neg (by simp), if_neg (by simp), eq_of_shape hpq hp]
      rw [ranksAfter, ranksAfter, hhead]
      congr 1
      refine ih hrest ?_ ?_
      · rw [List.map_append, List.map_append, hbefore, List.map_singleton, List.map_singleton, hpq]
      · simpa using h

theorem ranks_eq_iff (hshape : ps.map shape = qs.map shape) :
    ranks ps = ranks qs ↔ SameOrder ps qs := by
  have hlength : ps.length = qs.length := by simpa using congrArg List.length hshape
  constructor
  · intro h
    have hps := sameOrder_ranks ps
    have hqs := sameOrder_ranks qs
    rw [h] at hps
    exact hps.trans (hqs.symm (by simp)) (by simp [hlength]) (by simp)
  · intro h
    exact ranksAfter_congr hshape rfl h

/-- Compacted places are not moved by compaction. -/
@[simp] theorem ranks_ranks (ps : List (Option Int)) : ranks (ranks ps) = ranks ps :=
  (ranks_eq_iff (shape_ranks ps)).mpr ((sameOrder_ranks ps).symm (by simp))

end Ranks

/-! ## What compaction changes -/

section Changes

variable {α : Type}

def number? (position? : α → Option Int) (a : α) : Option (α × Int) :=
  (position? a).bind fun p => if 0 < p then some (a, p) else none

theorem countP_upTo (position? : α → Option Int) (l : List α) {p : Int} (hp : 0 < p) :
    (l.filterMap (number? position?)).countP (fun x => x.2 ≤ p) =
      (l.map position?).countP (upTo · (some p)) := by
  rw [List.countP_filterMap, List.countP_map]
  congr 1
  funext a
  rw [number?, Function.comp]
  cases position? a with
  | none => rfl
  | some q => by_cases hq : 0 < q <;> simp [upTo, hp, hq]

theorem countP_below (position? : α → Option Int) (l : List α) {p : Int} (hp : 0 < p) :
    (l.filterMap (number? position?)).countP (fun x => !decide (p ≤ x.2)) =
      (l.map position?).countP (below · (some p)) := by
  rw [List.countP_filterMap, List.countP_map]
  congr 1
  funext a
  rw [number?, Function.comp]
  cases position? a with
  | none => rfl
  | some q => by_cases hq : 0 < q <;> simp [below, hp, hq, ← decide_not]

theorem byNumber_trans (x y z : α × Int) (hxy : decide (x.2 ≤ y.2) = true)
    (hyz : decide (y.2 ≤ z.2) = true) : decide (x.2 ≤ z.2) = true := by
  simp only [decide_eq_true_eq] at *
  exact Int.le_trans hxy hyz

theorem byNumber_total (x y : α × Int) : (decide (x.2 ≤ y.2) || decide (y.2 ≤ x.2)) = true := by
  simp only [Bool.or_eq_true, decide_eq_true_eq]
  exact Int.le_total x.2 y.2

variable [DecidableEq α]

theorem mem_numbered {seen : List α} {l : List (α × Option Int)} {x : α × Int}
    (h : x ∈ numbered seen l) : (x.1, some x.2) ∈ l ∧ 0 < x.2 ∧ x.1 ∉ seen := by
  induction l generalizing seen with
  | nil => cases h
  | cons y l ih =>
    obtain ⟨a, p⟩ := y
    cases p with
    | none =>
      obtain ⟨hmem, hpos, hseen⟩ := ih h
      exact ⟨by simp [hmem], hpos, hseen⟩
    | some p =>
      rw [numbered] at h
      split at h
      · next hfirst =>
        rcases List.mem_cons.mp h with rfl | h
        · exact ⟨by simp, hfirst⟩
        · obtain ⟨hmem, hpos, hseen⟩ := ih h
          exact ⟨by simp [hmem], hpos, fun hx => hseen (by simp [hx])⟩
      · obtain ⟨hmem, hpos, hseen⟩ := ih h
        exact ⟨by simp [hmem], hpos, hseen⟩

theorem nodup_numbered (seen : List α) (l : List (α × Option Int)) :
    ((numbered seen l).map Prod.fst).Nodup := by
  induction l generalizing seen with
  | nil => exact List.nodup_nil
  | cons y l ih =>
    obtain ⟨a, p⟩ := y
    cases p with
    | none => exact ih seen
    | some p =>
      rw [numbered]
      split
      · rw [List.map_cons, List.nodup_cons]
        refine ⟨fun h => ?_, ih (a :: seen)⟩
        obtain ⟨x, hx, rfl⟩ := List.mem_map.mp h
        exact (mem_numbered hx).2.2 (by simp)
      · exact ih seen

theorem mem_ranked {l : List (α × Option Int)} {x : α × Int} (h : x ∈ ranked l) :
    (x.1, some x.2) ∈ l ∧ 0 < x.2 := by
  obtain ⟨hmem, hpos, -⟩ := mem_numbered (List.mem_mergeSort.mp h)
  exact ⟨hmem, hpos⟩

theorem nodup_ranked (l : List (α × Option Int)) : ((ranked l).map Prod.fst).Nodup :=
  ((List.mergeSort_perm _ _).map Prod.fst).nodup_iff.mpr (nodup_numbered [] l)

theorem numbered_of_nodup {position? : α → Option Int} {seen l : List α} (hnodup : l.Nodup)
    (hseen : ∀ a ∈ l, a ∉ seen) :
    numbered seen (l.map fun a => (a, position? a)) = l.filterMap (number? position?) := by
  induction l generalizing seen with
  | nil => rfl
  | cons a l ih =>
    obtain ⟨ha, hnodup⟩ := List.nodup_cons.mp hnodup
    have hrest : ∀ b ∈ l, b ∉ seen := fun b hb => hseen b (by simp [hb])
    -- No node stands in the row twice, so nothing is left out as seen.
    have hfresh : ∀ b ∈ l, b ∉ a :: seen := by
      intro b hb hmem
      rcases List.mem_cons.mp hmem with rfl | hmem
      · exact ha hb
      · exact hrest b hb hmem
    rw [List.map_cons, List.filterMap_cons, number?]
    cases hp : position? a with
    | none =>
      rw [numbered, ih hnodup hrest]
      rfl
    | some p =>
      rw [numbered, Option.bind_some]
      by_cases hpos : 0 < p
      · rw [if_pos ⟨hpos, hseen a (by simp)⟩, if_pos hpos, ih hnodup hfresh]
      · rw [if_neg fun h => hpos h.1, if_neg hpos, ih hnodup hrest]

/-- The place of a number among the ranked ones. -/
theorem ranked_split {position? : α → Option Int} {before after : List α} {a : α} {p : Int}
    (hnodup : (before ++ a :: after).Nodup) (ha : position? a = some p) (hp : 0 < p) :
    ∃ l r, ranked ((before ++ a :: after).map fun b => (b, position? b)) = l ++ (a, p) :: r ∧
      rank (before.map position?) (some p) (after.map position?) = some ↑(l.length + 1) := by
  have hnumber : number? position? a = some (a, p) := by rw [number?, ha, Option.bind_some, if_pos hp]
  rw [ranked, numbered_of_nodup hnodup fun _ _ => List.not_mem_nil, List.filterMap_append,
    List.filterMap_cons_some hnumber]
  obtain ⟨l, r, hsort, hlength⟩ := mergeSort_split
    (fun x y : α × Int => decide (x.2 ≤ y.2)) byNumber_trans byNumber_total
    (before.filterMap (number? position?)) (a, p) (after.filterMap (number? position?))
  refine ⟨l, r, hsort, ?_⟩
  rw [rank, if_pos (by simpa [isNumber] using hp), hlength, countP_upTo position? before hp,
    countP_below position? after hp]

end Changes

end Positions

namespace Store

open Positions

variable {s : Store} {ids : List NodeId}

theorem lt_size_of_position? {id : NodeId} {p : Int} (h : s.position? id = some p) :
    id < s.size := by
  rcases Nat.lt_or_ge id s.cells.size with hlt | hge
  · exact hlt
  · rw [position?, Array.getElem?_eq_none hge] at h
    cases h

theorem changesFrom_append {α : Type} (k : Int) (l m : List (α × Int)) :
    changesFrom k (l ++ m) = changesFrom k l ++ changesFrom (k + l.length) m := by
  induction l generalizing k with
  | nil => simp [changesFrom]
  | cons y l ih =>
    have hk : k + 1 + l.length = k + (y :: l).length := by rw [List.length_cons]; omega
    rw [List.cons_append, changesFrom, changesFrom, ih, hk]
    split <;> rfl

theorem what_mem_of_changesFrom {α : Type} {k : Int} {m : List (α × Int)} {c : Change α}
    (h : c ∈ changesFrom k m) : c.what ∈ m.map Prod.fst := by
  induction m generalizing k with
  | nil => cases h
  | cons y m ih =>
    rw [changesFrom] at h
    rw [List.map_cons, List.mem_cons]
    split at h
    · exact .inr (ih h)
    · rcases List.mem_cons.mp h with rfl | h
      · exact .inl rfl
      · exact .inr (ih h)

theorem position?_renumber_of_notMem {k : Int} {m : List (NodeId × Int)} {id : NodeId}
    (h : id ∉ m.map Prod.fst) : (s.renumber (changesFrom k m)).position? id = s.position? id := by
  have hwhat : ∀ c ∈ changesFrom k m, c.what ≠ id :=
    fun c hc he => h (he ▸ what_mem_of_changesFrom hc)
  unfold renumber
  generalize changesFrom k m = changes at hwhat
  induction changes generalizing s with
  | nil => rfl
  | cons c cs ih =>
    rw [List.foldl_cons, ih fun c' hc' => hwhat c' (by simp [hc']), position?_setPosition,
      if_neg fun he => hwhat c (by simp) he.1]

theorem position?_renumber {l r : List (NodeId × Int)} {id : NodeId} {p : Int}
    (hnodup : ((l ++ (id, p) :: r).map Prod.fst).Nodup) (hp : s.position? id = some p) :
    (s.renumber (changesFrom 1 (l ++ (id, p) :: r))).position? id = some ↑(l.length + 1) := by
  rw [List.map_append, List.map_cons, List.nodup_append, List.nodup_cons] at hnodup
  obtain ⟨-, ⟨hr, -⟩, hdistinct⟩ := hnodup
  have hl : id ∉ l.map Prod.fst := fun h => hdistinct id h id (by simp) rfl
  have hrenumber : s.renumber (changesFrom 1 (l ++ (id, p) :: r)) =
      (s.renumber (changesFrom 1 l)).renumber (changesFrom (1 + l.length) ((id, p) :: r)) := by
    rw [changesFrom_append]
    exact List.foldl_append
  have hkept : (s.renumber (changesFrom 1 l)).position? id = some p := by
    rw [position?_renumber_of_notMem hl, hp]
  have hk : (1 : Int) + l.length = ↑(l.length + 1) := by omega
  rw [hrenumber, changesFrom, hk]
  -- A place that has its rank already is not among the changes.
  split
  · next he => rw [position?_renumber_of_notMem hr, hkept, he]
  · have hid : id < (s.renumber (changesFrom 1 l)).size := lt_size_of_position? hkept
    have hset : ((s.renumber (changesFrom 1 l)).setPosition id
        (some ↑(l.length + 1))).position? id = some ↑(l.length + 1) := by
      rw [position?_setPosition, if_pos ⟨rfl, hid⟩]
    rw [← hset]
    exact position?_renumber_of_notMem hr

/-- Nodes without a number, and all other nodes, keep their positions. -/
theorem position?_compact_of {id : NodeId} (h : id ∈ ids → isNumber (s.position? id) = false) :
    (s.compact ids).position? id = s.position? id := by
  refine position?_renumber_of_notMem fun hranked => ?_
  obtain ⟨x, hx, rfl⟩ := List.mem_map.mp hranked
  obtain ⟨hmem, hpos⟩ := mem_ranked hx
  obtain ⟨id, hid, he⟩ := List.mem_map.mp hmem
  obtain ⟨rfl, hp⟩ := Prod.mk.inj he
  have hnum := h hid
  rw [hp, isNumber, Option.any_some, decide_eq_false_iff_not] at hnum
  exact hnum hpos

theorem ranksAfter_compact (before rest : List NodeId) (hnodup : (before ++ rest).Nodup) :
    rest.map (s.compact (before ++ rest)).position? =
      ranksAfter (before.map s.position?) (rest.map s.position?) := by
  induction rest generalizing before with
  | nil => rfl
  | cons id rest ih =>
    have hrest := ih (before ++ [id]) (by simpa using hnodup)
    rw [List.append_assoc, List.singleton_append, List.map_append, List.map_singleton] at hrest
    rw [List.map_cons, List.map_cons, ranksAfter, hrest]
    congr 1
    -- Places without a number are not renumbered; the others get their place in the sorted row.
    cases hnum : isNumber (s.position? id) with
    | false => rw [position?_compact_of fun _ => hnum, rank, if_neg (by simp [hnum])]
    | true =>
      obtain ⟨p, hp, hpos⟩ : ∃ p, s.position? id = some p ∧ 0 < p := by
        simpa [isNumber, Option.any_eq_true] using hnum
      obtain ⟨l, r, hranked, hrank⟩ := ranked_split hnodup hp hpos
      have hdistinct := nodup_ranked ((before ++ id :: rest).map fun b => (b, s.position? b))
      rw [hranked] at hdistinct
      rw [hp, hrank, compact, compaction, changes, hranked]
      exact position?_renumber hdistinct hp

/-- Compaction puts the ranks of the nodes in the place of their positions. -/
theorem ranks_compact (hnodup : ids.Nodup) :
    ids.map (s.compact ids).position? = ranks (ids.map s.position?) :=
  ranksAfter_compact [] ids hnodup

end Store

end Snippet
