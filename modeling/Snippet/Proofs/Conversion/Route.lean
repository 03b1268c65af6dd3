import Mathlib.Data.List.Lex
import Snippet.Proofs.Conversion.Visits
import Snippet.Proofs.Rows

/-!
The way of a conversion through a tree. Its stations are the elements that it comes to, in document order:
the root, and the children of a nested template or of a placeholder that is no mirror, unless there is
nothing but a text in it. An occurrence is a mirror just where its position has had a node from the start
or another occurrence of it comes before, not counting those that it is inside of.
-/

namespace Snippet

/-! ## Places in document order -/

/-- The places part at some element, and `a` goes on to an earlier child of it than `b`. -/
def Precedes (a b : Place) : Prop :=
  ∃ (above : Place) (i j : Nat), i < j ∧ above ++ [i] <+: a ∧ above ++ [j] <+: b

section Places

variable {a b here : Place} {i j : Nat}

theorem eq_of_isPrefix_child (hi : here ++ [i] <+: a) (hj : here ++ [j] <+: a) : i = j := by
  have hlength : (here ++ [i]).length = (here ++ [j]).length := by simp
  have heq := (List.prefix_of_prefix_length_le hi hj (Nat.le_of_eq hlength)).eq_of_length hlength
  simpa using heq

theorem Precedes.not_isPrefix (h : Precedes a b) : ¬a <+: b ∧ ¬b <+: a := by
  obtain ⟨above, i, j, hij, hi, hj⟩ := h
  constructor
  · intro hab
    exact Nat.ne_of_lt hij (eq_of_isPrefix_child (hi.trans hab) hj)
  · intro hba
    exact Nat.ne_of_lt hij (eq_of_isPrefix_child hi (hj.trans hba))

theorem Precedes.lt (h : Precedes a b) : a < b := by
  obtain ⟨above, i, j, hij, ⟨s, rfl⟩, ⟨t, rfl⟩⟩ := h
  rw [List.append_assoc, List.append_assoc]
  exact List.append_left_lt (List.cons_lt_cons_iff.mpr (.inl hij))

theorem Precedes.asymm (h : Precedes a b) : ¬Precedes b a :=
  fun h' => List.lt_asymm h.lt h'.lt

theorem inside_of_isPrefix_child (h : here ++ [i] <+: a) : Tour.Inside here a := by
  refine ⟨(List.prefix_append here [i]).trans h, ?_⟩
  rintro rfl
  have hle := h.length_le
  rw [List.length_append, List.length_singleton] at hle
  omega

end Places

/-! ## Stations -/

namespace Element

/-- The position of a tabstop or placeholder. -/
def tabPosition? : Element → Option Nat
  | tabstop p _ => some p
  | placeholder p _ _ => some p
  | _ => none

/-- The children that a conversion goes on to, unless the element is a mirror. What is all the text that a
placeholder has is not come to. -/
def entered : Element → List Element
  | placeholder _ _ children => if (loneText? children).isSome then [] else children
  | snippet children => children
  | _ => []

end Element

/-- An element that a conversion comes to, and whether it becomes a mirror. -/
structure Station where
  place : Place
  element : Element
  mirror : Bool

namespace Element

mutual

/-- The stations in an element at a place, given the positions that have a node before it. -/
def route (seen : List Nat) (here : Place) : Element → List Station
  | tabstop p spec => [⟨here, tabstop p spec, decide (p ∈ seen)⟩]
  | placeholder p spec children =>
      ⟨here, placeholder p spec children, decide (p ∈ seen)⟩ ::
        if p ∈ seen ∨ (loneText? children).isSome then [] else routeAll seen here 0 children
  | snippet children => ⟨here, snippet children, false⟩ :: routeAll seen here 0 children
  | e => [⟨here, e, false⟩]

/-- The stations in children of the element at a place, the first of which has the given number. -/
def routeAll (seen : List Nat) (here : Place) (number : Nat) : List Element → List Station
  | [] => []
  | e :: es => e.route seen (here ++ [number]) ++ routeAll (e.met seen) here (number + 1) es

end

end Element

/-- The stations are come to in document order, starting from the `roots`. From those that are no mirrors the
conversion goes on to the children. A station is a mirror if and only if its position is `known` from the
start or that of an occurrence before, inside of which it is not. -/
structure IsRoute (known : Nat → Prop) (roots : Place → Element → Prop) (stations : List Station) :
    Prop where
  ordered : stations.Pairwise fun a b => Tour.Inside a.place b.place ∨ Precedes a.place b.place
  reached : ∀ place e, (∃ mirror, ⟨place, e, mirror⟩ ∈ stations) ↔
    roots place e ∨ ∃ above y k, ⟨above, y, false⟩ ∈ stations ∧ y.entered[k]? = some e ∧
      place = above ++ [k]
  mirrors : ∀ st ∈ stations, st.mirror = true ↔ ∃ p, st.element.tabPosition? = some p ∧
    (known p ∨ ∃ other ∈ stations, other.element.tabPosition? = some p ∧
      Precedes other.place st.place)

section Routes

variable {known known' : Nat → Prop} {roots roots' : Place → Element → Prop} {xs ys : List Station}
  {here : Place} {e : Element}

theorem IsRoute.congr (h : IsRoute known roots xs) (hknown : ∀ p, known' p ↔ known p) :
    IsRoute known' roots xs := by
  obtain rfl : known' = known := funext fun p => propext (hknown p)
  exact h

theorem isRoute_nil (hroots : ∀ place e, ¬roots place e) : IsRoute known roots [] where
  ordered := List.Pairwise.nil
  reached place e := by simp [hroots]
  mirrors st hst := by cases hst

/-- One route after another, all of whose places come later. -/
theorem IsRoute.append (h : IsRoute known roots xs) (h' : IsRoute known' roots' ys)
    (hknown : ∀ p, known' p ↔ known p ∨ ∃ st ∈ xs, st.element.tabPosition? = some p)
    (hlater : ∀ a ∈ xs, ∀ b ∈ ys, Precedes a.place b.place) :
    IsRoute known (fun place e => roots place e ∨ roots' place e) (xs ++ ys) where
  ordered := List.pairwise_append.mpr
    ⟨h.ordered, h'.ordered, fun a ha b hb => .inr (hlater a ha b hb)⟩
  reached place e := by
    have hx := h.reached place e
    have hy := h'.reached place e
    simp only [List.mem_append, exists_or, or_and_right, hx, hy]
    exact or_or_or_comm
  mirrors st hst := by
    rcases List.mem_append.mp hst with hst | hst
    · rw [h.mirrors st hst]
      refine exists_congr fun p => and_congr_right fun _ => or_congr_right ?_
      constructor
      · rintro ⟨other, hmem, hp, hprec⟩
        exact ⟨other, List.mem_append_left _ hmem, hp, hprec⟩
      · rintro ⟨other, hmem, hp, hprec⟩
        rcases List.mem_append.mp hmem with hmem | hmem
        · exact ⟨other, hmem, hp, hprec⟩
        · exact absurd hprec (hlater st hst other hmem).asymm
    · rw [h'.mirrors st hst]
      refine exists_congr fun p => and_congr_right fun _ => ?_
      rw [hknown]
      constructor
      · rintro ((hp | ⟨other, hmem, hp⟩) | ⟨other, hmem, hp, hprec⟩)
        · exact .inl hp
        · exact .inr ⟨other, List.mem_append_left _ hmem, hp, hlater other hmem st hst⟩
        · exact .inr ⟨other, List.mem_append_right _ hmem, hp, hprec⟩
      · rintro (hp | ⟨other, hmem, hp, hprec⟩)
        · exact .inl (.inl hp)
        · rcases List.mem_append.mp hmem with hmem | hmem
          · exact .inl (.inr ⟨other, hmem, hp⟩)
          · exact .inr ⟨other, hmem, hp, hprec⟩

theorem isRoute_mirror {p : Nat} (he : e.tabPosition? = some p) (hp : known p) :
    IsRoute known (fun place x => place = here ∧ x = e) [⟨here, e, true⟩] where
  ordered := List.pairwise_singleton _ _
  reached place x := by simp
  mirrors st hst := by
    obtain rfl := List.mem_singleton.mp hst
    exact iff_of_true rfl ⟨p, he, .inl hp⟩

/-- An element that is no mirror, before the route through its children. -/
theorem IsRoute.enclose (hfirst : ∀ p, e.tabPosition? = some p → ¬known p)
    (h : IsRoute known (fun place x => ∃ k, e.entered[k]? = some x ∧ place = here ++ [k]) xs)
    (hbelow : ∀ st ∈ xs, Tour.Inside here st.place) :
    IsRoute known (fun place x => place = here ∧ x = e) (⟨here, e, false⟩ :: xs) where
  ordered := List.pairwise_cons.mpr ⟨fun st hst => .inl (hbelow st hst), h.ordered⟩
  reached place x := by
    constructor
    · rintro ⟨mirror, hmem⟩
      rcases List.mem_cons.mp hmem with heq | hmem
      · cases heq
        exact .inl ⟨rfl, rfl⟩
      · rcases (h.reached place x).mp ⟨mirror, hmem⟩ with ⟨k, hk, rfl⟩ | ⟨above, y, k, hy, hk⟩
        · exact .inr ⟨here, e, k, List.mem_cons_self, hk, rfl⟩
        · exact .inr ⟨above, y, k, List.mem_cons_of_mem _ hy, hk⟩
    · rintro (⟨rfl, rfl⟩ | ⟨above, y, k, hy, hk, hplace⟩)
      · exact ⟨false, List.mem_cons_self⟩
      · have hmem : ∃ mirror, ⟨place, x, mirror⟩ ∈ xs := by
          rcases List.mem_cons.mp hy with heq | hy
          · cases heq
            exact (h.reached place x).mpr (.inl ⟨k, hk, hplace⟩)
          · exact (h.reached place x).mpr (.inr ⟨above, y, k, hy, hk, hplace⟩)
        obtain ⟨mirror, hmem⟩ := hmem
        exact ⟨mirror, List.mem_cons_of_mem _ hmem⟩
  mirrors st hst := by
    -- The element itself precedes nothing in it, and nothing in it precedes the element.
    rcases List.mem_cons.mp hst with rfl | hst
    · refine iff_of_false Bool.false_ne_true ?_
      rintro ⟨p, hp, hknown | ⟨other, hmem, -, hprec⟩⟩
      · exact hfirst p hp hknown
      · rcases List.mem_cons.mp hmem with rfl | hmem
        · exact hprec.asymm hprec
        · exact hprec.not_isPrefix.2 (hbelow other hmem).1
    · rw [h.mirrors st hst]
      refine exists_congr fun p => and_congr_right fun _ => or_congr_right ?_
      constructor
      · rintro ⟨other, hmem, hp, hprec⟩
        exact ⟨other, List.mem_cons_of_mem _ hmem, hp, hprec⟩
      · rintro ⟨other, hmem, hp, hprec⟩
        rcases List.mem_cons.mp hmem with rfl | hmem
        · exact absurd (hbelow st hst).1 hprec.not_isPrefix.1
        · exact ⟨other, hmem, hp, hprec⟩

end Routes

/-! ## The route through a tree -/

namespace Element

theorem metAll_of_loneText? {seen : List Nat} {es : List Element} (h : (loneText? es).isSome) :
    metAll seen es = seen := by
  match es with
  | [text content] | [ownText content] => rfl
  | [choice _ _] | [tabstop _ _] | [placeholder _ _ _] | [var _ _] | [snippet _] => cases h
  | [ownSnippet _] | [custom _] | [built _] => cases h
  | [] | _ :: _ :: _ => cases h

/-- What there is to say about the stations in an element: they are a route from `roots`, keep to the places
`within`, and behind them the positions `met` have a node. -/
structure Routed (seen met : List Nat) (roots : Place → Element → Prop) (within : Place → Prop)
    (stations : List Station) : Prop where
  isRoute : IsRoute (· ∈ seen) roots stations
  within : ∀ st ∈ stations, within st.place
  met : ∀ p, p ∈ met ↔ p ∈ seen ∨ ∃ st ∈ stations, st.element.tabPosition? = some p

section Routed

variable {seen met : List Nat} {here : Place} {e : Element}

theorem routed_leaf (hentered : e.entered = []) (hposition : e.tabPosition? = none) :
    Routed seen seen (fun place x => place = here ∧ x = e) (here <+: ·) [⟨here, e, false⟩] where
  isRoute := IsRoute.enclose (by simp [hposition]) (isRoute_nil (by simp [hentered])) (by simp)
  within st hst := by
    obtain rfl := List.mem_singleton.mp hst
    exact List.prefix_refl here
  met p := by simp [hposition]

theorem routed_mirror {p : Nat} (he : e.tabPosition? = some p) (hp : p ∈ seen) :
    Routed seen seen (fun place x => place = here ∧ x = e) (here <+: ·) [⟨here, e, true⟩] where
  isRoute := isRoute_mirror he hp
  within st hst := by
    obtain rfl := List.mem_singleton.mp hst
    exact List.prefix_refl here
  met q := by
    simp only [List.mem_singleton, exists_eq_left, he, Option.some.injEq]
    constructor
    · exact .inl
    · rintro (hq | rfl)
      · exact hq
      · exact hp

/-- The first occurrence of a position has a node once all that is in it is done. -/
theorem Routed.first {p : Nat} {stations : List Station} (he : e.tabPosition? = some p) (hp : p ∉ seen)
    (h : Routed seen met (fun place x => ∃ k, e.entered[k]? = some x ∧ place = here ++ [k])
      (Tour.Inside here) stations) :
    Routed seen (p :: met) (fun place x => place = here ∧ x = e) (here <+: ·)
      (⟨here, e, false⟩ :: stations) where
  isRoute := h.isRoute.enclose (fun q hq => by cases he.symm.trans hq; exact hp) h.within
  within st hst := by
    rcases List.mem_cons.mp hst with rfl | hst
    · exact List.prefix_refl here
    · exact (h.within st hst).1
  met q := by
    simp only [List.mem_cons, exists_eq_or_imp, he, Option.some.injEq, h.met]
    tauto

theorem routed_nil (hroots : e.entered = []) : Routed seen seen
    (fun place x => ∃ k, e.entered[k]? = some x ∧ place = here ++ [k]) (Tour.Inside here) [] where
  isRoute := isRoute_nil (by simp [hroots])
  within st hst := by cases hst
  met p := by simp

/-- The children of an element, numbered from 0. -/
theorem Routed.children {es : List Element} {stations : List Station} (hentered : e.entered = es)
    (h : Routed seen met (fun place x => ∃ k, es[k]? = some x ∧ place = here ++ [0 + k])
      (fun place => ∃ k, 0 ≤ k ∧ here ++ [k] <+: place) stations) :
    Routed seen met (fun place x => ∃ k, e.entered[k]? = some x ∧ place = here ++ [k])
      (Tour.Inside here) stations where
  isRoute := by
    simp only [hentered]
    simpa only [Nat.zero_add] using h.isRoute
  within st hst := by
    obtain ⟨k, -, hk⟩ := h.within st hst
    exact inside_of_isPrefix_child hk
  met := h.met

end Routed

mutual

theorem routed_route (seen : List Nat) (here : Place) (e : Element) :
    Routed seen (e.met seen) (fun place x => place = here ∧ x = e) (here <+: ·)
      (e.route seen here) := by
  match e with
  | tabstop p spec =>
    rw [met, route]
    by_cases hp : p ∈ seen
    · rw [if_pos hp, decide_eq_true hp]
      exact routed_mirror rfl hp
    · rw [if_neg hp, decide_eq_false hp]
      exact (routed_nil rfl).first rfl hp
  | placeholder p spec children =>
    rw [met, route]
    by_cases hp : p ∈ seen
    · rw [if_pos hp, decide_eq_true hp, if_pos (.inl hp)]
      exact routed_mirror rfl hp
    · rw [if_neg hp, decide_eq_false hp]
      by_cases hlone : (loneText? children).isSome
      · rw [if_pos (.inr hlone), metAll_of_loneText? hlone]
        exact (routed_nil (by rw [entered, if_pos hlone])).first rfl hp
      · rw [if_neg fun h => h.elim hp hlone]
        have hbody := routed_routeAll seen here 0 children
        exact (hbody.children (by rw [entered, if_neg hlone])).first rfl hp
  | snippet children =>
    have hbody := (routed_routeAll seen here 0 children).children (e := snippet children) rfl
    rw [met, route]
    refine ⟨hbody.isRoute.enclose (by simp [tabPosition?]) hbody.within, ?_, ?_⟩
    · intro st hst
      rcases List.mem_cons.mp hst with rfl | hst
      · exact List.prefix_refl here
      · exact (hbody.within st hst).1
    · intro p
      simp [hbody.met, tabPosition?]
  | text _ | choice _ _ | var _ _ => exact routed_leaf rfl rfl
  | ownText _ | ownSnippet _ | custom _ | built _ => exact routed_leaf rfl rfl

theorem routed_routeAll (seen : List Nat) (here : Place) (number : Nat) (es : List Element) :
    Routed seen (metAll seen es)
      (fun place x => ∃ k, es[k]? = some x ∧ place = here ++ [number + k])
      (fun place => ∃ k, number ≤ k ∧ here ++ [k] <+: place) (routeAll seen here number es) := by
  match es with
  | [] =>
    exact ⟨isRoute_nil (by simp), fun st hst => (by cases hst), by simp [metAll, routeAll]⟩
  | e :: es =>
    have he := routed_route seen (here ++ [number]) e
    have hes := routed_routeAll (e.met seen) here (number + 1) es
    rw [metAll, routeAll]
    -- The children behind `e` have greater numbers, so `e` and all that is in it precede them.
    have hlater : ∀ a ∈ e.route seen (here ++ [number]),
        ∀ b ∈ routeAll (e.met seen) here (number + 1) es, Precedes a.place b.place := by
      intro a ha b hb
      obtain ⟨k, hk, hprefix⟩ := hes.within b hb
      exact ⟨here, number, k, by omega, he.within a ha, hprefix⟩
    refine ⟨?isRoute, ?within, ?met⟩
    case isRoute =>
      have happend := he.isRoute.append hes.isRoute he.met hlater
      refine cast (congrArg (fun roots => IsRoute _ roots _) ?_) happend
      funext place x
      rw [eq_iff_iff]
      constructor
      · rintro (⟨rfl, rfl⟩ | ⟨k, hk, rfl⟩)
        · exact ⟨0, rfl, rfl⟩
        · exact ⟨k + 1, hk, by rw [Nat.add_assoc, Nat.add_comm 1 k]⟩
      · rintro ⟨k, hk, rfl⟩
        cases k with
        | zero => exact .inl ⟨rfl, (Option.some.inj hk).symm⟩
        | succ k => exact .inr ⟨k, hk, by rw [Nat.add_assoc, Nat.add_comm 1 k]⟩
    case within =>
      intro st hst
      rcases List.mem_append.mp hst with hst | hst
      · exact ⟨number, Nat.le_refl _, he.within st hst⟩
      · obtain ⟨k, hk, hprefix⟩ := hes.within st hst
        exact ⟨k, Nat.le_of_succ_le hk, hprefix⟩
    case met =>
      intro p
      simp only [hes.met, he.met, List.mem_append, or_and_right, exists_or, or_assoc]

end

/-- The second "1" is a mirror, and so is the last, whose body is left out with the variable in it. The third
occurrence has a 2 of its own in it, which has no mirror yet. -/
example :
    (route [] [] (.snippet [.tabstop 1 none, .tabstop 1 none,
      .placeholder 2 none [.tabstop 2 none, .text "a"],
      .placeholder 1 none [.var "X" none]])).map (fun st => (st.place, st.mirror)) =
      [([], false), ([0], false), ([1], true), ([2], false), ([2, 0], false), ([2, 1], false),
        ([3], true)] := by
  cbv

end Element

end Snippet
