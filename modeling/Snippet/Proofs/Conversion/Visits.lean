import Snippet.Proofs.Conversion.Tour

/-!
The laws of visits. A list of visits says which tabstops and placeholders a conversion has come to, and
what it has made of them. Here is what such lists obey, each law with that for two lists in a row.
-/

namespace Snippet

namespace Element

mutual

/-- A tabstop or placeholder of the position stands at the place, in the element at `here`. -/
def occurs (here : Place) : Element → Place → Nat → Prop
  | tabstop p _, place, position => place = here ∧ position = p
  | placeholder p _ children, place, position =>
      place = here ∧ position = p ∨ occursAmong here 0 children place position
  | snippet children, place, position => occursAmong here 0 children place position
  | _, _, _ => False

def occursAmong (here : Place) : Nat → List Element → Place → Nat → Prop
  | _, [], _, _ => False
  | number, e :: es, place, position =>
      occurs (here ++ [number]) e place position ∨
        occursAmong here (number + 1) es place position

end

mutual

theorem isPrefix_of_occurs {e : Element} {here place : Place} {p : Nat}
    (h : e.occurs here place p) : here <+: place := by
  match e with
  | tabstop q spec => exact h.1 ▸ List.prefix_refl _
  | placeholder q spec children =>
    rcases h with h | h
    · exact h.1 ▸ List.prefix_refl _
    · obtain ⟨k, -, hk⟩ := isPrefix_of_occursAmong h
      exact (List.prefix_append here [k]).trans hk
  | snippet children =>
    obtain ⟨k, -, hk⟩ := isPrefix_of_occursAmong h
    exact (List.prefix_append here [k]).trans hk
  | text content => exact h.elim
  | choice q items => exact h.elim
  | var name spec => exact h.elim
  | ownText content => exact h.elim
  | ownSnippet children => exact h.elim
  | custom kind => exact h.elim
  | built id => exact h.elim

theorem isPrefix_of_occursAmong {es : List Element} {here place : Place} {number p : Nat}
    (h : occursAmong here number es place p) :
    ∃ k, number ≤ k ∧ here ++ [k] <+: place := by
  match es with
  | [] => exact h.elim
  | e :: es =>
    rcases h with h | h
    · exact ⟨number, Nat.le_refl _, isPrefix_of_occurs h⟩
    · obtain ⟨k, hle, hk⟩ := isPrefix_of_occursAmong h
      exact ⟨k, Nat.le_of_succ_le hle, hk⟩

end

end Element

namespace Visit

def place : Visit → Place
  | started place _ => place
  | mirrored place _ _ _ => place
  | built place _ _ => place

def position : Visit → Nat
  | started _ position => position
  | mirrored _ position _ _ => position
  | built _ position _ => position

def start? : Visit → Option Place
  | started place _ => some place
  | _ => none

/-- The node of an occurrence of the position that is completed. -/
def completed? (p : Int) : Visit → Option NodeId
  | started _ _ => none
  | mirrored _ position _ id => if p = (position : Int) then some id else none
  | built _ position id => if p = (position : Int) then some id else none

end Visit

namespace Tour

open Conversion

/-- The node of a position after some visits: the one that it had, or else that of the occurrence
that was completed first. -/
def primary (known : Int → Option NodeId) (visits : List Visit) (p : Int) : Option NodeId :=
  (known p).or (visits.findSome? (Visit.completed? p))

def MirroredAt (visits : List Visit) (place : Place) : Prop :=
  ∃ p n id, Visit.mirrored place p n id ∈ visits

/-- The place is inside the body of what stands at `above`. -/
def Inside (above place : Place) : Prop :=
  above <+: place ∧ above ≠ place

/-- Mirrors are made right after a start, of positions that have a node, and only an error keeps such
a start from becoming a mirror. -/
structure Lawful (known : Int → Option NodeId) (failed : Bool) (visits : List Visit) : Prop where
  mirrors : ∀ earlier place (p : Nat) n id later, visits = earlier ++ .mirrored place p n id :: later →
    ∃ before, earlier = before ++ [.started place p] ∧ (primary known before p).isSome
  starts : ∀ earlier place (p : Nat) later q, visits = earlier ++ .started place p :: later →
    primary known earlier p = some q → failed = true ∧ later = [] ∨
      ∃ f id rest, later = .mirrored place p (some (.computed (.copy f) [q])) id :: rest

/-- The visits are those of the occurrences that are come to: all outside the bodies of mirrors,
unless an error comes in between. -/
structure Covers (occurs : Place → Nat → Prop) (failed : Bool) (visits : List Visit) : Prop where
  among : ∀ v ∈ visits, occurs v.place v.position
  started : ∀ v ∈ visits, .started v.place v.position ∈ visits
  once : (visits.filterMap Visit.start?).Nodup
  reached : ∀ place p, .started place p ∈ visits → ∀ above, Inside above place →
    ¬MirroredAt visits above
  complete : failed = false → ∀ place p, occurs place p →
    (∀ above, Inside above place → ¬MirroredAt visits above) → .started place p ∈ visits
  ends : failed = false → ∀ place p, .started place p ∈ visits →
    MirroredAt visits place ∨ ∃ id, .built place p id ∈ visits

section Laws

variable {known : Int → Option NodeId} {failed : Bool} {xs ys : List Visit} {here : Place} {p : Nat}

theorem primary_nil (known : Int → Option NodeId) : primary known [] = known := by
  funext q
  exact Option.or_none

theorem primary_append (known : Int → Option NodeId) (xs ys : List Visit) :
    primary known (xs ++ ys) = primary (primary known xs) ys := by
  funext q
  rw [primary, primary, primary, List.findSome?_append, Option.or_assoc]

theorem split_append {α : Type} {xs ys earlier later : List α} {v : α}
    (h : xs ++ ys = earlier ++ v :: later) :
    (∃ rest, xs = earlier ++ v :: rest ∧ later = rest ++ ys) ∨
      ∃ first, earlier = xs ++ first ∧ ys = first ++ v :: later := by
  rcases List.append_eq_append_iff.mp h with ⟨first, he, hys⟩ | ⟨rest, hxs, hl⟩
  · exact .inr ⟨first, he, hys⟩
  · cases rest with
    | nil => exact .inr ⟨[], by simpa using hxs.symm, by simpa using hl.symm⟩
    | cons w rest =>
      obtain ⟨rfl, rfl⟩ := List.cons.inj hl
      exact .inl ⟨rest, hxs, rfl⟩

theorem Lawful.nil (known : Int → Option NodeId) (failed : Bool) : Lawful known failed [] where
  mirrors earlier place p n id later h := by simp at h
  starts earlier place p later q h := by simp at h

theorem Lawful.append (h : Lawful known false xs) (h' : Lawful (primary known xs) failed ys) :
    Lawful known failed (xs ++ ys) where
  mirrors earlier place p n id later hs := by
    -- The start of a mirror is in the same list as the mirror, since each list is lawful on its own.
    rcases split_append hs with ⟨rest, hxs, -⟩ | ⟨first, rfl, hys⟩
    · exact h.mirrors earlier place p n id rest hxs
    · obtain ⟨before, rfl, hb⟩ := h'.mirrors first place p n id later hys
      refine ⟨xs ++ before, by rw [List.append_assoc], ?_⟩
      rw [primary_append]
      exact hb
  starts earlier place p later q hs hq := by
    rcases split_append hs with ⟨rest, hxs, rfl⟩ | ⟨first, rfl, hys⟩
    -- A start in the first list is followed up there, for only the second one may end in an error.
    · rcases h.starts earlier place p rest q hxs hq with ⟨hf, -⟩ | ⟨f, id, rest', rfl⟩
      · cases hf
      · exact .inr ⟨f, id, rest' ++ ys, rfl⟩
    · rw [primary_append] at hq
      exact h'.starts first place p later q hys hq

/-- No place of the one kind lies in a body of the other. -/
def Apart (occurs occurs' : Place → Nat → Prop) : Prop :=
  ∀ a p b q, occurs a p → occurs' b q → ¬a <+: b ∧ ¬b <+: a

section Covers

variable {occurs occurs' : Place → Nat → Prop}

theorem Covers.occurs_of_mirroredAt (h : Covers occurs failed xs) {place : Place}
    (hm : MirroredAt xs place) : ∃ p, occurs place p := by
  obtain ⟨p, n, id, hv⟩ := hm
  exact ⟨p, h.among _ hv⟩

theorem mirroredAt_append (place : Place) :
    MirroredAt (xs ++ ys) place ↔ MirroredAt xs place ∨ MirroredAt ys place := by
  unfold MirroredAt
  simp only [List.mem_append, exists_or]

theorem mem_starts {v : List Visit} {place : Place} :
    place ∈ v.filterMap Visit.start? ↔ ∃ p, .started place p ∈ v := by
  rw [List.mem_filterMap]
  constructor
  · rintro ⟨w, hw, hs⟩
    cases w with
    | started place' p =>
      cases hs
      exact ⟨p, hw⟩
    | mirrored place' p n id => cases hs
    | built place' p id => cases hs
  · rintro ⟨p, hp⟩
    exact ⟨_, hp, rfl⟩

theorem Covers.nil (failed : Bool) : Covers (fun _ _ => False) failed [] where
  among v hv := by simp at hv
  started v hv := by simp at hv
  once := List.nodup_nil
  reached place p hs := by simp at hs
  complete _ place p ho := ho.elim
  ends _ place p hs := by simp at hs

theorem Covers.widen (h : Covers occurs true xs) (hw : ∀ place p, occurs place p → occurs' place p) :
    Covers occurs' true xs where
  among v hv := hw _ _ (h.among v hv)
  started := h.started
  once := h.once
  reached := h.reached
  complete hf := by cases hf
  ends hf := by cases hf

theorem Covers.append (h : Covers occurs false xs) (h' : Covers occurs' failed ys)
    (hapart : Apart occurs occurs') :
    Covers (fun place p => occurs place p ∨ occurs' place p) failed (xs ++ ys) where
  among v hv := by
    rcases List.mem_append.mp hv with hv | hv
    · exact .inl (h.among v hv)
    · exact .inr (h'.among v hv)
  started v hv := by
    rcases List.mem_append.mp hv with hv | hv
    · exact List.mem_append_left _ (h.started v hv)
    · exact List.mem_append_right _ (h'.started v hv)
  once := by
    rw [List.filterMap_append, List.nodup_append]
    refine ⟨h.once, h'.once, fun a ha b hb hab => ?_⟩
    obtain ⟨p, hp⟩ := mem_starts.mp ha
    obtain ⟨q, hq⟩ := mem_starts.mp hb
    exact (hapart a p b q (h.among _ hp) (h'.among _ hq)).1 (hab ▸ List.prefix_refl _)
  reached place p hs above hin hm := by
    -- Of a mirror and a start in different lists, the mirror is not above: the kinds are apart.
    rcases List.mem_append.mp hs with hs | hs <;> rcases (mirroredAt_append above).mp hm with hm | hm
    · exact h.reached place p hs above hin hm
    · obtain ⟨q, hq⟩ := h'.occurs_of_mirroredAt hm
      exact (hapart place p above q (h.among _ hs) hq).2 hin.1
    · obtain ⟨q, hq⟩ := h.occurs_of_mirroredAt hm
      exact (hapart above q place p hq (h'.among _ hs)).1 hin.1
    · exact h'.reached place p hs above hin hm
  complete hf place p ho hout := by
    rw [List.mem_append]
    rcases ho with ho | ho
    · exact .inl (h.complete rfl place p ho fun above hin hm =>
        hout above hin ((mirroredAt_append above).mpr (.inl hm)))
    · exact .inr (h'.complete hf place p ho fun above hin hm =>
        hout above hin ((mirroredAt_append above).mpr (.inr hm)))
  ends hf place p hs := by
    rw [mirroredAt_append]
    rcases List.mem_append.mp hs with hs | hs
    · rcases h.ends rfl place p hs with hm | ⟨id, hb⟩
      · exact .inl (.inl hm)
      · exact .inr ⟨id, List.mem_append_left _ hb⟩
    · rcases h'.ends hf place p hs with hm | ⟨id, hb⟩
      · exact .inl (.inr hm)
      · exact .inr ⟨id, List.mem_append_right _ hb⟩

theorem Covers.mirror (below : ∀ place q, occurs place q → Inside here place) (n : Option Node)
    (id : NodeId) : Covers (fun place q => place = here ∧ q = p ∨ occurs place q) false
      [.started here p, .mirrored here p n id] where
  among v hv := by
    simp only [List.mem_cons, List.not_mem_nil, or_false] at hv
    rcases hv with rfl | rfl <;> exact .inl ⟨rfl, rfl⟩
  started v hv := by
    simp only [List.mem_cons, List.not_mem_nil, or_false] at hv
    rcases hv with rfl | rfl <;> exact List.mem_cons_self
  once := by
    show [here].Nodup
    simp
  reached place q hs above hin hm := by
    obtain ⟨p', n', id', hv⟩ := hm
    simp only [List.mem_cons, reduceCtorEq, List.not_mem_nil, or_false, Visit.started.injEq] at hs
    simp only [List.mem_cons, reduceCtorEq, List.not_mem_nil, or_false, false_or,
      Visit.mirrored.injEq] at hv
    exact hin.2 (hv.1.trans hs.1.symm)
  complete _ place q ho hout := by
    -- What is inside the body of the mirror need not be come to.
    rcases ho with ⟨rfl, rfl⟩ | ho
    · simp
    · exact absurd ⟨p, n, id, by simp⟩ (hout here (below place q ho))
  ends _ place q hs := by
    simp only [List.mem_cons, reduceCtorEq, List.not_mem_nil, or_false, Visit.started.injEq] at hs
    obtain ⟨rfl, rfl⟩ := hs
    exact .inl ⟨q, n, id, by simp⟩

/-- An occurrence that is no mirror, around the visits of its body. -/
theorem Covers.enclose (h : Covers occurs failed xs)
    (below : ∀ place q, occurs place q → Inside here place) {tail : List Visit}
    (htail : failed = true ∧ tail = [] ∨ ∃ id, tail = [.built here p id]) :
    Covers (fun place q => place = here ∧ q = p ∨ occurs place q) failed
      (.started here p :: (xs ++ tail)) := by
  have hmirrored : ∀ place, MirroredAt (.started here p :: (xs ++ tail)) place ↔
      MirroredAt xs place := by
    intro place
    unfold MirroredAt
    rcases htail with ⟨-, rfl⟩ | ⟨id, rfl⟩ <;> simp
  have hstarted : ∀ place q, .started place q ∈ Visit.started here p :: (xs ++ tail) ↔
      place = here ∧ q = p ∨ .started place q ∈ xs := by
    intro place q
    rcases htail with ⟨-, rfl⟩ | ⟨id, rfl⟩ <;> simp
  -- The body lies below `here`, so no mirror in it has `here` in its own body.
  have hnot : ∀ above, Inside above here → ¬MirroredAt xs above := by
    intro above hin hm
    obtain ⟨q, hq⟩ := h.occurs_of_mirroredAt hm
    have hbelow := below above q hq
    exact hin.2 (hin.1.eq_of_length_le hbelow.1.length_le)
  refine ⟨?among, ?started, ?once, ?reached, ?complete, ?ends⟩
  case among =>
    intro v hv
    rcases List.mem_cons.mp hv with rfl | hv
    · exact .inl ⟨rfl, rfl⟩
    · rcases List.mem_append.mp hv with hv | hv
      · exact .inr (h.among v hv)
      · rcases htail with ⟨-, rfl⟩ | ⟨id, rfl⟩
        · cases hv
        · obtain rfl := List.mem_singleton.mp hv
          exact .inl ⟨rfl, rfl⟩
  case started =>
    intro v hv
    rw [hstarted]
    rcases List.mem_cons.mp hv with rfl | hv
    · exact .inl ⟨rfl, rfl⟩
    · rcases List.mem_append.mp hv with hv | hv
      · exact .inr (h.started v hv)
      · rcases htail with ⟨-, rfl⟩ | ⟨id, rfl⟩
        · cases hv
        · obtain rfl := List.mem_singleton.mp hv
          exact .inl ⟨rfl, rfl⟩
  case once =>
    have htail' : tail.filterMap Visit.start? = [] := by
      rcases htail with ⟨-, rfl⟩ | ⟨id, rfl⟩ <;> rfl
    have hstart : (Visit.started here p :: (xs ++ tail)).filterMap Visit.start? =
        here :: xs.filterMap Visit.start? := by
      show here :: (xs ++ tail).filterMap Visit.start? = _
      rw [List.filterMap_append, htail', List.append_nil]
    rw [hstart, List.nodup_cons]
    refine ⟨fun hmem => ?_, h.once⟩
    obtain ⟨q, hq⟩ := mem_starts.mp hmem
    exact (below here q (h.among _ hq)).2 rfl
  case reached =>
    intro place q hs above hin hm
    rw [hmirrored] at hm
    rcases (hstarted place q).mp hs with ⟨rfl, rfl⟩ | hs
    · exact hnot above hin hm
    · exact h.reached place q hs above hin hm
  case complete =>
    intro hf place q ho hout
    rw [hstarted]
    rcases ho with ho | ho
    · exact .inl ho
    · exact .inr (h.complete hf place q ho fun above hin hm =>
        hout above hin ((hmirrored above).mpr hm))
  case ends =>
    intro hf place q hs
    rw [hmirrored]
    rcases (hstarted place q).mp hs with ⟨rfl, rfl⟩ | hs
    · rcases htail with ⟨ht, -⟩ | ⟨id, rfl⟩
      · rw [hf] at ht
        cases ht
      · exact .inr ⟨id, by simp⟩
    · rcases h.ends hf place q hs with hm | ⟨id, hb⟩
      · exact .inl hm
      · exact .inr ⟨id, List.mem_cons_of_mem _ (List.mem_append_left _ hb)⟩

end Covers

/-! ## The laws of an occurrence -/

theorem split_singleton {α : Type} {v w : α} {earlier later : List α}
    (h : [v] = earlier ++ w :: later) : earlier = [] ∧ w = v ∧ later = [] := by
  cases earlier with
  | nil =>
    obtain ⟨rfl, rfl⟩ := List.cons.inj h
    exact ⟨rfl, rfl, rfl⟩
  | cons u us => simp at h

theorem Lawful.aborted (here : Place) (p : Nat) : Lawful known true [.started here p] where
  mirrors earlier place q n id later h := by cases (split_singleton h).2.1
  starts earlier place q later r h _ := .inl ⟨rfl, (split_singleton h).2.2⟩

theorem Lawful.mirror {q : NodeId} (hq : known (p : Int) = some q) (f : LineTransform)
    (id : NodeId) : Lawful known false
      ([.started here p] ++ [.mirrored here p (some (.computed (.copy f) [q])) id]) where
  mirrors earlier place p' n id' later h := by
    rcases split_append h with ⟨rest, hs, -⟩ | ⟨first, rfl, hs⟩
    · cases (split_singleton hs).2.1
    · obtain ⟨rfl, hv, -⟩ := split_singleton hs
      cases hv
      refine ⟨[], rfl, ?_⟩
      rw [primary_nil, hq]
      rfl
  starts earlier place p' later r h hr := by
    rcases split_append h with ⟨rest, hs, rfl⟩ | ⟨first, rfl, hs⟩
    · obtain ⟨rfl, hv, rfl⟩ := split_singleton hs
      cases hv
      rw [primary_nil, hq] at hr
      cases hr
      exact .inr ⟨f, id, [], rfl⟩
    · cases (split_singleton hs).2.1

theorem Lawful.start (here : Place) (hp : known (p : Int) = none) :
    Lawful known false [.started here p] where
  mirrors earlier place q n id later h := by cases (split_singleton h).2.1
  starts earlier place q later r h hr := by
    obtain ⟨rfl, hv, -⟩ := split_singleton h
    cases hv
    rw [primary_nil, hp] at hr
    cases hr

theorem Lawful.built (here : Place) (p : Nat) (id : NodeId) :
    Lawful known failed [.built here p id] where
  mirrors earlier place q n id later h := by cases (split_singleton h).2.1
  starts earlier place q later r h := by cases (split_singleton h).2.1

end Laws

end Tour

end Snippet
