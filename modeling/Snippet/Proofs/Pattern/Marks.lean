import Mathlib.Logic.Function.Basic
import Snippet.Proofs.Pattern.Cursor

/-!
The marks of groups. A group that has been closed lies over as much text as it takes up at least, and this
stays true through failed attempts. Inside a loop that can give back, a failure takes back all marks that an
attempt has set. Elsewhere it takes back the new ones only, but there a group is marked for the first time,
except in a repetition that gives nothing back.
-/

namespace Snippet.Pattern

namespace Memory

variable {m : Memory} {n i place start stop : Nat}

/-- Where a mark stands. -/
def markAt (m : Memory) (i : Nat) : Option Nat :=
  m.marks[i]?.join

theorem markAt_eq_none (h : m.marks.length ≤ i) : m.markAt i = none := by
  rw [markAt, List.getElem?_eq_none h]
  rfl

theorem lt_length_of_markAt (h : m.markAt i = some place) : i < m.marks.length := by
  rcases Nat.lt_or_ge i m.marks.length with hlt | hge
  · exact hlt
  · rw [markAt_eq_none hge] at h
    cases h

theorem length_mark : (m.mark n place).marks.length = max m.marks.length (n + 1) := by
  unfold mark
  split
  · rw [List.length_set]
    omega
  · simp only [List.length_append, List.length_replicate, List.length_singleton]
    omega

theorem markAt_mark : (m.mark n place).markAt i = if i = n then some place else m.markAt i := by
  unfold mark markAt
  split <;> grind

theorem markAt_rewind (before after : Memory) :
    (before.rewind false after).markAt i =
      if i < before.marks.length then after.markAt i else none := by
  unfold rewind markAt
  rw [if_neg Bool.false_ne_true, List.getElem?_take]
  split <;> rfl

theorem span?_eq_some_iff :
    m.span? n = some (start, stop) ↔
      m.markAt (2 * n) = some start ∧ m.markAt (2 * n + 1) = some stop ∧ start ≤ stop := by
  unfold span? group? markAt
  rcases m.marks[2 * n]? with _ | _ | a <;> rcases m.marks[2 * n + 1]? with _ | _ | b <;>
    simp [Option.filter_eq_some_iff, and_assoc]

end Memory

/-! ## Which marks are set -/

/-- The marks stand where they stood, except for those that are `free`. -/
def SameBut (free : Nat → Prop) (m m' : Memory) : Prop :=
  ∀ i, ¬free i → m'.markAt i = m.markAt i

/-- What follows sets none but the `free` marks, whether it succeeds or fails. -/
def SetsOnly (text : Array Char) (free : Nat → Prop) (follow : Follow) : Prop :=
  ∀ m₀, Confined text 0 (fun m => Within text 0 m.cursor ∧ SameBut free m₀ m) follow

section Setting

variable {text : Array Char} {free : Nat → Prop} {m₀ m m' : Memory} {follow : Follow} {p : Pattern}

theorem SameBut.rewind (inLoop : Bool) (h : SameBut free m₀ m) (h' : SameBut free m₀ m') :
    SameBut free m₀ (m.rewind inLoop m') := by
  intro i hi
  cases inLoop with
  | true => exact h i hi
  | false =>
    rw [Memory.markAt_rewind]
    split
    · exact h' i hi
    · next hlength => rw [← h i hi, Memory.markAt_eq_none (Nat.le_of_not_lt hlength)]

theorem SameBut.mark {n place : Nat} (h : SameBut free m₀ m) (hn : free n) :
    SameBut free m₀ (m.mark n place) := by
  intro i hi
  rw [Memory.markAt_mark, if_neg fun hin : i = n => hi (hin ▸ hn)]
  exact h i hi

theorem lasting_sameBut (text : Array Char) (free : Nat → Prop) (m₀ : Memory) :
    Lasting text 0 fun m => Within text 0 m.cursor ∧ SameBut free m₀ m where
  cursor := And.left
  moveTo := fun hm hplace => ⟨hplace, hm.2⟩
  rewind := fun inLoop hm hm' => ⟨hm'.1, hm.2.rewind inLoop hm'.2⟩

theorem setsOnly_accept : SetsOnly text free accept :=
  fun m₀ => confined_accept (lasting_sameBut text free m₀)

theorem SetsOnly.mono {free' : Nat → Prop} (h : SetsOnly text free follow)
    (hfree : ∀ i, free i → free' i) : SetsOnly text free' follow := by
  intro m₀ place m hplace hm
  -- Compared with the memory just before, what follows has only set marks that were free already.
  obtain ⟨hcursor, hsame⟩ := h m place m hplace ⟨hm.1, fun _ _ => rfl⟩
  exact ⟨hcursor, fun i hi => (hsame i fun hf => hi (hfree i hf)).trans (hm.2 i hi)⟩

theorem SetsOnly.mark {n : Nat} (h : SetsOnly text free follow) (hn : free n) :
    SetsOnly text free fun place m => follow place (m.mark n place) := by
  intro m₀ place m hplace hm
  refine h m₀ place _ hplace ⟨?_, hm.2.mark hn⟩
  rw [Memory.cursor_mark]
  exact hm.1

/-- A pattern sets the marks of its groups. -/
theorem SetsOnly.run (h : SetsOnly text free follow)
    (hp : ∀ n ∈ p.groups, free (2 * n) ∧ free (2 * n + 1)) (around : Around) :
    SetsOnly text free fun place m => run text p around place m follow := by
  intro m₀
  have hmarks : Marking p fun m => Within text 0 m.cursor ∧ SameBut free m₀ m := by
    intro n hn m place hm
    simp only [Memory.cursor_mark]
    exact ⟨⟨hm.1, hm.2.mark (hp n hn).1⟩, hm.1, hm.2.mark (hp n hn).2⟩
  exact confining_run (lasting_sameBut text free m₀) p hmarks (fun _ => rfl) around follow (h m₀)

end Setting

/-! ## Groups over their least width -/

/-- No group from `bound` on has been marked. Where a group is `opened` its start is marked, and each other
group that has been marked lies over its least width. Groups that need not take up anything are left out. -/
structure Held (widths : Nat → Width) (opened : Nat → Option Nat) (bound : Nat) (m : Memory) :
    Prop where
  length : m.marks.length ≤ 2 * bound
  start : ∀ n place, 0 < (widths n).least → opened n = some place →
    m.markAt (2 * n) = some place
  wide : ∀ n start stop, opened n = none → m.span? n = some (start, stop) →
    start + (widths n).least ≤ stop

/-- Of the groups that take up something none is marked anew where these marks are set, unless it comes
from `bound` on. Those that are `opened` keep their start. -/
def Harmless (widths : Nat → Width) (opened : Nat → Option Nat) (bound : Nat) (free : Nat → Prop) :
    Prop :=
  ∀ n, 0 < (widths n).least →
    (free (2 * n) → opened n = none) ∧
      (free (2 * n) ∨ free (2 * n + 1) → opened n = none → bound ≤ n)

/-- What follows can be tried and fail without harm to the groups before it. -/
def Quiet (text : Array Char) (widths : Nat → Width) (opened : Nat → Option Nat) (bound : Nat)
    (follow : Follow) : Prop :=
  ∃ free, Harmless widths opened bound free ∧ SetsOnly text free follow

section Holding

variable {text : Array Char} {widths : Nat → Width} {opened : Nat → Option Nat}
  {bound place : Nat} {free : Nat → Prop} {m m' : Memory} {follow : Follow} {p : Pattern}

theorem Held.congr (h : Held widths opened bound m) (hmarks : m'.marks = m.marks) :
    Held widths opened bound m' := by
  obtain ⟨cursor, marks⟩ := m'
  cases hmarks
  exact ⟨h.length, h.start, h.wide⟩

theorem Held.moveTo (h : Held widths opened bound m) (place : Nat) :
    Held widths opened bound (m.moveTo place) :=
  h.congr rfl

theorem Held.undo (h : Held widths opened bound m) (m' : Memory) :
    Held widths opened bound (m.rewind true m') :=
  h.congr rfl

theorem Held.mono {bound' : Nat} (h : Held widths opened bound m) (hbound : bound ≤ bound') :
    Held widths opened bound' m :=
  ⟨Nat.le_trans h.length (Nat.mul_le_mul_left 2 hbound), h.start, h.wide⟩

theorem held_fresh (widths : Nat → Width) (bound : Nat) :
    Held widths (fun _ => none) bound (.fresh place) where
  length := Nat.zero_le _
  start := fun _ _ _ h => by cases h
  wide := fun _ _ _ _ h => by cases h

/-- A failure that has set harmless marks does no harm. -/
theorem Held.rewind (h : Held widths opened bound m) (hfree : Harmless widths opened bound free)
    (hsame : SameBut free m m') (inLoop : Bool) :
    Held widths opened bound (m.rewind inLoop m') := by
  cases inLoop with
  | true => exact h.undo m'
  | false =>
    have hlength := h.length
    refine ⟨?length, fun n start hn hopen => ?start, fun n start stop hopen hspan => ?wide⟩
    case length =>
      show (m'.marks.take m.marks.length).length ≤ 2 * bound
      rw [List.length_take]
      omega
    case start =>
      have hmark := h.start n start hn hopen
      have hkept : ¬free (2 * n) := by
        intro hf
        rw [(hfree n hn).1 hf] at hopen
        cases hopen
      rw [Memory.markAt_rewind, if_pos (Memory.lt_length_of_markAt hmark), hsame _ hkept]
      exact hmark
    case wide =>
      obtain ⟨hstart, hstop, hle⟩ := Memory.span?_eq_some_iff.mp hspan
      rcases Nat.eq_zero_or_pos (widths n).least with hzero | hn
      · rwa [hzero]
      · rw [Memory.markAt_rewind] at hstart hstop
        split at hstart
        · split at hstop
          · next hfirst _ =>
            -- The group was marked before, so that it is none of those whose marks are free.
            have hkept : ¬(free (2 * n) ∨ free (2 * n + 1)) := by
              intro hf
              have hbound := (hfree n hn).2 hf hopen
              omega
            rw [hsame _ fun hf => hkept (.inl hf)] at hstart
            rw [hsame _ fun hf => hkept (.inr hf)] at hstop
            exact h.wide n start stop hopen (Memory.span?_eq_some_iff.mpr ⟨hstart, hstop, hle⟩)
          · cases hstop
        · cases hstart

/-- A loop that can give back takes all marks back, and elsewhere quiet things only are tried. -/
theorem Held.recover (h : Held widths opened bound m) {inLoop : Bool}
    (hquiet : inLoop = false → Quiet text widths opened bound follow) (hplace : place ≤ text.size)
    (hfail : follow place (m.moveTo place) = (false, m')) :
    Held widths opened bound (m.rewind inLoop m') := by
  cases inLoop with
  | true => exact h.undo m'
  | false =>
    obtain ⟨free, hfree, hsets⟩ := hquiet rfl
    have hwithin : Within text 0 place := ⟨Nat.zero_le _, hplace⟩
    obtain ⟨-, hsame⟩ := hsets m place (m.moveTo place) hwithin ⟨hwithin, fun _ _ => rfl⟩
    rw [hfail] at hsame
    exact h.rewind hfree hsame false

theorem quiet_accept : Quiet text widths opened bound accept :=
  ⟨fun _ => False, fun _ _ => ⟨False.elim, fun h => (h.elim id id).elim⟩, setsOnly_accept⟩

/-- A pattern whose groups come from `bound` on is as quiet as what follows it. -/
theorem Quiet.run {low high : Nat} (h : Quiet text widths opened (max bound high) follow)
    (hp : p.InOrder low high) (hnew : bound ≤ low ∨ ∀ n ∈ p.groups, (widths n).least = 0)
    (hopen : ∀ n, opened n ≠ none → n < low) (around : Around) :
    Quiet text widths opened bound fun place m => run text p around place m follow := by
  obtain ⟨free, hfree, hsets⟩ := h
  have hbounds := hp.bounds.2
  refine ⟨fun i => free i ∨ ∃ n ∈ p.groups, i = 2 * n ∨ i = 2 * n + 1, fun n hn => ⟨?_, ?_⟩, ?_⟩
  · rintro (hf | ⟨k, hk, hmark⟩)
    · exact (hfree n hn).1 hf
    · obtain rfl : n = k := by omega
      by_contra hopened
      exact absurd (hopen n hopened) (Nat.not_lt_of_le (hbounds n hk).1)
  · intro hf hopened
    have hor : (free (2 * n) ∨ free (2 * n + 1)) ∨ n ∈ p.groups := by
      grind
    rcases hor with hf | hk
    · exact Nat.le_trans (Nat.le_max_left _ _) ((hfree n hn).2 hf hopened)
    · rcases hnew with hlow | hzero
      · exact Nat.le_trans hlow (hbounds n hk).1
      · exact absurd (hzero n hk) (Nat.ne_of_gt hn)
  · refine SetsOnly.run (hsets.mono fun i => .inl) (fun n hn => ⟨.inr ⟨n, hn, .inl rfl⟩, ?_⟩) around
    exact .inr ⟨n, hn, .inr rfl⟩

/-- Inside a group, what comes after it also marks its end. -/
theorem Quiet.close {n : Nat} (h : Quiet text widths opened bound follow) (hn : n < bound)
    (hopen : opened n = none) (start : Nat) :
    Quiet text widths (Function.update opened n (some start)) bound
      fun place m => follow place (m.mark (2 * n + 1) place) := by
  obtain ⟨free, hfree, hsets⟩ := h
  refine ⟨fun i => free i ∨ i = 2 * n + 1, fun k hk => ?_, (hsets.mono fun i => .inl).mark (.inr rfl)⟩
  obtain ⟨hstart, hnew⟩ := hfree k hk
  by_cases hkn : k = n
  · subst hkn
    rw [Function.update_self]
    refine ⟨fun hf => ?_, fun _ hnone => by cases hnone⟩
    rcases hf with hf | hf
    · have hbound := hnew (.inl hf) hopen
      omega
    · omega
  · rw [Function.update_of_ne hkn]
    grind

/-- Opening a group marks its start. -/
theorem Held.begin {n : Nat} (h : Held widths opened bound m) (hopen : opened n = none) :
    Held widths (Function.update opened n (some place)) (max bound (n + 1)) (m.mark (2 * n) place) := by
  have hlength := h.length
  refine ⟨?_, fun k start hk hopened => ?_, fun k start stop hopened hspan => ?_⟩
  · rw [Memory.length_mark]
    omega
  · rw [Memory.markAt_mark]
    by_cases hkn : k = n
    · subst hkn
      rw [Function.update_self] at hopened
      rw [if_pos rfl]
      exact hopened
    · rw [Function.update_of_ne hkn] at hopened
      rw [if_neg (by omega)]
      exact h.start k start hk hopened
  · have hkn : k ≠ n := by
      rintro rfl
      rw [Function.update_self] at hopened
      cases hopened
    rw [Function.update_of_ne hkn] at hopened
    rw [Memory.span?_eq_some_iff, Memory.markAt_mark, Memory.markAt_mark, if_neg (by omega),
      if_neg (by omega)] at hspan
    exact h.wide k start stop hopened (Memory.span?_eq_some_iff.mpr hspan)

/-- Closing it marks its end, which has to be far enough behind its start. -/
theorem Held.finish {n start : Nat}
    (h : Held widths (Function.update opened n (some start)) bound m) (hn : n < bound)
    (hopen : opened n = none)
    (hwide : 0 < (widths n).least → start + (widths n).least ≤ place) :
    Held widths opened bound (m.mark (2 * n + 1) place) := by
  have hlength := h.length
  refine ⟨?_, fun k first hk hopened => ?_, fun k first stop hopened hspan => ?_⟩
  · rw [Memory.length_mark]
    omega
  · have hkn : k ≠ n := by
      rintro rfl
      rw [hopen] at hopened
      cases hopened
    rw [Memory.markAt_mark, if_neg (by omega)]
    exact h.start k first hk (by rwa [Function.update_of_ne hkn])
  · rw [Memory.span?_eq_some_iff, Memory.markAt_mark, Memory.markAt_mark, if_neg (by omega)] at hspan
    by_cases hkn : k = n
    · subst hkn
      rw [if_pos rfl] at hspan
      obtain ⟨hfirst, hstop, hle⟩ := hspan
      cases hstop
      rcases Nat.eq_zero_or_pos (widths k).least with hzero | hpos
      · rwa [hzero]
      · have hmark := h.start k start hpos (Function.update_self ..)
        rw [hmark] at hfirst
        cases hfirst
        exact hwide hpos
    · rw [if_neg (by omega)] at hspan
      exact h.wide k first stop (by rwa [Function.update_of_ne hkn])
        (Memory.span?_eq_some_iff.mpr hspan)

end Holding

end Snippet.Pattern
