import Snippet.Proofs.Pattern.Faults
import Snippet.Proofs.Pattern.Forward

/-!
What a search finds. Its first match is the leftmost one among the places that it tries, and each further
match is the leftmost one from where the match before it has ended. Where matches do not run backwards, the
search goes through the whole text.
-/

namespace Snippet.Pattern

/-- A search from `start` on tries the place. It passes over the last places of a text if they leave too
little room for a match. -/
def Compiled.Tries (c : Compiled) (text : Array Char) (start place : Nat) : Prop :=
  start + c.least ≤ text.size ∧ start ≤ place ∧ place ≤ start + laterPlaces c text start

/-- The groups of the pattern are numbered in order. -/
def Compiled.Ordered (c : Compiled) : Prop :=
  ∃ low high, c.pattern.InOrder low high

/-- In the text every match ends where it starts or later. -/
def Compiled.GoesForward (c : Compiled) (text : Array Char) : Prop :=
  ∀ advance place m, place ≤ text.size → matchAt? c.pattern text advance place = some m →
    place ≤ m.stop

/-- In the text every match takes up at least the least width of the pattern. -/
def Compiled.KeepsWidth (c : Compiled) (text : Array Char) : Prop :=
  ∀ place m, place ≤ text.size → matchAt? c.pattern text false place = some m →
    place + c.least ≤ m.stop

/-- What there is at a place for a search that has come to `start`. -/
def Compiled.attempt (c : Compiled) (text : Array Char) (advance : Bool) (start place : Nat) :
    Option Match :=
  matchAt? c.pattern text (advance && place = start) place

/-- The match is the leftmost one that a search from `start` on comes upon. -/
structure IsFirst (c : Compiled) (text : Array Char) (advance : Bool) (start : Nat) (m : Match) :
    Prop where
  tried : c.Tries text start m.start
  found : c.attempt text advance start m.start = some m
  leftmost : ∀ place, start ≤ place → place < m.start → c.attempt text advance start place = none

/-- Each of the matches is the first one from where the one before it has ended, or from `start` on. If they
are `all`, there is none after the last one, and otherwise there is one at most. -/
inductive Successive (c : Compiled) (text : Array Char) (all : Bool) :
    Bool → Nat → List Match → Prop where
  | none {advance : Bool} {start : Nat}
      (h : ∀ place, c.Tries text start place → c.attempt text advance start place = none) :
      Successive c text all advance start []
  | single {advance : Bool} {start : Nat} {m : Match} (hall : all = false)
      (h : IsFirst c text advance start m) : Successive c text all advance start [m]
  | next {advance : Bool} {start : Nat} {m : Match} {ms : List Match} (hall : all = true)
      (h : IsFirst c text advance start m)
      (hms : Successive c text all (m.start = m.stop) m.stop ms) :
      Successive c text all advance start (m :: ms)

section Search

variable {c : Compiled} {text : Array Char} {advance : Bool} {start count : Nat} {m : Match}

theorem matchAt?_start {p : Pattern} (h : matchAt? p text advance start = some m) :
    m.start = start := by
  unfold matchAt? at h
  split at h
  · cases h
    rfl
  · cases h

/-- Behind its start a search is not concerned with matches that take up nothing. -/
theorem attempt_later {place : Nat} (h : start < place) :
    c.attempt text advance start place = matchAt? c.pattern text false place := by
  have hne : decide (place = start) = false := decide_eq_false (Nat.ne_of_gt h)
  rw [Compiled.attempt, hne, Bool.and_false]

theorem attempt_start :
    c.attempt text advance start start = matchAt? c.pattern text advance start := by
  rw [Compiled.attempt, decide_eq_true rfl, Bool.and_true]

theorem findAmong_some {p : Pattern} (h : findAmong p text count start = some m) :
    (start ≤ m.start ∧ m.start < start + count) ∧ matchAt? p text false m.start = some m ∧
      ∀ place, start ≤ place → place < m.start → matchAt? p text false place = none := by
  induction count generalizing start with
  | zero => cases h
  | succ count ih =>
    rw [findAmong] at h
    split at h
    · next m' hm' =>
      cases h
      obtain rfl := matchAt?_start hm'
      refine ⟨⟨Nat.le_refl _, by omega⟩, hm', fun place hle hlt => ?_⟩
      exact absurd hlt (Nat.not_lt_of_le hle)
    · next hnone =>
      obtain ⟨⟨hle, hlt⟩, hfound, hleft⟩ := ih h
      refine ⟨⟨Nat.le_of_succ_le hle, by omega⟩, hfound, fun place hplace hbefore => ?_⟩
      rcases Nat.eq_or_lt_of_le hplace with rfl | hlater
      · exact hnone
      · exact hleft place hlater hbefore

theorem findAmong_none {p : Pattern} (h : findAmong p text count start = none) (place : Nat)
    (hle : start ≤ place) (hlt : place < start + count) : matchAt? p text false place = none := by
  induction count generalizing start with
  | zero => omega
  | succ count ih =>
    rw [findAmong] at h
    split at h
    · cases h
    · next hnone =>
      rcases Nat.eq_or_lt_of_le hle with rfl | hlater
      · exact hnone
      · exact ih h hlater (by omega)

theorem find?_some (h : find? c text advance start = some m) : IsFirst c text advance start m := by
  unfold find? at h
  split at h
  · cases h
  · next hroom =>
    have hroom := Nat.le_of_not_lt hroom
    split at h
    · next m' hm' =>
      cases h
      obtain rfl := matchAt?_start hm'
      refine ⟨⟨hroom, Nat.le_refl _, Nat.le_add_right _ _⟩, ?_, fun place hle hlt => ?_⟩
      · rw [attempt_start]
        exact hm'
      · exact absurd hlt (Nat.not_lt_of_le hle)
    · next hnone =>
      obtain ⟨⟨hle, hlt⟩, hfound, hleft⟩ := findAmong_some h
      refine ⟨⟨hroom, Nat.le_of_succ_le hle, by omega⟩, ?_, fun place hplace hbefore => ?_⟩
      · rw [attempt_later hle]
        exact hfound
      · rcases Nat.eq_or_lt_of_le hplace with rfl | hlater
        · rw [attempt_start]
          exact hnone
        · rw [attempt_later hlater]
          exact hleft place hlater hbefore

theorem find?_none (h : find? c text advance start = none) (place : Nat)
    (htried : c.Tries text start place) : c.attempt text advance start place = none := by
  obtain ⟨hroom, hle, hlast⟩ := htried
  rw [find?, if_neg (Nat.not_lt_of_le hroom)] at h
  split at h
  · cases h
  · next hnone =>
    rcases Nat.eq_or_lt_of_le hle with rfl | hlater
    · rw [attempt_start]
      exact hnone
    · rw [attempt_later hlater]
      exact findAmong_none h place hlater (by omega)

theorem IsFirst.start_le (h : IsFirst c text advance start m) : start ≤ m.start :=
  h.tried.2.1

theorem laterPlaces_le (c : Compiled) (text : Array Char) (start : Nat) :
    laterPlaces c text start ≤ text.size - start := by
  unfold laterPlaces
  split
  · exact Nat.le_refl _
  · exact Nat.sub_le _ _

theorem Compiled.Tries.le_size {place : Nat} (h : c.Tries text start place) :
    place ≤ text.size := by
  have hlater := laterPlaces_le c text start
  have hroom := h.1
  have hlast := h.2.2
  omega

/-- No group has to take up anything. -/
theorem sized_nothing (inLoop : Bool) (p : Pattern) : Sized (fun _ => ⟨0, 0⟩) inLoop p where
  wide := fun _ _ => Nat.zero_le _
  forward := fun _ _ h => absurd h (Nat.lt_irrefl 0)
  apart := fun _ _ h => absurd h (Nat.lt_irrefl 0)
  guarded := fun _ _ _ => rfl

theorem IsFirst.span (hc : c.Ordered) (h : IsFirst c text advance start m) :
    m.stop ≤ text.size ∧ (advance = true → m.start = start → m.stop ≠ start) := by
  obtain ⟨low, high, horder⟩ := hc
  obtain ⟨-, hstop, -, hmoves⟩ := matchAt?_span horder (sized_nothing false _) h.tried.le_size h.found
  refine ⟨hstop, fun hadvance hstart => ?_⟩
  rw [hstart] at hmoves
  exact hmoves (by simp [hadvance])

/-! ## All matches -/

/-- How many matches there can still be: two for each place, one that takes up nothing and one that does. -/
def matchesLeft (text : Array Char) (advance : Bool) (start : Nat) : Nat :=
  2 * (text.size + 1 - start) - advance.toNat

/-- With every match there are fewer to come, unless it runs backwards. -/
theorem IsFirst.matchesLeft_lt (hc : c.Ordered) (h : IsFirst c text advance start m)
    (hm : m.start ≤ m.stop) :
    matchesLeft text (m.start = m.stop) m.stop < matchesLeft text advance start := by
  obtain ⟨hsize, hmoves⟩ := h.span hc
  have hstart := h.start_le
  unfold matchesLeft
  rcases Nat.eq_or_lt_of_le (Nat.le_trans hstart hm) with hstop | hlater
  · -- The match takes up nothing, so the one before it, if that is at the same place, took up something.
    have hempty : m.start = m.stop := Nat.le_antisymm hm (hstop ▸ hstart)
    have hadvance : advance = false := by
      cases advance with
      | false => rfl
      | true => exact absurd hstop.symm (hmoves rfl (hempty.trans hstop.symm))
    rw [decide_eq_true hempty, hadvance, Bool.toNat_true, Bool.toNat_false]
    omega
  · have hle : advance.toNat ≤ 1 := Bool.toNat_le advance
    omega

theorem successive_matchesFrom (hc : c.Ordered) (hstart : start ≤ text.size)
    (hcount : matchesLeft text advance start ≤ count)
    (hforward : ∀ m ∈ matchesFrom c text count advance start, m.start ≤ m.stop) :
    Successive c text true advance start (matchesFrom c text count advance start) := by
  induction count generalizing advance start with
  | zero =>
    have hle : advance.toNat ≤ 1 := Bool.toNat_le advance
    unfold matchesLeft at hcount
    omega
  | succ count ih =>
    rw [matchesFrom] at hforward ⊢
    split
    · next hnone => exact .none (find?_none hnone)
    · next m hm =>
      have hfirst := find?_some hm
      rw [hm] at hforward
      have hspan := hforward m (by simp)
      have hless := hfirst.matchesLeft_lt hc hspan
      exact .next rfl hfirst
        (ih (hfirst.span hc).1 (by omega) fun m' hm' => hforward m' (by simp [hm']))

/-- If no match that is found ends before its start, each is the first one from where the one before it has
ended. -/
theorem findAll_successive (hc : c.Ordered) {all : Bool}
    (hforward : ∀ m ∈ findAll c text all, m.start ≤ m.stop) :
    Successive c text all false 0 (findAll c text all) := by
  unfold findAll at hforward ⊢
  cases all with
  | true => exact successive_matchesFrom hc (Nat.zero_le _) (Nat.le_refl _) hforward
  | false =>
    rw [if_neg Bool.false_ne_true, matchesFrom]
    split
    · next hnone => exact .none (find?_none hnone)
    · next m hm => exact .single rfl (find?_some hm)

theorem mem_matchesFrom (h : m ∈ matchesFrom c text count advance start) :
    ∃ advance start, IsFirst c text advance start m := by
  induction count generalizing advance start with
  | zero => cases h
  | succ count ih =>
    rw [matchesFrom] at h
    split at h
    · cases h
    · next m' hm' =>
      rcases List.mem_cons.mp h with rfl | h
      · exact ⟨advance, start, find?_some hm'⟩
      · exact ih h

theorem findAll_forward (hf : c.GoesForward text) {all : Bool} (h : m ∈ findAll c text all) :
    m.start ≤ m.stop := by
  obtain ⟨advance, start, hfirst⟩ := mem_matchesFrom h
  exact hf _ m.start m hfirst.tried.le_size hfirst.found

/-- The first match does not depend on whether others are asked for. -/
theorem head?_findAll (c : Compiled) (text : Array Char) (all : Bool) :
    (findAll c text all).head? = find? c text false 0 := by
  unfold findAll
  obtain ⟨count, hcount⟩ : ∃ count, (if all then 2 * (text.size + 1) else 1) = count + 1 := by
    cases all with
    | true => exact ⟨2 * text.size + 1, by rw [if_pos rfl]; omega⟩
    | false => exact ⟨0, rfl⟩
  rw [hcount, matchesFrom]
  cases find? c text false 0 <;> rfl

theorem findAll_eq_nil_iff {all : Bool} :
    findAll c text all = [] ↔
      ∀ place, c.Tries text 0 place → matchAt? c.pattern text false place = none := by
  have hattempt : ∀ place, c.attempt text false 0 place = matchAt? c.pattern text false place :=
    fun place => by rw [Compiled.attempt, Bool.false_and]
  rw [← List.head?_eq_none_iff, head?_findAll]
  constructor
  · intro h place htried
    rw [← hattempt]
    exact find?_none h place htried
  · intro h
    cases hm : find? c text false 0 with
    | none => rfl
    | some m =>
      have hfirst := find?_some hm
      have hfound := hfirst.found
      rw [hattempt, h m.start hfirst.tried] at hfound
      cases hfound

theorem length_findAll_le (c : Compiled) (text : Array Char) : (findAll c text false).length ≤ 1 := by
  unfold findAll
  rw [if_neg Bool.false_ne_true, matchesFrom]
  split
  · exact Nat.zero_le _
  · exact Nat.le_refl _

/-! ## Places that are passed over -/

/-- A search passes over no place that has a match, as matches take up the least width. -/
theorem findAll_eq_nil_iff_nowhere (hc : c.Ordered) (hwidth : c.KeepsWidth text) {all : Bool} :
    findAll c text all = [] ↔ ∀ place ≤ text.size, matchAt? c.pattern text false place = none := by
  rw [findAll_eq_nil_iff]
  refine ⟨fun h place hplace => ?_, fun h place htried => h place htried.le_size⟩
  cases hm : matchAt? c.pattern text false place with
  | none => rfl
  | some m =>
    have hstop := hwidth place m hplace hm
    obtain ⟨low, high, horder⟩ := hc
    obtain ⟨-, hsize, -, -⟩ := matchAt?_span horder (sized_nothing false _) hplace hm
    have htried : c.Tries text 0 place := by
      refine ⟨by omega, Nat.zero_le _, ?_⟩
      unfold laterPlaces
      split <;> omega
    rw [h place htried] at hm
    cases hm

end Search

/-! ## Patterns that keep to their widths -/

/-- The pattern goes forward, and so does each group that it refers to. None of these groups is in a
repetition that gives nothing back, unless a repetition around it can. -/
def isReliable (p : Pattern) : Bool :=
  p.isForward && p.captures.all fun (n, q) =>
    !p.references.contains n || (q.isForward && !p.unguarded.contains n)

section Reliable

variable {written : String} {mode : Mode} {c : Compiled}

theorem ordered_of_read [CharacterNames] (h : read written mode = .ok c) : c.Ordered := by
  obtain ⟨ts, t, hbuilt, -⟩ := built_of_read h
  exact ⟨_, _, hbuilt.inOrder⟩

theorem goesForward_of_read [CharacterNames] (h : read written mode = .ok c)
    (hf : c.pattern.isForward = true) (text : Array Char) : c.GoesForward text := by
  intro advance place m hplace hm
  obtain ⟨low, high, horder⟩ := ordered_of_read h
  obtain ⟨-, -, hforward, -⟩ := matchAt?_span horder (sized_nothing false _) hplace hm
  exact Nat.le_of_add_right_le (hforward hf)

/-- Each group that the pattern refers to has the width that is noted for it. -/
theorem sized_of_built {ts : List Token} {t t' : Table} {p : Pattern} (h : Built ts t t' p)
    (hp : p.isReliable = true) :
    Sized (fun n => if n ∈ p.references then t'.width n else ⟨0, 0⟩) false p := by
  rw [isReliable, Bool.and_eq_true, List.all_eq_true] at hp
  have hgroup : ∀ c ∈ p.captures, c.1 ∈ p.references →
      c.2.isForward = true ∧ c.1 ∉ p.unguarded := by
    intro c hc href
    have hall := hp.2 c hc
    simpa [href] using hall
  have hcounted : ∀ n, 0 < (if n ∈ p.references then t'.width n else ⟨0, 0⟩ : Width).least →
      n ∈ p.references := by
    intro n hn
    split at hn
    · assumption
    · exact absurd hn (Nat.lt_irrefl 0)
  refine ⟨fun c hc => ?wide, fun c hc hn => (hgroup c hc (hcounted _ hn)).1,
    fun c hc _ => (h.noted.captured c hc).2, fun _ n hn => ?guarded⟩
  case wide =>
    by_cases href : c.1 ∈ p.references
    · have hnoted : t'.width c.1 = c.2.width t'.width := by
        rw [Table.width, (h.noted.captured c hc).1]
        rfl
      have hsame : c.2.width t'.width =
          c.2.width fun n => if n ∈ p.references then t'.width n else ⟨0, 0⟩ :=
        width_congr fun n hn => (if_pos (references_of_capture hc hn)).symm
      refine Nat.le_of_eq ?_
      rw [if_pos href, hnoted, hsame]
    · rw [if_neg href]
      exact Nat.zero_le _
  case guarded =>
    have hnot : n ∉ p.references := by
      intro href
      obtain ⟨c, hc, rfl⟩ := List.mem_map.mp (groups_of_unguarded hn)
      exact (hgroup c hc href).2 hn
    rw [if_neg hnot]

theorem keepsWidth_of_read [CharacterNames] (h : read written mode = .ok c)
    (hc : c.pattern.isReliable = true) (text : Array Char) : c.KeepsWidth text := by
  intro place m hplace hm
  obtain ⟨ts, t, hbuilt, hleast⟩ := built_of_read h
  obtain ⟨-, -, hwide, -⟩ := matchAt?_span hbuilt.inOrder (sized_of_built hbuilt hc) hplace hm
  have hforward : c.pattern.isForward = true := by
    rw [isReliable, Bool.and_eq_true] at hc
    exact hc.1
  rw [hleast, width_congr fun n hn => (if_pos hn).symm]
  exact hwide hforward

end Reliable

/-- A second repetition that fails leaves the first group with a new start and its old end, so that the reference
needs no text: there is a match of four characters where five are the least, and no search tries the place. -/
theorem matchAt?_shortened :
    ∃ c, read "(?:(aaa)|b){2}+\\1" {} = .ok c ∧ c.least = 5 ∧
      (matchAt? c.pattern #['a', 'a', 'a', 'b'] false 0).map Match.stop = some 4 ∧
        findAll c #['a', 'a', 'a', 'b'] true = [] := by
  have hruns : (read "(?:(aaa)|b){2}+\\1" {}).toOption.map (fun c =>
      (c.least, (matchAt? c.pattern #['a', 'a', 'a', 'b'] false 0).map Match.stop,
        findAll c #['a', 'a', 'a', 'b'] true)) = some (5, some 4, []) := by decide +kernel
  obtain ⟨c, hread, hrun⟩ := Option.map_eq_some_iff.mp hruns
  obtain ⟨hleast, hrun⟩ := Prod.mk.inj hrun
  obtain ⟨hmatch, hnone⟩ := Prod.mk.inj hrun
  exact ⟨c, ok_of_toOption hread, hleast, hmatch, hnone⟩

end Snippet.Pattern
