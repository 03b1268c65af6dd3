import Snippet.Proofs.Pattern.Branches
import Snippet.Proofs.Pattern.Groups

/-!
What attempts leave behind in the memory that they share, also where they fail. An invariant of the memory
lasts through a match if it allows what the parts of the pattern do to it: the cursor is moved to places of
the text, groups of the pattern are marked, and a failure takes marks back. Only a look-behind comes to
places before the one where it starts.
-/

namespace Snippet.Pattern

/-- The pattern, or a part of it, looks behind. -/
def looksBehind : Pattern → Bool
  | seq p q => looksBehind p || looksBehind q
  | alt p rest => looksBehind p || looksBehind rest
  | group _ p => looksBehind p
  | ifGroup _ yes no => looksBehind yes || looksBehind no
  | ahead _ p => looksBehind p
  | behind _ _ _ => true
  | atomic p => looksBehind p
  | loop _ _ _ p => looksBehind p
  | _ => false

namespace Memory

@[simp] theorem cursor_moveTo (m : Memory) (place : Nat) : (m.moveTo place).cursor = place := rfl

@[simp] theorem cursor_mark (m : Memory) (n place : Nat) : (m.mark n place).cursor = m.cursor := by
  unfold mark
  split <;> rfl

@[simp] theorem cursor_rewind (m : Memory) (inLoop : Bool) (after : Memory) :
    (m.rewind inLoop after).cursor = after.cursor := rfl

end Memory

/-- The place is one of the text, and not before `low`. -/
def Within (text : Array Char) (low place : Nat) : Prop :=
  low ≤ place ∧ place ≤ text.size

/-- What stays true of the memory through all attempts. It keeps the cursor within bounds, allows any place
there, and holds for what a failure takes back if it held before and holds now. -/
structure Lasting (text : Array Char) (low : Nat) (I : Memory → Prop) : Prop where
  cursor : ∀ {m}, I m → Within text low m.cursor
  moveTo : ∀ {m place}, I m → Within text low place → I (m.moveTo place)
  rewind : ∀ {before after} inLoop, I before → I after → I (before.rewind inLoop after)

theorem lasting_within (text : Array Char) (low : Nat) :
    Lasting text low fun m => Within text low m.cursor where
  cursor := id
  moveTo := fun _ h => h
  rewind := fun _ _ h => h

/-- At a place within bounds what follows keeps the invariant. -/
def Confined (text : Array Char) (low : Nat) (I : Memory → Prop) (follow : Follow) : Prop :=
  ∀ place m, Within text low place → I m → I (follow place m).2

/-- The step keeps the invariant if what follows does. -/
def Confining (text : Array Char) (low : Nat) (I : Memory → Prop) (step : Step) : Prop :=
  ∀ follow, Confined text low I follow → Confined text low I fun place m => step place m follow

section Confined

variable {text : Array Char} {low place : Nat} {I : Memory → Prop} {m : Memory} {follow : Follow}
  {step : Step} {around : Around} {least : Nat} {most : Option Nat}

theorem confined_accept (hI : Lasting text low I) : Confined text low I accept :=
  fun _ _ hplace hm => hI.moveTo hm hplace

theorem holds_branch {r : Outcome} {yes no : Memory → Outcome} (hr : I r.2)
    (hyes : ∀ m, I m → I (yes m).2) (hno : ∀ m, I m → I (no m).2) : I (branch r yes no).2 := by
  obtain ⟨ok, m⟩ := r
  cases ok with
  | true => exact hyes m hr
  | false => exact hno m hr

theorem holds_retry {r : Outcome} {no : Memory → Outcome} (hr : I r.2) (hno : ∀ m, I m → I (no m).2) :
    I (retry r no).2 :=
  holds_branch hr (fun _ hm => hm) hno

theorem passesAt_lt {test : CharTest} (hp : passesAt text test place = true) :
    place < text.size := by
  rcases Nat.lt_or_ge place text.size with hlt | hge
  · exact hlt
  · rw [passesAt, Array.getElem?_eq_none hge] at hp
    cases hp

theorem Within.succ {test : CharTest} (h : Within text low place)
    (hp : passesAt text test place = true) : Within text low (place + 1) :=
  ⟨Nat.le_succ_of_le h.1, passesAt_lt hp⟩

/-! ## Rows of single characters -/

theorem rowLength_le (test : CharTest) (limit : Nat) (h : place ≤ text.size) :
    place + rowLength text test limit place ≤ text.size := by
  induction limit generalizing place with
  | zero => exact h
  | succ limit ih =>
    rw [rowLength]
    split
    · next hp =>
      have hrest : place + 1 + rowLength text test limit (place + 1) ≤ text.size :=
        ih (passesAt_lt hp)
      omega
    · exact h

theorem confined_afterRow (hI : Lasting text low I) (h : Confined text low I follow) :
    Confined text low I (afterRow text around follow) := by
  intro place m hplace hm
  have hmoved := h place _ hplace (hI.moveTo hm hplace)
  unfold afterRow
  split
  · split
    · exact hmoved
    · exact hm
  · exact hmoved

theorem confined_giveBack (hI : Lasting text low I) (h : Confined text low I follow)
    (hleast : low ≤ least) {extra : Nat} (hsize : least + extra ≤ text.size) (hm : I m) :
    I (giveBack text around follow least extra m).2 := by
  have hafter : Confined text low I (afterRow text around follow) := confined_afterRow hI h
  induction extra generalizing m with
  | zero =>
    rw [giveBack_zero]
    exact holds_retry (hafter least m ⟨hleast, hsize⟩ hm) fun _ hm' => hI.rewind _ hm hm'
  | succ extra ih =>
    rw [giveBack_succ]
    have hlongest : low ≤ least + (extra + 1) := Nat.le_add_right_of_le hleast
    exact holds_retry (hafter _ m ⟨hlongest, hsize⟩ hm) fun _ hm' =>
      ih (Nat.le_of_succ_le hsize) (hI.rewind _ hm hm')

theorem confined_takeMore (hI : Lasting text low I) (h : Confined text low I follow) (test : CharTest)
    (extra : Option Nat) (fuel : Nat) (hplace : Within text low place) (hm : I m) :
    I (takeMore text test around follow extra fuel place m).2 := by
  induction fuel generalizing extra place m with
  | zero => exact hm
  | succ fuel ih =>
    rw [takeMore_succ]
    refine holds_retry (h place _ hplace (hI.moveTo hm hplace)) fun m' hm' => ?_
    have hback : I ((m.rewind around.inLoop m').moveTo place) :=
      hI.moveTo (hI.rewind _ hm hm') hplace
    split
    · next hp =>
      have hsucc := hplace.succ hp
      have htaken : I (taking test around place m m') := by
        unfold taking
        split
        · exact hI.moveTo hback hsucc
        · exact hback
      match extra with
      | none => exact ih none hsucc htaken
      | some 0 => exact htaken
      | some (extra + 1) => exact ih (some extra) hsucc htaken
    · exact hback

theorem confined_rowOf (hI : Lasting text low I) (h : Confined text low I follow) (test : CharTest)
    (greed : Greed) (hplace : low ≤ place) {length : Nat} (hsize : place + length ≤ text.size)
    (hm : I m) : I (rowOf text test around follow least m most greed place length).2 := by
  have hend : Within text low (place + length) := ⟨Nat.le_add_right_of_le hplace, hsize⟩
  have hstart : I (m.moveTo (if test.isStepwise then place + length else place)) := by
    split
    · exact hI.moveTo hm hend
    · exact hI.moveTo hm ⟨hplace, Nat.le_of_add_right_le hsize⟩
  have hleast : low ≤ place + least := Nat.le_add_right_of_le hplace
  unfold rowOf
  dsimp only
  split
  · exact hstart
  · cases greed with
    | greedy => exact confined_giveBack hI h hleast (by omega) hstart
    | lazy => exact confined_takeMore hI h test _ _ ⟨hleast, by omega⟩ hstart
    | possessive => exact h _ _ hend hstart

theorem confining_runRow (hI : Lasting text low I) (test : CharTest) (greed : Greed) :
    Confining text low I (runRow text test around least most greed) := by
  intro follow h place m hplace hm
  obtain ⟨limit, hrow⟩ := runRow_eq text test around follow least m most greed place
  simp only [hrow]
  split
  · exact hm
  · exact confined_rowOf hI h test greed hplace.1 (rowLength_le test limit hplace.2) hm

/-! ## Repetition -/

theorem confined_greedyLoop (hI : Lasting text low I) (hstep : Confining text low I step)
    (h : Confined text low I follow) (fuel count : Nat) (started : Option Nat) :
    Confined text low I (greedyLoop step least most follow fuel count started) := by
  induction fuel generalizing count started with
  | zero => exact fun _ _ _ hm => hm
  | succ fuel ih =>
    intro place m hplace hm
    have hmoved : I (m.moveTo place) := hI.moveTo hm hplace
    have again := fun started =>
      hstep _ (ih (count + 1) started) place (m.moveTo place) hplace hmoved
    rw [greedyLoop_succ]
    dsimp only
    split
    · exact holds_retry (again started) fun _ hm' => hI.moveTo hm' hplace
    · refine holds_retry ?_ fun m' hm' =>
        holds_retry (h place m' hplace hm') fun _ hm' => hI.moveTo hm' hplace
      split
      · exact holds_retry (again (some place)) fun _ hm' =>
          hI.moveTo (hI.rewind true hmoved hm') hplace
      · exact hmoved

theorem confined_lazyLoop (hI : Lasting text low I) (inLoop : Bool) (hstep : Confining text low I step)
    (h : Confined text low I follow) (fuel count : Nat) (started : Option Nat) :
    Confined text low I (lazyLoop step inLoop least most follow fuel count started) := by
  induction fuel generalizing count started with
  | zero => exact fun _ _ _ hm => hm
  | succ fuel ih =>
    intro place m hplace hm
    have hmoved : I (m.moveTo place) := hI.moveTo hm hplace
    have again := fun started m' (hm' : I m') =>
      hstep _ (ih (count + 1) started) place m' hplace hm'
    rw [lazyLoop_succ]
    dsimp only
    split
    · exact holds_retry (again started _ hmoved) fun _ hm' => hI.moveTo hm' hplace
    · refine holds_retry (h place _ hplace hmoved) fun m' hm' => ?_
      have hback := hI.moveTo (hI.rewind inLoop hmoved hm') hplace
      split
      · exact holds_retry (again (some place) _ hback) fun _ hm' => hI.moveTo hm' hplace
      · exact hback

theorem confined_possessiveLoop (hI : Lasting text low I) (hstep : Confining text low I step)
    (h : Confined text low I follow) {start : Nat} (hstart : Within text low start) (fuel count : Nat)
    (started : Option Nat) (hm : I m) :
    I (possessiveLoop step least most follow start fuel count started m).2 := by
  induction fuel generalizing count started m with
  | zero => exact hm
  | succ fuel ih =>
    have hturn := hstep accept (confined_accept hI) m.cursor m (hI.cursor hm) hm
    rw [possessiveLoop_succ]
    split
    · exact holds_branch hturn (fun _ hm' => ih (count + 1) started hm') fun _ hm' =>
        hI.moveTo hm' hstart
    · split
      · exact holds_branch hturn (fun _ hm' => ih (count + 1) (some m.cursor) hm') fun m' hm' =>
          h m'.cursor _ (hI.cursor hm') (hI.rewind true hm hm')
      · exact h m.cursor m (hI.cursor hm) hm

theorem confining_runLoop (hI : Lasting text low I) (inLoop : Bool) (greed : Greed)
    (hstep : Confining text low I step) :
    Confining text low I (runLoop text step inLoop least most greed) := by
  intro follow h place m hplace hm
  cases greed with
  | greedy => exact confined_greedyLoop hI hstep h _ 0 none place m hplace hm
  | lazy => exact confined_lazyLoop hI inLoop hstep h _ 0 none place m hplace hm
  | possessive =>
    exact confined_possessiveLoop hI hstep h hplace _ 0 none (hI.moveTo hm hplace)

/-! ## Patterns -/

theorem holds_settle (hI : Lasting text low I) (h : Confined text low I follow)
    (hplace : Within text low place) (negated : Bool) (hm : I m) {r : Outcome} (hr : I r.2) :
    I (settle around place m follow negated r).2 := by
  refine holds_branch hr (fun m' hm' => ?_) fun m' hm' => ?_
  · split
    · exact hm'
    · exact h place m' hplace hm'
  · split
    · exact h place _ hplace (hI.rewind _ hm hm')
    · exact hm'

theorem repeatsAt_le {folding : Folding} {start stop : Nat} (hplace : place ≤ text.size)
    (h : repeatsAt text folding start stop place = true) : place + (stop - start) ≤ text.size := by
  rcases Nat.eq_zero_or_pos (stop - start) with hzero | hpos
  · rwa [hzero]
  · -- The last character of the repeated text is one of the text.
    have hlast := List.all_eq_true.mp h (stop - start - 1) (List.mem_range.mpr (by omega))
    rcases Nat.lt_or_ge (place + (stop - start - 1)) text.size with hlt | hge
    · omega
    · rw [Array.getElem?_eq_none hge] at hlast
      split at hlast
      · next heq => cases heq
      · cases hlast

/-- The invariant holds wherever a group of the pattern begins or ends. -/
def Marking (p : Pattern) (I : Memory → Prop) : Prop :=
  ∀ n ∈ p.groups, ∀ m place, I m → I (m.mark (2 * n) place) ∧ I (m.mark (2 * n + 1) place)

theorem Marking.sub {q p : Pattern} (h : Marking p I) (hq : ∀ n ∈ q.groups, n ∈ p.groups) :
    Marking q I :=
  fun n hn => h n (hq n hn)

/-- A pattern keeps an invariant if its groups do. Only a look-behind comes to places before the one where
an attempt starts. -/
theorem confining_run (hI : Lasting text low I) (p : Pattern) (hmarks : Marking p I)
    (hlow : p.looksBehind = true → low = 0) (around : Around) :
    Confining text low I (run text p around) := by
  induction p generalizing around with
  | empty => exact fun follow h => h
  | char test =>
    intro follow h place m hplace hm
    simp only [run]
    split
    · next hp => exact h _ m (hplace.succ hp) hm
    · exact hm
  | anchor a =>
    intro follow h place m hplace hm
    simp only [run]
    split
    · exact h place m hplace hm
    · exact hm
  | seq p q ihp ihq =>
    have hp := ihp (hmarks.sub fun _ hn => mem_groups_seq.mpr (.inl hn))
      fun hb => hlow (by simp [looksBehind, hb])
    have hq := ihq (hmarks.sub fun _ hn => mem_groups_seq.mpr (.inr hn))
      fun hb => hlow (by simp [looksBehind, hb])
    exact fun follow h => hp _ _ (hq around follow h)
  | fail => exact fun follow h place m hplace hm => hm
  | alt p rest ihp ihrest =>
    have hp := ihp (hmarks.sub fun _ hn => mem_groups_alt.mpr (.inl hn))
      fun hb => hlow (by simp [looksBehind, hb])
    have hrest := ihrest (hmarks.sub fun _ hn => mem_groups_alt.mpr (.inr hn))
      fun hb => hlow (by simp [looksBehind, hb])
    intro follow h place m hplace hm
    simp only [run_alt]
    split
    · exact hrest around follow h place m hplace hm
    · exact holds_retry (hp _ follow h place _ hplace (hI.moveTo hm hplace)) fun m' hm' =>
        hrest around follow h place _ hplace (hI.rewind _ hm hm')
  | group n p ih =>
    intro follow h place m hplace hm
    have hown := hmarks n (mem_groups_group.mpr (.inl rfl))
    have hp := ih (hmarks.sub fun _ hn => mem_groups_group.mpr (.inr hn)) hlow
    refine hp _ _ (fun place m hplace hm => ?_) place _ hplace (hown m place hm).1
    exact h place _ hplace (hown m place hm).2
  | backref n folding =>
    intro follow h place m hplace hm
    simp only [run]
    split
    · split
      · next hrep => exact h _ m ⟨Nat.le_add_right_of_le hplace.1, repeatsAt_le hplace.2 hrep⟩ hm
      · exact hm
    · exact hm
  | ifGroup n yes no ihyes ihno =>
    have hyes := ihyes (hmarks.sub fun _ hn => mem_groups_ifGroup.mpr (.inl hn))
      fun hb => hlow (by simp [looksBehind, hb])
    have hno := ihno (hmarks.sub fun _ hn => mem_groups_ifGroup.mpr (.inr hn))
      fun hb => hlow (by simp [looksBehind, hb])
    intro follow h place m hplace hm
    simp only [run]
    split
    · exact hyes _ follow h place m hplace hm
    · exact hno _ follow h place m hplace hm
  | ahead negated p ih =>
    intro follow h place m hplace hm
    simp only [run_ahead]
    exact holds_settle hI h hplace negated hm
      (ih hmarks hlow _ accept (confined_accept hI) place _ hplace (hI.moveTo hm hplace))
  | behind negated width p ih =>
    obtain rfl := hlow rfl
    intro follow h place m hplace hm
    simp only [run_behind]
    split
    · split
      · exact h place m hplace hm
      · exact hm
    · have hback : Within text 0 (place - width.least) :=
        ⟨Nat.zero_le _, Nat.le_trans (Nat.sub_le _ _) hplace.2⟩
      exact holds_settle hI h hplace negated hm
        (ih hmarks (fun _ => rfl) _ accept (confined_accept hI) _ _ hback (hI.moveTo hm hback))
  | atomic p ih =>
    intro follow h place m hplace hm
    simp only [run_atomic]
    have hbody := ih hmarks hlow { around with next := none } accept (confined_accept hI) place _
      hplace (hI.moveTo hm hplace)
    exact holds_branch hbody (fun m' hm' => h m'.cursor m' (hI.cursor hm') hm') fun _ hm' =>
      hI.moveTo hm' hplace
  | loop least most greed p ih =>
    intro follow h place m hplace hm
    simp only [run]
    split
    · exact confining_runRow hI _ greed follow h place m hplace hm
    · exact confining_runLoop hI _ greed (ih hmarks hlow _) follow h place m hplace hm

end Confined

end Snippet.Pattern
