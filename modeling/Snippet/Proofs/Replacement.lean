import Snippet.Proofs.Lines
import Snippet.Proofs.Pattern.Search
import Snippet.Proofs.Store.View
import Snippet.Transform

/-!
What a transform makes of a text. The text is cut at the matches, and each match is replaced by what the
format says; what is between the matches stays. This takes a match that ends where it starts or later. One
that runs backwards brings text a second time.
-/

namespace Snippet

namespace Transform

open Pattern

/-! ## The parts of a text -/

/-- The texts between matches: from `start` to the first one, from each to the next, and behind the last. -/
def gaps (text : Array Char) : Nat → List Match → List (List Char)
  | start, [] => [slice text start text.size]
  | start, m :: ms => slice text start m.start :: gaps text m.stop ms

/-- Pieces in turn with gaps, of which there is one more. -/
def interleave : List (List Char) → List (List Char) → List Char
  | gap :: gaps, piece :: pieces => gap ++ piece ++ interleave gaps pieces
  | gaps, _ => gaps.flatten

def matched (text : Array Char) (m : Match) : List Char :=
  slice text m.start m.stop

/-- What a token stands for in a match. -/
def tokenText (text : Array Char) (m : Match) : Format.Token → List Char
  | .literal written => written.toList
  | .group number => groupText text m number
  | .case number change => change.apply (groupText text m number)
  | .conditional number present absent =>
      if groupText text m number ≠ [] then present.toList else absent.toList

/-- What a format says of a match, token by token. -/
def written (format : Format) (text : Array Char) (m : Match) : List Char :=
  format.flatMap (tokenText text m)

section Parts

variable {text : Array Char} {m : Match} {ms : List Match} {start : Nat}

theorem slice_append {i j k : Nat} (hij : i ≤ j) (hjk : j ≤ k) :
    slice text i j ++ slice text j k = slice text i k := by
  rw [slice, slice, ← Array.toList_append, Array.extract_append_extract, Nat.min_eq_left hij,
    Nat.max_eq_right hjk]
  rfl

theorem slice_all (cs : List Char) : slice cs.toArray 0 cs.toArray.size = cs := by
  rw [slice, Array.extract_size, List.toList_toArray]

theorem interleave_gaps_nil : interleave (gaps text start []) [] = slice text start text.size := by
  simp [gaps, interleave]

theorem interleave_gaps_cons (piece : List Char) (pieces : List (List Char)) :
    interleave (gaps text start (m :: ms)) (piece :: pieces) =
      slice text start m.start ++ piece ++ interleave (gaps text m.stop ms) pieces :=
  rfl

/-- The text before a match, the match and the text behind it follow each other. -/
theorem slice_around {c : Compiled} (hc : c.Ordered) {advance : Bool}
    (h : IsFirst c text advance start m) (hm : m.start ≤ m.stop) :
    slice text start m.start ++ matched text m ++ slice text m.stop text.size =
      slice text start text.size := by
  rw [matched, slice_append h.start_le hm,
    slice_append (Nat.le_trans h.start_le hm) (h.span hc).1]

/-- With the matched parts put back between the gaps, this is the text. -/
theorem interleave_matched {c : Compiled} (hc : c.Ordered) {all advance : Bool}
    (h : Successive c text all advance start ms) (hforward : ∀ m ∈ ms, m.start ≤ m.stop) :
    interleave (gaps text start ms) (ms.map (matched text)) = slice text start text.size := by
  induction h with
  | none _ => exact interleave_gaps_nil
  | @single _ _ m _ hfirst =>
    rw [List.map_cons, interleave_gaps_cons, List.map_nil, interleave_gaps_nil]
    exact slice_around hc hfirst (hforward m (by simp))
  | @next _ _ m ms _ hfirst _ ih =>
    rw [List.map_cons, interleave_gaps_cons, ih fun m' hm' => hforward m' (by simp [hm'])]
    exact slice_around hc hfirst (hforward m (by simp))

theorem expandToken_eq {groups : Nat} {t : Format.Token} {s : List Char}
    (h : expandToken groups text m t = .ok s) : s = tokenText text m t := by
  unfold expandToken at h
  split at h
  · next hnone =>
    cases t with
    | literal => 
      cases h
      rfl
    | _ => cases hnone
  · next group hgroup =>
    split at h
    · cases h
    · cases h
      cases t with
      | literal => cases hgroup
      | conditional number present absent =>
        cases hgroup
        simp only [Format.Token.expand, tokenText, List.isEmpty_iff, ne_eq, ite_not]
      | _ =>
        cases hgroup
        rfl

theorem expand_eq {groups : Nat} {format : Format} {s : List Char}
    (h : expand groups text m format = .ok s) : s = written format text m := by
  induction format generalizing s with
  | nil =>
    cases h
    rfl
  | cons t ts ih =>
    rw [expand] at h
    split at h
    · cases h
    · next s₁ hs₁ =>
      obtain ⟨s₂, hs₂, rfl⟩ := map_eq_ok h
      rw [expandToken_eq hs₁, ih hs₂, written, written, List.flatMap_cons]

/-- What is written for the matches stands between the gaps. -/
theorem replace_eq {tr : Transform} {s : List Char} (h : tr.replace text start ms = .ok s) :
    s = interleave (gaps text start ms) (ms.map (written tr.format text)) := by
  induction ms generalizing start s with
  | nil =>
    cases h
    exact interleave_gaps_nil.symm
  | cons m ms ih =>
    rw [replace] at h
    split at h
    · cases h
    · next s₁ hs₁ =>
      obtain ⟨s₂, hs₂, rfl⟩ := map_eq_ok h
      unfold replacement at hs₁
      split at hs₁
      · cases hs₁
      · rw [List.map_cons, interleave_gaps_cons, expand_eq hs₁, ih hs₂]

end Parts

/-! ## Reading a description -/

theorem ofSpec_ok [CharacterNames] {spec : TransformSpec} {tr : Transform} (h : ofSpec spec = .ok tr) :
    Pattern.read spec.pattern (mode spec.options.toList) = .ok tr.search ∧
      Format.read spec.format = .ok tr.format ∧
        tr.everywhere = spec.options.toList.contains 'g' := by
  unfold ofSpec at h
  split at h
  · cases h
  · split at h
    · cases h
    · cases h
    · cases h
    · cases h
    · next search hsearch =>
      split at h
      · cases h
      · next format hformat =>
        cases h
        exact ⟨hsearch, hformat, rfl⟩

/-- Whether all matches are to be replaced has no part in what is searched for. -/
theorem search_congr [CharacterNames] {spec spec' : TransformSpec} {tr tr' : Transform}
    (h : ofSpec spec = .ok tr) (h' : ofSpec spec' = .ok tr') (hpattern : spec'.pattern = spec.pattern)
    (hoptions : ∀ o, o ≠ 'g' → (o ∈ spec'.options.toList ↔ o ∈ spec.options.toList)) :
    tr'.search = tr.search := by
  have hcontains : ∀ o, o ≠ 'g' →
      spec'.options.toList.contains o = spec.options.toList.contains o := by
    intro o ho
    rw [Bool.eq_iff_iff, List.contains_iff_mem, List.contains_iff_mem]
    exact hoptions o ho
  have hmode : mode spec'.options.toList = mode spec.options.toList := by
    rw [mode, mode, hcontains 'i' (by decide), hcontains 'm' (by decide), hcontains 's' (by decide)]
  have hread := (ofSpec_ok h').1
  rw [hpattern, hmode, (ofSpec_ok h).1] at hread
  exact (Except.ok.inj hread).symm

/-- The lines `out` are what the transform of a description makes of a text with the matches `ms`. -/
structure Replaces [CharacterNames] (spec : TransformSpec) (tr : Transform) (text : Array Char)
    (ms : List Match) (out : Lines) : Prop where
  lines : out ≠ [] ∧ ∀ line ∈ out, '\n' ∉ line.toList
  /-- Between the gaps there is what the format says of the matches. -/
  output : out.toText.toList = interleave (gaps text 0 ms) (ms.map (written tr.format text))
  /-- Unless a match ends before its start, the text is cut at the matches. -/
  cut : (∀ m ∈ ms, m.start ≤ m.stop) →
    Successive tr.search text (spec.options.toList.contains 'g') false 0 ms ∧
      text.toList = interleave (gaps text 0 ms) (ms.map (matched text))
  identity : (∀ m ∈ ms, m.start ≤ m.stop) → spec.format = "$0" →
    out = Lines.ofText (String.ofList text.toList)
  nothing : ms = [] ↔
    ∀ place, tr.search.Tries text 0 place → matchAt? tr.search.pattern text false place = .none
  /-- Unless a match falls short of the least width, there is none at the places that are not tried. -/
  nowhere : tr.search.KeepsWidth text →
    (ms = [] ↔ ∀ place ≤ text.size, matchAt? tr.search.pattern text false place = .none)
  once : 'g' ∉ spec.options.toList → ms.length ≤ 1
  /-- The first match is that of all descriptions with the same pattern and flags. -/
  first : ∀ spec' tr', ofSpec spec' = .ok tr' → spec'.pattern = spec.pattern →
    (∀ o, o ≠ 'g' → (o ∈ spec'.options.toList ↔ o ∈ spec.options.toList)) →
      (findAll tr'.search text tr'.everywhere).head? = ms.head?
  /-- What is taken for granted of the engine holds for almost all patterns. -/
  granted : (tr.search.pattern.isForward = true → ∀ m ∈ ms, m.start ≤ m.stop) ∧
    (tr.search.pattern.isReliable = true → tr.search.KeepsWidth text)

/-- A transform that gives lines has replaced matches, and nothing else. -/
theorem apply_replaces [CharacterNames] {spec : TransformSpec} {tr : Transform}
    (hread : ofSpec spec = .ok tr) {lines out : Lines} (hout : tr.apply lines = .ok out) :
    let text := lines.toText.toList.toArray
    Replaces spec tr text (findAll tr.search text tr.everywhere) out := by
  intro text
  obtain ⟨hsearch, hformat, hall⟩ := ofSpec_ok hread
  have happly : (tr.replace text 0 (findAll tr.search text tr.everywhere)).map
      (fun s => Lines.ofText (String.ofList s)) = .ok out := hout
  obtain ⟨s, hs, rfl⟩ := map_eq_ok happly
  have hwritten := replace_eq hs
  generalize hms : findAll tr.search text tr.everywhere = ms at hwritten
  have hordered : tr.search.Ordered := ordered_of_read hsearch
  have htext : slice text 0 text.size = text.toList := slice_all _
  have hsuccessive : (∀ m ∈ ms, m.start ≤ m.stop) →
      Successive tr.search text tr.everywhere false 0 ms := by
    rw [← hms]
    exact findAll_successive hordered
  have hcut := fun hforward => interleave_matched hordered (hsuccessive hforward) hforward
  refine ⟨?lines, ?output, ?cut, ?identity, ?nothing, ?nowhere, ?once, ?first, ?granted⟩
  case lines => exact ⟨Lines.ofText_ne_nil _, fun line => Lines.notMem_of_mem_ofText⟩
  case output => rw [Lines.toText_ofText, String.toList_ofList, hwritten]
  case cut => exact fun hforward => ⟨hall ▸ hsuccessive hforward, htext ▸ (hcut hforward).symm⟩
  case identity =>
    intro hforward hspec
    have hzero : tr.format = [.group 0] := by
      rw [hspec] at hformat
      exact Except.ok.inj (hformat.symm.trans (ok_of_toOption (by decide +kernel)))
    have hmatched : written tr.format text = matched text := by
      funext m
      simp [hzero, written, tokenText, groupText, Match.span?, matched]
    rw [hwritten, hmatched, hcut hforward, htext]
  case nothing =>
    rw [← hms]
    exact findAll_eq_nil_iff
  case nowhere =>
    rw [← hms]
    exact fun hwidth => findAll_eq_nil_iff_nowhere hordered hwidth
  case once =>
    intro hg
    have heverywhere : tr.everywhere = false := by
      rw [hall, ← Bool.not_eq_true, List.contains_iff_mem]
      exact hg
    rw [← hms, heverywhere]
    exact length_findAll_le _ _
  case first =>
    intro spec' tr' hread' hpattern hoptions
    rw [← hms, head?_findAll, head?_findAll, search_congr hread hread' hpattern hoptions]
  case granted =>
    refine ⟨fun hpattern m hm => ?_, fun hpattern => keepsWidth_of_read hsearch hpattern text⟩
    rw [← hms] at hm
    exact findAll_forward (goesForward_of_read hsearch hpattern text) hm

/-- Every run of "x", also one that is empty, becomes a dash. -/
def dashes : TransformSpec := ⟨"x*", "-", "g"⟩

theorem apply_replaces_dashes :
    ∃ tr, ofSpec dashes = .ok tr ∧ tr.apply ["axxb"] = .ok ["-a--b-"] ∧
      let text := #['a', 'x', 'x', 'b']
      let ms := findAll tr.search text tr.everywhere
      Replaces dashes tr text ms ["-a--b-"] ∧ Successive tr.search text true false 0 ms ∧
        (ms = [] ↔ ∀ place ≤ text.size, matchAt? tr.search.pattern text false place = none) := by
  have hruns : (ofSpec dashes).toOption.map (fun tr =>
      ((tr.apply ["axxb"]).toOption, tr.search.pattern.isForward, tr.search.pattern.isReliable)) =
        some (some ["-a--b-"], true, true) := by decide +kernel
  obtain ⟨tr, hread, hrun⟩ := Option.map_eq_some_iff.mp hruns
  obtain ⟨hout, hgood⟩ := Prod.mk.inj hrun
  obtain ⟨hforward, hreliable⟩ := Prod.mk.inj hgood
  have hread := ok_of_toOption hread
  have hout := ok_of_toOption hout
  have hreplaces := apply_replaces hread hout
  exact ⟨tr, hread, hout, hreplaces, (hreplaces.cut (hreplaces.granted.1 hforward)).1,
    hreplaces.nowhere (hreplaces.granted.2 hreliable)⟩

/-- A look-behind for one character in a repetition that gives nothing back, before a "b". -/
def leaking : TransformSpec := ⟨"(?=b)(?:(?<=x)a)*+", "$0", ""⟩

/-- Where a match runs backwards, here from the "b" to the start, what it runs over comes a second time. -/
theorem apply_leaking :
    ∃ tr, ofSpec leaking = .ok tr ∧ findAll tr.search #['c', 'b'] tr.everywhere = [⟨1, 0, []⟩] ∧
      tr.apply ["cb"] = .ok ["ccb"] := by
  have hruns : (ofSpec leaking).toOption.map (fun tr =>
      (findAll tr.search #['c', 'b'] tr.everywhere, (tr.apply ["cb"]).toOption)) =
        some ([⟨1, 0, []⟩], some ["ccb"]) := by decide +kernel
  obtain ⟨tr, hread, hrun⟩ := Option.map_eq_some_iff.mp hruns
  obtain ⟨hmatch, hout⟩ := Prod.mk.inj hrun
  exact ⟨tr, ok_of_toOption hread, hmatch, ok_of_toOption hout⟩

end Transform

end Snippet
