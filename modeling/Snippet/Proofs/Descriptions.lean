import Snippet.Proofs.Conversion.Failures
import Snippet.Proofs.Pattern.Faults

/-!
Descriptions of transforms that cannot be turned into a function. All but a few are reported as
invalid under their pattern. A description escapes if its options are in order and its pattern is well
formed, and reading the pattern stops all the same; this shows in the text of the pattern. A
conversion fails with an error of another kind than the library's own exactly when it comes to such
a description.
-/

namespace Snippet

/-- The kinds of errors by which the library reports what it rejects. -/
def Error.isOwn : Error → Bool
  | invalidTransform _ _ => true
  | unknownKind _ => true
  | interactive _ => true
  | _ => false

namespace TransformSpec

/-- The options are in order, and reading the pattern stops without a fault in the pattern. -/
def Escapes [Pattern.CharacterNames] (spec : TransformSpec) : Prop :=
  (∀ c ∈ spec.options.toList, Transform.isOption c) ∧
    ∃ fault, Pattern.read spec.pattern (Transform.mode spec.options.toList) = .error fault ∧
      ∀ reason place, fault ≠ .bad reason place

/-- The error that a description escapes with, and what brings it about in the text of its pattern:
digits that write too large a count, the letters of two flags that exclude each other, or the start
of a look-behind. -/
inductive EscapesWith (spec : TransformSpec) : Error → Prop where
  | countTooLarge (digits : List Char) (hdigits : ∀ c ∈ digits, c.isDigit)
      (hlarge : Pattern.Reader.countLimit ≤ Pattern.Reader.inBase 10 digits)
      (htext : digits <:+: spec.pattern.toList) : EscapesWith spec .countTooLarge
  | asciiAndUnicode (ha : 'a' ∈ spec.pattern.toList) (hu : 'u' ∈ spec.pattern.toList) :
      EscapesWith spec .asciiAndUnicode
  | lookBehindTooWide (htext : ['(', '?', '<'] <:+: spec.pattern.toList) :
      EscapesWith spec .lookBehindTooWide

theorem EscapesWith.isOwn {spec : TransformSpec} {err : Error} (h : spec.EscapesWith err) :
    err.isOwn = false := by
  cases h <;> rfl

variable (spec : TransformSpec)

/-- A description makes a function, is reported as invalid under its pattern, or escapes. -/
theorem ofSpec_cases [Pattern.CharacterNames] :
    ((∃ tr, Transform.ofSpec spec = .ok tr) ∨
        ∃ reason, Transform.ofSpec spec = .error (.invalidTransform spec.pattern reason)) ∧
          ¬spec.Escapes ∨
      (∃ err, Transform.ofSpec spec = .error err ∧ spec.EscapesWith err) ∧ spec.Escapes := by
  unfold Transform.ofSpec
  cases hoption : spec.options.toList.find? fun c => !Transform.isOption c with
  | some c =>
    have hc : Transform.isOption c = false := by simpa using List.find?_some hoption
    -- An option out of order is reported, whatever comes of the pattern.
    refine .inl ⟨.inr ⟨_, rfl⟩, fun h => ?_⟩
    have hvalid := h.1 c (List.mem_of_find?_eq_some hoption)
    rw [hc] at hvalid
    cases hvalid
  | none =>
    have hvalid : ∀ c ∈ spec.options.toList, Transform.isOption c := by
      simpa using List.find?_eq_none.mp hoption
    cases hread : Pattern.read spec.pattern (Transform.mode spec.options.toList) with
    | ok search =>
      refine .inl ⟨?_, fun ⟨_, fault, hfault, _⟩ => by simp [hread] at hfault⟩
      cases Format.read spec.format with
      | ok format => exact .inl ⟨_, rfl⟩
      | error fault => exact .inr ⟨_, rfl⟩
    | error fault =>
      have hfounded := Pattern.founded_of_read hread
      cases fault with
      | bad reason place =>
        refine .inl ⟨.inr ⟨_, rfl⟩, fun ⟨_, fault, hfault, hne⟩ => ?_⟩
        exact hne reason place (Except.error.inj (hfault.symm.trans hread))
      | countTooLarge =>
        obtain ⟨digits, htext, hdigits, hlarge⟩ := hfounded
        have hwith := EscapesWith.countTooLarge digits hdigits hlarge htext
        exact .inr ⟨⟨_, rfl, hwith⟩, hvalid, _, hread, by simp⟩
      | asciiAndUnicode =>
        have hmem : ∀ c, [c] <:+: spec.pattern.toList → c ∈ spec.pattern.toList :=
          fun c h => h.subset (by simp)
        have hwith := EscapesWith.asciiAndUnicode (hmem _ hfounded.1) (hmem _ hfounded.2)
        exact .inr ⟨⟨_, rfl, hwith⟩, hvalid, _, hread, by simp⟩
      | lookBehindTooWide =>
        exact .inr ⟨⟨_, rfl, .lookBehindTooWide hfounded⟩, hvalid, _, hread, by simp⟩

theorem toFunction_cases [Pattern.CharacterNames] :
    ((∃ f, spec.toFunction = .ok f) ∨
        ∃ reason, spec.toFunction = .error (.invalidTransform spec.pattern reason)) ∧
          ¬spec.Escapes ∨
      (∃ err, spec.toFunction = .error err ∧ spec.EscapesWith err) ∧ spec.Escapes := by
  unfold toFunction
  rcases ofSpec_cases spec with
    ⟨⟨tr, hread⟩ | ⟨reason, hread⟩, hnot⟩ | ⟨⟨err, hread, hwith⟩, hesc⟩
  · rw [hread]
    exact .inl ⟨.inl ⟨_, rfl⟩, hnot⟩
  · rw [hread]
    exact .inl ⟨.inr ⟨reason, rfl⟩, hnot⟩
  · rw [hread]
    exact .inr ⟨⟨err, rfl, hwith⟩, hesc⟩

/-- A description that fails with an error of the library's own does not escape, and the other way
around. -/
theorem isOwn_iff_not_escapes [Pattern.CharacterNames] {spec : TransformSpec} {err : Error}
    (h : spec.toFunction = .error err) : err.isOwn ↔ ¬spec.Escapes := by
  rcases toFunction_cases spec with
    ⟨⟨f, hf⟩ | ⟨reason, hf⟩, hnot⟩ | ⟨⟨err', hf, hwith⟩, hesc⟩
  · cases h.symm.trans hf
  · obtain rfl := Except.error.inj (h.symm.trans hf)
    simp [hnot, Error.isOwn]
  · obtain rfl := Except.error.inj (h.symm.trans hf)
    simp [hesc, hwith.isOwn]

theorem not_escapes_of_ok [Pattern.CharacterNames] {spec : TransformSpec} {f : LineTransform}
    (h : spec.toFunction = .ok f) : ¬spec.Escapes := by
  rcases toFunction_cases spec with ⟨-, hnot⟩ | ⟨⟨err, hf, -⟩, -⟩
  · exact hnot
  · cases h.symm.trans hf

end TransformSpec

namespace Conversion

/-- However a conversion stops, its error is one of the library's own unless the last description
escapes; those before it do not. -/
theorem Stops.isOwn_iff [Pattern.CharacterNames] {α : Type} {r : EStateM.Result Error Workspace α}
    (h : Stops TransformFactory.standard r) :
    ((∃ a, outcome r = .ok a) ∨ ∃ err, outcome r = .error err ∧ err.isOwn) ↔
      ∀ spec, .transformMade spec ∈ (last r).journal → ¬spec.Escapes := by
  have hall : ∀ w : Workspace, w.AllMade TransformFactory.standard →
      ∀ spec, .transformMade spec ∈ w.journal → ¬spec.Escapes := by
    intro w hw spec hspec
    obtain ⟨f, hf⟩ := hw spec hspec
    exact TransformSpec.not_escapes_of_ok hf
  match r with
  | .ok a w => exact iff_of_true (.inl ⟨a, rfl⟩) (hall w h)
  | .error err w =>
    rcases h with ⟨⟨kind, rfl⟩, hw⟩ | ⟨before, spec, hw, rfl, hf⟩
    · exact iff_of_true (.inr ⟨_, rfl, rfl⟩) (hall w hw)
    · have hown := TransformSpec.isOwn_iff_not_escapes hf
      constructor
      · rintro (⟨a, ha⟩ | ⟨err', herr, hown'⟩) spec' hspec'
        · cases ha
        · obtain rfl := Except.error.inj herr
          rcases List.mem_append.mp hspec' with hbefore | hnew
          · exact hall before hw spec' hbefore
          · obtain rfl : spec' = spec := by simpa using hnew
            exact hown.mp hown'
      · intro hnot
        exact .inr ⟨err, rfl, hown.mpr (hnot spec (List.mem_append_right _ (by simp)))⟩

end Conversion

/-- A description that does not escape is made into a function or reported under its pattern; one
that escapes shows why in its pattern. With the usual factory a tree is converted, or rejected with
an error of the library's own, exactly when it comes to no description that escapes. -/
theorem toNode_reports_iff [Pattern.CharacterNames] (spec : TransformSpec) {given : Option Context}
    {o : Options} {c : Context} (hchosen : Context.choose given o = .ok c)
    (hfactory : c.settings.policy.transforms = TransformFactory.standard) (e : Element) (s : Store) :
    (((∃ f, spec.toFunction = .ok f) ∨
        ∃ reason, spec.toFunction = .error (.invalidTransform spec.pattern reason)) ↔
      ¬spec.Escapes) ∧
    (spec.Escapes → ∃ err, spec.toFunction = .error err ∧ spec.EscapesWith err) ∧
    ∃ run, toNode given o e s = .ok run ∧
      (((∃ built, run.outcome = .ok built) ∨ ∃ err, run.outcome = .error err ∧ err.isOwn) ↔
        ∀ made, .transformMade made ∈ run.events → ¬made.Escapes) := by
  refine ⟨?reported, fun hesc => ?cause, ?tree⟩
  case reported =>
    rcases spec.toFunction_cases with ⟨hmade, hnot⟩ | ⟨⟨err, hf, hwith⟩, hesc⟩
    · exact iff_of_true hmade hnot
    · refine iff_of_false ?_ (not_not_intro hesc)
      rintro (⟨f, hf'⟩ | ⟨reason, hf'⟩)
      · cases hf.symm.trans hf'
      · obtain rfl := Except.error.inj (hf.symm.trans hf')
        cases hwith
  case cause =>
    rcases spec.toFunction_cases with ⟨-, hnot⟩ | ⟨hcause, -⟩
    · exact absurd hesc hnot
    · exact hcause
  case tree =>
    have hrun : toNode given o e s =
        .ok (c.run s fun settings => Conversion.convert settings e) := by
      rw [toNode, hchosen]
      rfl
    have hstops : Conversion.Stops c.settings.policy.transforms
        (Conversion.convert c.settings e (c.start s)) :=
      Conversion.convert_stops e fun made hmade => by cases hmade
    rw [hfactory] at hstops
    refine ⟨_, hrun, ?_⟩
    rw [Context.outcome_run, Context.events_run]
    exact hstops.isOwn_iff

/-- A field, and a mirror of it with the transform. -/
def mirrored (spec : TransformSpec) : Element :=
  .snippet [.tabstop 1 none, .tabstop 1 (some spec)]

/-- A parenthesis that is not closed. -/
def unclosed : TransformSpec := ⟨"(", "", ""⟩

theorem toNode_reports_iff_unclosed :
    ∃ run, toNode none Options.none (mirrored unclosed) Store.empty = .ok run ∧
      run.outcome = .error
        (.invalidTransform "(" "missing ), unterminated subpattern at position 0") ∧
      run.events = [.mirrored 1, .transformMade unclosed] ∧ ¬unclosed.Escapes := by
  have hchosen : Context.choose none Options.none = .ok (Context.fresh Options.none) := rfl
  obtain ⟨-, -, run, hrun, hiff⟩ :=
    toNode_reports_iff unclosed hchosen rfl (mirrored unclosed) Store.empty
  obtain ⟨run', hrun', hout, hevents⟩ : ∃ run',
      toNode none Options.none (mirrored unclosed) Store.empty = .ok run' ∧
        run'.outcome = .error
          (.invalidTransform "(" "missing ), unterminated subpattern at position 0") ∧
        run'.events = [.mirrored 1, .transformMade unclosed] :=
    ⟨_, rfl, error?_eq_some.mp (by decide +kernel), by decide +kernel⟩
  obtain rfl := Except.ok.inj (hrun.symm.trans hrun')
  exact ⟨run, hrun, hout, hevents, hiff.mp (.inr ⟨_, hout, rfl⟩) unclosed (by simp [hevents])⟩

/-- A repetition with a count of twenty digits. -/
def overflowing : TransformSpec := ⟨"a\x7b99999999999999999999\x7d", "", ""⟩

/-- The count is reported as what it is, and not as a fault of the description. -/
theorem toFunction_overflowing :
    overflowing.toFunction = .error .countTooLarge ∧ Error.countTooLarge.isOwn = false ∧
      ∃ run, toNode none Options.none (mirrored overflowing) Store.empty = .ok run ∧
        run.outcome = .error .countTooLarge := by
  have hread : Transform.ofSpec overflowing = .error .countTooLarge :=
    error?_eq_some.mp (by decide +kernel)
  refine ⟨?_, rfl, _, rfl, error?_eq_some.mp (by decide +kernel)⟩
  rw [TransformSpec.toFunction, hread]
  rfl

end Snippet
