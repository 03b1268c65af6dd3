import Snippet.Proofs.Replacement
import Snippet.Proofs.Transform

/-!
When a transform fails. A format that refers to a group its pattern lacks is no fault as long as there is
nothing to replace; with the first match that is to be replaced it becomes one, whichever token it is in
and whatever that token would have stood for. Apart from it, only a match with a broken group fails.
-/

namespace Snippet.Transform

open Pattern

/-- Some token of the format refers to a group beyond those of the pattern. -/
def RefersBeyond (tr : Transform) : Prop :=
  ∃ t ∈ tr.format, ∃ group, t.group? = some group ∧ tr.search.groups < group

theorem not_refersBeyond_iff {tr : Transform} : ¬tr.RefersBeyond ↔ tr.InRange := by
  simp only [RefersBeyond, InRange, not_exists, not_and, Nat.not_lt]

section Outcomes

variable {tr : Transform} {text : Array Char} {m : Match} {ms : List Match} {start : Nat}

theorem expand_of_beyond {groups : Nat} {format : Format}
    (h : ∃ t ∈ format, ∃ group, t.group? = some group ∧ groups < group) :
    expand groups text m format = .error .noSuchGroup := by
  induction format with
  | nil =>
    obtain ⟨t, ht, -⟩ := h
    cases ht
  | cons t ts ih =>
    -- The first token fails itself, or it stands for a text and a later one fails.
    by_cases hfirst : ∃ group, t.group? = some group ∧ groups < group
    · obtain ⟨group, hgroup, hlt⟩ := hfirst
      have htoken : expandToken groups text m t = .error .noSuchGroup := by
        simp only [expandToken, hgroup, if_pos hlt]
      rw [expand, htoken]
    · obtain ⟨s, hs⟩ : ∃ s, expandToken groups text m t = .ok s := by
        unfold expandToken
        cases hgroup : t.group? with
        | none => exact ⟨_, rfl⟩
        | some group =>
          have hle : ¬groups < group := fun hlt => hfirst ⟨group, hgroup, hlt⟩
          exact ⟨_, if_neg hle⟩
      obtain ⟨t', ht', hbeyond⟩ := h
      have hlater : t' ∈ ts := by
        rcases List.mem_cons.mp ht' with rfl | hlater
        · exact absurd hbeyond hfirst
        · exact hlater
      rw [expand, hs, ih ⟨t', hlater, hbeyond⟩]
      rfl

theorem replace_of_broken (hm : m.isBroken tr.search.groups) :
    tr.replace text start (m :: ms) = .error .brokenGroup := by
  rw [replace, replacement, if_pos hm]

theorem replace_of_beyond (hm : ¬m.isBroken tr.search.groups) (h : tr.RefersBeyond) :
    tr.replace text start (m :: ms) = .error .noSuchGroup := by
  rw [replace, replacement, if_neg hm, expand_of_beyond h]

theorem unbroken_of_replace {s : List Char} (h : tr.replace text start ms = .ok s) :
    ∀ m ∈ ms, ¬m.isBroken tr.search.groups := by
  induction ms generalizing start s with
  | nil => exact fun m hm => by cases hm
  | cons m ms ih =>
    intro m' hm'
    by_cases hb : m.isBroken tr.search.groups
    · rw [replace_of_broken hb] at h
      cases h
    · rcases List.mem_cons.mp hm' with rfl | hm'
      · exact hb
      · rw [replace] at h
        split at h
        · cases h
        · obtain ⟨r, hr, -⟩ := map_eq_ok h
          exact ih hr m' hm'

/-- What comes of replacing the matches `ms`. A broken one stops it, and if the format refers to a missing
group, only the first can be come to. -/
inductive Replaced (tr : Transform) (ms : List Match) : Except Error (List Char) → Prop where
  | whole (s : List Char) (h : ms = [] ∨ ¬tr.RefersBeyond ∧ ∀ m ∈ ms, ¬m.isBroken tr.search.groups) :
      Replaced tr ms (.ok s)
  | missing {m : Match} (hfirst : ms.head? = some m) (hm : ¬m.isBroken tr.search.groups)
      (h : tr.RefersBeyond) : Replaced tr ms (.error .noSuchGroup)
  | broken {m : Match} (hmem : m ∈ ms) (hm : m.isBroken tr.search.groups)
      (hfirst : tr.RefersBeyond → ms.head? = some m) : Replaced tr ms (.error .brokenGroup)

theorem replaced_replace (tr : Transform) (text : Array Char) (start : Nat) (ms : List Match) :
    Replaced tr ms (tr.replace text start ms) := by
  cases ms with
  | nil => exact .whole _ (.inl rfl)
  | cons m ms =>
    by_cases hm : m.isBroken tr.search.groups
    · rw [replace_of_broken hm]
      exact .broken (by simp) hm fun _ => rfl
    · by_cases hbeyond : tr.RefersBeyond
      · rw [replace_of_beyond hm hbeyond]
        exact .missing rfl hm hbeyond
      · have hrange := not_refersBeyond_iff.mp hbeyond
        rcases replace_cases hrange text start (m :: ms) with ⟨s, hs⟩ | ⟨he, m', hm', hb⟩
        · have hunbroken := unbroken_of_replace hs
          rw [hs]
          exact .whole s (.inr ⟨hbeyond, hunbroken⟩)
        · rw [he]
          exact .broken hm' hb fun h => absurd h hbeyond

end Outcomes

/-- With or without "g", the missing group shows in the same texts: in those with a match that can be
replaced. -/
theorem noSuchGroup_congr [Pattern.CharacterNames] {spec spec' : TransformSpec} {tr tr' : Transform}
    (h : ofSpec spec = .ok tr) (h' : ofSpec spec' = .ok tr') (hpattern : spec'.pattern = spec.pattern)
    (hformat : spec'.format = spec.format)
    (hoptions : ∀ o, o ≠ 'g' → (o ∈ spec'.options.toList ↔ o ∈ spec.options.toList))
    (text : Array Char) :
    (tr'.RefersBeyond ↔ tr.RefersBeyond) ∧ tr'.search.groups = tr.search.groups ∧
      (findAll tr'.search text tr'.everywhere).head? = (findAll tr.search text tr.everywhere).head? := by
  have hsearch := search_congr h h' hpattern hoptions
  have hread := (ofSpec_ok h').2.1
  rw [hformat, (ofSpec_ok h).2.1] at hread
  have hsame := Except.ok.inj hread
  refine ⟨?_, by rw [hsearch], by rw [head?_findAll, head?_findAll, hsearch]⟩
  rw [RefersBeyond, RefersBeyond, hsearch, hsame]

/-- Why a transform fails on a text with the matches `ms`, if it does: the format refers to a missing group
and there is a match, the first of which can be replaced, or there is a match that cannot. -/
structure FailsFor (tr : Transform) (ms : List Match) (result : Except Error Lines) : Prop where
  missing : result = .error .noSuchGroup ↔
    (∃ m, ms.head? = some m ∧ ¬m.isBroken tr.search.groups) ∧ tr.RefersBeyond
  lines : (∃ out, result = .ok out) ↔
    ms = [] ∨ ¬tr.RefersBeyond ∧ ∀ m ∈ ms, ¬m.isBroken tr.search.groups
  broken : ∀ err, result = .error err → err ≠ .noSuchGroup →
    err = .brokenGroup ∧ ∃ m ∈ ms, m.isBroken tr.search.groups

theorem failsFor_apply (tr : Transform) (lines : Lines) :
    let text := lines.toText.toList.toArray
    tr.FailsFor (findAll tr.search text tr.everywhere) (tr.apply lines) := by
  intro text
  have happly : tr.apply lines = (tr.replace text 0 (findAll tr.search text tr.everywhere)).map
      fun s => Lines.ofText (String.ofList s) := rfl
  have hreplaced := replaced_replace tr text 0 (findAll tr.search text tr.everywhere)
  rw [happly]
  generalize findAll tr.search text tr.everywhere = ms at hreplaced
  generalize tr.replace text 0 ms = result at hreplaced
  cases hreplaced with
  | whole s h =>
    refine ⟨iff_of_false (fun he => by cases he) ?_, iff_of_true ⟨_, rfl⟩ h, fun err he => by cases he⟩
    rintro ⟨⟨m, hm, -⟩, hbeyond⟩
    rcases h with rfl | ⟨hnot, -⟩
    · cases hm
    · exact hnot hbeyond
  | @missing m hfirst hm hbeyond =>
    refine ⟨iff_of_true rfl ⟨⟨m, hfirst, hm⟩, hbeyond⟩, iff_of_false ?_ ?_, ?_⟩
    · rintro ⟨out, hout⟩
      cases hout
    · rintro (rfl | ⟨hnot, -⟩)
      · cases hfirst
      · exact hnot hbeyond
    · rintro err he hne
      exact absurd (Except.error.inj he).symm hne
  | @broken m hmem hm hfirst =>
    refine ⟨iff_of_false (fun he => by cases he) ?_, iff_of_false ?_ ?_, ?_⟩
    · rintro ⟨⟨m', hm', hwhole⟩, hbeyond⟩
      obtain rfl := Option.some.inj ((hfirst hbeyond).symm.trans hm')
      exact hwhole hm
    · rintro ⟨out, hout⟩
      cases hout
    · rintro (rfl | ⟨-, hall⟩)
      · cases hmem
      · exact hall m hmem hm
    · rintro err he -
      exact ⟨(Except.error.inj he).symm, m, hmem, hm⟩

/-- A missing group is an error where there is something to replace, and nowhere else: what the text is, which
token refers to the group, what the token would stand for and whether all matches are to be replaced
makes no difference. Only a broken group comes before it, and only a broken group can be an error besides.
That there is a result at all rests on the bound on the number of matches, which cuts a search off that
runs backwards and could come to the same matches without end. A search that goes forward is not cut
off, see `Pattern.findAll_successive`. -/
theorem apply_missing_group [Pattern.CharacterNames] {spec : TransformSpec} {tr : Transform}
    (hread : ofSpec spec = .ok tr) (lines : Lines) :
    let text := lines.toText.toList.toArray
    let ms := findAll tr.search text tr.everywhere
    tr.FailsFor ms (tr.apply lines) ∧
      (ms = [] ↔ ∀ place, tr.search.Tries text 0 place →
        matchAt? tr.search.pattern text false place = none) ∧
      (∀ spec' tr', ofSpec spec' = .ok tr' → spec'.pattern = spec.pattern → spec'.format = spec.format →
        (∀ o, o ≠ 'g' → (o ∈ spec'.options.toList ↔ o ∈ spec.options.toList)) →
          (tr'.apply lines = .error .noSuchGroup ↔ tr.apply lines = .error .noSuchGroup)) ∧
      Error.noSuchGroup.message = "no such group" := by
  intro text ms
  have hfails := failsFor_apply tr lines
  refine ⟨hfails, findAll_eq_nil_iff, ?everywhere, rfl⟩
  case everywhere =>
    intro spec' tr' hread' hpattern hformat hoptions
    obtain ⟨hbeyond, hgroups, hfirst⟩ :=
      noSuchGroup_congr hread hread' hpattern hformat hoptions text
    rw [(failsFor_apply tr' lines).missing, hfails.missing, hbeyond, hgroups, hfirst]

/-- The second of two alternatives has no group, and the format asks whether there is a second group. -/
def outnumbered : TransformSpec := ⟨"(x)|y", "$1$\x7b2:+z\x7d", ""⟩

/-- It is an error for a "y", where the one group takes no part, and none for a text without a match. -/
theorem apply_missing_group_outnumbered :
    ∃ tr, ofSpec outnumbered = .ok tr ∧ tr.apply ["a", "y"] = .error .noSuchGroup ∧
      ∃ out, tr.apply ["a", "b"] = .ok out := by
  have hruns : (ofSpec outnumbered).toOption.map (fun tr =>
      let matched := fun lines : Lines =>
        findAll tr.search lines.toText.toList.toArray tr.everywhere
      ((matched ["a", "y"]).head?.map (·.isBroken tr.search.groups), matched ["a", "b"],
        tr.search.groups, tr.format)) =
          some (some false, [], 1, [.group 1, .conditional 2 "z" ""]) := by decide +kernel
  obtain ⟨tr, hread, hrun⟩ := Option.map_eq_some_iff.mp hruns
  simp only [Prod.mk.injEq] at hrun
  obtain ⟨hwhole, hnone, hgroups, hformat⟩ := hrun
  obtain ⟨m, hfirst, hm⟩ := Option.map_eq_some_iff.mp hwhole
  have hread := ok_of_toOption hread
  have hbeyond : tr.RefersBeyond :=
    ⟨.conditional 2 "z" "", by simp [hformat], 2, rfl, by simp [hgroups]⟩
  have hmatch := (apply_missing_group hread ["a", "y"]).1
  have hnothing := (apply_missing_group hread ["a", "b"]).1
  refine ⟨tr, hread, hmatch.missing.mpr ⟨⟨m, hfirst, ?_⟩, hbeyond⟩, hnothing.lines.mpr (.inl hnone)⟩
  rw [hm]
  exact Bool.false_ne_true

/-- A repetition that gives nothing back and can leave its group behind, and a plain text for it. -/
def displaced : TransformSpec := ⟨"(?:(a)|b)*+", "x", ""⟩

/-- The format refers to no group at all, and the match has no replacement all the same. -/
theorem apply_displaced :
    ∃ tr, ofSpec displaced = .ok tr ∧ ¬tr.RefersBeyond ∧
      tr.apply ["abb"] = .error .brokenGroup := by
  have hruns : (ofSpec displaced).toOption.map (fun tr =>
      (decide tr.InRange, error? (tr.apply ["abb"]))) = some (true, some .brokenGroup) := by
    decide +kernel
  obtain ⟨tr, hread, hrun⟩ := Option.map_eq_some_iff.mp hruns
  obtain ⟨hrange, hout⟩ := Prod.mk.inj hrun
  exact ⟨tr, ok_of_toOption hread, not_refersBeyond_iff.mpr (of_decide_eq_true hrange),
    error?_eq_some.mp hout⟩

end Snippet.Transform
