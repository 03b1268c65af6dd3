import Snippet.Proofs.Conversion.Growth
import Snippet.Proofs.Store.Edits
import Snippet.Proofs.Transform

/-!
A compiled template in use. Whatever is typed, chosen and rendered, in whatever order, every node goes
on having a text. The one thing that can come in between is a transform with a match that has a broken
group.
-/

namespace Snippet

/-- Errors, if there are any, are of this kind. -/
def FailsOnly {α : Type} (admits : Error → Prop) (r : Except Error α) : Prop :=
  ∀ e, r = .error e → admits e

section FailsOnly

variable {α β : Type} {admits : Error → Prop}

theorem FailsOnly.ok (a : α) : FailsOnly admits (.ok a) := fun _ h => by cases h

theorem FailsOnly.bind {r : Except Error α} {f : α → Except Error β} (h : FailsOnly admits r)
    (h' : ∀ a, r = .ok a → FailsOnly admits (f a)) : FailsOnly admits (r >>= f) := by
  intro e he
  cases r with
  | error e' =>
    cases he
    exact h e rfl
  | ok a => exact h' a rfl e he

theorem FailsOnly.map {r : Except Error α} (h : FailsOnly admits r) (f : α → β) :
    FailsOnly admits (r.map f) := by
  intro e he
  cases r with
  | ok a => cases he
  | error e' =>
    cases he
    exact h e rfl

theorem FailsOnly.mapM {f : α → Except Error β} {l : List α}
    (h : ∀ x ∈ l, FailsOnly admits (f x)) : FailsOnly admits (l.mapM f) := by
  induction l with
  | nil => exact FailsOnly.ok []
  | cons x l ih =>
    have htail := ih fun y hy => h y (by simp [hy])
    rw [List.mapM_cons]
    exact (h x (by simp)).bind fun b _ => htail.bind fun bs _ => FailsOnly.ok (b :: bs)

theorem length_of_mapM {f : α → Except Error β} {l : List α} {bs : List β}
    (h : l.mapM f = .ok bs) : bs.length = l.length := by
  induction l generalizing bs with
  | nil =>
    cases h
    rfl
  | cons x l ih =>
    rw [List.mapM_cons] at h
    obtain ⟨b, -, h⟩ := bind_eq_ok h
    obtain ⟨cs, hl, h⟩ := bind_eq_ok h
    cases h
    rw [List.length_cons, List.length_cons, ih hl]

end FailsOnly

namespace Store

variable {allowed : ValueFunction → Nat → Prop} {s : Store} {base : Nat} {id : Nat} {scope : Scope}

variable (scope) in
/-- A node of a formed part fails as the functions of its computed nodes do, if at all. -/
theorem Formed.view_failsOnly (h : s.Formed allowed base) {admits : Error → Prop}
    (hfn : ∀ fn args, allowed fn args.length → FailsOnly admits (fn args scope))
    (hb : base ≤ id) (hid : id < s.size) (hv : s.node? id ≠ some .vacant) :
    FailsOnly admits (s.view scope id) := by
  -- By induction on the number of the node, as nodes refer to older ones.
  induction id using Nat.strongRecOn with
  | _ id ih =>
    obtain ⟨n, hn⟩ := exists_node? hid
    have hform := h id n hb hn
    have below : ∀ d, s.Readable base id d → FailsOnly admits (s.view scope d) :=
      fun d hd => ih d hd.2.1 hd.1 (Nat.lt_trans hd.2.1 hid) hd.2.2
    rw [view_eq h.closed ⟨hb, hid⟩ hn]
    cases n with
    | text lines => exact FailsOnly.ok lines
    | tabstop default typed => exact FailsOnly.ok _
    | choice choices index =>
      obtain ⟨lines, hlines, -⟩ := Node.selected_ne_nil hform.1 hform.2
      rw [showing, hlines]
      exact FailsOnly.ok lines
    | computed fn dependencies =>
      have hargs := FailsOnly.mapM fun d hd => below d (hform.2 d hd)
      rw [showing]
      refine hargs.bind fun args hm => ?_
      -- The function was allowed for as many arguments as it has dependencies.
      have hfine := hfn fn args ((length_of_mapM hm).symm ▸ hform.1)
      exact hfine.bind fun value _ => FailsOnly.ok value.toLines
    | dynamic rebuild slot =>
      obtain ⟨hbs, hslot, body, rfl, hread, hstatic⟩ := hform
      by_cases hvac : s.node? slot = some .vacant
      · rw [showing_body hvac, evaluateStatic_eq_view hstatic]
        exact (below body hread).map fun lines => Lines.ofText lines.toText
      · rw [showing_built hvac]
        have hlt : slot < id := Nat.lt_of_succ_le (Nat.le_of_eq hslot)
        exact ih slot hlt hbs (Nat.lt_trans hlt hid) hvac
    | group children => exact (FailsOnly.mapM fun c hc => below c (hform c hc)).map _
    | wrap child indent => exact (below child hform).map _
    | host type lines positioned => exact hform.elim
    | row members => exact hform.elim
    | bound target => exact hform.elim
    | vacant => exact absurd hn hv

end Store

/-- A transform that has been made can come upon a broken group. -/
def BrokenIn [Pattern.CharacterNames] (journal : List Event) : Prop :=
  ∃ spec tr, .transformMade spec ∈ journal ∧ Transform.ofSpec spec = .ok tr ∧ tr.Breaks

/-- The error of a broken group, where there can be one. -/
def IsBroken [Pattern.CharacterNames] (journal : List Event) (e : Error) : Prop :=
  e = .brokenGroup ∧ BrokenIn journal

theorem transform_failsOnly [Pattern.CharacterNames] {settings : Settings} {journal : List Event}
    (hpolicy : settings.policy.transforms = TransformFactory.standard)
    (hformats : ∀ spec tr, .transformMade spec ∈ journal → Transform.ofSpec spec = .ok tr →
      tr.InRange) {spec : Option TransformSpec} {f : LineTransform}
    (hf : settings.transform spec = .ok f) (hnoted : ∀ t ∈ spec, .transformMade t ∈ journal)
    (lines : Lines) : FailsOnly (IsBroken journal) (f lines) := by
  cases spec with
  | none =>
    cases hf
    exact FailsOnly.ok lines
  | some spec =>
    have hspec := hnoted spec rfl
    rw [Settings.transform, hpolicy] at hf
    have hmade : (Transform.ofSpec spec).map Transform.apply = .ok f := hf
    obtain ⟨tr, htr, rfl⟩ := map_eq_ok hmade
    intro e he
    rcases tr.apply_cases (hformats spec tr hspec htr) lines with ⟨ls, hls⟩ | ⟨hbroken, hbreaks⟩
    · rw [hls] at he
      cases he
    · rw [hbroken] at he
      cases he
      exact ⟨rfl, spec, tr, hspec, htr, hbreaks⟩

theorem Settings.Provides.failsOnly [Pattern.CharacterNames] {settings : Settings} {journal : List Event}
    (hpolicy : settings.policy.transforms = TransformFactory.standard)
    (hresolvers : ∀ name f, settings.resolvers.lookup name = some f →
      ∀ scope, ∃ value, f [] scope = .ok value)
    (hformats : ∀ spec tr, .transformMade spec ∈ journal → Transform.ofSpec spec = .ok tr →
      tr.InRange) {fn : ValueFunction} {args : List Lines} (scope : Scope)
    (h : settings.Provides journal fn args.length) :
    FailsOnly (IsBroken journal) (fn args scope) := by
  generalize hk : args.length = k at h
  -- There are as many arguments as the function was provided for.
  cases h with
  | copy spec f made noted =>
    cases args with
    | nil => cases hk
    | cons lines rest =>
      exact (transform_failsOnly hpolicy hformats made noted lines).map Value.lines
  | ofName name spec f made noted =>
    exact (transform_failsOnly hpolicy hformats made noted _).map Value.lines
  | resolver name f found =>
    obtain rfl := List.length_eq_zero_iff.mp hk
    obtain ⟨value, hvalue⟩ := hresolvers name fn found scope
    rw [hvalue]
    exact FailsOnly.ok value

/-- Rendering any node of a compiled tree gives at least one line, in any scope and after any actions
on its nodes, as long as resolvers do not fail and formats refer to groups of their patterns. Only a
broken group can prevent it. A search for matches that runs backwards, and could go on without end, counts
as ending where `Pattern.findAll` cuts it off. A selection fails only where there is no such alternative,
and changes nothing then. -/
theorem compileSnippet_usable [Pattern.CharacterNames] {o : Options}
    (hpolicy : (Context.fresh o).settings.policy = Policy.standard)
    (hresolvers : ∀ name f, (Context.fresh o).settings.resolvers.lookup name = some f →
      ∀ scope, ∃ value, f [] scope = .ok value)
    {e : Element} (hg : e.grammatical) {s : Store} {run : Run (List NodeId)}
    (hc : compileSnippet none o e s = .ok run) {ids : List NodeId} (hids : run.outcome = .ok ids)
    (hformats : ∀ spec tr, .transformMade spec ∈ run.events → Transform.ofSpec spec = .ok tr →
      tr.InRange)
    (actions : List Action) :
    let t := actions.foldl Action.perform run.store
    (∀ id ∈ ids, s.size ≤ id ∧ ∃ n, t.node? id = some n ∧ n ≠ .vacant) ∧
    (∀ id n, s.size ≤ id → t.node? id = some n → n ≠ .vacant → ∀ scope,
      (∃ lines u, t.render scope id = .ok lines u ∧ lines ≠ []) ∨
        (∃ u, t.render scope id = .error .brokenGroup u) ∧ BrokenIn run.events) ∧
    ∀ id index err u, Store.select id index t = .error err u →
      u = t ∧ ¬∃ choices current, t.node? id = some (.choice choices current) ∧
        0 ≤ index ∧ index < choices.length := by
  intro t
  have hassembler : (Context.fresh o).settings.policy.assembler = Assembler.embed := by
    rw [hpolicy]
    rfl
  have htransforms : (Context.fresh o).settings.policy.transforms = TransformFactory.standard := by
    rw [hpolicy]
    rfl
  obtain ⟨built, w, -, -, hstore, hevents, hgrown⟩ := compileSnippet_ok hassembler hg hc hids
  rw [hevents] at hformats ⊢
  have hstart : run.store.Formed ((Context.fresh o).settings.Provides w.journal) s.size := by
    rw [hstore]
    exact hgrown.sound.formed
  -- All states in use are the compiled store but for the contents of fields.
  have hrun : run.store.Retouched t := Action.foldl_retouched run.store actions
  have hformed : t.Formed _ s.size := Action.foldl_formed hstart actions
  refine ⟨?roots, ?renders, ?select⟩
  case roots =>
    intro id hid
    have hr := hgrown.readable id hid
    rw [← hstore] at hr
    have hlt : id < t.size := by rw [hrun.size]; exact hr.2.1
    obtain ⟨n, hn⟩ := Store.exists_node? hlt
    exact ⟨hr.1, n, hn, fun he => hrun.ne_vacant hr.2.2 (he ▸ hn)⟩
  case renders =>
    intro id n hb hn hv scope
    have hid : id < t.size := Store.lt_size hn
    have hvac : t.node? id ≠ some .vacant := by
      rw [hn]
      exact fun he => hv (Option.some.inj he)
    obtain ⟨u, -, hr⟩ := Store.render_eq_view hformed.closed ⟨hb, hid⟩ hvac
      (Store.Settled.refl t scope _)
    have hfails := hformed.view_failsOnly scope
      (fun fn args hfn => hfn.failsOnly htransforms hresolvers hformats scope) hb hid hvac
    cases hview : t.view scope id with
    | ok lines =>
      rw [hview] at hr
      exact .inl ⟨lines, u, hr, hformed.view_ne_nil hb hid hview⟩
    | error err =>
      obtain ⟨rfl, hbroken⟩ := hfails err hview
      rw [hview] at hr
      exact .inr ⟨⟨u, hr⟩, hbroken⟩
  case select =>
    intro id index err u herr
    rcases t.select_cases id index with ⟨choices, current, -, -, hok⟩ | ⟨⟨e, he⟩, hnot⟩
    · rw [hok] at herr
      cases herr
    · rw [he] at herr
      cases herr
      exact ⟨rfl, hnot⟩

def failure? {α : Type} : EStateM.Result Error Store α → Option Error
  | .ok _ _ => none
  | .error e _ => some e

theorem error_of_failure? {α : Type} {r : EStateM.Result Error Store α} {e : Error}
    (h : failure? r = some e) : ∃ u, r = .error e u := by
  cases r with
  | ok a u => cases h
  | error e' u =>
    obtain rfl := Option.some.inj h
    exact ⟨u, rfl⟩

theorem inRange_of_mirrored [Pattern.CharacterNames] {journal : List Event} {position : Int}
    {made : TransformSpec}
    (hjournal : journal = [.mirrored position, .transformMade made])
    (hmade : ∀ tr ∈ (Transform.ofSpec made).toOption, tr.InRange) (spec : TransformSpec)
    (tr : Transform) (hspec : .transformMade spec ∈ journal)
    (hread : Transform.ofSpec spec = .ok tr) : tr.InRange := by
  obtain rfl : spec = made := by simpa [hjournal] using hspec
  apply hmade
  rw [hread]
  rfl

/-- A field, and a mirror of it in which every "a" is there twice. -/
def doubling : Element :=
  .snippet [.tabstop 1 none, .tabstop 1 (some ⟨"(a)", "$1$1", "g"⟩)]

theorem compileSnippet_usable_doubling :
    ∃ run, compileSnippet none Options.none doubling Store.empty = .ok run ∧
      run.outcome = .ok [0, 1] ∧ ∀ id ∈ [0, 1],
        let t := [Action.setText 0 (.text "cat")].foldl Action.perform run.store
        (∃ lines u, t.render Scope.empty id = .ok lines u ∧ lines ≠ []) ∨
          (∃ u, t.render Scope.empty id = .error .brokenGroup u) ∧ BrokenIn run.events := by
  obtain ⟨run, hc, hids, hevents⟩ : ∃ run,
      compileSnippet none Options.none doubling Store.empty = .ok run ∧
        run.outcome = .ok [0, 1] ∧
          run.events = [.mirrored 1, .transformMade ⟨"(a)", "$1$1", "g"⟩] :=
    ⟨_, rfl, ok_of_toOption (by decide +kernel), by decide +kernel⟩
  have hformats := inRange_of_mirrored hevents (by decide +kernel)
  refine ⟨run, hc, hids, fun id hid => ?_⟩
  obtain ⟨hroots, hrenders, -⟩ := compileSnippet_usable rfl (fun _ _ h => by cases h) rfl
    hc hids hformats [.setText 0 (.text "cat")]
  obtain ⟨hb, n, hn, hv⟩ := hroots id hid
  exact hrenders id n hb hn hv Scope.empty

/-- A field, and a mirror of it whose pattern can leave its group with its start behind its end. -/
def breaking : Element :=
  .snippet [.tabstop 1 none, .tabstop 1 (some ⟨"(?:(a)|b)*+", "x", ""⟩)]

/-- Once "abb" is typed into the field, its mirror has no text, although its format, being a plain
text, refers to no group at all. -/
theorem compileSnippet_breaking :
    ∃ run, compileSnippet none Options.none breaking Store.empty = .ok run ∧
      run.outcome = .ok [0, 1] ∧ breaking.grammatical ∧
      (∀ spec tr, .transformMade spec ∈ run.events → Transform.ofSpec spec = .ok tr →
        tr.InRange) ∧
      ∃ u, ([Action.setText 0 (.text "abb")].foldl Action.perform run.store).render Scope.empty 1 =
        .error .brokenGroup u := by
  obtain ⟨run, hc, hids, hevents, hfails⟩ : ∃ run,
      compileSnippet none Options.none breaking Store.empty = .ok run ∧
        run.outcome = .ok [0, 1] ∧
          run.events = [.mirrored 1, .transformMade ⟨"(?:(a)|b)*+", "x", ""⟩] ∧
            failure? (([Action.setText 0 (.text "abb")].foldl Action.perform run.store).render
              Scope.empty 1) = some .brokenGroup :=
    ⟨_, rfl, ok_of_toOption (by decide +kernel), by decide +kernel, by decide +kernel⟩
  exact ⟨run, hc, hids, rfl, inRange_of_mirrored hevents (by decide +kernel),
    error_of_failure? hfails⟩

end Snippet
