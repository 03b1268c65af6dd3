import Snippet.Proofs.Conversion.Calls
import Snippet.Proofs.Conversion.Layers
import Snippet.Proofs.Session
import Snippet.Proofs.Store.Locality
import Snippet.Proofs.Store.Repeats

/-!
What is typed or chosen in a compiled template is seen in the mirrors of the field, and nowhere else. A
mirror shows what its primary node shows at the same time, through its own transform.
-/

namespace Snippet

/-- The position and the transform of an insertion point or a placeholder. -/
def Element.occurrence? : Element → Option (Nat × Option TransformSpec)
  | tabstop position spec => some (position, spec)
  | placeholder position spec _ => some (position, spec)
  | _ => none

/-- The lines of a mirror, from those of its primary node. -/
def LineTransform.mirrored (f : LineTransform) (lines : Lines) : Except Error Lines :=
  (f lines).map fun result => (Value.lines result).toLines

namespace Conversion

/-- Where its position has a primary node, an occurrence becomes a mirror of it. -/
theorem convert_occurrence {settings : Settings} {w : Workspace} {x : Element} {p : Nat}
    {spec : Option TransformSpec} {primary : NodeId} (hx : x.occurrence? = some (p, spec))
    (hp : w.registry.lookup (p : Int) = some primary) :
    convert settings x w =
      chain (fun id w => .ok (.one id) w) (mirroring settings w p spec primary) := by
  cases x with
  | tabstop position spec' =>
    cases hx
    rw [convert_tabstop, hp]
  | placeholder position spec' children =>
    cases hx
    rw [convert_placeholder, hp]
  | _ => cases hx

/-- What was there at the start of a row is there still at each of its calls. -/
theorem Calls.start_keeps {settings : Settings} (hassembler : settings.policy.assembler.Keeping)
    {before : List Mark} {es : List Element} {w : Workspace} {c : Call}
    (h : Calls settings before es w c) : w.store.Keeps c.work.store := by
  induction h with
  | here before e es w => exact .refl _
  | @later before e es w w' built c done call ih =>
    have hfirst := (convert_keeps hassembler e (Store.Keeps.refl w.store)).last
    rw [done] at hfirst
    rw [Workspace.store_after] at ih
    exact hfirst.trans ih
  | nested es call ih => exact ih
  | body before spec es first several call ih => exact ih

/-- A mirror that a conversion has called for is there in the end. -/
theorem Calls.mirror {settings : Settings} (hassembler : settings.policy.assembler.Keeping)
    {e : Element} {w w' : Workspace} {built : Built} (hr : convert settings e w = .ok built w')
    {before : List Mark} {x : Element} {work : Workspace}
    (hcall : Calls settings [] [e] w ⟨before, x, work⟩) {p : Nat} {spec : Option TransformSpec}
    {primary : NodeId} (hx : x.occurrence? = some (p, spec))
    (hp : work.registry.lookup (p : Int) = some primary) :
    ∃ id f v, convert settings x work = .ok (.one id) v ∧ settings.transform spec = .ok f ∧
      w.store.size ≤ id ∧ w'.store.node? id = some (.computed (.copy f) [primary]) := by
  have hrow : convertAll settings [e] w = .ok (spliced w'.store built ++ []) (w'.after e) := by
    rw [convertAll_cons, hr]
    rfl
  obtain ⟨built', v, hconv⟩ := hcall.succeeds hrow
  have hkeeps := hcall.keeps hassembler
  rw [hconv, hrow] at hkeeps
  rw [convert_occurrence hx hp] at hconv
  obtain ⟨id, u, hm, hone⟩ := chain_eq_ok hconv
  cases hone
  obtain ⟨f, hf, rfl, rfl⟩ := mirroring_ok hm
  refine ⟨_, f, _, by rw [convert_occurrence hx hp, hm]; rfl, hf,
    (hcall.start_keeps hassembler).size_le, ?_⟩
  rw [← Workspace.store_after w' e]
  apply hkeeps
  exact (Store.node?_add _ _ _ _).trans (if_pos rfl)

end Conversion

open Conversion

namespace Store

variable {s : Store} {scope : Scope} {base id primary : NodeId} {f : LineTransform}

theorem showing_mirror (lines : NodeId → Except Error Lines) :
    s.showing scope lines (.computed (.copy f) [primary]) = lines primary >>= f.mirrored := by
  rw [showing, List.mapM_cons, List.mapM_nil]
  cases lines primary with
  | error e => rfl
  | ok ls =>
    have hmirrored : ((f ls).map Value.lines >>= fun v => .ok v.toLines) = f.mirrored ls := by
      rw [LineTransform.mirrored]
      cases f ls <;> rfl
    exact hmirrored

/-- In a part in layers a mirror shows what its primary node shows, transformed, and rendering either of
them changes nothing for the other. -/
theorem Layered.mirror (h : s.Layered base) (hb : base ≤ id)
    (hn : s.node? id = some (.computed (.copy f) [primary])) :
    outcome (render scope id s) = outcome (render scope primary s) >>= f.mirrored ∧
      outcome (render scope id (last (render scope primary s))) = outcome (render scope id s) ∧
        outcome (render scope primary (last (render scope id s))) =
          outcome (render scope primary s) := by
  have hc := h.closed
  have hid : base ≤ id ∧ id < s.size := ⟨hb, lt_size hn⟩
  have hv : s.node? id ≠ some .vacant := by simp [hn]
  obtain ⟨hp, -, hpv⟩ := hc.sources hid hn (x := primary) (by simp [Node.sources])
  refine ⟨?_, hc.outcome_again hid hp hv hpv, hc.outcome_again hp hid hpv hv⟩
  obtain ⟨u, -, hr⟩ := render_eq_view hc hid hv (Settled.refl s scope _)
  obtain ⟨u', -, hr'⟩ := render_eq_view hc hp hpv (Settled.refl s scope _)
  rw [hr, hr', outcome_leaving, outcome_leaving, view_eq hc hid hn, showing_mirror]

end Store

/-! ## Whole compilations -/

/-- A compilation that gives nodes is a conversion that succeeds, in the context that is chosen. -/
theorem compileSnippet_chosen [Pattern.CharacterNames] {given : Option Context} {o : Options} {c : Context}
    (hchoose : Context.choose given o = .ok c) {e : Element} {s : Store} {run : Run (List NodeId)}
    (hc : compileSnippet given o e s = .ok run) {ids : List NodeId} (hids : run.outcome = .ok ids) :
    ∃ built w, convert c.settings e (c.start s) = .ok built w ∧ run.store = w.store := by
  rw [compileSnippet, hchoose] at hc
  obtain rfl := Except.ok.inj hc
  rw [Context.outcome_run, bind_apply] at hids
  rw [Context.store_run, bind_apply]
  cases hconv : convert c.settings e (c.start s) with
  | error err w =>
    rw [hconv] at hids
    cases hids
  | ok built w => exact ⟨built, w, rfl, rfl⟩

/-- In a compiled template, whatever has been typed, chosen and rendered: an occurrence of a position that
has a primary node became a mirror of it, a mirror shows what its primary node shows, transformed,
whichever of them is rendered first, an edit changes nothing where the field is not shown, and what is not
interactive shows the same for good. -/
theorem compileSnippet_propagates [Pattern.CharacterNames] {given : Option Context} {o : Options} {c : Context}
    (hchoose : Context.choose given o = .ok c) {base : NodeId}
    (hregular : c.settings.policy.assembler.Regular base) {e : Element} (hg : e.grammatical)
    {s : Store} (hb : base ≤ s.size) (hs : s.Layered base)
    (hregistry : ∀ p id, c.registry.lookup p = some id → s.Readable base s.size id)
    {run : Run (List NodeId)} (hc : compileSnippet given o e s = .ok run) {ids : List NodeId}
    (hids : run.outcome = .ok ids) (actions : List Action) :
    let t := actions.foldl Action.perform run.store
    (∀ before x work p spec primary, Calls c.settings [] [e] (c.start s) ⟨before, x, work⟩ →
      x.occurrence? = some (p, spec) → work.registry.lookup (p : Int) = some primary →
        ∃ id f v, convert c.settings x work = .ok (.one id) v ∧ c.settings.transform spec = .ok f ∧
          base ≤ id ∧ run.store.node? id = some (.computed (.copy f) [primary])) ∧
    (∀ id f primary, base ≤ id → run.store.node? id = some (.computed (.copy f) [primary]) →
      ∀ scope,
        outcome (t.render scope id) = outcome (t.render scope primary) >>= f.mirrored ∧
          outcome ((last (t.render scope primary)).render scope id) =
            outcome (t.render scope id) ∧
          outcome ((last (t.render scope id)).render scope primary) =
            outcome (t.render scope primary)) ∧
    (∀ a : Action, a.isEdit → ∀ x, ¬t.Shows x a.target → ∀ scope,
      outcome ((a.perform t).render scope x) = outcome (t.render scope x)) ∧
    ∀ x, run.store.isInteractive x = false → ∀ scope,
      outcome (t.render scope x) = outcome (run.store.render scope x) := by
  intro t
  obtain ⟨built, w, hconv, hstore⟩ := compileSnippet_chosen hchoose hc hids
  have hrun : run.store.Retouched t := Action.foldl_retouched run.store actions
  have hlayered : run.store.Layered base := by
    have hsupplied : ∀ id ∈ e.supplied, (layers base).units (c.start s).store id := by
      simp [e.supplied_eq_nil hg]
    have h := (layers_kept hregular).convert e (w := c.start s) ⟨⟨hb, hs⟩, hregistry⟩ hsupplied
    rw [hconv] at h
    rw [hstore]
    exact h.1.store.2
  refine ⟨?occurrences, ?mirrors, ?elsewhere, fun x hx scope => hrun.render_eq hx⟩
  case occurrences =>
    intro before x work p spec primary hcall hx hp
    obtain ⟨id, f, v, hid, hf, hsize, hn⟩ := hcall.mirror hregular.keeping hconv hx hp
    exact ⟨id, f, v, hid, hf, Nat.le_trans hb hsize, hstore ▸ hn⟩
  case mirrors =>
    intro id f primary hid hn scope
    -- A mirror is no field, so it is a mirror still.
    cases hrun.node id with
    | same heq => exact (hrun.layered hlayered).mirror hid (heq.trans hn)
    | field hm hfield =>
      cases hm.symm.trans hn
      cases hfield
    | bound ho =>
      obtain ⟨-, make, _, hd, -⟩ := ho
      cases hd.symm.trans hn
  case elsewhere => exact fun a ha x hx scope => Action.render_of_not_shows ha hx scope

/-- A placeholder with a field in it, and a mirror of the placeholder. -/
def nested : Element :=
  .snippet [.placeholder 1 none [.text "a ", .tabstop 2 none], .tabstop 1 none]

/-- What is typed into the inner field is seen in the mirror of the placeholder, and not in the text. -/
theorem compileSnippet_propagates_nested :
    ∃ run, compileSnippet none Options.none nested Store.empty = .ok run ∧
      run.outcome = .ok [2, 3] ∧
        let t := [Action.setText 1 (.text "cat")].foldl Action.perform run.store
        outcome (t.render Scope.empty 2) = .ok ["a cat"] ∧
          outcome (t.render Scope.empty 3) =
            outcome (t.render Scope.empty 2) >>= LineTransform.mirrored .ok ∧
          outcome (t.render Scope.empty 0) = outcome (run.store.render Scope.empty 0) := by
  obtain ⟨run, hc, hids, hmirror, hstatic, hshows⟩ : ∃ run,
      compileSnippet none Options.none nested Store.empty = .ok run ∧ run.outcome = .ok [2, 3] ∧
        run.store.node? 3 = some (.computed (.copy .ok) [2]) ∧ run.store.isInteractive 0 = false ∧
          outcome (([Action.setText 1 (.text "cat")].foldl Action.perform run.store).render
            Scope.empty 2) = .ok ["a cat"] :=
    ⟨_, rfl, ok_of_toOption (by decide +kernel), by with_unfolding_all rfl, by decide +kernel,
      ok_of_toOption (by decide +kernel)⟩
  obtain ⟨-, hmirrors, -, hstays⟩ := compileSnippet_propagates (c := Context.fresh Options.none) rfl
    (Assembler.regular_embed 0) (e := nested) (by decide) (Nat.zero_le _)
    (Store.layered_end Store.empty) (fun _ _ hid => by cases hid) hc hids [.setText 1 (.text "cat")]
  exact ⟨run, hc, hids, hshows, (hmirrors 3 .ok 2 (by decide) hmirror Scope.empty).1,
    hstays 0 hstatic Scope.empty⟩

end Snippet
