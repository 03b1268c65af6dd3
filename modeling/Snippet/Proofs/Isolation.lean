import Snippet.Proofs.Conversion.Frame
import Snippet.Proofs.Conversion.Layers
import Snippet.Proofs.Conversion.Twins
import Snippet.Proofs.Store.Apart

/-!
Conversions do not get into each other's way. They leave the nodes that they find alone, fresh ones do not
see what they find, and the graphs that they make one after the other live apart.
-/

namespace Snippet

open Conversion

theorem Element.siblingSupply_eq_nil {e : Element} (hs : e.supplied = []) (s : Store) :
    e.siblingSupply s = [] := by
  have hinside : e.inside = [] := List.subset_nil.mp (hs ▸ e.inside_subset)
  rw [siblingSupply, hinside, List.flatMap_nil]

/-- Each call has a context of its own unless one is given. -/
theorem toNode_fresh [Pattern.CharacterNames] (o : Options) (e : Element) (s : Store) :
    toNode none o e s =
      .ok ((Context.fresh o).run s fun settings => Conversion.convert settings e) :=
  rfl

/-- A fresh conversion in the midst of a part in layers leaves it one. -/
theorem convert_layered {settings : Settings}
    (hassembler : settings.policy.assembler = Assembler.embed) {e : Element} (hs : e.supplied = [])
    {s : Store} {base : NodeId} (hb : base ≤ s.size) (hlayered : s.Layered base) :
    (last (convert settings e (.fresh s))).store.Layered base := by
  have hregular : settings.policy.assembler.Regular base := hassembler ▸ Assembler.regular_embed base
  have hstart : (layers base).Holds (.fresh s) := ⟨⟨hb, hlayered⟩, fun _ _ hid => by cases hid⟩
  exact ((layers_kept hregular).convert e hstart (by simp [hs])).last.store.2

/-- A fresh conversion leaves a part in layers as it is, and its own nodes live apart from that part. -/
theorem convert_apart {settings : Settings}
    (hassembler : settings.policy.assembler = Assembler.embed) {e : Element} (hs : e.supplied = [])
    {s : Store} {base : NodeId} (hb : base ≤ s.size) (hlayered : s.Layered base) :
    let t := (last (convert settings e (.fresh s))).store
    s.Frames [] t ∧ t.Independent (fun id => base ≤ id ∧ id < s.size) fun id => s.size ≤ id := by
  intro t
  have hframes := convert_frames hassembler e (.fresh s)
  have hsiblings := Element.siblingSupply_eq_nil hs s
  have hpart : t.Layered base := convert_layered hassembler hs hb hlayered
  have hown : t.Layered s.size :=
    convert_layered hassembler hs (Nat.le_refl _) (Store.layered_end s)
  exact ⟨hsiblings ▸ hframes,
    Store.independent_of_encloses (hpart.encloses_below s.size) hown.encloses
      fun id hid => Nat.not_le_of_lt hid.2⟩

/-- A conversion changes nothing of the nodes it finds but the positions of those that stand ready among
siblings. Of a tree without ready nodes, fresh conversions from any two stores fail with the same error, or
give the same graph but for the numbers of its nodes. Made one after the other, with anything done in
between, they share no node, the second leaves the first as it is, and whatever is done with both graphs
later, each renders as if only what is done with its own nodes had been done. -/
theorem toNode_isolated [Pattern.CharacterNames] {c : Context}
    (hc : c.settings.policy.assembler = Assembler.embed)
    {o o' : Options} (ho : (Context.fresh o).settings.policy.assembler = Assembler.embed)
    (ho' : (Context.fresh o').settings.policy.assembler = Assembler.embed) (e : Element) (s : Store) :
    s.Frames (e.siblingSupply s) (c.run s fun settings => convert settings e).store ∧
    (e.supplied = [] → ∀ s' : Store, ∃ run run',
      toNode none o e s = .ok run ∧ toNode none o e s' = .ok run' ∧
        run'.outcome = run.outcome.map (Built.rename (moved s.size s'.size)) ∧
        run'.events = run.events ∧ run.store.Renamed s.size s'.size run'.store ∧
        ∀ built, run.outcome = .ok built → ∀ id ∈ built.ids, s.size ≤ id ∧ id < run.store.size) ∧
    (e.supplied = [] → ∀ e' : Element, e'.supplied = [] → ∀ between : List Action, ∃ run,
      toNode none o e s = .ok run ∧
        let t := between.foldl Action.perform run.store
        ∃ run', toNode none o' e' t = .ok run' ∧ t.Frames [] run'.store ∧
          (∀ built, run.outcome = .ok built → ∀ id ∈ built.ids, s.size ≤ id ∧ id < t.size) ∧
          (∀ built, run'.outcome = .ok built → ∀ id ∈ built.ids, t.size ≤ id) ∧
          run'.store.Independent (fun id => s.size ≤ id ∧ id < t.size) fun id => t.size ≤ id) := by
  refine ⟨?frame, ?twins, ?sequence⟩
  case frame =>
    rw [Context.store_run]
    exact convert_frames hc e (c.start s)
  case twins =>
    intro hs s'
    obtain ⟨hout, hevents, hrenamed, hids⟩ := convert_renamed ho hs s s'
    refine ⟨_, _, toNode_fresh o e s, toNode_fresh o e s', ?_, ?_, ?_, ?_⟩
    · rw [Context.outcome_run, Context.outcome_run]
      exact hout
    · rw [Context.events_run, Context.events_run]
      exact hevents
    · rw [Context.store_run, Context.store_run]
      exact hrenamed
    · rw [Context.outcome_run, Context.store_run]
      exact hids
  case sequence =>
    intro hs e' hs' between
    refine ⟨_, toNode_fresh o e s, ?_⟩
    intro t
    have hedited := Action.foldl_retouched
      ((Context.fresh o).run s fun settings => convert settings e).store between
    -- What is done in between fills in fields, and fields refer to nothing.
    have hlayered : t.Layered s.size := by
      refine hedited.layered ?_
      rw [Context.store_run]
      exact convert_layered ho hs (Nat.le_refl _) (Store.layered_end s)
    have hsize : t.size = (last (convert (Context.fresh o).settings e (.fresh s))).store.size := by
      rw [hedited.size, Context.store_run]
      rfl
    have hle : s.size ≤ t.size := hsize ▸ (convert_frames ho e (.fresh s)).keeps.size_le
    have happart := convert_apart ho' hs' hle hlayered
    refine ⟨_, toNode_fresh o' e' t, ?untouched, ?first, ?second, ?independent⟩
    case untouched =>
      rw [Context.store_run]
      exact happart.1
    case first =>
      rw [Context.outcome_run, hsize]
      exact (convert_renamed ho hs s s).2.2.2
    case second =>
      rw [Context.outcome_run]
      exact fun built hb id hid => ((convert_renamed ho' hs' t t).2.2.2 built hb id hid).1
    case independent =>
      rw [Context.store_run]
      exact happart.2

/-- A field, and a mirror of it. -/
def echo : Element :=
  .snippet [.tabstop 1 none, .tabstop 1 none]

/-- Two graphs of the same template. What is typed into the field of the first is not seen in the mirror of
the second. -/
theorem toNode_isolated_echo :
    ∃ run run', toNode none Options.none echo Store.empty = .ok run ∧
      toNode none Options.none echo run.store = .ok run' ∧
        run.outcome = .ok (.many [0, 1]) ∧ run'.outcome = .ok (.many [2, 3]) ∧
          let u := Action.perform run'.store (.setText 0 (.text "cat"))
          outcome (u.render Scope.empty 1) = .ok ["cat"] ∧
            outcome (u.render Scope.empty 3) = outcome (run'.store.render Scope.empty 3) := by
  have hpolicy : (Context.fresh Options.none).settings.policy.assembler = Assembler.embed := rfl
  obtain ⟨-, -, hsequence⟩ := toNode_isolated hpolicy hpolicy hpolicy echo Store.empty
  obtain ⟨run, hrun, run', hrun', -, -, -, hindependent⟩ := hsequence rfl echo rfl []
  obtain ⟨hsize, hids, hids', hfirst⟩ : run.store.size = 2 ∧ run.outcome = .ok (.many [0, 1]) ∧
      run'.outcome = .ok (.many [2, 3]) ∧
        outcome ((Action.perform run'.store (.setText 0 (.text "cat"))).render Scope.empty 1) =
          .ok ["cat"] := by
    obtain rfl := Except.ok.inj hrun
    obtain rfl := Except.ok.inj hrun'
    exact ⟨by decide +kernel, ok_of_toOption (by decide +kernel),
      ok_of_toOption (by decide +kernel), ok_of_toOption (by decide +kernel)⟩
  have hempty : Store.empty.size = 0 := rfl
  obtain ⟨-, -, hrender⟩ := hindependent [.setText 0 (.text "cat")]
    (by simp [Action.target, hempty, hsize])
  have hsecond := (hrender 3 Scope.empty).2 (by simp [hsize])
  exact ⟨run, run', hrun, hrun', hids, hids', hfirst, by simpa [hsize, Action.target] using hsecond⟩

end Snippet
