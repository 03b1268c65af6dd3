import Snippet.Proofs.Conversion.Growth

/-!
Why a conversion stops. It comes to an element of a kind that it does not know, or the factory fails
at the description that it is called for; everything made before that was made without a failure.
-/

namespace Snippet

variable {factory : TransformFactory} {w : Workspace}

/-- The factory has made a function of every description that it was called for. -/
def Workspace.AllMade (factory : TransformFactory) (w : Workspace) : Prop :=
  ∀ spec, .transformMade spec ∈ w.journal → ∃ f, factory spec = .ok f

namespace Workspace

theorem AllMade.noted (h : w.AllMade factory) {events : List Event}
    (hevents : ∀ spec, .transformMade spec ∈ events → ∃ f, factory spec = .ok f) :
    (w.noted events).AllMade factory := by
  intro spec hspec
  rcases List.mem_append.mp hspec with hold | hnew
  · exact h spec hold
  · exact hevents spec hnew

theorem AllMade.registered (h : w.AllMade factory) (position : Int) (id : NodeId) :
    (w.registered position id).AllMade factory := by
  refine AllMade.noted h fun spec hspec => ?_
  unfold Registry.registerEvents at hspec
  grind

theorem AllMade.compacted (h : w.AllMade factory) (ids : List NodeId) :
    (w.compacted ids).AllMade factory := by
  refine AllMade.noted h fun spec hspec => ?_
  simp [Store.compactionEvents] at hspec

theorem AllMade.after (h : w.AllMade factory) (e : Element) : (w.after e).AllMade factory := by
  unfold Workspace.after
  split <;> exact h

end Workspace

namespace Conversion

variable {settings : Settings}

/-- However a conversion ends, the factory has made a function each time before. Where it fails, its
call is the last event. -/
def Stops (factory : TransformFactory) {α : Type} : EStateM.Result Error Workspace α → Prop
  | .ok _ w => w.AllMade factory
  | .error err w =>
      (∃ kind, err = .unknownKind kind) ∧ w.AllMade factory ∨
        ∃ (before : Workspace) (spec : TransformSpec), before.AllMade factory ∧
          w = before.noted [.transformMade spec] ∧ factory spec = .error err

theorem Stops.chain {α β : Type} {r : EStateM.Result Error Workspace α}
    {f : α → Workspace → EStateM.Result Error Workspace β} (h : Stops factory r)
    (hf : ∀ a w, w.AllMade factory → Stops factory (f a w)) :
    Stops factory (Conversion.chain f r) := by
  cases r with
  | ok a w => exact hf a w h
  | error err w => exact h

/-- The factory is called where there is a description. -/
theorem transform_stops (h : w.AllMade settings.policy.transforms) (spec : Option TransformSpec) :
    Stops settings.policy.transforms (transform settings spec w) := by
  rw [transform_apply]
  cases spec with
  | none =>
    refine h.noted ?_
    simp
  | some spec =>
    unfold Settings.transform
    dsimp only
    cases hspec : settings.policy.transforms spec with
    | ok f =>
      refine h.noted fun made hmade => ?_
      obtain rfl : made = spec := by simpa using hmade
      exact ⟨f, hspec⟩
    | error err => exact .inr ⟨w, spec, h, rfl, hspec⟩

theorem mirroring_stops (h : w.AllMade settings.policy.transforms) (position : Int)
    (spec : Option TransformSpec) (primary : NodeId) :
    Stops settings.policy.transforms (mirroring settings w position spec primary) := by
  have hnoted : (w.noted [.mirrored position]).AllMade settings.policy.transforms :=
    h.noted (by simp)
  have hmade := transform_stops hnoted spec
  rw [transform_apply] at hmade
  unfold mirroring
  cases hf : settings.transform spec with
  | ok f =>
    rw [hf] at hmade
    exact hmade
  | error err =>
    rw [hf] at hmade
    exact hmade

theorem wrapping_stops (h : w.AllMade factory) (id : NodeId) (name : String) :
    Stops factory (wrapping w id name) := by
  unfold wrapping
  split <;> exact h

theorem varying_stops (h : w.AllMade settings.policy.transforms) (name : String)
    (spec : Option TransformSpec) :
    Stops settings.policy.transforms (varying settings w name spec) := by
  unfold varying
  split
  · have hmade := transform_stops h spec
    rw [transform_apply] at hmade
    cases hf : settings.transform spec with
    | ok f =>
      rw [hf] at hmade
      let made := w.noted (spec.toList.map .transformMade)
      exact wrapping_stops (w := made.added (.computed (.ofVariable name f) []) none) hmade _ name
    | error err =>
      rw [hf] at hmade
      exact hmade
  · split
    · next f _ => exact wrapping_stops (w := w.added (.computed f []) none) h _ name
    · have hnoted : (w.noted [.unknownVariable name]).AllMade settings.policy.transforms :=
        h.noted (by simp)
      exact hnoted

theorem embodying_stops (h : w.AllMade factory) (position : Int) (ids : List NodeId) :
    Stops factory (embodying settings w position ids) := by
  refine Workspace.AllMade.noted h fun spec hspec => ?_
  unfold Store.classifyEvents at hspec
  grind

mutual

/-- A conversion fails at an unknown kind, or where its factory does. -/
theorem convert_stops (e : Element) {w : Workspace} (h : w.AllMade settings.policy.transforms) :
    Stops settings.policy.transforms (convert settings e w) := by
  match e with
  | .text content =>
    rw [convert_text]
    exact h
  | .choice position items =>
    rw [convert_choice]
    exact h
  | .tabstop position spec =>
    rw [convert_tabstop]
    split
    · exact (mirroring_stops h position spec _).chain fun _ _ hw => hw
    · exact h.registered position w.store.size
  | .placeholder position spec children =>
    rw [convert_placeholder]
    split
    · exact (mirroring_stops h position spec _).chain fun _ _ hw => hw
    · split
      · exact h.registered position w.store.size
      · refine (convertAll_stops children (w := w.withLastText none) h).chain fun ids w' hw' => ?_
        refine (embodying_stops (hw'.compacted ids) position ids).chain fun id w'' hw'' => ?_
        exact hw''.registered position id
  | .var name spec =>
    rw [convert_var]
    exact (varying_stops h name spec).chain fun _ _ hw => hw
  | .snippet children =>
    rw [convert_snippet]
    refine (convertAll_stops children (w := w.withLastText none) h).chain fun ids w' hw' => ?_
    exact hw'.compacted ids
  | .ownText content => exact .inl ⟨⟨_, rfl⟩, h⟩
  | .ownSnippet children => exact .inl ⟨⟨_, rfl⟩, h⟩
  | .custom kind => exact .inl ⟨⟨kind, rfl⟩, h⟩
  | .built id => exact h

theorem convertAll_stops (es : List Element) {w : Workspace}
    (h : w.AllMade settings.policy.transforms) :
    Stops settings.policy.transforms (convertAll settings es w) := by
  match es with
  | [] =>
    rw [convertAll_nil]
    exact h
  | e :: es =>
    rw [convertAll_cons]
    refine (convert_stops e h).chain fun built w' hw' => ?_
    exact (convertAll_stops es (hw'.after e)).chain fun _ _ hw => hw

end

end Conversion

end Snippet
