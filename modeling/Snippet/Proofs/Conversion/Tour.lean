import Snippet.Proofs.Conversion.Steps

/-!
Conversions with a record of where they have been. A tour does what a conversion does and notes when
an insertion point or a placeholder is come to, and when it is done; leaving the notes out gives the
conversion back.
-/

namespace Snippet

/-- A place in a tree: the number of the child for each step down. -/
abbrev Place := List Nat

/-- What a tour notes of the tabstop or placeholder at a place: its position, and the node that it has
become. Of a mirror the node itself is noted as well, as it was when it was built. -/
inductive Visit where
  | started (place : Place) (position : Nat)
  | mirrored (place : Place) (position : Nat) (node : Option Node) (id : NodeId)
  | built (place : Place) (position : Nat) (id : NodeId)

structure Journey where
  work : Workspace
  visits : List Visit

abbrev Tour := EStateM Error Journey

namespace Tour

open Conversion

def perform {α : Type} (c : Conversion α) : Tour α := fun j =>
  match c j.work with
  | .ok a w => .ok a ⟨w, j.visits⟩
  | .error e w => .error e ⟨w, j.visits⟩

def record (visit : Workspace → Visit) : Tour Unit :=
  modify fun j => { j with visits := j.visits ++ [visit j.work] }

/-- A tabstop or placeholder, which is built only if it is no mirror. -/
def occurrence (settings : Settings) (here : Place) (position : Nat) (spec : Option TransformSpec)
    (build : Tour NodeId) : Tour Built := do
  record fun _ => .started here position
  match ← perform (mirror? settings position spec) with
  | some id =>
      record fun w => .mirrored here position (w.store.node? id) id
      return .one id
  | none =>
      let id ← build
      perform (register position id)
      record fun _ => .built here position id
      return .one id

def siblings (t : Tour (List NodeId)) : Tour (List NodeId) := do
  perform (setLastText none)
  let ids ← t
  perform (compact ids)

mutual

def tour (settings : Settings) (here : Place) : Element → Tour Built
  | .tabstop position spec =>
      occurrence settings here position spec (perform (add (.tabstop none none) (some position)))
  | .placeholder position spec children =>
      occurrence settings here position spec
        (match Element.loneText? children with
        | some content => perform (add (.tabstop (some content) none) (some position))
        | none => do
            let ids ← siblings (tourAll settings here 0 children)
            perform (bodyNode settings position ids))
  | .snippet children => return .many (← siblings (tourAll settings here 0 children))
  | e => perform (convert settings e)

def tourAll (settings : Settings) (here : Place) (number : Nat) :
    List Element → Tour (List NodeId)
  | [] => return []
  | e :: es => do
      let built ← tour settings (here ++ [number]) e
      let ids := spliced (← perform get).store built
      if !e.passesText then perform (setLastText none)
      return ids ++ (← tourAll settings here (number + 1) es)

end

/-- The end of a tour without the notes. -/
def erase {α : Type} : EStateM.Result Error Journey α → EStateM.Result Error Workspace α
  | .ok a j => .ok a j.work
  | .error e j => .error e j.work

/-- The tour does what the conversion does. -/
def Tracks {α : Type} (t : Tour α) (c : Conversion α) : Prop :=
  ∀ j, erase (t j) = c j.work

section Tracks

variable {α β : Type} {t : Tour α} {c : Conversion α} {f : α → Tour β} {g : α → Conversion β}

theorem Tracks.pure (a : α) : Tracks (pure a) (Pure.pure a) := fun _ => rfl

theorem Tracks.perform (c : Conversion α) : Tracks (perform c) c := by
  intro j
  unfold Tour.perform
  cases c j.work <;> rfl

theorem Tracks.bind (h : Tracks t c) (h' : ∀ a, Tracks (f a) (g a)) :
    Tracks (t >>= f) (c >>= g) := by
  intro j
  rw [bind_apply, bind_apply, ← h j]
  cases t j with
  | ok a j' => exact h' a j'
  | error e j' => rfl

theorem Tracks.record (visit : Workspace → Visit) (h : Tracks t c) :
    Tracks (do record visit; t) c := by
  intro j
  rw [bind_apply]
  exact h ⟨j.work, j.visits ++ [visit j.work]⟩

theorem Tracks.siblings {t : Tour (List NodeId)} {c : Conversion (List NodeId)} (h : Tracks t c) :
    Tracks (siblings t) (asSiblings c) := by
  exact Tracks.bind (Tracks.perform _) fun _ => Tracks.bind h fun ids => Tracks.perform _

end Tracks

theorem occurrence_tracks (settings : Settings) (here : Place) (position : Nat)
    (spec : Option TransformSpec) {build : Tour NodeId} {c : Conversion NodeId}
    (h : Tracks build c) :
    Tracks (occurrence settings here position spec build) (do
      match ← mirror? settings position spec with
      | some id => return .one id
      | none =>
          let id ← c
          register position id
          return .one id) := by
  refine Tracks.record _ (Tracks.bind (Tracks.perform _) fun mirror => ?_)
  cases mirror with
  | some id => exact Tracks.record _ (Tracks.pure _)
  | none =>
    refine Tracks.bind h fun id => Tracks.bind (Tracks.perform _) fun _ => ?_
    exact Tracks.record _ (Tracks.pure _)

mutual

theorem tour_tracks (settings : Settings) (here : Place) (e : Element) :
    Tracks (tour settings here e) (convert settings e) := by
  match e with
  | .tabstop position spec =>
    rw [tour, convert]
    exact occurrence_tracks settings here position spec (Tracks.perform _)
  | .placeholder position spec children =>
    rw [tour, convert]
    cases Element.loneText? children with
    | some content => exact occurrence_tracks settings here position spec (Tracks.perform _)
    | none =>
      have hbody : Tracks (do
          let ids ← siblings (tourAll settings here 0 children)
          perform (bodyNode settings position ids)) (do
          let ids ← asSiblings (convertAll settings children)
          bodyNode settings position ids) :=
        Tracks.bind (tourAll_tracks settings here 0 children).siblings fun _ => Tracks.perform _
      -- The conversion has the body of the placeholder in one sequence with what follows.
      have htracks := occurrence_tracks settings here position spec hbody
      simp only [bind_assoc] at htracks
      exact htracks
  | .snippet children =>
    rw [tour, convert]
    exact Tracks.bind (tourAll_tracks settings here 0 children).siblings fun _ => Tracks.pure _
  | .text content =>
    simp only [tour]
    exact Tracks.perform _
  | .choice position items =>
    simp only [tour]
    exact Tracks.perform _
  | .var name spec =>
    simp only [tour]
    exact Tracks.perform _
  | .ownText content =>
    simp only [tour]
    exact Tracks.perform _
  | .ownSnippet children =>
    simp only [tour]
    exact Tracks.perform _
  | .custom kind =>
    simp only [tour]
    exact Tracks.perform _
  | .built id =>
    simp only [tour]
    exact Tracks.perform _

theorem tourAll_tracks (settings : Settings) (here : Place) (number : Nat) (es : List Element) :
    Tracks (tourAll settings here number es) (convertAll settings es) := by
  match es with
  | [] => exact Tracks.pure []
  | e :: es =>
    rw [tourAll, convertAll]
    have hrest (ids : List NodeId) : Tracks
        (do return ids ++ (← tourAll settings here (number + 1) es))
        (do return ids ++ (← convertAll settings es)) :=
      Tracks.bind (tourAll_tracks settings here (number + 1) es) fun _ => Tracks.pure _
    refine Tracks.bind (tour_tracks settings (here ++ [number]) e) fun built => ?_
    refine Tracks.bind (Tracks.perform get) fun w => ?_
    cases e.passesText
    · exact Tracks.bind (Tracks.perform _) fun _ => hrest _
    · exact hrest _

end

end Tour

end Snippet
