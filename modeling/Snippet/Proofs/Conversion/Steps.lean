import Snippet.Conversion.Basic
import Snippet.Proofs.State

/-!
What each step of a conversion does, as an equation between its start and its end. Later proofs read
conversions through these equations and do not open the definitions again.
-/

namespace Snippet

namespace Workspace

def noted (w : Workspace) (events : List Event) : Workspace :=
  { w with journal := w.journal ++ events }

/-- After adding a node, whose number is the size of the store before. -/
def added (w : Workspace) (node : Node) (position : Option Int) : Workspace :=
  { w with store := (w.store.add node position).2 }

def withLastText (w : Workspace) (lines : Option Lines) : Workspace :=
  { w with lastText := lines }

def registered (w : Workspace) (position : Int) (id : NodeId) : Workspace :=
  { w with
    journal := w.journal ++ w.registry.registerEvents position id
    registry := w.registry.register position id }

def compacted (w : Workspace) (ids : List NodeId) : Workspace :=
  { w with
    journal := w.journal ++ w.store.compactionEvents ids
    store := w.store.compact ids }

def positioned (w : Workspace) (id : NodeId) (position : Int) : Workspace :=
  { w with store := w.store.setPosition id (some position) }

/-- After an element among its siblings: its text stays in sight if it passes it on. -/
def after (w : Workspace) (e : Element) : Workspace :=
  if e.passesText then w else w.withLastText none

section Fields

variable (w : Workspace) (events : List Event) (node : Node) (position : Option Int) (p : Int)
  (id : NodeId) (ids : List NodeId) (lines : Option Lines) (e : Element)

@[simp] theorem store_noted : (w.noted events).store = w.store := rfl
@[simp] theorem registry_noted : (w.noted events).registry = w.registry := rfl
@[simp] theorem lastText_noted : (w.noted events).lastText = w.lastText := rfl

@[simp] theorem store_added : (w.added node position).store = (w.store.add node position).2 := rfl
@[simp] theorem registry_added : (w.added node position).registry = w.registry := rfl
@[simp] theorem lastText_added : (w.added node position).lastText = w.lastText := rfl

@[simp] theorem store_withLastText : (w.withLastText lines).store = w.store := rfl
@[simp] theorem registry_withLastText : (w.withLastText lines).registry = w.registry := rfl
@[simp] theorem lastText_withLastText : (w.withLastText lines).lastText = lines := rfl

@[simp] theorem store_registered : (w.registered p id).store = w.store := rfl
@[simp] theorem registry_registered :
    (w.registered p id).registry = w.registry.register p id := rfl
@[simp] theorem lastText_registered : (w.registered p id).lastText = w.lastText := rfl

@[simp] theorem store_compacted : (w.compacted ids).store = w.store.compact ids := rfl
@[simp] theorem registry_compacted : (w.compacted ids).registry = w.registry := rfl
@[simp] theorem lastText_compacted : (w.compacted ids).lastText = w.lastText := rfl

@[simp] theorem store_positioned :
    (w.positioned id p).store = w.store.setPosition id (some p) := rfl
@[simp] theorem registry_positioned : (w.positioned id p).registry = w.registry := rfl
@[simp] theorem lastText_positioned : (w.positioned id p).lastText = w.lastText := rfl

@[simp] theorem store_after : (w.after e).store = w.store := by
  unfold after
  split <;> rfl

@[simp] theorem registry_after : (w.after e).registry = w.registry := by
  unfold after
  split <;> rfl

end Fields

end Workspace

theorem Registry.lookup_register (p q : Int) (id : NodeId) (r : Registry) :
    (r.register p id).lookup q = (r.lookup q).or (if q = p then some id else none) := by
  unfold register
  by_cases hr : (r.lookup p).isSome
  · rw [if_pos hr]
    by_cases hq : q = p
    · obtain ⟨x, hx⟩ := Option.isSome_iff_exists.mp hr
      rw [hq, hx]
      rfl
    · simp [hq]
  · rw [if_neg hr, List.lookup_append]
    by_cases hq : q = p
    · simp [hq]
    · have hb : (q == p) = false := beq_false_of_ne hq
      simp [List.lookup_cons, hq, hb]

/-- A position that has a node keeps it. -/
theorem Registry.lookup_register_some {p q : Int} {id x : NodeId} {r : Registry}
    (h : (r.register p id).lookup q = some x) : r.lookup q = some x ∨ x = id := by
  rw [lookup_register] at h
  cases hq : r.lookup q with
  | some y =>
    rw [hq] at h
    exact .inl h
  | none =>
    rw [hq, Option.none_or] at h
    split at h
    · cases h
      exact .inr rfl
    · cases h

namespace Conversion

variable (settings : Settings) (w : Workspace)

def mirroring (position : Int) (spec : Option TransformSpec) (primary : NodeId) :
    EStateM.Result Error Workspace NodeId :=
  let w := (w.noted [.mirrored position]).noted (spec.toList.map .transformMade)
  match settings.transform spec with
  | .ok f => .ok w.store.size (w.added (.computed (.copy f) [primary]) none)
  | .error e => .error e w

def wrapping (id : NodeId) (name : String) : EStateM.Result Error Workspace NodeId :=
  match Indent.forVariable? name w.lastText with
  | none => .ok id w
  | some indent => .ok w.store.size (w.added (.wrap id indent) none)

def embodying (position : Int) (ids : List NodeId) : EStateM.Result Error Workspace NodeId :=
  let group := w.store.size
  let w := w.added (.group ids) none
  let w := w.noted (w.store.classifyEvents position group)
  let (id, store) := w.store.classify settings.policy.assembler position group
  .ok id { w with store }

/-- Goes on from where a computation has ended, unless it has ended with an error. -/
def chain {σ α β : Type} (f : α → σ → EStateM.Result Error σ β) :
    EStateM.Result Error σ α → EStateM.Result Error σ β
  | .ok a w => f a w
  | .error e w => .error e w

def last {σ α : Type} : EStateM.Result Error σ α → σ
  | .ok _ w => w
  | .error _ w => w

theorem bind_apply {σ α β : Type} (w : σ) (m : EStateM Error σ α) (f : α → EStateM Error σ β) :
    (m >>= f) w = chain f (m w) := by
  simp only [bind, EStateM.bind]
  cases m w <;> rfl

theorem convert_text (content : String) :
    convert settings (.text content) w =
      .ok (.one w.store.size)
        ((w.withLastText (some (Lines.ofText content))).added (.text (Lines.ofText content)) none) :=
  rfl

theorem convert_choice (position : Nat) (items : List String) :
    convert settings (.choice position items) w =
      .ok (.one w.store.size) (w.added (.choice (items.map Lines.ofText) 0) (some position)) :=
  rfl

theorem mirror?_apply (position : Int) (spec : Option TransformSpec) :
    mirror? settings position spec w =
      match w.registry.lookup position with
      | none => .ok none w
      | some primary =>
          chain (fun id w => .ok (some id) w) (mirroring settings w position spec primary) := by
  simp only [mirror?, bind, EStateM.bind, get_apply]
  cases w.registry.lookup position with
  | none => rfl
  | some primary =>
    simp only [transform, mirroring, bind, EStateM.bind, note, modify_apply]
    cases settings.transform spec <;> rfl

theorem convert_tabstop (position : Nat) (spec : Option TransformSpec) :
    convert settings (.tabstop position spec) w =
      match w.registry.lookup (position : Int) with
      | some primary =>
          chain (fun id w => .ok (.one id) w) (mirroring settings w position spec primary)
      | none =>
          .ok (.one w.store.size)
            ((w.added (.tabstop none none) (some position)).registered position w.store.size) := by
  rw [convert, bind_apply, mirror?_apply]
  cases w.registry.lookup (position : Int) with
  | none => rfl
  | some primary =>
    dsimp only
    cases mirroring settings w position spec primary <;> rfl

theorem convert_placeholder (position : Nat) (spec : Option TransformSpec)
    (children : List Element) :
    convert settings (.placeholder position spec children) w =
      match w.registry.lookup (position : Int) with
      | some primary =>
          chain (fun id w => .ok (.one id) w) (mirroring settings w position spec primary)
      | none =>
          match Element.loneText? children with
          | some content =>
              .ok (.one w.store.size)
                ((w.added (.tabstop (some content) none) (some position)).registered position
                  w.store.size)
          | none =>
              chain
                (fun ids w =>
                  chain (fun id w => .ok (.one id) (w.registered position id))
                    (embodying settings (w.compacted ids) position ids))
                (convertAll settings children (w.withLastText none)) := by
  rw [convert, bind_apply, mirror?_apply]
  cases w.registry.lookup (position : Int) with
  | some primary =>
    dsimp only
    cases mirroring settings w position spec primary <;> rfl
  | none =>
    cases Element.loneText? children with
    | some content => rfl
    | none =>
      simp only [chain, bind_apply, asSiblings, setLastText, modify_apply, Workspace.withLastText]
      cases convertAll settings children { w with lastText := none } <;> rfl

theorem convert_snippet (children : List Element) :
    convert settings (.snippet children) w =
      chain (fun ids w => .ok (.many ids) (w.compacted ids))
        (convertAll settings children (w.withLastText none)) := by
  simp only [convert, bind_apply, asSiblings, setLastText, modify_apply, chain,
    Workspace.withLastText]
  cases convertAll settings children { w with lastText := none } <;> rfl

theorem transform_apply (spec : Option TransformSpec) :
    transform settings spec w =
      match settings.transform spec with
      | .ok f => .ok f (w.noted (spec.toList.map .transformMade))
      | .error e => .error e (w.noted (spec.toList.map .transformMade)) := by
  rw [transform, bind_apply]
  cases settings.transform spec <;> rfl

theorem wrapIndent_apply (id : NodeId) (name : String) :
    (do wrapIndent id name (← get).lastText : Conversion NodeId) w = wrapping w id name := by
  rw [bind_apply]
  simp only [get_apply, chain, wrapIndent, wrapping]
  cases Indent.forVariable? name w.lastText <;> rfl

def varying (name : String) (spec : Option TransformSpec) :
    EStateM.Result Error Workspace NodeId :=
  if settings.knows name then
    let w := w.noted (spec.toList.map .transformMade)
    match settings.transform spec with
    | .ok f => wrapping (w.added (.computed (.ofVariable name f) []) none) w.store.size name
    | .error e => .error e w
  else match settings.resolvers.lookup name with
    | some f => wrapping (w.added (.computed f []) none) w.store.size name
    | none =>
        let w := w.noted [.unknownVariable name]
        .ok w.store.size (w.added (.text [""]) none)

theorem convert_var (name : String) (spec : Option TransformSpec) :
    convert settings (.var name spec) w =
      chain (fun id w => .ok (.one id) w) (varying settings w name spec) := by
  rw [convert, bind_apply]
  have hv : variableNode settings name spec w = varying settings w name spec := by
    unfold variableNode varying
    by_cases hk : settings.knows name
    · rw [if_pos hk, if_pos hk, bind_apply, transform_apply]
      cases settings.transform spec with
      | ok f =>
        exact wrapIndent_apply
          ((w.noted (spec.toList.map .transformMade)).added (.computed (.ofVariable name f) []) none)
          w.store.size name
      | error e => rfl
    · rw [if_neg hk, if_neg hk]
      cases settings.resolvers.lookup name with
      | some f => exact wrapIndent_apply (w.added (.computed f []) none) w.store.size name
      | none => rfl
  rw [hv]
  rfl

/-! ## Steps that succeed -/

section Success

variable {settings : Settings} {w w' : Workspace} {id id' : NodeId}

theorem chain_eq_ok {σ α β : Type} {f : α → σ → EStateM.Result Error σ β}
    {r : EStateM.Result Error σ α} {b : β} {w' : σ} (h : chain f r = .ok b w') :
    ∃ a w, r = .ok a w ∧ f a w = .ok b w' := by
  cases r with
  | ok a w => exact ⟨a, w, rfl, h⟩
  | error e w => cases h

theorem mirroring_ok {position : Int} {spec : Option TransformSpec} {primary : NodeId}
    (h : mirroring settings w position spec primary = .ok id w') :
    ∃ f, settings.transform spec = .ok f ∧ id = w.store.size ∧
      w' = ((w.noted [.mirrored position]).noted (spec.toList.map .transformMade)).added
        (.computed (.copy f) [primary]) none := by
  unfold mirroring at h
  cases hf : settings.transform spec with
  | error e =>
    rw [hf] at h
    cases h
  | ok f =>
    rw [hf] at h
    cases h
    exact ⟨f, rfl, rfl, rfl⟩

theorem wrapping_ok {name : String} (h : wrapping w id name = .ok id' w') :
    Indent.forVariable? name w.lastText = none ∧ id' = id ∧ w' = w ∨
      ∃ indent, Indent.forVariable? name w.lastText = some indent ∧ id' = w.store.size ∧
        w' = w.added (.wrap id indent) none := by
  unfold wrapping at h
  cases hi : Indent.forVariable? name w.lastText with
  | none =>
    rw [hi] at h
    cases h
    exact .inl ⟨rfl, rfl, rfl⟩
  | some indent =>
    rw [hi] at h
    cases h
    exact .inr ⟨indent, rfl, rfl, rfl⟩

/-- A variable is read from the environment, made by a resolver, or empty. -/
theorem varying_ok {name : String} {spec : Option TransformSpec}
    (h : varying settings w name spec = .ok id w') :
    (settings.knows name = true ∧ ∃ f, settings.transform spec = .ok f ∧
      wrapping ((w.noted (spec.toList.map .transformMade)).added (.computed (.ofVariable name f) [])
        none) w.store.size name = .ok id w') ∨
    (settings.knows name = false ∧ ∃ f, settings.resolvers.lookup name = some f ∧
      wrapping (w.added (.computed f []) none) w.store.size name = .ok id w') ∨
    (settings.knows name = false ∧ settings.resolvers.lookup name = none ∧ id = w.store.size ∧
      w' = (w.noted [.unknownVariable name]).added (.text [""]) none) := by
  unfold varying at h
  split at h
  · next hk =>
    cases hf : settings.transform spec with
    | error e =>
      rw [hf] at h
      cases h
    | ok f =>
      rw [hf] at h
      exact .inl ⟨hk, f, rfl, h⟩
  · next hk =>
    have hk' := Bool.eq_false_iff.mpr hk
    cases hl : settings.resolvers.lookup name with
    | some f =>
      rw [hl] at h
      exact .inr (.inl ⟨hk', f, rfl, h⟩)
    | none =>
      rw [hl] at h
      cases h
      exact .inr (.inr ⟨hk', rfl, rfl, rfl⟩)

/-- With live bodies embedded as they are, a body that can change gets the position, and another one
a slot and a dynamic node. -/
theorem embodying_ok (hpolicy : settings.policy.assembler = Assembler.embed) {position : Int}
    {ids : List NodeId} (h : embodying settings w position ids = .ok id w') :
    let g := w.added (.group ids) none
    g.store.isInteractive w.store.size = true ∧ id = w.store.size ∧
        w' = g.positioned w.store.size position ∨
      g.store.isInteractive w.store.size = false ∧ id = w.store.size + 2 ∧
        w' = ((g.noted [.flattened position]).added .vacant none).added
          (.dynamic (some (.body w.store.size)) (w.store.size + 1)) (some position) := by
  intro g
  unfold embodying at h
  simp only [hpolicy, Store.classify, Store.classifyEvents, Workspace.store_noted] at h
  split at h
  · next hlive =>
    refine .inl ⟨hlive, ?_⟩
    simp only [Workspace.noted, List.append_nil] at h
    cases h
    exact ⟨rfl, rfl⟩
  · next hstatic =>
    have hsize : g.store.size = w.store.size + 1 := Store.size_add _ _ _
    refine .inr ⟨Bool.eq_false_iff.mpr hstatic, ?_⟩
    cases h
    refine ⟨?_, ?_⟩
    · show ((g.store.add .vacant none).2).size = w.store.size + 2
      rw [Store.size_add, hsize]
    · rw [← hsize]
      rfl

end Success

theorem convertAll_nil : convertAll settings [] w = .ok [] w := rfl

theorem convertAll_cons (e : Element) (es : List Element) :
    convertAll settings (e :: es) w =
      chain
        (fun built w =>
          chain (fun ids w' => .ok (spliced w.store built ++ ids) w')
            (convertAll settings es (w.after e)))
        (convert settings e w) := by
  rw [convertAll, bind_apply]
  congr 1
  funext built w'
  have tail : ∀ w'', (do return spliced w'.store built ++ (← convertAll settings es) :
      Conversion (List NodeId)) w'' =
        chain (fun ids w => .ok (spliced w'.store built ++ ids) w) (convertAll settings es w'') :=
    fun w'' => bind_apply w'' _ _
  unfold Workspace.after
  cases e.passesText
  · exact tail (w'.withLastText none)
  · exact tail w'

end Conversion

end Snippet
