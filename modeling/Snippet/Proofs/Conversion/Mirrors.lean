import Snippet.Proofs.Conversion.Visits

/-!
Which tabstops and placeholders become mirrors, and of what. The ones that a conversion comes to are
those outside the bodies of mirrors. It makes a mirror just where the position has a node already: the
one it had from the start, or that of the first occurrence to be completed.
-/

namespace Snippet

namespace Tour

open Conversion

/-! ## Legs of a tour -/

def known (j : Journey) (p : Int) : Option NodeId :=
  j.work.registry.lookup p

def failed {α : Type} : EStateM.Result Error Journey α → Bool
  | .ok _ _ => false
  | .error _ _ => true

/-- A leg from `j` to the end `r` adds the visits, and they account for what is registered. -/
structure Leg {α : Type} (occurs : Place → Nat → Prop) (j : Journey)
    (r : EStateM.Result Error Journey α) (visits : List Visit) : Prop where
  noted : (last r).visits = j.visits ++ visits
  registered : known (last r) = primary (known j) visits
  lawful : Lawful (known j) (failed r) visits
  covers : Covers occurs (failed r) visits

/-- Wherever it starts, the tour is a leg through the places. -/
def Leads {α : Type} (occurs : Place → Nat → Prop) (t : Tour α) : Prop :=
  ∀ j, ∃ visits, Leg occurs j (t j) visits

section Legs

variable {α β : Type} {occurs occurs' : Place → Nat → Prop} {t : Tour α} {f : α → Tour β}

theorem Leads.bind (h : Leads occurs t) (h' : ∀ a, Leads occurs' (f a))
    (hapart : Apart occurs occurs') :
    Leads (fun place p => occurs place p ∨ occurs' place p) (t >>= f) := by
  intro j
  obtain ⟨xs, hx⟩ := h j
  rw [bind_apply]
  -- An error ends the tour before `f`, and the places of `f` are then owed nothing.
  cases ht : t j with
  | error e j' =>
    rw [ht] at hx
    exact ⟨xs, hx.noted, hx.registered, hx.lawful, hx.covers.widen fun _ _ => .inl⟩
  | ok a j' =>
    rw [ht] at hx
    obtain ⟨ys, hy⟩ := h' a j'
    have hknown : known j' = primary (known j) xs := hx.registered
    have hlawful := hy.lawful
    rw [hknown] at hlawful
    have hnoted : j'.visits = j.visits ++ xs := hx.noted
    show ∃ visits, Leg _ j (f a j') visits
    refine ⟨xs ++ ys, ?_, ?_, hx.lawful.append hlawful, hx.covers.append hy.covers hapart⟩
    · rw [hy.noted, hnoted, List.append_assoc]
    · rw [hy.registered, hknown, primary_append]

def nowhere : Place → Nat → Prop := fun _ _ => False

theorem Leads.quiet (h : Leads nowhere t) (h' : ∀ a, Leads occurs (f a)) :
    Leads occurs (t >>= f) := by
  have hb := h.bind h' fun _ _ _ _ ha => ha.elim
  simpa [nowhere] using hb

theorem Leads.then_quiet (h : Leads occurs t) (h' : ∀ a, Leads nowhere (f a)) :
    Leads occurs (t >>= f) := by
  have hb := h.bind h' fun _ _ _ _ _ hb => hb.elim
  simpa [nowhere] using hb

theorem leads_pure (a : α) : Leads nowhere (pure a : Tour α) := fun _ =>
  ⟨[], (List.append_nil _).symm, (primary_nil _).symm, Lawful.nil _ _, Covers.nil _⟩

def Silent {α : Type} (c : Conversion α) : Prop :=
  ∀ w, (last (c w)).registry = w.registry

theorem leads_perform {c : Conversion α} (h : Silent c) : Leads nowhere (perform c) := by
  intro j
  have hwork : (last (perform c j)).work = last (c j.work) := by
    unfold perform
    cases c j.work <;> rfl
  refine ⟨[], ?_, ?_, Lawful.nil _ _, Covers.nil _⟩
  · rw [List.append_nil]
    unfold perform
    cases c j.work <;> rfl
  · rw [primary_nil]
    funext q
    unfold known
    rw [hwork, h]

theorem occurrence_apply (settings : Settings) (here : Place) (p : Nat)
    (spec : Option TransformSpec) (build : Tour NodeId) (j : Journey) :
    occurrence settings here p spec build j =
      let j₁ : Journey := ⟨j.work, j.visits ++ [.started here p]⟩
      match j.work.registry.lookup (p : Int) with
      | some primary =>
          match mirroring settings j.work p spec primary with
          | .ok id w =>
              .ok (.one id) ⟨w, j₁.visits ++ [.mirrored here p (w.store.node? id) id]⟩
          | .error e w => .error e ⟨w, j₁.visits⟩
      | none =>
          match build j₁ with
          | .ok id j₂ => .ok (.one id) ⟨j₂.work.registered p id, j₂.visits ++ [.built here p id]⟩
          | .error e j₂ => .error e j₂ := by
  unfold occurrence
  rw [bind_apply]
  show chain _ (EStateM.Result.ok () (⟨j.work, j.visits ++ [.started here p]⟩ : Journey)) = _
  dsimp only [chain]
  rw [bind_apply, perform, mirror?_apply]
  dsimp only
  cases j.work.registry.lookup (p : Int) with
  | some primary =>
    dsimp only
    cases mirroring settings j.work p spec primary <;> rfl
  | none =>
    dsimp only [chain]
    rw [bind_apply]
    cases build ⟨j.work, j.visits ++ [.started here p]⟩ <;> rfl

theorem primary_started (known : Int → Option NodeId) (here : Place) (p : Nat) :
    primary known [.started here p] = known := by
  funext q
  exact Option.or_none

theorem primary_mirrored {known : Int → Option NodeId} {p : Nat} {q : NodeId}
    (hq : known (p : Int) = some q) (here : Place) (n : Option Node) (id : NodeId) :
    primary known ([.started here p] ++ [.mirrored here p n id]) = known := by
  funext r
  -- The position has its node already, so the mirror is not the first to be completed.
  by_cases hr : r = (p : Int)
  · rw [hr, primary, hq]
    rfl
  · have hnone : List.findSome? (Visit.completed? r)
        ([.started here p] ++ [.mirrored here p n id]) = none := by
      simp [Visit.completed?, hr]
    rw [primary, hnone, Option.or_none]

theorem primary_built (known : Int → Option NodeId) (here : Place) (p : Nat) (id : NodeId)
    (r : Int) : primary known [.built here p id] r =
      (known r).or (if r = (p : Int) then some id else none) := by
  unfold primary
  simp only [List.findSome?_cons, List.findSome?_nil, Visit.completed?]
  by_cases hr : r = (p : Int)
  · rw [if_pos hr]
  · rw [if_neg hr]

theorem mirroring_registry {settings : Settings} {w w' : Workspace} {position : Int}
    {spec : Option TransformSpec} {primary : NodeId} {e : Error}
    (h : mirroring settings w position spec primary = .error e w') : w'.registry = w.registry := by
  unfold mirroring at h
  cases hf : settings.transform spec with
  | error e' =>
    rw [hf] at h
    cases h
    rfl
  | ok g =>
    rw [hf] at h
    cases h

theorem occurrence_leads (settings : Settings) (here : Place) (p : Nat)
    (spec : Option TransformSpec) {build : Tour NodeId} (h : Leads occurs build)
    (below : ∀ place q, occurs place q → Inside here place) :
    Leads (fun place q => place = here ∧ q = p ∨ occurs place q)
      (occurrence settings here p spec build) := by
  intro j
  rw [occurrence_apply]
  dsimp only
  -- A known position leads to a mirror, or to the error of its transform; an unknown one to the body.
  cases hp : j.work.registry.lookup (p : Int) with
  | some q =>
    dsimp only
    cases hm : mirroring settings j.work p spec q with
    | ok id w =>
      obtain ⟨g, -, rfl, rfl⟩ := mirroring_ok hm
      have hnode : (((j.work.noted [.mirrored p]).noted (spec.toList.map .transformMade)).added
          (.computed (.copy g) [q]) none).store.node? j.work.store.size =
            some (.computed (.copy g) [q]) := by
        simp [Store.node?_add]
      dsimp only
      rw [hnode]
      refine ⟨[.started here p] ++
        [.mirrored here p (some (.computed (.copy g) [q])) j.work.store.size], ?_, ?_, ?_, ?_⟩
      · exact List.append_assoc _ _ _
      · exact (primary_mirrored hp here _ _).symm
      · exact Lawful.mirror hp g _
      · exact Covers.mirror below _ _
    | error e w =>
      refine ⟨[.started here p], rfl, ?_, Lawful.aborted here p, ?_⟩
      · rw [primary_started]
        funext r
        exact congrArg (List.lookup r) (mirroring_registry hm)
      · have hnil : Covers occurs true [] := (Covers.nil true).widen fun _ _ ho => ho.elim
        exact hnil.enclose below (.inl ⟨rfl, rfl⟩)
  | none =>
    obtain ⟨xs, hx⟩ := h ⟨j.work, j.visits ++ [.started here p]⟩
    have hlawful := hx.lawful
    have hknown := hx.registered
    dsimp only
    -- The notes begin with the start, and the laws of the body hold after it.
    have hstart : known (⟨j.work, j.visits ++ [.started here p]⟩ : Journey) =
        primary (known j) [.started here p] := (primary_started _ here p).symm
    rw [hstart] at hlawful hknown
    have hbody := (Lawful.start here hp : Lawful (known j) _ _).append hlawful
    -- Only a body that is converted is registered and noted as built.
    cases hb : build ⟨j.work, j.visits ++ [.started here p]⟩ with
    | ok id j' =>
      rw [hb] at hx hknown hbody
      have hnoted : j'.visits = (j.visits ++ [.started here p]) ++ xs := hx.noted
      refine ⟨.started here p :: (xs ++ [.built here p id]), ?_, ?_, ?_, ?_⟩
      · show j'.visits ++ [.built here p id] = _
        rw [hnoted]
        simp only [List.append_assoc, List.cons_append, List.nil_append]
      · show _ = primary (known j) (([.started here p] ++ xs) ++ [.built here p id])
        funext r
        rw [primary_append, primary_append, ← hknown, primary_built]
        exact Registry.lookup_register _ _ _ _
      · exact hbody.append (Lawful.built here p id)
      · exact hx.covers.enclose below (.inr ⟨id, rfl⟩)
    | error e j' =>
      rw [hb] at hx hknown hbody
      have hnoted : j'.visits = (j.visits ++ [.started here p]) ++ xs := hx.noted
      refine ⟨.started here p :: (xs ++ []), ?_, ?_, ?_, ?_⟩
      · show j'.visits = _
        rw [hnoted, List.append_nil, List.append_assoc, List.singleton_append]
      · show _ = primary (known j) ([.started here p] ++ (xs ++ []))
        rw [List.append_nil, primary_append]
        exact hknown
      · rw [List.append_nil]
        exact hbody
      · exact hx.covers.enclose below (.inl ⟨rfl, rfl⟩)

/-! ## Steps that register nothing -/

section Silent

variable {γ : Type}

theorem silent_get : Silent (get : Conversion Workspace) := fun _ => rfl

theorem silent_setLastText (lines : Option Lines) : Silent (setLastText lines) := fun _ => rfl

theorem silent_add (n : Node) (position : Option Int) : Silent (add n position) := fun _ => rfl

theorem silent_compact (ids : List NodeId) : Silent (compact ids) := fun _ => rfl

theorem silent_bodyNode (settings : Settings) (position : Int) (ids : List NodeId) :
    Silent (bodyNode settings position ids) := fun _ => rfl

theorem wrapping_registry (w : Workspace) (id : NodeId) (name : String) :
    (last (wrapping w id name)).registry = w.registry := by
  unfold wrapping
  split <;> rfl

theorem silent_var (settings : Settings) (name : String) (spec : Option TransformSpec) :
    Silent (convert settings (.var name spec)) := by
  intro w
  have hvarying : (last (varying settings w name spec)).registry = w.registry := by
    unfold varying
    split
    · dsimp only
      split
      · exact wrapping_registry _ _ _
      · rfl
    · split
      · exact wrapping_registry _ _ _
      · rfl
  rw [convert_var, ← hvarying]
  cases varying settings w name spec <;> rfl

end Silent

end Legs

section Trees

variable (settings : Settings) (here : Place)

theorem siblings_leads {occurs : Place → Nat → Prop} {t : Tour (List NodeId)} (h : Leads occurs t) :
    Leads occurs (siblings t) := by
  refine (leads_perform (silent_setLastText none)).quiet fun _ => h.then_quiet fun ids => ?_
  exact leads_perform (silent_compact ids)

/-- A lone text has no fields in it. -/
theorem not_occursAmong_of_loneText? {es : List Element} {content : String} {number p : Nat}
    {place : Place} (h : Element.loneText? es = some content) :
    ¬Element.occursAmong here number es place p := by
  match es with
  | [] => cases h
  | [e] =>
    rintro (ho | ho)
    · cases e with
      | text t => exact ho
      | ownText t => exact ho
      | _ => cases h
    · exact ho
  | _ :: _ :: _ => cases h

theorem inside_of_occursAmong {es : List Element} {number p : Nat} {place : Place}
    (h : Element.occursAmong here number es place p) : Inside here place := by
  obtain ⟨k, -, hk⟩ := Element.isPrefix_of_occursAmong h
  refine ⟨(List.prefix_append here [k]).trans hk, fun heq => ?_⟩
  have hlength := hk.length_le
  rw [heq, List.length_append] at hlength
  exact absurd hlength (Nat.not_succ_le_self _)

theorem apart_children (number : Nat) (e : Element) (es : List Element) :
    Apart (e.occurs (here ++ [number])) (Element.occursAmong here (number + 1) es) := by
  intro a p b q ha hb
  have hpa := Element.isPrefix_of_occurs ha
  obtain ⟨k, hle, hpb⟩ := Element.isPrefix_of_occursAmong hb
  -- Places below different children differ in the step after `here`.
  have hne : ∀ c, here ++ [number] <+: c → ¬here ++ [k] <+: c := by
    intro c h1 h2
    have hpre := List.prefix_of_prefix_length_le h1 h2 (by simp)
    have heq := hpre.eq_of_length (by simp)
    simp only [List.append_cancel_left_eq, List.cons.injEq, and_true] at heq
    omega
  exact ⟨fun h => hne b (hpa.trans h) hpb, fun h => hne a hpa (hpb.trans h)⟩

end Trees

mutual

theorem tour_leads (settings : Settings) (here : Place) (e : Element) :
    Leads (e.occurs here) (tour settings here e) := by
  match e with
  | .tabstop p spec =>
    rw [tour]
    have hbuild := leads_perform (silent_add (.tabstop none none) (some (p : Int)))
    have h := occurrence_leads settings here p spec hbuild fun _ _ hn => hn.elim
    simpa [nowhere, Element.occurs] using h
  | .placeholder p spec children =>
    rw [tour]
    -- The visits of a body are those of its children, with the steps around them adding none.
    refine occurrence_leads settings here p spec ?_ fun _ _ => inside_of_occursAmong here
    cases hl : Element.loneText? children with
    | some content =>
      -- This body is taken as a text and is not toured.
      have hnone : Element.occursAmong here 0 children = nowhere := by
        funext place q
        exact propext ⟨not_occursAmong_of_loneText? here hl, fun hn => hn.elim⟩
      rw [hnone]
      exact leads_perform (silent_add (.tabstop (some content) none) (some (p : Int)))
    | none =>
      exact (siblings_leads (tourAll_leads settings here 0 children)).then_quiet fun ids =>
        leads_perform (silent_bodyNode settings p ids)
  | .snippet children =>
    rw [tour]
    exact (siblings_leads (tourAll_leads settings here 0 children)).then_quiet fun ids =>
      leads_pure _
  | .text content =>
    simp only [tour]
    exact leads_perform fun _ => rfl
  | .choice p items =>
    simp only [tour]
    exact leads_perform fun _ => rfl
  | .var name spec =>
    simp only [tour]
    exact leads_perform (silent_var settings name spec)
  | .ownText content =>
    simp only [tour]
    exact leads_perform fun _ => rfl
  | .ownSnippet children =>
    simp only [tour]
    exact leads_perform fun _ => rfl
  | .custom kind =>
    simp only [tour]
    exact leads_perform fun _ => rfl
  | .built id =>
    simp only [tour]
    exact leads_perform fun _ => rfl

theorem tourAll_leads (settings : Settings) (here : Place) (number : Nat) (es : List Element) :
    Leads (Element.occursAmong here number es) (tourAll settings here number es) := by
  match es with
  | [] =>
    rw [tourAll]
    exact leads_pure []
  | e :: es =>
    rw [tourAll]
    have hrest (ids : List NodeId) : Leads (Element.occursAmong here (number + 1) es)
        (do return ids ++ (← tourAll settings here (number + 1) es)) :=
      (tourAll_leads settings here (number + 1) es).then_quiet fun _ => leads_pure _
    refine (tour_leads settings (here ++ [number]) e).bind (fun built => ?_)
      (apart_children here number e es)
    refine (leads_perform silent_get).quiet fun w => ?_
    -- An element that passes no text clears the last text, which registers nothing.
    cases e.passesText
    · exact (leads_perform (silent_setLastText none)).quiet fun _ => hrest _
    · exact hrest _

end

/-- An account of a conversion, which starts with the nodes `known` for positions, in the visits of
its tour. -/
structure Account (e : Element) (known : Int → Option NodeId) (failed : Bool) (visits : List Visit)
    (registered : Int → Option NodeId) : Prop where
  /-- What is come to stands in the tree outside the bodies of mirrors. -/
  reached : ∀ v ∈ visits, .started v.place v.position ∈ visits ∧
    e.occurs [] v.place v.position ∧ ∀ above, Inside above v.place → ¬MirroredAt visits above
  /-- All of that is come to, unless there is an error, and it is completed. -/
  complete : failed = false → ∀ place p, e.occurs [] place p →
    (∀ above, Inside above place → ¬MirroredAt visits above) →
      .started place p ∈ visits ∧ (MirroredAt visits place ∨ ∃ id, .built place p id ∈ visits)
  /-- A mirror is made just where the position has a node when it is come to: one that it had, or
  that of an occurrence completed before. Only an error right then prevents it. -/
  known_of_mirrored : ∀ earlier place (p : Nat) later,
    visits = earlier ++ .started place p :: later → MirroredAt visits place →
      (known p).isSome ∨ ∃ v ∈ earlier, (v.completed? p).isSome
  mirrored_of_known : ∀ earlier place (p : Nat) later,
    visits = earlier ++ .started place p :: later →
      ((known p).isSome ∨ ∃ v ∈ earlier, (v.completed? p).isSome) →
        MirroredAt visits place ∨ failed = true ∧ later = []
  /-- Its one dependency is that node. -/
  source : ∀ earlier place (p : Nat) later, visits = earlier ++ .started place p :: later →
    ∀ q n id, .mirrored place q n id ∈ visits →
      ∃ f node, n = some (.computed (.copy f) [node]) ∧ primary known earlier p = some node
  /-- In the end each position has the node that it had, or that of the occurrence that was completed
  first. -/
  registered : registered = primary known visits

theorem primary_isSome {known : Int → Option NodeId} {visits : List Visit} {p : Int} :
    (primary known visits p).isSome ↔
      (known p).isSome ∨ ∃ v ∈ visits, (v.completed? p).isSome := by
  rw [primary, Option.isSome_or, Bool.or_eq_true, List.isSome_findSome?, List.any_eq_true]

/-- Where a place is come to once only, there is one start to speak of. -/
theorem start_unique {visits a b c d : List Visit} {place : Place} {p q : Nat}
    (h : (visits.filterMap Visit.start?).Nodup) (h₁ : visits = a ++ .started place p :: b)
    (h₂ : visits = c ++ .started place q :: d) : a = c ∧ p = q ∧ b = d := by
  -- A second start of the place would stand twice among the starts.
  have twice : ∀ (x y z : List Visit) (m n : Nat),
      visits ≠ x ++ .started place m :: (y ++ .started place n :: z) := by
    intro x y z m n he
    have hsub : (visits.filterMap Visit.start?) = x.filterMap Visit.start? ++
        place :: (y.filterMap Visit.start? ++ place :: z.filterMap Visit.start?) := by
      rw [he, List.filterMap_append]
      show _ ++ place :: (y ++ .started place n :: z).filterMap Visit.start? = _
      rw [List.filterMap_append]
      rfl
    rw [hsub, List.nodup_append, List.nodup_cons] at h
    exact h.2.1.1 (by simp)
  rw [h₁] at h₂
  -- The one start is before the other, at it, or behind it; only the second is possible.
  rcases split_append h₂ with ⟨rest, rfl, rfl⟩ | ⟨first, rfl, hs⟩
  · rw [List.append_assoc] at h₁
    exact absurd h₁ (twice c rest b q p)
  · cases first with
    | nil =>
      cases hs
      exact ⟨(List.append_nil a).symm, rfl, rfl⟩
    | cons v first =>
      obtain ⟨rfl, rfl⟩ := List.cons.inj hs
      exact absurd h₁ (twice a first d p q)

theorem Leg.account {α : Type} {e : Element} {w : Workspace} {r : EStateM.Result Error Journey α}
    {visits : List Visit} (h : Leg (e.occurs []) ⟨w, []⟩ r visits) :
    Account e (fun p => w.registry.lookup p) (failed r) (last r).visits (known (last r)) := by
  have hvisits : (last r).visits = visits := by rw [h.noted, List.nil_append]
  -- A mirror at a place follows the one start of the place.
  have hmirror : ∀ earlier place (p : Nat) later, visits = earlier ++ .started place p :: later →
      ∀ q n id, .mirrored place q n id ∈ visits → (primary (known ⟨w, []⟩) earlier p).isSome ∧
        ∃ rest, later = .mirrored place q n id :: rest := by
    intro earlier place p later hs q n id hmem
    obtain ⟨before, after, hm⟩ := List.append_of_mem hmem
    obtain ⟨first, rfl, hknown⟩ := h.lawful.mirrors before place q n id after hm
    rw [List.append_assoc] at hm
    obtain ⟨rfl, rfl, rfl⟩ := start_unique h.covers.once hs hm
    exact ⟨hknown, after, rfl⟩
  rw [hvisits]
  refine ⟨?reached, ?complete, ?known, ?mirrored, ?source, h.registered⟩
  case reached =>
    intro v hv
    have hs := h.covers.started v hv
    exact ⟨hs, h.covers.among v hv, h.covers.reached _ _ hs⟩
  case complete =>
    intro hf place p ho hout
    have hs := h.covers.complete hf place p ho hout
    exact ⟨hs, h.covers.ends hf place p hs⟩
  case known =>
    intro earlier place p later hs hm
    obtain ⟨q, n, id, hmem⟩ := hm
    exact primary_isSome.mp (hmirror earlier place p later hs q n id hmem).1
  case mirrored =>
    intro earlier place p later hs hk
    have hsome : (primary (known ⟨w, []⟩) earlier p).isSome := primary_isSome.mpr hk
    obtain ⟨q, hq⟩ := Option.isSome_iff_exists.mp hsome
    rcases h.lawful.starts earlier place p later q hs hq with hf | ⟨f, id, rest, rfl⟩
    · exact .inr hf
    · refine .inl ⟨p, some (.computed (.copy f) [q]), id, ?_⟩
      rw [hs]
      simp
  case source =>
    intro earlier place p later hs q n id hmem
    obtain ⟨hk, rest, rfl⟩ := hmirror earlier place p later hs q n id hmem
    obtain ⟨node, hnode⟩ := Option.isSome_iff_exists.mp hk
    rcases h.lawful.starts earlier place p _ node hs hnode with ⟨-, hf⟩ | ⟨f, id', rest', he⟩
    · cases hf
    · cases he
      exact ⟨f, node, rfl, hnode⟩

end Tour

/-- A conversion, whatever the tree, the assembler and the nodes that positions have from the start,
is accounted for by the visits of its tour, also where it ends with an error. Choices neither look at
the nodes of positions nor change them. -/
theorem convert_account (settings : Settings) (e : Element) (w : Workspace) :
    Tour.erase (Tour.tour settings [] e ⟨w, []⟩) = Conversion.convert settings e w ∧
      Tour.Account e (fun p => w.registry.lookup p)
        (Tour.failed (Tour.tour settings [] e ⟨w, []⟩))
        (Conversion.last (Tour.tour settings [] e ⟨w, []⟩)).visits
        (fun p => (Conversion.last (Conversion.convert settings e w)).registry.lookup p) ∧
      ∀ p items registry,
        Conversion.convert settings (.choice p items) { w with registry } =
          .ok (.one w.store.size)
            { w.added (.choice (items.map Lines.ofText) 0) (some (p : Int)) with registry } := by
  have herase := Tour.tour_tracks settings [] e ⟨w, []⟩
  obtain ⟨visits, hleg⟩ := Tour.tour_leads settings [] e ⟨w, []⟩
  refine ⟨herase, ?_, fun _ _ _ => rfl⟩
  have haccount := hleg.account
  have hwork : (Conversion.last (Tour.tour settings [] e ⟨w, []⟩)).work =
      Conversion.last (Conversion.convert settings e w) := by
    rw [← herase]
    cases Tour.tour settings [] e ⟨w, []⟩ <;> rfl
  rw [← hwork]
  exact haccount

end Snippet
