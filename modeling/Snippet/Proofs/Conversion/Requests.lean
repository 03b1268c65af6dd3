import Snippet.Proofs.Conversion.Numbering
import Snippet.Proofs.Conversion.Route

/-!
What a conversion asks the host's transform factory for, and where it fails. Along its route it calls the
factory for the transforms of mirrors and of variables that are known, and stops at the first station
where this fails, or whose kind it does not know. This holds for every tree, in every workspace and
with whatever policies.
-/

namespace Snippet

/-! ## Calls of the factory -/

/-- The transform that the factory was called for. -/
def Event.request? : Event → Option TransformSpec
  | transformMade spec => some spec
  | _ => none

namespace Workspace

/-- The transforms that the factory has been called for, in the order of the calls. -/
def requests (w : Workspace) : List TransformSpec :=
  w.journal.filterMap Event.request?

section Requests

variable (w : Workspace) (events : List Event) (node : Node) (position : Option Int) (p : Int)
  (id : NodeId) (ids : List NodeId) (lines : Option Lines) (e : Element)

@[simp] theorem requests_noted :
    (w.noted events).requests = w.requests ++ events.filterMap Event.request? :=
  List.filterMap_append

@[simp] theorem requests_added : (w.added node position).requests = w.requests := rfl
@[simp] theorem requests_withLastText : (w.withLastText lines).requests = w.requests := rfl

@[simp] theorem requests_after : (w.after e).requests = w.requests := by
  unfold after
  split <;> rfl

@[simp] theorem requests_registered : (w.registered p id).requests = w.requests := by
  have hevents : (w.registry.registerEvents p id).filterMap Event.request? = [] := by
    unfold Registry.registerEvents
    split
    · split <;> rfl
    · rfl
  have hnoted : (w.registered p id).requests = (w.noted (w.registry.registerEvents p id)).requests := rfl
  rw [hnoted, requests_noted, hevents, List.append_nil]

@[simp] theorem requests_compacted : (w.compacted ids).requests = w.requests := by
  have hevents : (w.store.compactionEvents ids).filterMap Event.request? = [] := by
    simp [Store.compactionEvents, Event.request?]
  have hnoted : (w.compacted ids).requests = (w.noted (w.store.compactionEvents ids)).requests := rfl
  rw [hnoted, requests_noted, hevents, List.append_nil]

theorem filterMap_transformMade (spec : Option TransformSpec) :
    (spec.toList.map Event.transformMade).filterMap Event.request? = spec.toList := by
  cases spec <;> rfl

end Requests

end Workspace

namespace Station

/-- The transform that the factory is called for here, if any: that of a mirror, or of a variable that is
known. -/
def request? (settings : Settings) (st : Station) : Option TransformSpec :=
  match st.element with
  | .tabstop _ spec => if st.mirror then spec else none
  | .placeholder _ spec _ => if st.mirror then spec else none
  | .var name spec => if settings.knows name then spec else none
  | _ => none

/-- The error of the factory on a transform that it is called for, if it fails on it. -/
def refusal? (settings : Settings) (spec : Option TransformSpec) : Option Error :=
  spec.bind fun spec => error? (settings.policy.transforms spec)

/-- Why the conversion gets no further: it does not know the kind, or the factory fails. -/
def failure? (settings : Settings) (st : Station) : Option Error :=
  match st.element with
  | .ownText _ | .ownSnippet _ | .custom _ => some (.unknownKind st.element.tag)
  | _ => refusal? settings (st.request? settings)

/-- Where there is no transform, the lines are taken as they are. -/
theorem error?_transform (settings : Settings) (spec : Option TransformSpec) :
    error? (settings.transform spec) = refusal? settings spec := by
  cases spec <;> rfl

end Station

/-- What is asked for along a route, and the failure that ends it. Without one, all stations are asked about.
Else those up to the first that fails are, and this one as well. -/
inductive Asks (settings : Settings) (stations : List Station) :
    Option Error → List TransformSpec → Prop where
  | all (fine : ∀ st ∈ stations, st.failure? settings = none) :
      Asks settings stations none (stations.filterMap (·.request? settings))
  | upTo (before after : List Station) {st : Station} {err : Error}
      (split : stations = before ++ st :: after) (fine : ∀ x ∈ before, x.failure? settings = none)
      (fails : st.failure? settings = some err) :
      Asks settings stations (some err) ((before ++ [st]).filterMap (·.request? settings))

section Asks

variable {settings : Settings} {xs ys : List Station} {failure : Option Error}
  {made made' : List TransformSpec}

theorem asks_nil : Asks settings [] none [] :=
  .all fun st hst => by cases hst

theorem asks_one (settings : Settings) (st : Station) :
    Asks settings [st] (st.failure? settings) (st.request? settings).toList := by
  have hmade : (st.request? settings).toList = [st].filterMap (·.request? settings) := by
    cases hst : st.request? settings <;> simp [hst]
  rw [hmade]
  cases hfails : st.failure? settings with
  | none =>
    refine .all fun x hx => ?_
    obtain rfl := List.mem_singleton.mp hx
    exact hfails
  | some err => exact .upTo [] [] rfl (fun x hx => by cases hx) hfails

theorem Asks.append (h : Asks settings xs none made) (h' : Asks settings ys failure made') :
    Asks settings (xs ++ ys) failure (made ++ made') := by
  cases h with
  | all hxs =>
    cases h' with
    | all hys =>
      rw [← List.filterMap_append]
      refine .all fun st hst => ?_
      rcases List.mem_append.mp hst with hst | hst
      · exact hxs st hst
      · exact hys st hst
    | upTo before after hsplit hbefore hfails =>
      rw [← List.filterMap_append, ← List.append_assoc]
      refine .upTo (xs ++ before) after (by rw [hsplit, List.append_assoc]) (fun x hx => ?_) hfails
      rcases List.mem_append.mp hx with hx | hx
      · exact hxs x hx
      · exact hbefore x hx

/-- What would come behind a failure is not asked about. -/
theorem Asks.append_error {err : Error} (h : Asks settings xs (some err) made) (ys : List Station) :
    Asks settings (xs ++ ys) (some err) made := by
  cases h with
  | upTo before after hsplit hbefore hfails =>
    refine .upTo before (after ++ ys) ?_ hbefore hfails
    rw [hsplit, List.append_assoc, List.cons_append]

end Asks

/-- The positions that have a node. -/
def Registry.numbers (r : Registry) : List Nat :=
  r.filterMap fun entry => if 0 ≤ entry.1 then some entry.1.toNat else none

theorem Workspace.meets_numbers (w : Workspace) : w.Meets w.registry.numbers := by
  intro p
  rw [Bool.eq_iff_iff, List.lookup_isSome_iff, decide_eq_true_eq, Registry.numbers, List.mem_filterMap]
  refine exists_congr fun entry => and_congr_right fun _ => ?_
  rw [beq_iff_eq]
  constructor
  · intro h
    rw [← h, if_pos (Int.natCast_nonneg p)]
    rfl
  · intro h
    split at h
    · next hpos =>
      have hp := Option.some.inj h
      omega
    · cases h

/-! ## Conversions along a route -/

namespace Conversion

open Workspace

/-- From `w` a computation asks for what the stations ask for, and ends as they do. -/
inductive Follows {α : Type} (settings : Settings) (w : Workspace) (stations : List Station)
    (seen : List Nat) : EStateM.Result Error Workspace α → Prop where
  | ok {a : α} {w' : Workspace} {made : List TransformSpec} (asks : Asks settings stations none made)
      (requests : w'.requests = w.requests ++ made) (meets : w'.Meets seen) :
      Follows settings w stations seen (.ok a w')
  | error {err : Error} {w' : Workspace} {made : List TransformSpec}
      (asks : Asks settings stations (some err) made) (requests : w'.requests = w.requests ++ made) :
      Follows settings w stations seen (.error err w')

section Follows

variable {α β : Type} {settings : Settings} {w w' : Workspace} {xs ys : List Station}
  {seen seen' : List Nat} {r : EStateM.Result Error Workspace α}
  {f : α → Workspace → EStateM.Result Error Workspace β}

theorem Follows.of_requests (h : Follows settings w' xs seen r) (hw : w'.requests = w.requests) :
    Follows settings w xs seen r := by
  cases h with
  | ok asks requests meets => exact .ok asks (hw ▸ requests) meets
  | error asks requests => exact .error asks (hw ▸ requests)

theorem Follows.chain (h : Follows settings w xs seen r)
    (hf : ∀ a w', w'.Meets seen → Follows settings w' ys seen' (f a w')) :
    Follows settings w (xs ++ ys) seen' (chain f r) := by
  cases h with
  | error asks requests => exact .error (asks.append_error ys) requests
  | @ok a w₁ made asks requests meets =>
    show Follows settings w (xs ++ ys) seen' (f a w₁)
    have hrest := hf a w₁ meets
    cases hr : f a w₁ with
    | ok b w₂ =>
      rw [hr] at hrest
      cases hrest with
      | ok asks' requests' meets' =>
        exact .ok (asks.append asks') (by rw [requests', requests, List.append_assoc]) meets'
    | error err w₂ =>
      rw [hr] at hrest
      cases hrest with
      | error asks' requests' =>
        exact .error (asks.append asks') (by rw [requests', requests, List.append_assoc])

/-- A step of the kind that asks for nothing and does not fail. -/
theorem follows_quiet {a : α} (hrequests : w'.requests = w.requests) (hm : w'.Meets seen) :
    Follows settings w [] seen (.ok a w') :=
  .ok asks_nil (by rw [hrequests, List.append_nil]) hm

/-- A computation goes on after the stations without coming to another one. -/
theorem Follows.then (h : Follows settings w xs seen r)
    (hf : ∀ a w', w'.Meets seen → Follows settings w' [] seen' (f a w')) :
    Follows settings w xs seen' (Conversion.chain f r) := by
  have hchain := h.chain hf
  rwa [List.append_nil] at hchain

/-- A station of the kind that asks for nothing and does not fail. -/
theorem Follows.passing (h : Follows settings w xs seen r) {st : Station}
    (hst : st.failure? settings = none) (hrequest : st.request? settings = none) :
    Follows settings w (st :: xs) seen r := by
  have hone := asks_one settings st
  rw [hst, hrequest] at hone
  cases h with
  | ok asks requests meets => exact .ok (hone.append asks) requests meets
  | error asks requests => exact .error (hone.append asks) requests

theorem follows_passing {a : α} {st : Station} (hst : st.failure? settings = none)
    (hrequest : st.request? settings = none) (hrequests : w'.requests = w.requests)
    (hm : w'.Meets seen) : Follows settings w [st] seen (.ok a w') :=
  (follows_quiet hrequests hm).passing hst hrequest

end Follows

section Steps

variable {settings : Settings} {w : Workspace} {seen : List Nat}

/-- The factory is called for the transform of the station, and the conversion fails if that does. -/
theorem follows_request {α : Type} {st : Station} {spec : Option TransformSpec}
    (hrequest : st.request? settings = spec)
    (hfailure : st.failure? settings = Station.refusal? settings spec)
    {f : LineTransform → EStateM.Result Error Workspace α} {failed : Workspace}
    (hfailed : failed.requests = w.requests ++ spec.toList)
    (hf : ∀ g, ∃ a w', f g = .ok a w' ∧ w'.requests = w.requests ++ spec.toList ∧ w'.Meets seen) :
    Follows settings w [st] seen
      (match settings.transform spec with
        | .ok g => f g
        | .error err => .error err failed) := by
  have hone := asks_one settings st
  rw [hfailure, hrequest, ← Station.error?_transform] at hone
  cases ht : settings.transform spec with
  | error err =>
    rw [ht] at hone
    exact .error hone hfailed
  | ok g =>
    rw [ht] at hone
    obtain ⟨a, w', hr, hrequests, hm⟩ := hf g
    show Follows settings w [st] seen (f g)
    rw [hr]
    exact .ok hone hrequests hm

theorem mirroring_follows (hm : w.Meets seen) {st : Station} {spec : Option TransformSpec}
    (hrequest : st.request? settings = spec)
    (hfailure : st.failure? settings = Station.refusal? settings spec) (position : Int)
    (primary : NodeId) : Follows settings w [st] seen (mirroring settings w position spec primary) := by
  have hnoted : ((w.noted [.mirrored position]).noted (spec.toList.map .transformMade)).requests =
      w.requests ++ spec.toList := by
    rw [requests_noted, requests_noted, filterMap_transformMade]
    simp [Event.request?]
  exact follows_request hrequest hfailure hnoted fun g => ⟨_, _, rfl, hnoted, hm⟩

theorem exists_wrapping (w : Workspace) (id : NodeId) (name : String) :
    ∃ id' w', wrapping w id name = .ok id' w' ∧ w'.requests = w.requests ∧
      w'.registry = w.registry := by
  unfold wrapping
  split
  · exact ⟨_, _, rfl, rfl, rfl⟩
  · exact ⟨_, _, rfl, rfl, rfl⟩

theorem varying_follows (hm : w.Meets seen) (here : Place) (name : String)
    (spec : Option TransformSpec) :
    Follows settings w [⟨here, .var name spec, false⟩] seen (varying settings w name spec) := by
  by_cases hk : settings.knows name
  · have hrequest : (⟨here, .var name spec, false⟩ : Station).request? settings = spec := if_pos hk
    have hfailure : (⟨here, .var name spec, false⟩ : Station).failure? settings =
        Station.refusal? settings spec :=
      congrArg (Station.refusal? settings) hrequest
    have hnoted : (w.noted (spec.toList.map .transformMade)).requests = w.requests ++ spec.toList := by
      rw [requests_noted, filterMap_transformMade]
    rw [varying, if_pos hk]
    refine follows_request hrequest hfailure hnoted fun g => ?_
    obtain ⟨id', w', hr, hrequests, hregistry⟩ := exists_wrapping
      ((w.noted (spec.toList.map .transformMade)).added (.computed (.ofVariable name g) []) none)
      w.store.size name
    refine ⟨id', w', hr, hrequests.trans hnoted, fun p => ?_⟩
    rw [hregistry]
    exact hm p
  · have hrequest : (⟨here, .var name spec, false⟩ : Station).request? settings = none := if_neg hk
    have hfailure : (⟨here, .var name spec, false⟩ : Station).failure? settings = none :=
      congrArg (Station.refusal? settings) hrequest
    rw [varying, if_neg hk]
    cases settings.resolvers.lookup name with
    | none =>
      refine follows_passing hfailure hrequest ?_ hm
      rw [requests_added, requests_noted]
      exact List.append_nil _
    | some f =>
      obtain ⟨id', w', hr, hrequests, hregistry⟩ :=
        exists_wrapping (w.added (.computed f []) none) w.store.size name
      dsimp only
      rw [hr]
      refine follows_passing hfailure hrequest hrequests fun p => ?_
      rw [hregistry]
      exact hm p

theorem embodying_follows (hm : w.Meets seen) (position : Int) (ids : List NodeId) :
    Follows settings w [] seen (embodying settings w position ids) := by
  have hevents : ((w.added (.group ids) none).store.classifyEvents position w.store.size).filterMap
      Event.request? = [] := by
    unfold Store.classifyEvents
    split <;> rfl
  refine follows_quiet ?_ hm
  show ((w.added (.group ids) none).noted _).requests = w.requests
  rw [requests_noted, hevents, List.append_nil, requests_added]

end Steps

section Trees

variable (settings : Settings)

mutual

theorem convert_follows (e : Element) (here : Place) {w : Workspace} {seen : List Nat}
    (hm : w.Meets seen) :
    Follows settings w (e.route seen here) (e.met seen) (convert settings e w) := by
  match e with
  | .text content => exact follows_passing rfl rfl rfl hm
  | .choice position items => exact follows_passing rfl rfl rfl hm
  | .built id => exact follows_passing rfl rfl rfl hm
  | .ownText content =>
    exact .error (asks_one settings ⟨here, .ownText content, false⟩) (List.append_nil _).symm
  | .ownSnippet children =>
    exact .error (asks_one settings ⟨here, .ownSnippet children, false⟩) (List.append_nil _).symm
  | .custom kind =>
    exact .error (asks_one settings ⟨here, .custom kind, false⟩) (List.append_nil _).symm
  | .var name spec =>
    rw [convert_var]
    exact (varying_follows hm here name spec).then fun id w' hw' => follows_quiet rfl hw'
  | .tabstop position spec =>
    rw [convert_tabstop, Element.route, Element.met]
    cases hp : w.registry.lookup (position : Int) with
    | some primary =>
      have hmem := mem_of_lookup hm hp
      rw [if_pos hmem, decide_eq_true hmem]
      exact (mirroring_follows hm rfl rfl position primary).then fun id w' hw' => follows_quiet rfl hw'
    | none =>
      have hmem := not_mem_of_lookup hm hp
      rw [if_neg hmem, decide_eq_false hmem]
      refine follows_passing rfl rfl ?_ (meets_registered hm position _)
      rw [requests_registered, requests_added]
  | .placeholder position spec children =>
    rw [convert_placeholder, Element.route, Element.met]
    cases hp : w.registry.lookup (position : Int) with
    | some primary =>
      have hmem := mem_of_lookup hm hp
      rw [if_pos hmem, decide_eq_true hmem, if_pos (.inl hmem)]
      exact (mirroring_follows hm rfl rfl position primary).then fun id w' hw' => follows_quiet rfl hw'
    | none =>
      have hmem := not_mem_of_lookup hm hp
      rw [if_neg hmem, decide_eq_false hmem]
      cases hl : Element.loneText? children with
      | some content =>
        rw [if_pos (.inr rfl), Element.metAll_of_loneText? (hl ▸ rfl)]
        refine follows_passing rfl rfl ?_ (meets_registered hm position _)
        rw [requests_registered, requests_added]
      | none =>
        rw [if_neg fun h => h.elim hmem Bool.false_ne_true]
        have hbody : Follows settings w (Element.routeAll seen here 0 children)
            (Element.metAll seen children) (convertAll settings children (w.withLastText none)) :=
          (convertAll_follows children here 0 (w := w.withLastText none) hm).of_requests
            (requests_withLastText w none)
        refine Follows.passing ?_ rfl rfl
        refine hbody.then fun ids w₁ hw₁ => ?_
        have hgroup : Follows settings (w₁.compacted ids) [] (Element.metAll seen children)
            (embodying settings (w₁.compacted ids) position ids) :=
          embodying_follows (w := w₁.compacted ids) hw₁ position ids
        refine (hgroup.of_requests (requests_compacted w₁ ids)).then fun id w₂ hw₂ => ?_
        exact follows_quiet (requests_registered w₂ position id) (meets_registered hw₂ position id)
  | .snippet children =>
    rw [convert_snippet, Element.route, Element.met]
    have hbody : Follows settings w (Element.routeAll seen here 0 children)
        (Element.metAll seen children) (convertAll settings children (w.withLastText none)) :=
      (convertAll_follows children here 0 (w := w.withLastText none) hm).of_requests
        (requests_withLastText w none)
    refine Follows.passing ?_ rfl rfl
    refine hbody.then fun ids w₁ hw₁ => ?_
    exact follows_quiet (requests_compacted w₁ ids) hw₁

theorem convertAll_follows (es : List Element) (here : Place) (number : Nat) {w : Workspace}
    {seen : List Nat} (hm : w.Meets seen) :
    Follows settings w (Element.routeAll seen here number es) (Element.metAll seen es)
      (convertAll settings es w) := by
  match es with
  | [] => exact follows_quiet rfl hm
  | e :: es =>
    rw [convertAll_cons, Element.routeAll, Element.metAll]
    refine (convert_follows e (here ++ [number]) hm).chain fun built w₁ hw₁ => ?_
    have hmeets : (w₁.after e).Meets (e.met seen) := by
      intro p
      rw [registry_after]
      exact hw₁ p
    have hrest := convertAll_follows es here (number + 1) hmeets
    refine (hrest.of_requests (requests_after w₁ e)).then fun ids w₂ hw₂ => ?_
    exact follows_quiet rfl hw₂

end

end Trees

/-- A conversion goes along the route through its tree. It calls the factory for the transforms of the mirrors
there and of the variables that are known, each once and in document order, and for no others. It
fails at the first station where such a call fails or the kind is not known, and nowhere else, and no
call comes after that. -/
theorem convert_requests (settings : Settings) (e : Element) (w : Workspace) :
    let stations := e.route w.registry.numbers []
    let r := convert settings e w
    IsRoute (fun p => (w.registry.lookup (p : Int)).isSome) (fun place x => place = [] ∧ x = e)
        stations ∧
      ∃ made, Asks settings stations (error? (outcome r)) made ∧
        (last r).requests = w.requests ++ made := by
  intro stations r
  have hmeets := w.meets_numbers
  refine ⟨?route, ?run⟩
  case route =>
    refine (Element.routed_route w.registry.numbers [] e).isRoute.congr fun p => ?_
    rw [hmeets p, decide_eq_true_eq]
  case run =>
    have hfollows : Follows settings w stations _ r := convert_follows settings e [] hmeets
    generalize r = result at hfollows ⊢
    cases hfollows with
    | ok asks requests meets => exact ⟨_, asks, requests⟩
    | error asks requests => exact ⟨_, asks, requests⟩

end Conversion

end Snippet
