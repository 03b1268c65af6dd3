import Snippet.Conversion.Run
import Snippet.Proofs.Conversion.Steps
import Snippet.Proofs.Element
import Snippet.Proofs.Store.Formed

/-!
What a conversion of a tree of the grammar leaves in the store, with live bodies embedded as they
are. It keeps all nodes, and those it adds refer to older ones among them; a dynamic node has a static
body and the slot right before it. So the nodes added from some node on are a closed part.
-/

namespace Snippet

/-- Where the functions of computed nodes come from, and for how many dependencies they are: from a
transform that has been made, or from a resolver. -/
inductive Settings.Provides (settings : Settings) (journal : List Event) :
    ValueFunction → Nat → Prop where
  | copy (spec : Option TransformSpec) (f : LineTransform) (made : settings.transform spec = .ok f)
      (noted : ∀ t ∈ spec, .transformMade t ∈ journal) : Provides settings journal (.copy f) 1
  | ofName (name : String) (spec : Option TransformSpec) (f : LineTransform)
      (made : settings.transform spec = .ok f) (noted : ∀ t ∈ spec, .transformMade t ∈ journal) :
      Provides settings journal (.ofVariable name f) 0
  | resolver (name : String) (f : ValueFunction) (found : settings.resolvers.lookup name = some f) :
      Provides settings journal f 0

theorem Settings.Provides.mono {settings : Settings} {journal journal' : List Event}
    (hj : journal ⊆ journal') {fn : ValueFunction} {k : Nat} (h : settings.Provides journal fn k) :
    settings.Provides journal' fn k := by
  cases h with
  | copy spec f made noted => exact .copy spec f made fun t ht => hj (noted t ht)
  | ofName name spec f made noted => exact .ofName name spec f made fun t ht => hj (noted t ht)
  | resolver name fn found => exact .resolver name fn found

theorem Workspace.transformMade_noted (w : Workspace) (spec : Option TransformSpec) :
    ∀ t ∈ spec, .transformMade t ∈ (w.noted (spec.toList.map .transformMade)).journal := by
  intro t ht
  simp [Workspace.noted, Option.mem_def.mp ht]

def Built.ids : Built → List NodeId
  | one id => [id]
  | many ids => ids

namespace Workspace

/-- What a conversion keeps up: the nodes from `base` on are formed, and the primary nodes are among
them. -/
structure Sound (settings : Settings) (base : NodeId) (w : Workspace) : Prop where
  base_le : base ≤ w.store.size
  formed : w.store.Formed (settings.Provides w.journal) base
  registered : ∀ p id, w.registry.lookup p = some id → w.store.Readable base w.store.size id

/-- The workspace `w'` comes after `w`, with the nodes `ids` to show for it. -/
structure Grown (settings : Settings) (base : NodeId) (w : Workspace) (ids : List NodeId)
    (w' : Workspace) : Prop where
  sound : w'.Sound settings base
  keeps : w.store.Keeps w'.store
  readable : ∀ id ∈ ids, w'.store.Readable base w'.store.size id

variable {settings : Settings} {base id : NodeId} {w w' w'' : Workspace} {ids ids' : List NodeId}

theorem Sound.noted (h : w.Sound settings base) (events : List Event) :
    (w.noted events).Sound settings base where
  base_le := h.base_le
  formed := h.formed.keeps (Store.Keeps.refl _) rfl
    fun _ _ ha => ha.mono (List.subset_append_left _ _)
  registered := h.registered

theorem Sound.withLastText (h : w.Sound settings base) (lines : Option Lines) :
    (w.withLastText lines).Sound settings base :=
  ⟨h.base_le, h.formed, h.registered⟩

theorem Sound.after (h : w.Sound settings base) (e : Element) :
    (w.after e).Sound settings base := by
  unfold Workspace.after
  split
  · exact h
  · exact h.withLastText none

theorem Sound.withStore (h : w.Sound settings base) {s : Store} (hk : w.store.Keeps s)
    (hsize : s.size = w.store.size) : Sound settings base { w with store := s } where
  base_le := by
    rw [hsize]
    exact h.base_le
  formed := h.formed.keeps hk hsize fun _ _ ha => ha
  registered p id hid := by
    rw [hsize]
    exact (h.registered p id hid).keeps hk (Nat.le_refl _)

theorem Sound.compacted (h : w.Sound settings base) (ids : List NodeId) :
    (w.compacted ids).Sound settings base :=
  (h.noted (w.store.compactionEvents ids)).withStore (Store.keeps_compact _ ids)
    (Store.size_compact _ ids)

theorem Sound.registering (h : w.Sound settings base) (p : Int)
    (hid : w.store.Readable base w.store.size id) :
    (w.registered p id).Sound settings base where
  base_le := h.base_le
  formed := h.formed.keeps (Store.Keeps.refl _) rfl
    fun _ _ ha => ha.mono (List.subset_append_left _ _)
  registered q x hx := by
    rcases Registry.lookup_register_some hx with hx | rfl
    · exact h.registered q x hx
    · exact hid

theorem Sound.adding (h : w.Sound settings base) {n : Node}
    (hn : n.Formed (settings.Provides w.journal) w.store base w.store.size)
    (position : Option Int) : (w.added n position).Sound settings base where
  base_le := by
    rw [store_added, Store.size_add]
    exact Nat.le_succ_of_le h.base_le
  formed := h.formed.add hn position
  registered p id hid := by
    have hr := (h.registered p id hid).keeps (Store.keeps_add w.store n position) (Nat.le_refl _)
    exact hr.older (by simp)

theorem readable_added (hb : base ≤ w.store.size) {n : Node} (hn : n ≠ .vacant)
    (position : Option Int) :
    (w.added n position).store.Readable base (w.added n position).store.size w.store.size :=
  Store.readable_add hb hn position

theorem Sound.grown_added (h : w.Sound settings base) {n : Node} (hv : n ≠ .vacant)
    (hn : n.Formed (settings.Provides w.journal) w.store base w.store.size)
    (position : Option Int) : Grown settings base w [w.store.size] (w.added n position) where
  sound := h.adding hn position
  keeps := Store.keeps_add _ _ _
  readable id hid := by
    rw [List.mem_singleton.mp hid]
    exact readable_added h.base_le hv position

theorem Grown.refl (h : w.Sound settings base)
    (hids : ∀ id ∈ ids, w.store.Readable base w.store.size id) : Grown settings base w ids w :=
  ⟨h, Store.Keeps.refl _, hids⟩

theorem Grown.trans (h : Grown settings base w ids w') (h' : Grown settings base w' ids' w'') :
    Grown settings base w (ids ++ ids') w'' where
  sound := h'.sound
  keeps := h.keeps.trans h'.keeps
  readable id hid := by
    rcases List.mem_append.mp hid with hl | hr
    · have hr := (h.readable id hl).keeps h'.keeps (Nat.le_refl _)
      exact hr.older h'.keeps.size_le
    · exact h'.readable id hr

theorem Grown.of_keeps (hk : w.store.Keeps w'.store) (h : Grown settings base w' ids w'') :
    Grown settings base w ids w'' :=
  ⟨h.sound, hk.trans h.keeps, h.readable⟩

theorem Grown.of_noted {events : List Event} (h : Grown settings base (w.noted events) ids w') :
    Grown settings base w ids w' :=
  ⟨h.sound, h.keeps, h.readable⟩

theorem Grown.of_withLastText {lines : Option Lines}
    (h : Grown settings base (w.withLastText lines) ids w') : Grown settings base w ids w' :=
  ⟨h.sound, h.keeps, h.readable⟩

theorem Grown.after (h : Grown settings base w ids w') (e : Element) :
    Grown settings base w ids (w'.after e) where
  sound := h.sound.after e
  keeps := by simpa using h.keeps
  readable := by simpa using h.readable

theorem Grown.compacted (h : Grown settings base w ids w') (ids' : List NodeId) :
    Grown settings base w ids (w'.compacted ids') where
  sound := h.sound.compacted ids'
  keeps := h.keeps.trans (Store.keeps_compact _ _)
  readable id hid := by simpa [Store.Readable] using h.readable id hid

theorem Grown.positioned (h : Grown settings base w ids w') (x : NodeId) (p : Int) :
    Grown settings base w ids (w'.positioned x p) where
  sound := h.sound.withStore (Store.keeps_setPosition _ _ _) (Store.size_setPosition _ _ _)
  keeps := h.keeps.trans (Store.keeps_setPosition _ _ _)
  readable id hid := by simpa [Store.Readable] using h.readable id hid

theorem Grown.registered (h : Grown settings base w [id] w') (p : Int) :
    Grown settings base w [id] (w'.registered p id) where
  sound := h.sound.registering p (h.readable id (by simp))
  keeps := h.keeps
  readable := h.readable

/-- No node of a formed part is a row, so what was built is what siblings get. -/
theorem Grown.spliced_eq {built : Built} (h : Grown settings base w built.ids w') :
    Conversion.spliced w'.store built = built.ids := by
  cases built with
  | many ids => rfl
  | one id =>
    have hr := h.readable id (by simp [Built.ids])
    obtain ⟨n, hn⟩ := Store.exists_node? hr.2.1
    have hf := h.sound.formed id n hr.1 hn
    simp only [Conversion.spliced, hn]
    cases n with
    | row members => exact hf.elim
    | _ => rfl

end Workspace

namespace Conversion

open Workspace

variable {settings : Settings} {base id : NodeId} {w w' : Workspace}

theorem mirroring_grown (h : w.Sound settings base) {position : Int} {spec : Option TransformSpec}
    {primary : NodeId} (hp : w.registry.lookup position = some primary)
    (hr : mirroring settings w position spec primary = .ok id w') :
    Grown settings base w [id] w' := by
  obtain ⟨f, hf, rfl, rfl⟩ := mirroring_ok hr
  have hs := (h.noted [.mirrored position]).noted (spec.toList.map .transformMade)
  have hg := hs.grown_added (n := .computed (.copy f) [primary]) (by simp)
    ⟨.copy spec f hf (transformMade_noted _ spec),
      fun d hd => List.mem_singleton.mp hd ▸ h.registered position primary hp⟩ none
  exact hg.of_noted.of_noted

theorem wrapping_grown (h : w.Sound settings base)
    (hid : w.store.Readable base w.store.size id) {name : String} {id' : NodeId}
    (hr : wrapping w id name = .ok id' w') : Grown settings base w [id'] w' := by
  obtain ⟨-, rfl, rfl⟩ | ⟨indent, -, rfl, rfl⟩ := wrapping_ok hr
  · exact Grown.refl h fun x hx => List.mem_singleton.mp hx ▸ hid
  · exact h.grown_added (n := .wrap id indent) (by simp) hid none

theorem computed_grown (h : w.Sound settings base) {fn : ValueFunction}
    (hfn : settings.Provides w.journal fn 0) :
    Grown settings base w [w.store.size] (w.added (.computed fn []) none) :=
  h.grown_added (n := .computed fn []) (by simp) ⟨hfn, by simp⟩ none

theorem varying_grown (h : w.Sound settings base) {name : String} {spec : Option TransformSpec}
    (hr : varying settings w name spec = .ok id w') : Grown settings base w [id] w' := by
  obtain ⟨-, f, hf, hw⟩ | ⟨-, f, hl, hw⟩ | ⟨-, -, rfl, rfl⟩ := varying_ok hr
  · have hs := h.noted (spec.toList.map .transformMade)
    have hg := computed_grown hs (.ofName name spec f hf (transformMade_noted w spec))
    exact (wrapping_grown hg.sound (hg.readable _ (by simp)) hw).of_keeps hg.keeps
  · have hg := computed_grown h (.resolver name f hl)
    exact (wrapping_grown hg.sound (hg.readable _ (by simp)) hw).of_keeps hg.keeps
  · have hs := h.noted [.unknownVariable name]
    exact (hs.grown_added (n := .text [""]) (by simp) (by simp [Node.Formed]) none).of_noted

/-- A live body is embedded with the position of its placeholder; a static one gets a slot and a
dynamic node. -/
theorem embodying_grown (h : w.Sound settings base)
    (hpolicy : settings.policy.assembler = Assembler.embed) {ids : List NodeId}
    (hids : ∀ id ∈ ids, w.store.Readable base w.store.size id) {position : Int}
    (hr : embodying settings w position ids = .ok id w') : Grown settings base w [id] w' := by
  have hg := h.grown_added (n := .group ids) (by simp) hids none
  have hread := hg.readable w.store.size (by simp)
  obtain ⟨-, rfl, rfl⟩ | ⟨hstatic, rfl, rfl⟩ := embodying_ok hpolicy hr
  · exact hg.positioned w.store.size position
  · have hslot := (hg.sound.noted [.flattened position]).adding (n := .vacant) trivial none
    have hk := Store.keeps_add (w.added (.group ids) none).store .vacant none
    have hbody := (hread.keeps hk (Nat.le_refl _)).older hk.size_le
    -- The body stands before the slot, and the slot right before the dynamic node.
    have hd := hslot.grown_added
      (n := .dynamic (some (.body w.store.size)) (w.added (.group ids) none).store.size) (by simp)
      ⟨hg.sound.base_le, (Store.size_add _ _ _).symm, _, rfl, hbody,
        Store.isInteractive_keeps hk hstatic⟩ (some position)
    simp only [Workspace.store_added, Workspace.store_noted, Store.size_add] at hd
    exact hd.of_keeps (hg.keeps.trans hk)

mutual

/-- Converting an element of the grammar keeps all nodes, and adds formed ones. -/
theorem convert_grown (hpolicy : settings.policy.assembler = Assembler.embed) (e : Element)
    (hg : e.grammatical) {w w' : Workspace} (h : w.Sound settings base) {built : Built}
    (hr : convert settings e w = .ok built w') : Grown settings base w built.ids w' := by
  match e with
  | .text content =>
    rw [convert_text] at hr
    cases hr
    have hs := h.withLastText (some (Lines.ofText content))
    exact (hs.grown_added (n := .text (Lines.ofText content)) (by simp)
      (Lines.ofText_ne_nil content) none).of_withLastText
  | .choice position items =>
    rw [convert_choice] at hr
    cases hr
    refine h.grown_added (n := .choice (items.map Lines.ofText) 0) (by simp) ⟨?_, ?_⟩ _
    · simp [Lines.ofText_ne_nil]
    · cases items <;> simp
  | .tabstop position spec =>
    rw [convert_tabstop] at hr
    split at hr
    · next primary hp =>
      obtain ⟨id, w₁, hm, hc⟩ := chain_eq_ok hr
      cases hc
      exact mirroring_grown h hp hm
    · cases hr
      exact (h.grown_added (n := .tabstop none none) (by simp) (by simp [Node.Formed])
        (some position)).registered position
  | .placeholder position spec children =>
    rw [convert_placeholder] at hr
    split at hr
    · next primary hp =>
      obtain ⟨id, w₁, hm, hc⟩ := chain_eq_ok hr
      cases hc
      exact mirroring_grown h hp hm
    · split at hr
      · next content hl =>
        cases hr
        exact (h.grown_added (n := .tabstop (some content) none) (by simp) (by simp [Node.Formed])
          (some position)).registered position
      · obtain ⟨ids, w₁, hall, hr⟩ := chain_eq_ok hr
        obtain ⟨id, w₂, hbody, hr⟩ := chain_eq_ok hr
        cases hr
        have hga := convertAll_grown hpolicy children hg (h.withLastText none) hall
        have hgc := hga.compacted ids
        have hgb := (embodying_grown hgc.sound hpolicy hgc.readable hbody).of_keeps hgc.keeps
        exact hgb.of_withLastText.registered position
  | .var name spec =>
    rw [convert_var] at hr
    obtain ⟨id, w₁, hv, hr⟩ := chain_eq_ok hr
    cases hr
    exact varying_grown h hv
  | .snippet children =>
    rw [convert_snippet] at hr
    obtain ⟨ids, w₁, hall, hr⟩ := chain_eq_ok hr
    cases hr
    exact (convertAll_grown hpolicy children hg (h.withLastText none) hall).of_withLastText.compacted
      ids
  | .ownText content => simp [Element.grammatical, Element.inGrammar] at hg
  | .ownSnippet children => simp [Element.grammatical, Element.inGrammar] at hg
  | .custom kind => simp [Element.grammatical, Element.inGrammar] at hg
  | .built id => simp [Element.grammatical, Element.inGrammar] at hg

theorem convertAll_grown (hpolicy : settings.policy.assembler = Assembler.embed)
    (es : List Element) (hg : Element.grammaticalAll es) {w w' : Workspace}
    (h : w.Sound settings base) {ids : List NodeId}
    (hr : convertAll settings es w = .ok ids w') : Grown settings base w ids w' := by
  match es with
  | [] =>
    rw [convertAll_nil] at hr
    cases hr
    exact Grown.refl h (by simp)
  | e :: es =>
    simp only [Element.grammaticalAll, Bool.and_eq_true] at hg
    rw [convertAll_cons] at hr
    obtain ⟨built, w₁, he, hr⟩ := chain_eq_ok hr
    obtain ⟨rest, w₂, hes, hr⟩ := chain_eq_ok hr
    cases hr
    have hge := convert_grown hpolicy e hg.1 h he
    have hges := convertAll_grown hpolicy es hg.2 (hge.sound.after e) hes
    -- The first element may clear the last text, which the nodes do not depend on.
    rw [hge.spliced_eq]
    exact (hge.after e).trans hges

end

end Conversion

/-! ## Whole compilations -/

def Workspace.fresh (s : Store) : Workspace := ⟨s, [], none, []⟩

theorem Workspace.sound_fresh (settings : Settings) (s : Store) :
    (fresh s).Sound settings s.size where
  base_le := Nat.le_refl _
  formed _ _ hb hn := absurd (Store.lt_size hn) (Nat.not_lt_of_le hb)
  registered _ _ hid := by cases hid

/-- What conversion in a context starts with. -/
def Context.start (c : Context) (s : Store) : Workspace :=
  ⟨s, c.registry, c.lastText, []⟩

section Runs

variable {α : Type} (c : Context) (s : Store) (m : Settings → Conversion α)

theorem Context.outcome_run : (c.run s m).outcome = outcome (m c.settings (c.start s)) := by
  unfold run start
  cases m c.settings ⟨s, c.registry, c.lastText, []⟩ <;> rfl

theorem Context.store_run :
    (c.run s m).store = (Conversion.last (m c.settings (c.start s))).store := by
  unfold run start
  cases m c.settings ⟨s, c.registry, c.lastText, []⟩ <;> rfl

theorem Context.events_run :
    (c.run s m).events = (Conversion.last (m c.settings (c.start s))).journal := by
  unfold run start
  cases m c.settings ⟨s, c.registry, c.lastText, []⟩ <;> rfl

end Runs

theorem compileSnippet_fresh [Pattern.CharacterNames] (o : Options) (e : Element) (s : Store) :
    compileSnippet none o e s =
      let leave (outcome : Except Error (List NodeId)) (w : Workspace) : Run (List NodeId) :=
        ⟨outcome, w.store, { Context.fresh o with registry := w.registry, lastText := w.lastText },
          w.journal⟩
      match Conversion.convert (Context.fresh o).settings e (.fresh s) with
      | .ok built w => .ok (leave (.ok (Conversion.spliced w.store built)) w)
      | .error err w => .ok (leave (.error err) w) := by
  simp only [compileSnippet, Context.choose, Context.run, Except.map, Conversion.bind_apply]
  unfold Workspace.fresh Context.fresh
  dsimp only
  cases Conversion.convert _ e ⟨s, [], none, []⟩ <;> rfl

/-- A compilation that succeeds is a conversion that does. The nodes that it adds are formed, and
those that it gives are among them. -/
theorem compileSnippet_ok [Pattern.CharacterNames] {o : Options}
    (hpolicy : (Context.fresh o).settings.policy.assembler = Assembler.embed) {e : Element}
    (hg : e.grammatical) {s : Store} {run : Run (List NodeId)}
    (hc : compileSnippet none o e s = .ok run) {ids : List NodeId} (hids : run.outcome = .ok ids) :
    ∃ built w, Conversion.convert (Context.fresh o).settings e (.fresh s) = .ok built w ∧
      ids = built.ids ∧ run.store = w.store ∧ run.events = w.journal ∧
      Workspace.Grown (Context.fresh o).settings s.size (.fresh s) ids w := by
  rw [compileSnippet_fresh] at hc
  cases hconv : Conversion.convert (Context.fresh o).settings e (.fresh s) with
  | error err w =>
    rw [hconv] at hc
    cases hc
    cases hids
  | ok built w =>
    have hgrown := Conversion.convert_grown hpolicy e hg (Workspace.sound_fresh _ s) hconv
    rw [hconv] at hc
    cases hc
    cases hids
    rw [hgrown.spliced_eq]
    exact ⟨built, w, rfl, rfl, rfl, rfl, hgrown⟩

end Snippet
