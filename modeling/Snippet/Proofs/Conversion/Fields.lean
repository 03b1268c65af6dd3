import Snippet.Proofs.Conversion.Growth

/-!
The nodes of an element can change during editing just where the element has a field. So whether a
placeholder body is flattened can be told from the body alone.
-/

namespace Snippet

theorem Built.any_one (id : NodeId) (f : NodeId → Bool) : (one id).ids.any f = f id := by
  simp [ids]

namespace Conversion

open Workspace

variable {settings : Settings} {base id : NodeId} {w w' : Workspace} {ids : List NodeId}

theorem any_isInteractive_grown {ids' : List NodeId} (h : w.Sound settings base)
    (hids : ∀ id ∈ ids, w.store.Readable base w.store.size id) (hg : Grown settings base w ids' w') :
    ids.any w'.store.isInteractive = ids.any w.store.isInteractive :=
  any_congr_of_mem fun id hid => h.formed.isInteractive_eq hg.keeps (hids id hid).1 (hids id hid).2.1

theorem mirroring_isInteractive (h : w.Sound settings base) {position : Int}
    {spec : Option TransformSpec} {primary : NodeId} (hp : w.registry.lookup position = some primary)
    (hr : mirroring settings w position spec primary = .ok id w') :
    w'.store.isInteractive id = true := by
  have hg := mirroring_grown h hp hr
  obtain ⟨f, -, rfl, rfl⟩ := mirroring_ok hr
  exact hg.sound.formed.isInteractive_add h.base_le

theorem wrapping_isInteractive (h : w.Sound settings base)
    (hid : w.store.Readable base w.store.size id) {name : String} {id' : NodeId}
    (hr : wrapping w id name = .ok id' w') :
    w'.store.isInteractive id' = w.store.isInteractive id := by
  have hg := wrapping_grown h hid hr
  obtain ⟨-, rfl, rfl⟩ | ⟨indent, -, rfl, rfl⟩ := wrapping_ok hr
  · rfl
  · rw [store_added, hg.sound.formed.isInteractive_add h.base_le, Node.isLive]
    exact h.formed.isInteractive_eq hg.keeps hid.1 hid.2.1

theorem varying_isInteractive (h : w.Sound settings base) {name : String}
    {spec : Option TransformSpec} (hr : varying settings w name spec = .ok id w') :
    w'.store.isInteractive id = false := by
  have hg := varying_grown h hr
  obtain ⟨-, f, hf, hw⟩ | ⟨-, f, hl, hw⟩ | ⟨-, -, rfl, rfl⟩ := varying_ok hr
  · have hs := h.noted (spec.toList.map .transformMade)
    have hc := computed_grown hs (.ofName name spec f hf (transformMade_noted w spec))
    rw [wrapping_isInteractive hc.sound (hc.readable _ (by simp)) hw]
    exact hc.sound.formed.isInteractive_add h.base_le
  · have hc := computed_grown h (.resolver name f hl)
    rw [wrapping_isInteractive hc.sound (hc.readable _ (by simp)) hw]
    exact hc.sound.formed.isInteractive_add h.base_le
  · exact hg.sound.formed.isInteractive_add h.base_le

theorem embodying_isInteractive (h : w.Sound settings base)
    (hpolicy : settings.policy.assembler = Assembler.embed)
    (hids : ∀ id ∈ ids, w.store.Readable base w.store.size id) {position : Int}
    (hr : embodying settings w position ids = .ok id w') : w'.store.isInteractive id = true := by
  have hg := embodying_grown h hpolicy hids hr
  -- The group is there only if it can change, and a dynamic node always can.
  obtain ⟨hlive, rfl, rfl⟩ | ⟨-, rfl, rfl⟩ := embodying_ok hpolicy hr
  · have hgroup := h.grown_added (n := .group ids) (by simp) hids none
    have hr := hgroup.readable w.store.size (by simp)
    have hk := Store.keeps_setPosition (w.added (.group ids) none).store w.store.size (some position)
    rw [store_positioned, hgroup.sound.formed.isInteractive_eq hk hr.1 hr.2.1, hlive]
  · have hb : base ≤ w.store.size + 2 := Nat.le_add_right_of_le h.base_le
    rw [hg.sound.formed.isInteractive_node (n := .dynamic (some (.body w.store.size))
      (w.store.size + 1)) hb (by simp [Store.node?_add])]
    rfl

mutual

/-- What is built from an element can change just where the element has a field. -/
theorem convert_isInteractive (hpolicy : settings.policy.assembler = Assembler.embed) (e : Element)
    (hg : e.grammatical) {w w' : Workspace} (h : w.Sound settings base) {built : Built}
    (hr : convert settings e w = .ok built w') :
    built.ids.any w'.store.isInteractive = e.hasField := by
  have hgrown := convert_grown hpolicy e hg h hr
  match e with
  | .text content =>
    rw [convert_text] at hr
    cases hr
    rw [Built.any_one]
    exact hgrown.sound.formed.isInteractive_add h.base_le
  | .choice position items =>
    rw [convert_choice] at hr
    cases hr
    rw [Built.any_one]
    exact hgrown.sound.formed.isInteractive_add h.base_le
  | .tabstop position spec =>
    rw [convert_tabstop] at hr
    split at hr
    · next primary hp =>
      obtain ⟨id, w₁, hm, hc⟩ := chain_eq_ok hr
      cases hc
      rw [Built.any_one]
      exact mirroring_isInteractive h hp hm
    · cases hr
      rw [Built.any_one]
      exact hgrown.sound.formed.isInteractive_add h.base_le
  | .placeholder position spec children =>
    rw [convert_placeholder] at hr
    split at hr
    · next primary hp =>
      obtain ⟨id, w₁, hm, hc⟩ := chain_eq_ok hr
      cases hc
      rw [Built.any_one]
      exact mirroring_isInteractive h hp hm
    · split at hr
      · next content hl =>
        cases hr
        rw [Built.any_one]
        exact hgrown.sound.formed.isInteractive_add h.base_le
      · obtain ⟨ids, w₁, hall, hr⟩ := chain_eq_ok hr
        obtain ⟨id, w₂, hbody, hr⟩ := chain_eq_ok hr
        cases hr
        have hga := convertAll_grown hpolicy children hg (h.withLastText none) hall
        have hgc := hga.compacted ids
        rw [Built.any_one, store_registered]
        exact embodying_isInteractive hgc.sound hpolicy hgc.readable hbody
  | .var name spec =>
    rw [convert_var] at hr
    obtain ⟨id, w₁, hv, hr⟩ := chain_eq_ok hr
    cases hr
    rw [Built.any_one]
    exact varying_isInteractive h hv
  | .snippet children =>
    rw [convert_snippet] at hr
    obtain ⟨ids, w₁, hall, hr⟩ := chain_eq_ok hr
    cases hr
    have hga := convertAll_grown hpolicy children hg (h.withLastText none) hall
    have hk := Store.keeps_compact w₁.store ids
    rw [Element.hasField, ← convertAll_isInteractive hpolicy children hg (h.withLastText none) hall]
    exact any_congr_of_mem fun id hid =>
      hga.sound.formed.isInteractive_eq hk (hga.readable id hid).1 (hga.readable id hid).2.1
  | .ownText content => simp [Element.grammatical, Element.inGrammar] at hg
  | .ownSnippet children => simp [Element.grammatical, Element.inGrammar] at hg
  | .custom kind => simp [Element.grammatical, Element.inGrammar] at hg
  | .built id => simp [Element.grammatical, Element.inGrammar] at hg

theorem convertAll_isInteractive (hpolicy : settings.policy.assembler = Assembler.embed)
    (es : List Element) (hg : Element.grammaticalAll es) {w w' : Workspace}
    (h : w.Sound settings base) {ids : List NodeId}
    (hr : convertAll settings es w = .ok ids w') :
    ids.any w'.store.isInteractive = Element.hasFieldAmong es := by
  match es with
  | [] =>
    rw [convertAll_nil] at hr
    cases hr
    rfl
  | e :: es =>
    simp only [Element.grammaticalAll, Bool.and_eq_true] at hg
    rw [convertAll_cons] at hr
    obtain ⟨built, w₁, he, hr⟩ := chain_eq_ok hr
    obtain ⟨rest, w₂, hes, hr⟩ := chain_eq_ok hr
    cases hr
    have hge := convert_grown hpolicy e hg.1 h he
    have hga := hge.after e
    have hges := convertAll_grown hpolicy es hg.2 hga.sound hes
    -- The nodes of the first element can change as before when the later siblings are added.
    rw [hge.spliced_eq, List.any_append, Element.hasFieldAmong,
      convertAll_isInteractive hpolicy es hg.2 hga.sound hes,
      any_isInteractive_grown hga.sound hga.readable hges, store_after,
      convert_isInteractive hpolicy e hg.1 h he]

end

end Conversion

end Snippet
