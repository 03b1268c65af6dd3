import Snippet.Proofs.Conversion.Placing
import Snippet.Proofs.Store.Dense

/-!
A row of siblings among which no template is nested. Each sibling has one node, which carries the
declared position into compaction: that of a choice, of the first tabstop or placeholder of a position,
or the one that the node had before. So the row is numbered in the order that is declared.
-/

namespace Snippet

/-- The node has its text from other nodes or the scope, as a mirror has. -/
def Store.isComputed (s : Store) (id : NodeId) : Bool :=
  match s.node? id with
  | some (.computed _ _) => true
  | _ => false

namespace Element

/-- The first element of its position gets the primary node, and others get mirrors. -/
def registers : Element → Bool
  | tabstop _ _ => true
  | placeholder _ _ _ => true
  | _ => false

/-- The position that the node `id` of an element in `t` is declared with. A mirror has none, and a node
that stands ready has the one that it had in `s`. -/
def declared? (s t : Store) (id : NodeId) : Element → Option Int
  | choice position _ => some position
  | tabstop position _ => if t.isComputed id then none else some position
  | placeholder position _ _ => if t.isComputed id then none else some position
  | built _ => s.position? id
  | _ => none

theorem declared?_congr (s : Store) {t u : Store} {id : NodeId} (h : u.node? id = t.node? id)
    (e : Element) : e.declared? s u id = e.declared? s t id := by
  have hc : u.isComputed id = t.isComputed id := by rw [Store.isComputed, Store.isComputed, h]
  cases e with
  | tabstop position spec => rw [declared?, declared?, hc]
  | placeholder position spec children => rw [declared?, declared?, hc]
  | _ => rfl

/-- Outside of nested templates, what stands ready inside an element stands in a body. -/
theorem inside_subset_bodySupplies {e : Element} (h : ∀ children, e ≠ snippet children) :
    e.inside ⊆ e.bodySupplies.flatten := by
  intro id hid
  cases e with
  | placeholder position spec children =>
    simpa [bodySupplies] using (mem_suppliedAll children id).mp hid
  | snippet children => exact absurd rfl (h children)
  | _ => exact absurd hid List.not_mem_nil

theorem flatMap_inside_subset_bodySupplies {es : List Element}
    (h : ∀ children, snippet children ∉ es) : es.flatMap inside ⊆ (bodySuppliesAll es).flatten := by
  induction es with
  | nil => exact List.nil_subset _
  | cons e es ih =>
    have he : ∀ children, e ≠ snippet children := fun children he => h children (by simp [he])
    have hes := ih fun children hmem => h children (by simp [hmem])
    rw [List.flatMap_cons, bodySuppliesAll, List.flatten_append]
    exact List.append_subset.mpr
      ⟨fun x hx => List.mem_append_left _ (inside_subset_bodySupplies he hx),
        fun x hx => List.mem_append_right _ (hes hx)⟩

end Element

/-- The nodes `ids` of siblings are numbered in the declared order, and what is not numbered keeps its
position. -/
structure Ordered (s t : Store) (es : List Element) (ids : List NodeId) : Prop where
  length : ids.length = es.length
  /-- A smaller declared position comes first, and so does the node that stands first at equal ones. -/
  order : ∀ e a f b p q, (e, a) ∈ es.zip ids → (f, b) ∈ es.zip ids →
    Element.declared? s t a e = some p → Element.declared? s t b f = some q → 0 < p →
      (p < q ∨ p = q ∧ ids.idxOf a < ids.idxOf b) →
        ∃ m n, t.position? a = some m ∧ t.position? b = some n ∧ 0 < m ∧ m < n
  /-- Only choices and nodes that stood ready can share a position with another node. -/
  shared : ∀ e a f b p, (e, a) ∈ es.zip ids → (f, b) ∈ es.zip ids → a ≠ b →
    Element.declared? s t a e = some p → Element.declared? s t b f = some p →
      e.registers = false ∨ f.registers = false
  rest : ∀ e a p, (e, a) ∈ es.zip ids → Element.declared? s t a e = some p → p ≤ 0 →
    t.position? a = some p

theorem Ordered.congr {s t u : Store} {es : List Element} {ids : List NodeId}
    (h : Ordered s t es ids) (hnode : ∀ id ∈ ids, u.node? id = t.node? id)
    (hposition : ∀ id ∈ ids, u.position? id = t.position? id) : Ordered s u es ids := by
  have hdeclared : ∀ e a, (e, a) ∈ es.zip ids →
      Element.declared? s u a e = Element.declared? s t a e :=
    fun e a hmem => Element.declared?_congr s (hnode a (List.of_mem_zip hmem).2) e
  refine ⟨h.length, ?_, ?_, ?_⟩
  · intro e a f b p q ha hb hp hq
    rw [hdeclared e a ha] at hp
    rw [hdeclared f b hb] at hq
    rw [hposition a (List.of_mem_zip ha).2, hposition b (List.of_mem_zip hb).2]
    exact h.order e a f b p q ha hb hp hq
  · intro e a f b p ha hb hne hp hq
    rw [hdeclared e a ha] at hp
    rw [hdeclared f b hb] at hq
    exact h.shared e a f b p ha hb hne hp hq
  · intro e a p ha hp
    rw [hdeclared e a ha] at hp
    rw [hposition a (List.of_mem_zip ha).2]
    exact h.rest e a p ha hp

namespace Conversion

open Workspace Element

variable {settings : Settings} {s : Store} {w w' : Workspace} {id : NodeId}

theorem position?_added (w : Workspace) (n : Node) (p : Option Int) :
    (w.added n p).store.position? w.store.size = p := by
  rw [store_added, Store.position?_add, if_pos rfl]

theorem isComputed_added (w : Workspace) (n : Node) (p : Option Int) :
    (w.added n p).store.isComputed w.store.size =
      match n with
      | .computed _ _ => true
      | _ => false := by
  rw [Store.isComputed, store_added, Store.node?_add, if_pos rfl]
  cases n <;> rfl

theorem mirroring_declared {position : Int} {spec : Option TransformSpec} {primary : NodeId}
    (hr : mirroring settings w position spec primary = .ok id w') :
    w'.store.position? id = none ∧ w'.store.isComputed id = true := by
  obtain ⟨f, -, rfl, rfl⟩ := mirroring_ok hr
  exact ⟨position?_added _ _ _, isComputed_added _ _ _⟩

theorem wrapping_declared (h : w.store.position? id = none) {name : String} {id' : NodeId}
    (hr : wrapping w id name = .ok id' w') : w'.store.position? id' = none := by
  obtain ⟨-, rfl, rfl⟩ | ⟨indent, -, rfl, rfl⟩ := wrapping_ok hr
  · exact h
  · exact position?_added _ _ _

theorem varying_declared {name : String} {spec : Option TransformSpec}
    (hr : varying settings w name spec = .ok id w') : w'.store.position? id = none := by
  obtain ⟨-, f, -, hw⟩ | ⟨-, f, -, hw⟩ | ⟨-, -, rfl, rfl⟩ := varying_ok hr
  · exact wrapping_declared (position?_added _ _ _) hw
  · exact wrapping_declared (position?_added _ _ _) hw
  · exact position?_added _ _ _

theorem embodying_declared (hpolicy : settings.policy.assembler = Assembler.embed) {position : Int}
    {ids : List NodeId} (hr : embodying settings w position ids = .ok id w') :
    w'.store.position? id = some position ∧ w'.store.isComputed id = false := by
  obtain ⟨-, rfl, rfl⟩ | ⟨-, rfl, rfl⟩ := embodying_ok hpolicy hr
  · refine ⟨?_, ?_⟩
    · rw [store_positioned, Store.position?_setPosition, if_pos ⟨rfl, by simp⟩]
    · rw [Store.isComputed, store_positioned, Store.node?_setPosition]
      exact isComputed_added w (.group ids) none
  · have hsize : (((w.added (.group ids) none).noted [.flattened position]).added .vacant
        none).store.size = w.store.size + 2 := by simp
    rw [← hsize]
    exact ⟨position?_added _ _ _, isComputed_added _ _ _⟩

theorem lookup_registered_isSome (w : Workspace) (p : Int) (id : NodeId) :
    ((w.registered p id).registry.lookup p).isSome := by
  rw [registry_registered, Registry.lookup_register, if_pos rfl, Option.isSome_or,
    Option.isSome_some, Bool.or_true]

/-- From `w` to `w'` the element gets the node `id`, which has the declared position. If the position is
registered with it, it was not before. -/
def Declared (s : Store) (w w' : Workspace) (e : Element) (id : NodeId) : Prop :=
  w'.store.position? id = e.declared? s w'.store id ∧
    (e.registers = true → ∀ p, e.declared? s w'.store id = some p →
      w.registry.lookup p = none ∧ (w'.registry.lookup p).isSome)

/-- An element that registers nothing has its node with the position it is declared with, if any. -/
theorem declared_of_plain {e : Element} (hregisters : e.registers = false)
    (hposition : w'.store.position? id = e.declared? s w'.store id) : Declared s w w' e id :=
  ⟨hposition, fun h => by rw [hregisters] at h; cases h⟩

section Registers

variable {e : Element} {position : Int}
  (he : ∀ t x, e.declared? s t x = if t.isComputed x then none else some position)

include he

/-- A mirror has no position, and registers none. -/
theorem declared_of_mirror (hposition : w'.store.position? id = none)
    (hcomputed : w'.store.isComputed id = true) : Declared s w w' e id := by
  have hdeclared : e.declared? s w'.store id = none := by rw [he, if_pos hcomputed]
  exact ⟨hposition.trans hdeclared.symm, fun _ p hp => by rw [hdeclared] at hp; cases hp⟩

/-- The primary node of a position has it, and is registered for it. -/
theorem declared_of_primary (hnew : w.registry.lookup position = none)
    (hposition : w'.store.position? id = some position) (hcomputed : w'.store.isComputed id = false) :
    Declared s w (w'.registered position id) e id := by
  have hdeclared : e.declared? s w'.store id = some position := by
    rw [he, if_neg (Bool.eq_false_iff.mp hcomputed)]
  refine ⟨hposition.trans hdeclared.symm, fun _ p hp => ?_⟩
  obtain rfl : position = p := Option.some.inj (hdeclared.symm.trans hp)
  exact ⟨hnew, lookup_registered_isSome _ _ _⟩

end Registers

/-- An element that is no nested template has one node, with the declared position. -/
theorem convert_declared (hpolicy : settings.policy.assembler = Assembler.embed) {e : Element}
    (hplain : ∀ children, e ≠ .snippet children)
    (hstart : ∀ id ∈ e.rowSupply, w.store.position? id = s.position? id) {built : Built}
    (hr : convert settings e w = .ok built w') : ∃ id, built = .one id ∧ Declared s w w' e id := by
  cases e with
  | text content =>
    rw [convert_text] at hr
    cases hr
    exact ⟨_, rfl, declared_of_plain rfl (position?_added _ _ _)⟩
  | choice position items =>
    rw [convert_choice] at hr
    cases hr
    exact ⟨_, rfl, declared_of_plain rfl (position?_added _ _ _)⟩
  | tabstop position spec =>
    rw [convert_tabstop] at hr
    split at hr
    · obtain ⟨id, w₁, hm, hr⟩ := chain_eq_ok hr
      cases hr
      obtain ⟨hposition, hcomputed⟩ := mirroring_declared hm
      exact ⟨id, rfl, declared_of_mirror (fun _ _ => rfl) hposition hcomputed⟩
    · next hnew =>
      cases hr
      exact ⟨_, rfl, declared_of_primary (fun _ _ => rfl) hnew (position?_added _ _ _)
        (isComputed_added _ _ _)⟩
  | placeholder position spec children =>
    rw [convert_placeholder] at hr
    split at hr
    · obtain ⟨id, w₁, hm, hr⟩ := chain_eq_ok hr
      cases hr
      obtain ⟨hposition, hcomputed⟩ := mirroring_declared hm
      exact ⟨id, rfl, declared_of_mirror (fun _ _ => rfl) hposition hcomputed⟩
    · next hnew =>
      split at hr
      · cases hr
        exact ⟨_, rfl, declared_of_primary (fun _ _ => rfl) hnew (position?_added _ _ _)
          (isComputed_added _ _ _)⟩
      · obtain ⟨ids, w₁, -, hr⟩ := chain_eq_ok hr
        obtain ⟨id, w₂, hbody, hr⟩ := chain_eq_ok hr
        cases hr
        obtain ⟨hposition, hcomputed⟩ := embodying_declared hpolicy hbody
        exact ⟨id, rfl, declared_of_primary (fun _ _ => rfl) hnew hposition hcomputed⟩
  | var name spec =>
    rw [convert_var] at hr
    obtain ⟨id, w₁, hv, hr⟩ := chain_eq_ok hr
    cases hr
    exact ⟨id, rfl, declared_of_plain rfl (varying_declared hv)⟩
  | snippet children => exact absurd rfl (hplain children)
  | ownText content => cases hr
  | ownSnippet children => cases hr
  | custom kind => cases hr
  | built id =>
    cases hr
    exact ⟨id, rfl, declared_of_plain rfl (hstart id (by simp [rowSupply]))⟩

/-- The siblings `es`, converted from `w` on, have the nodes `ids` with the declared positions in `w'`.
No position is registered by two of them, and none that was registered before. -/
structure Declares (s : Store) (w w' : Workspace) (es : List Element) (ids : List NodeId) : Prop where
  length : ids.length = es.length
  placed : ∀ x ∈ es.zip ids, w'.store.position? x.2 = x.1.declared? s w'.store x.2
  first : ∀ x ∈ es.zip ids, x.1.registers = true → ∀ p, x.1.declared? s w'.store x.2 = some p →
    w.registry.lookup p = none
  once : (es.zip ids).Pairwise fun x y => x.1.registers = true → y.1.registers = true → ∀ p,
    x.1.declared? s w'.store x.2 = some p → y.1.declared? s w'.store y.2 ≠ some p

/-- A sibling that keeps its node and its position goes before others that are declared. -/
theorem Declared.cons {w₁ : Workspace} {e : Element} {es : List Element} {rest : List NodeId}
    (h : Declared s w w₁ e id) (hrest : Declares s (w₁.after e) w' es rest)
    (hknown : ∀ p, (w.registry.lookup p).isSome → ((w₁.after e).registry.lookup p).isSome)
    (hnode : w'.store.node? id = w₁.store.node? id)
    (hposition : w'.store.position? id = w₁.store.position? id) :
    Declares s w w' (e :: es) (id :: rest) := by
  obtain ⟨hplaced, hregisters⟩ := h
  have hdeclared := declared?_congr s hnode e
  refine ⟨?length, ?placed, ?first, ?once⟩
  case length => rw [List.length_cons, List.length_cons, hrest.length]
  case placed =>
    intro x hx
    rcases List.mem_cons.mp hx with rfl | hx
    · rw [hposition, hdeclared]
      exact hplaced
    · exact hrest.placed x hx
  case first =>
    intro x hx hreg p hp
    rcases List.mem_cons.mp hx with rfl | hx
    · rw [hdeclared] at hp
      exact (hregisters hreg p hp).1
    · have hnone := hrest.first x hx hreg p hp
      cases hp' : w.registry.lookup p with
      | none => rfl
      | some y =>
        have hknown := hknown p (by rw [hp']; rfl)
        rw [hnone] at hknown
        cases hknown
  case once =>
    refine List.pairwise_cons.mpr ⟨fun y hy hx hreg p hp hq => ?_, hrest.once⟩
    rw [hdeclared] at hp
    have hsome := (hregisters hx p hp).2
    rw [← registry_after w₁ e, hrest.first y hy hreg p hq] at hsome
    cases hsome

theorem convertAll_declares (hpolicy : settings.policy.assembler = Assembler.embed)
    {es : List Element} (hplain : ∀ children, .snippet children ∉ es)
    (hs : ∀ id ∈ suppliedAll es, w.IsSingle id)
    (hseparate : Separate (rowSupplyAll es) (bodySuppliesAll es))
    (hstart : ∀ id ∈ rowSupplyAll es, w.store.position? id = s.position? id) {ids : List NodeId}
    (hr : convertAll settings es w = .ok ids w') : Declares s w w' es ids := by
  induction es generalizing w ids with
  | nil =>
    cases hr
    exact ⟨rfl, by simp, by simp, by simp⟩
  | cons e es ih =>
    rw [convertAll_cons] at hr
    obtain ⟨built, w₁, he, hr⟩ := chain_eq_ok hr
    obtain ⟨rest, w₂, hes, hr⟩ := chain_eq_ok hr
    cases hr
    have hplain₁ : ∀ children, e ≠ .snippet children :=
      fun children heq => hplain children (by simp [heq])
    have hplain₂ : ∀ children, .snippet children ∉ es :=
      fun children hmem => hplain children (by simp [hmem])
    simp only [suppliedAll, List.mem_append] at hs
    simp only [rowSupplyAll, List.mem_append] at hstart
    rw [rowSupplyAll, bodySuppliesAll] at hseparate
    have hfirst := convert_laid hpolicy e (fun id hid => hs id (.inl hid)) he
    have hafter := hfirst.of_store (w₁.store_after e) (w₁.registry_after e)
    obtain ⟨id, rfl, hdeclared⟩ :=
      convert_declared hpolicy hplain₁ (fun id hid => hstart id (.inl hid)) he
    -- What stands ready in the rest of the row has not been moved by the first sibling.
    have hrow : ∀ x ∈ rowSupplyAll es, (w₁.after e).store.position? x = s.position? x := by
      intro x hx
      rw [← hstart x (.inr hx)]
      refine hafter.still x (hs x (.inr ((mem_suppliedAll es x).mpr (.inl hx)))).1 fun hin => ?_
      exact (hseparate.cross (inside_subset_bodySupplies hplain₁ hin)).1 hx
    have hsingle : ∀ x ∈ suppliedAll es, (w₁.after e).IsSingle x :=
      fun x hx => (hs x (.inr hx)).keeps hafter.keeps
    have hrest := ih hplain₂ hsingle hseparate.right hrow hes
    have hlaid := convertAll_laid hpolicy es hsingle hes
    rw [hfirst.spliced_eq]
    -- The node of the first sibling is new or stands ready in the row, so the rest does not move it.
    obtain ⟨hlt, -⟩ := hfirst.single id (by simp [Built.ids])
    have hlt' : id < (w₁.after e).store.size := by rwa [store_after]
    have hstill : w'.store.position? id = w₁.store.position? id := by
      rw [hlaid.still id hlt' ?_, store_after]
      intro hin
      rcases hfirst.brought id (by simp [Built.ids]) with hnew | hgiven
      · have hold := (hs id (.inr (flatMap_inside_subset es hin))).1
        exact absurd hold (Nat.not_lt_of_le hnew)
      · have hbody := flatMap_inside_subset_bodySupplies hplain₂ hin
        exact (hseparate.cross_right hbody).1 hgiven
    have hnode : w'.store.node? id = w₁.store.node? id := by
      rw [hlaid.keeps.node_eq hlt', store_after]
    exact hdeclared.cons hrest hafter.known hnode hstill

/-- Compaction makes a row with the declared positions an ordered one. -/
theorem Declares.ordered {es : List Element} {ids : List NodeId} (h : Declares s w w' es ids) :
    Ordered s (w'.compacted ids).store es ids := by
  have hmem : ∀ {e a}, (e, a) ∈ es.zip ids → a ∈ ids := fun hx => (List.of_mem_zip hx).2
  have hdeclared : ∀ e a, Element.declared? s (w'.compacted ids).store a e =
      Element.declared? s w'.store a e :=
    fun e a => declared?_congr s (by rw [store_compacted, Store.node?_compact]) e
  refine ⟨h.length, ?order, ?shared, ?rest⟩
  case order =>
    intro e a f b p q ha hb hp hq hpos hfirst
    rw [hdeclared, ← h.placed _ ha] at hp
    rw [hdeclared, ← h.placed _ hb] at hq
    exact Store.compact_order (hmem ha) (hmem hb) hp hpos hq hfirst
  case shared =>
    intro e a f b p ha hb hne hp hq
    rw [hdeclared] at hp hq
    -- Of two siblings that register a position one comes first, and the other is a mirror then.
    by_contra hboth
    simp only [not_or, Bool.not_eq_false] at hboth
    obtain ⟨hx, hy⟩ := hboth
    have hpairs : (e, a) ≠ (f, b) := fun he => hne (Prod.mk.inj he).2
    rcases pair_sublist_or ha hb hpairs with hs | hs
    · exact List.pairwise_pair.mp (h.once.sublist hs) hx hy p hp hq
    · exact List.pairwise_pair.mp (h.once.sublist hs) hy hx p hq hp
  case rest =>
    intro e a p ha hp hpos
    rw [hdeclared, ← h.placed _ ha] at hp
    rw [store_compacted, Store.position?_compact_of fun _ => ?_, hp]
    rw [hp, Positions.isNumber, Option.any_some, decide_eq_false_iff_not]
    omega

end Conversion

end Snippet
