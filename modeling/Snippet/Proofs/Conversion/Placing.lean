import Mathlib.Data.List.Basic
import Snippet.Proofs.Conversion.Growth
import Snippet.Proofs.Conversion.Outcomes
import Snippet.Proofs.Store.Ranks

/-!
Where the nodes of a conversion stand. A row of siblings is made of new nodes and of those that stand
ready in it, nested templates opened, and compaction moves these only. So a node that stood in the store
before keeps its position unless it stands ready in a body or in a nested template.
-/

namespace Snippet

namespace Element

mutual

/-- The nodes that stand ready in the row of an element, nested templates opened. -/
def rowSupply : Element → List NodeId
  | snippet children => rowSupplyAll children
  | built id => [id]
  | _ => []

def rowSupplyAll : List Element → List NodeId
  | [] => []
  | e :: es => e.rowSupply ++ rowSupplyAll es

end

mutual

/-- The nodes that stand ready in the rows of the bodies in an element, row by row. -/
def bodySupplies : Element → List (List NodeId)
  | placeholder _ _ children => rowSupplyAll children :: bodySuppliesAll children
  | snippet children => bodySuppliesAll children
  | _ => []

def bodySuppliesAll : List Element → List (List NodeId)
  | [] => []
  | e :: es => e.bodySupplies ++ bodySuppliesAll es

end

/-- The nodes that stand ready inside an element, not in its place. -/
def inside : Element → List NodeId
  | placeholder _ _ children => suppliedAll children
  | snippet children => suppliedAll children
  | _ => []

mutual

theorem mem_supplied (e : Element) (id : NodeId) :
    id ∈ e.supplied ↔ id ∈ e.rowSupply ∨ id ∈ e.bodySupplies.flatten := by
  cases e with
  | placeholder position spec children =>
    simpa [supplied, rowSupply, bodySupplies] using mem_suppliedAll children id
  | snippet children => exact mem_suppliedAll children id
  | _ => simp [supplied, rowSupply, bodySupplies]

theorem mem_suppliedAll (es : List Element) (id : NodeId) :
    id ∈ suppliedAll es ↔ id ∈ rowSupplyAll es ∨ id ∈ (bodySuppliesAll es).flatten := by
  cases es with
  | nil => simp [suppliedAll, rowSupplyAll, bodySuppliesAll]
  | cons e es =>
    rw [suppliedAll, rowSupplyAll, bodySuppliesAll, List.flatten_append, List.mem_append,
      List.mem_append, List.mem_append, mem_supplied e, mem_suppliedAll es]
    constructor
    · rintro ((h | h) | h | h) <;> simp [h]
    · rintro ((h | h) | h | h) <;> simp [h]

end

theorem inside_subset (e : Element) : e.inside ⊆ e.supplied := by
  cases e with
  | placeholder position spec children => exact List.Subset.refl _
  | snippet children => exact List.Subset.refl _
  | _ => exact List.nil_subset _

theorem flatMap_inside_subset (es : List Element) : es.flatMap inside ⊆ suppliedAll es := by
  induction es with
  | nil => exact List.nil_subset _
  | cons e es ih =>
    rw [List.flatMap_cons, suppliedAll]
    exact List.append_subset.mpr ⟨fun x hx => List.mem_append_left _ (e.inside_subset hx),
      fun x hx => List.mem_append_right _ (ih hx)⟩

theorem moved_subset (es : List Element) :
    es.flatMap inside ++ rowSupplyAll es ⊆ suppliedAll es :=
  List.append_subset.mpr
    ⟨flatMap_inside_subset es, fun x hx => (mem_suppliedAll es x).mpr (.inl hx)⟩

end Element

/-- No node stands ready both in a row and in one of the rows of bodies, or in two of these. -/
def Separate (row : List NodeId) (bodies : List (List NodeId)) : Prop :=
  (row :: bodies).Pairwise List.Disjoint

section Separate

variable {row row' : List NodeId} {bodies bodies' : List (List NodeId)} {id : NodeId}

theorem Separate.notMem (h : Separate row bodies) (hid : id ∈ bodies.flatten) : id ∉ row := by
  obtain ⟨body, hbody, hid⟩ := List.mem_flatten.mp hid
  exact fun hrow => (List.pairwise_cons.mp h).1 body hbody hrow hid

theorem Separate.left (h : Separate (row ++ row') (bodies ++ bodies')) : Separate row bodies := by
  obtain ⟨hrow, hbodies⟩ := List.pairwise_cons.mp h
  refine List.pairwise_cons.mpr ⟨fun body hbody x hx hx' => ?_, (List.pairwise_append.mp hbodies).1⟩
  exact hrow body (by simp [hbody]) (by simp [hx]) hx'

theorem Separate.right (h : Separate (row ++ row') (bodies ++ bodies')) :
    Separate row' bodies' := by
  obtain ⟨hrow, hbodies⟩ := List.pairwise_cons.mp h
  refine List.pairwise_cons.mpr
    ⟨fun body hbody x hx hx' => ?_, (List.pairwise_append.mp hbodies).2.1⟩
  exact hrow body (by simp [hbody]) (by simp [hx]) hx'

theorem Separate.cross (h : Separate (row ++ row') (bodies ++ bodies'))
    (hid : id ∈ bodies.flatten) : id ∉ row' ∧ id ∉ bodies'.flatten := by
  have hnot : id ∉ row ++ row' := h.notMem (by simp [hid])
  refine ⟨fun hid' => hnot (by simp [hid']), fun hid' => ?_⟩
  obtain ⟨body, hbody, hid⟩ := List.mem_flatten.mp hid
  obtain ⟨body', hbody', hid'⟩ := List.mem_flatten.mp hid'
  have hcross := (List.pairwise_append.mp (List.pairwise_cons.mp h).2).2.2
  exact hcross body hbody body' hbody' hid hid'

theorem Separate.cross_right (h : Separate (row ++ row') (bodies ++ bodies'))
    (hid : id ∈ bodies'.flatten) : id ∉ row ∧ id ∉ bodies.flatten := by
  have hnot : id ∉ row ++ row' := h.notMem (by simp [hid])
  exact ⟨fun hid' => hnot (by simp [hid']), fun hid' => (h.cross hid').2 hid⟩

theorem Separate.body (h : Separate [] (row :: bodies)) : Separate row bodies :=
  (List.pairwise_cons.mp h).2

end Separate

namespace Workspace

/-- A node, and not several of them in a row. -/
def IsSingle (w : Workspace) (id : NodeId) : Prop :=
  id < w.store.size ∧ ∀ members, w.store.node? id ≠ some (.row members)

/-- The workspace `w'` comes after `w`, with the nodes `ids` to show for it, which are new or among
those `given`. Old nodes keep their positions unless they are among those `touched`. -/
structure Laid (w w' : Workspace) (touched given ids : List NodeId) : Prop where
  keeps : w.store.Keeps w'.store
  known : ∀ p, (w.registry.lookup p).isSome → (w'.registry.lookup p).isSome
  still : ∀ id : Nat, id < w.store.size → id ∉ touched →
    w'.store.position? id = w.store.position? id
  brought : ∀ id : Nat, id ∈ ids → w.store.size ≤ id ∨ id ∈ given
  single : ∀ id ∈ ids, w'.IsSingle id

variable {w w' w'' : Workspace} {touched touched' given given' ids ids' : List NodeId} {id : NodeId}

theorem IsSingle.keeps (h : w.IsSingle id) (hk : w.store.Keeps w'.store) : w'.IsSingle id := by
  refine ⟨Nat.lt_of_lt_of_le h.1 hk.size_le, fun members => ?_⟩
  rw [hk.node_eq h.1]
  exact h.2 members

theorem isSingle_added {n : Node} (hn : ∀ members, n ≠ .row members) (p : Option Int) :
    (w.added n p).IsSingle w.store.size := by
  refine ⟨by simp, fun members => ?_⟩
  rw [store_added, Store.node?_add, if_pos rfl]
  exact fun he => hn members (Option.some.inj he)

theorem Laid.refl (w : Workspace) : Laid w w [] [] [] where
  keeps := Store.Keeps.refl _
  known _ h := h
  still _ _ _ := rfl
  brought _ h := absurd h List.not_mem_nil
  single _ h := absurd h List.not_mem_nil

theorem Laid.trans (h : Laid w w' touched given ids) (h' : Laid w' w'' touched' given' ids') :
    Laid w w'' (touched ++ touched') (given ++ given') (ids ++ ids') where
  keeps := h.keeps.trans h'.keeps
  known p hp := h'.known p (h.known p hp)
  still id hid hnot := by
    rw [h'.still id (Nat.lt_of_lt_of_le hid h.keeps.size_le) fun hmem => hnot (by simp [hmem]),
      h.still id hid fun hmem => hnot (by simp [hmem])]
  brought id hid := by
    rcases List.mem_append.mp hid with hid | hid
    · rcases h.brought id hid with hnew | hgiven
      · exact .inl hnew
      · exact .inr (by simp [hgiven])
    · rcases h'.brought id hid with hnew | hgiven
      · exact .inl (Nat.le_trans h.keeps.size_le hnew)
      · exact .inr (by simp [hgiven])
  single id hid := by
    rcases List.mem_append.mp hid with hid | hid
    · exact (h.single id hid).keeps h'.keeps
    · exact h'.single id hid

theorem Laid.mono (h : Laid w w' touched given ids) (ht : touched ⊆ touched') (hg : given ⊆ given') :
    Laid w w' touched' given' ids where
  keeps := h.keeps
  known := h.known
  still id hid hnot := h.still id hid fun hmem => hnot (ht hmem)
  brought id hid := (h.brought id hid).imp_right fun hgiven => hg hgiven
  single := h.single

/-- A step that touches no store does not count. -/
theorem Laid.of_store {v : Workspace} (h : Laid w v touched given ids)
    (hstore : w'.store = v.store) (hregistry : w'.registry = v.registry) :
    Laid w w' touched given ids where
  keeps := by rw [hstore]; exact h.keeps
  known := by rw [hregistry]; exact h.known
  still := by rw [hstore]; exact h.still
  brought := h.brought
  single id hid := by
    rw [IsSingle, hstore]
    exact h.single id hid

theorem Laid.adding (h : Laid w w' touched given ids) {n : Node} (hn : ∀ members, n ≠ .row members)
    (p : Option Int) (given' : List NodeId) :
    Laid w (w'.added n p) touched given' [w'.store.size] where
  keeps := h.keeps.trans (Store.keeps_add _ _ _)
  known := h.known
  still id hid hnot := by
    have hne : id ≠ w'.store.size := Nat.ne_of_lt (Nat.lt_of_lt_of_le hid h.keeps.size_le)
    rw [store_added, Store.position?_add, if_neg hne, h.still id hid hnot]
  brought id hid := .inl (List.mem_singleton.mp hid ▸ h.keeps.size_le)
  single id hid := by
    rw [List.mem_singleton.mp hid]
    exact isSingle_added hn p

/-- Where it starts, only the nodes and the registry count. -/
theorem Laid.of_start {v : Workspace} (h : Laid v w' touched given ids)
    (hstore : v.store = w.store) (hregistry : v.registry = w.registry) :
    Laid w w' touched given ids where
  keeps := by rw [← hstore]; exact h.keeps
  known := by rw [← hregistry]; exact h.known
  still := by rw [← hstore]; exact h.still
  brought := by rw [← hstore]; exact h.brought
  single := h.single

theorem Laid.registered (h : Laid w w' touched given ids) (p : Int) (id : NodeId) :
    Laid w (w'.registered p id) touched given ids where
  keeps := h.keeps
  known q hq := by
    rw [registry_registered, Registry.lookup_register, Option.isSome_or, h.known q hq,
      Bool.true_or]
  still := h.still
  brought := h.brought
  single := h.single

/-- Compaction of a row moves new nodes, and those that stand ready in it. -/
theorem Laid.compacted (h : Laid w w' touched given ids) :
    Laid w (w'.compacted ids) (touched ++ given) given ids where
  keeps := h.keeps.trans (Store.keeps_compact _ _)
  known := h.known
  still id hid hnot := by
    have hrow : id ∉ ids := by
      intro hmem
      rcases h.brought id hmem with hnew | hgiven
      · exact absurd hid (Nat.not_lt_of_le hnew)
      · exact hnot (by simp [hgiven])
    rw [store_compacted, Store.position?_compact_of fun hmem => absurd hmem hrow,
      h.still id hid fun hmem => hnot (by simp [hmem])]
  brought := h.brought
  single id hid := (h.single id hid).keeps (Store.keeps_compact _ _)

theorem Laid.size_le (h : Laid w w' touched [] [id]) : w.store.size ≤ id := by
  rcases h.brought id (by simp) with hnew | hgiven
  · exact hnew
  · cases hgiven

theorem Laid.positioned (h : Laid w w' touched [] [id]) (p : Int) :
    Laid w (w'.positioned id p) touched [] [id] where
  keeps := h.keeps.trans (Store.keeps_setPosition _ _ _)
  known := h.known
  still x hx hnot := by
    have hne : id ≠ x := by
      rintro rfl
      exact absurd hx (Nat.not_lt_of_le h.size_le)
    rw [store_positioned, Store.position?_setPosition, if_neg fun he => hne he.1,
      h.still x hx hnot]
  brought := h.brought
  single x hx := (h.single x hx).keeps (Store.keeps_setPosition _ _ _)

/-- What was built is what siblings get of it. -/
theorem Laid.spliced_eq {built : Built} (h : Laid w w' touched given built.ids) :
    Conversion.spliced w'.store built = built.ids := by
  cases built with
  | many ids => rfl
  | one id =>
    obtain ⟨hlt, hrow⟩ := h.single id (by simp [Built.ids])
    obtain ⟨n, hn⟩ := Store.exists_node? hlt
    rw [hn] at hrow
    simp only [Conversion.spliced, hn]
    cases n with
    | row members => exact absurd rfl (hrow members)
    | _ => rfl

end Workspace

namespace Conversion

open Workspace Element

variable {settings : Settings} {w w' : Workspace} {id : NodeId}

theorem mirroring_laid {position : Int} {spec : Option TransformSpec} {primary : NodeId}
    (hr : mirroring settings w position spec primary = .ok id w') : Laid w w' [] [] [id] := by
  obtain ⟨f, -, rfl, rfl⟩ := mirroring_ok hr
  have hnoted : Laid w ((w.noted [.mirrored position]).noted (spec.toList.map .transformMade))
      [] [] [] := (Laid.refl w).of_store rfl rfl
  exact hnoted.adding (by simp) none []

theorem wrapping_laid {v : Workspace} (h : Laid v w [] [] [id]) {name : String} {id' : NodeId}
    (hr : wrapping w id name = .ok id' w') : Laid v w' [] [] [id'] := by
  obtain ⟨-, rfl, rfl⟩ | ⟨indent, -, rfl, rfl⟩ := wrapping_ok hr
  · exact h
  · exact h.adding (by simp) none []

theorem varying_laid {name : String} {spec : Option TransformSpec}
    (hr : varying settings w name spec = .ok id w') : Laid w w' [] [] [id] := by
  obtain ⟨-, f, -, hw⟩ | ⟨-, f, -, hw⟩ | ⟨-, -, rfl, rfl⟩ := varying_ok hr
  · have hnoted : Laid w (w.noted (spec.toList.map .transformMade)) [] [] [] :=
      (Laid.refl w).of_store rfl rfl
    exact wrapping_laid (hnoted.adding (by simp) none []) hw
  · exact wrapping_laid ((Laid.refl w).adding (by simp) none []) hw
  · have hnoted : Laid w (w.noted [.unknownVariable name]) [] [] [] :=
      (Laid.refl w).of_store rfl rfl
    exact hnoted.adding (by simp) none []

theorem embodying_laid (hpolicy : settings.policy.assembler = Assembler.embed) {v : Workspace}
    {touched given ids ids' : List NodeId} (h : Laid v w touched given ids') {position : Int}
    (hr : embodying settings w position ids = .ok id w') : Laid v w' touched [] [id] := by
  have hgroup : Laid v (w.added (.group ids) none) touched [] [w.store.size] :=
    h.adding (by simp) none []
  obtain ⟨-, rfl, rfl⟩ | ⟨-, rfl, rfl⟩ := embodying_ok hpolicy hr
  · exact hgroup.positioned position
  · have hnoted : Laid v ((w.added (.group ids) none).noted [.flattened position]) touched []
        [w.store.size] := hgroup.of_store rfl rfl
    have hslot := hnoted.adding (n := .vacant) (by simp) none []
    have hdynamic := hslot.adding (n := .dynamic (some (.body w.store.size)) (w.store.size + 1))
      (by simp) (some position) []
    simp only [store_added, store_noted, Store.size_add] at hdynamic
    exact hdynamic

mutual

/-- What an element becomes stands in its row; inside it nothing but what stands ready there is moved. -/
theorem convert_laid (hpolicy : settings.policy.assembler = Assembler.embed) (e : Element)
    {w w' : Workspace} {built : Built} (hs : ∀ id ∈ e.supplied, w.IsSingle id)
    (hr : convert settings e w = .ok built w') : Laid w w' e.inside e.rowSupply built.ids := by
  have hstart := Laid.refl w
  match e with
  | .text content =>
    rw [convert_text] at hr
    cases hr
    have hlast : Laid w (w.withLastText (some (Lines.ofText content))) [] [] [] :=
      hstart.of_store rfl rfl
    exact hlast.adding (by simp) none []
  | .choice position items =>
    rw [convert_choice] at hr
    cases hr
    exact hstart.adding (by simp) _ []
  | .tabstop position spec =>
    rw [convert_tabstop] at hr
    split at hr
    · obtain ⟨id, w₁, hm, hr⟩ := chain_eq_ok hr
      cases hr
      exact mirroring_laid hm
    · cases hr
      have hadd := hstart.adding (n := .tabstop none none) (by simp) (some (position : Int)) []
      exact hadd.registered position _
  | .placeholder position spec children =>
    rw [convert_placeholder] at hr
    split at hr
    · obtain ⟨id, w₁, hm, hr⟩ := chain_eq_ok hr
      cases hr
      exact (mirroring_laid hm).mono (List.nil_subset _) (List.nil_subset _)
    · split at hr
      · next content _ =>
        cases hr
        have hadd := hstart.adding (n := .tabstop (some content) none) (by simp)
          (some (position : Int)) []
        exact (hadd.registered position _).mono (List.nil_subset _) (List.nil_subset _)
      · obtain ⟨ids, w₁, hall, hr⟩ := chain_eq_ok hr
        obtain ⟨id, w₂, hbody, hr⟩ := chain_eq_ok hr
        cases hr
        have hrow : Laid w w₁ (children.flatMap inside) (rowSupplyAll children) ids :=
          (convertAll_laid (w := w.withLastText none) hpolicy children hs hall).of_start rfl rfl
        have hnode := (embodying_laid hpolicy hrow.compacted hbody).registered position id
        exact hnode.mono (moved_subset children) (List.nil_subset _)
  | .var name spec =>
    rw [convert_var] at hr
    obtain ⟨id, w₁, hv, hr⟩ := chain_eq_ok hr
    cases hr
    exact varying_laid hv
  | .snippet children =>
    rw [convert_snippet] at hr
    obtain ⟨ids, w₁, hall, hr⟩ := chain_eq_ok hr
    cases hr
    have hrow : Laid w w₁ (children.flatMap inside) (rowSupplyAll children) ids :=
      (convertAll_laid (w := w.withLastText none) hpolicy children hs hall).of_start rfl rfl
    exact hrow.compacted.mono (moved_subset children) (List.Subset.refl _)
  | .ownText content => cases hr
  | .ownSnippet children => cases hr
  | .custom kind => cases hr
  | .built id =>
    cases hr
    exact ⟨hstart.keeps, hstart.known, hstart.still, fun x hx => .inr hx,
      fun x hx => hs x hx⟩

theorem convertAll_laid (hpolicy : settings.policy.assembler = Assembler.embed) (es : List Element)
    {w w' : Workspace} {ids : List NodeId} (hs : ∀ id ∈ suppliedAll es, w.IsSingle id)
    (hr : convertAll settings es w = .ok ids w') :
    Laid w w' (es.flatMap inside) (rowSupplyAll es) ids := by
  match es with
  | [] =>
    cases hr
    exact Laid.refl w
  | e :: es =>
    simp only [suppliedAll, List.mem_append] at hs
    rw [convertAll_cons] at hr
    obtain ⟨built, w₁, he, hr⟩ := chain_eq_ok hr
    obtain ⟨rest, w₂, hes, hr⟩ := chain_eq_ok hr
    cases hr
    have hfirst := convert_laid hpolicy e (fun id hid => hs id (.inl hid)) he
    have hafter := hfirst.of_store (w₁.store_after e) (w₁.registry_after e)
    have hrest := convertAll_laid hpolicy es
      (fun id hid => (hs id (.inr hid)).keeps hafter.keeps) hes
    rw [hfirst.spliced_eq]
    exact hafter.trans hrest

end

/-- A row that begins, which takes the text out of sight. -/
theorem row_laid (hpolicy : settings.policy.assembler = Assembler.embed) (es : List Element)
    {ids : List NodeId} (hs : ∀ id ∈ suppliedAll es, w.IsSingle id)
    (hr : convertAll settings es (w.withLastText none) = .ok ids w') :
    Laid w w' (es.flatMap inside) (rowSupplyAll es) ids :=
  (convertAll_laid (w := w.withLastText none) hpolicy es hs hr).of_start rfl rfl

end Conversion

end Snippet
