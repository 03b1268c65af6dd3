import Mathlib.Data.List.Induction
import Snippet.Proofs.Conversion.Frame
import Snippet.Proofs.Session
import Snippet.Proofs.Store.Parallel

/-!
The tab order of flattened fields. A static body becomes a dynamic node with a position. At its first
rendering an insertion point is built for it, with the position that the node has then. Rendering and typing
keep the two in step. Compaction renumbers the nodes of a row and not what is built for them, so a field that
is built already can fall out of step there, and there only.
-/

namespace Snippet

namespace Store

/-- The dynamic node `id` stands for a static body, and what it shows is built in `slot`. -/
def BuiltField (s : Store) (id slot : NodeId) : Prop :=
  (∃ body, s.node? id = some (.dynamic (some (.body body)) slot)) ∧ s.node? slot ≠ some .vacant

/-- Whatever is built for a static body has the position of the dynamic node. -/
def InStep (s : Store) : Prop :=
  ∀ id slot, s.BuiltField id slot → s.position? slot = s.position? id

/-- Every dynamic node stands right behind its slot. -/
def SlotsFirst (s : Store) : Prop :=
  ∀ id rebuild slot, s.node? id = some (.dynamic rebuild slot) → slot + 1 = id

variable {s t u : Store} {id slot : NodeId}

theorem slotsFirst_empty : empty.SlotsFirst :=
  fun _ _ _ hn => absurd (lt_size hn) (Nat.not_lt_zero _)

theorem inStep_empty : empty.InStep := by
  rintro id slot ⟨⟨body, hn⟩, -⟩
  exact absurd (lt_size hn) (Nat.not_lt_zero _)

theorem SlotsFirst.slot_lt (h : s.SlotsFirst) (hb : s.BuiltField id slot) : slot < id ∧ id < s.size := by
  obtain ⟨⟨body, hn⟩, -⟩ := hb
  exact ⟨Nat.lt_of_succ_le (Nat.le_of_eq (h id _ slot hn)), lt_size hn⟩

/-! ## Stores that grow -/

/-- The store `t` has all nodes of `s`. Its other dynamic nodes stand right behind slots of their own, in
which nothing is built. -/
structure Grows (s t : Store) : Prop where
  keeps : s.Keeps t
  unbuilt : ∀ id rebuild slot, s.size ≤ id → t.node? id = some (.dynamic rebuild slot) →
    slot + 1 = id ∧ t.node? slot = some .vacant

theorem Grows.of_size (hk : s.Keeps t) (hsize : t.size = s.size) : s.Grows t where
  keeps := hk
  unbuilt id rebuild slot hid hn := by
    exact absurd (hsize ▸ lt_size hn) (Nat.not_lt_of_le hid)

theorem Grows.refl (s : Store) : s.Grows s := .of_size (.refl s) rfl

theorem Grows.trans (h : s.Grows t) (h' : t.Grows u) : s.Grows u where
  keeps := h.keeps.trans h'.keeps
  unbuilt id rebuild slot hid hn := by
    rcases Nat.lt_or_ge id t.size with hlt | hge
    · rw [h'.keeps.node_eq hlt] at hn
      obtain ⟨hslot, hvacant⟩ := h.unbuilt id rebuild slot hid hn
      exact ⟨hslot, h'.keeps slot _ hvacant⟩
    · exact h'.unbuilt id rebuild slot hge hn

theorem grows_add {n : Node} (hn : ∀ rebuild slot, n ≠ .dynamic rebuild slot) (s : Store)
    (p : Option Int) : s.Grows (s.add n p).2 where
  keeps := keeps_add s n p
  unbuilt id rebuild slot hid hm := by
    rw [node?_add] at hm
    split at hm
    · exact absurd (Option.some.inj hm) (hn rebuild slot)
    · exact absurd (lt_size hm) (Nat.not_lt_of_le hid)

theorem grows_flattenStatic (position : Int) (group : NodeId) (s : Store) :
    s.Grows (s.flattenStatic position group).2 where
  keeps := (keeps_add s .vacant none).trans (keeps_add _ _ _)
  unbuilt id rebuild slot hid hn := by
    simp only [flattenStatic, add_fst, node?_add, size_add] at hn ⊢
    split at hn
    · next hnew =>
      cases hn
      simp [hnew]
    · split at hn
      · cases hn
      · exact absurd (lt_size hn) (Nat.not_lt_of_le hid)

theorem Grows.slotsFirst (h : s.Grows t) (hs : s.SlotsFirst) : t.SlotsFirst := by
  intro id rebuild slot hn
  rcases Nat.lt_or_ge id s.size with hlt | hge
  · rw [h.keeps.node_eq hlt] at hn
    exact hs id rebuild slot hn
  · exact (h.unbuilt id rebuild slot hge hn).1

/-- In a store that grows nothing is built. -/
theorem Grows.builtField_iff (h : s.Grows t) (hs : s.SlotsFirst) :
    t.BuiltField id slot ↔ s.BuiltField id slot := by
  constructor
  · intro hb
    have hslot := (h.slotsFirst hs).slot_lt hb
    obtain ⟨⟨body, hn⟩, hv⟩ := hb
    have hid : id < s.size := by
      by_contra hge
      exact hv (h.unbuilt id _ slot (Nat.le_of_not_lt hge) hn).2
    rw [h.keeps.node_eq hid] at hn
    rw [h.keeps.node_eq (Nat.lt_trans hslot.1 hid)] at hv
    exact ⟨⟨body, hn⟩, hv⟩
  · intro hb
    obtain ⟨hslot, hid⟩ := hs.slot_lt hb
    obtain ⟨⟨body, hn⟩, hv⟩ := hb
    refine ⟨⟨body, h.keeps _ _ hn⟩, ?_⟩
    rwa [h.keeps.node_eq (Nat.lt_trans hslot hid)]

/-! ## Stores in use -/

/-- From `s` to `t` what is built stays and does not move, and what is built in addition has the position of
its dynamic node. -/
structure Fills (s t : Store) : Prop where
  slotsFirst : t.SlotsFirst
  built : ∀ {id slot}, s.BuiltField id slot → t.BuiltField id slot
  still : ∀ {id slot}, s.BuiltField id slot →
    t.position? id = s.position? id ∧ t.position? slot = s.position? slot
  fresh : ∀ {id slot}, t.BuiltField id slot →
    s.BuiltField id slot ∨ t.position? slot = t.position? id

theorem Fills.refl (hs : s.SlotsFirst) : s.Fills s :=
  ⟨hs, fun h => h, fun _ => ⟨rfl, rfl⟩, .inl⟩

/-- Other contents for a field build nothing. -/
theorem fills_setNode {n n' : Node} (hs : s.SlotsFirst) (hn : s.node? id = some n)
    (h : n.Refilled n') : s.Fills (s.setNode id n') := by
  -- A field is neither a dynamic node nor a slot, before and after.
  have same : ∀ {x : NodeId} {m : Node}, (∀ {k k' : Node}, k.Refilled k' → m ≠ k ∧ m ≠ k') →
      ((s.setNode id n').node? x = some m ↔ s.node? x = some m) := by
    intro x m hm
    rw [node?_setNode]
    split
    · next hx =>
      subst hx
      rw [hn, Option.map_some, Option.some.injEq, Option.some.injEq]
      exact iff_of_false (hm h).2.symm (hm h).1.symm
    · rfl
  have hdynamic : ∀ {x rebuild slot}, (s.setNode id n').node? x = some (.dynamic rebuild slot) ↔
      s.node? x = some (.dynamic rebuild slot) :=
    same fun hr => by cases hr <;> simp
  have hvacant : ∀ {x}, (s.setNode id n').node? x = some .vacant ↔ s.node? x = some .vacant :=
    same fun hr => by cases hr <;> simp
  have hbuilt : ∀ {x slot}, (s.setNode id n').BuiltField x slot ↔ s.BuiltField x slot := by
    intro x slot
    simp only [BuiltField, hdynamic, ne_eq, hvacant]
  exact {
    slotsFirst := fun x rebuild slot hx => hs x rebuild slot (hdynamic.mp hx)
    built := hbuilt.mpr
    still := fun _ => ⟨position?_setNode _ _ _ _, position?_setNode _ _ _ _⟩
    fresh := fun hb => .inl (hbuilt.mp hb) }

/-- What is in the slots of `t` that were empty in `s` has the position of the dynamic node. -/
def Placed (s t : Store) : Prop :=
  ∀ id rebuild slot, s.node? id = some (.dynamic rebuild slot) → s.node? slot = some .vacant →
    t.node? slot ≠ some .vacant → t.position? slot = t.position? id

theorem Placed.fill (hs : s.SlotsFirst) (hf : s.Filled t) (h : s.Placed t) {rebuild : Option Rebuild}
    (hn : t.node? id = some (.dynamic rebuild slot)) (hv : t.node? slot = some .vacant)
    (filling : Filling) : s.Placed (t.fill id slot filling) := by
  intro x r y hx hy hbuilt
  cases filling with
  | node target =>
    have hne : id ≠ y := by
      rintro rfl
      cases (hf.dynamic hn).symm.trans hy
    rw [node?_fill_node, if_neg hne] at hbuilt
    rw [position?_fill_node, position?_fill_node]
    exact h x r y hx hy hbuilt
  | text content =>
    have hid := hs id rebuild slot (hf.dynamic hn)
    -- A dynamic node is no slot, so it does not move.
    have hne : slot ≠ x := by
      rintro rfl
      cases (hf.vacant_of_vacant hv).symm.trans hx
    simp only [position?_fill_text, lt_size hv, and_true]
    rw [if_neg hne]
    by_cases hy' : slot = y
    · subst hy'
      obtain rfl : id = x := hid.symm.trans (hs x r slot hx)
      rw [if_pos rfl]
    · rw [node?_fill_text, if_neg hy'] at hbuilt
      rw [if_neg hy']
      exact h x r y hx hy hbuilt

/-- Rendering builds insertion points in slots, each with the position of its dynamic node. -/
theorem fills_renderWith (hs : s.SlotsFirst) (scope : Scope) (fuel : Nat) (id : NodeId) :
    s.Fills (Conversion.last (renderWith scope fuel id s)) := by
  have hJ : Alike (fun t t' => t' = t ∧ s.Filled t ∧ s.Placed t) scope fun _ => True := {
    node := fun h _ => by rw [h.1]
    link := fun _ _ _ _ _ => trivial
    rebuilt := fun h _ _ _ => by rw [h.1]
    fill := fun h _ hn hv hr =>
      ⟨by rw [h.1], h.2.1.fill hn hv hr, h.2.2.fill hs h.2.1 hn hv _⟩ }
  have hmatch : Match _ (renderWith scope fuel id s) (renderWith scope fuel id s) :=
    hJ.renderWith fuel trivial ⟨rfl, Filled.refl s, fun _ _ _ _ hv hbuilt => absurd hv hbuilt⟩
  obtain ⟨o, t, t', ⟨-, hfilled, hplaced⟩, hr, -⟩ := hmatch
  rw [hr, last_leaving]
  have ne_vacant : ∀ {x r y}, s.node? x = some (.dynamic r y) → s.node? x ≠ some .vacant := by
    intro x r y hx he
    cases hx.symm.trans he
  refine ⟨?slotsFirst, ?built, ?still, ?fresh⟩
  case slotsFirst => exact fun x r y hx => hs x r y (hfilled.dynamic hx)
  case built =>
    rintro x y ⟨⟨body, hx⟩, hy⟩
    exact ⟨⟨body, hfilled.body hx⟩, fun he => hy (hfilled.vacant_of_vacant he)⟩
  case still =>
    rintro x y ⟨⟨body, hx⟩, hy⟩
    exact ⟨hfilled.position x (ne_vacant hx), hfilled.position y hy⟩
  case fresh =>
    rintro x y ⟨⟨body, hx⟩, hy⟩
    have hx' := hfilled.dynamic hx
    by_cases hv : s.node? y = some .vacant
    · exact .inr (hplaced x _ y hx' hv hy)
    · exact .inl ⟨⟨body, hx'⟩, hv⟩

end Store

/-! ## Policies -/

namespace Assembler

/-- Of a live body the assembler makes nothing that is built already, and it leaves the nodes as they are. -/
def Growing (assembler : Assembler) : Prop :=
  ∀ position group s, Store.Grows s (assembler position group s).2

theorem growing_embed : embed.Growing := fun position group s =>
  .of_size (Store.keeps_setPosition s group (some position)) (Store.size_setPosition _ _ _)

theorem growing_tabstop (default : Option String) : (tabstop default).Growing := fun _ _ s =>
  Store.grows_add (by simp) s _

theorem growing_text (lines : Lines) : (text lines).Growing := fun _ _ s =>
  Store.grows_add (by simp) s _

theorem growing_indent (blank : String) : (indent blank).Growing := fun _ _ s =>
  Store.grows_add (by simp) s _

theorem growing_spread : spread.Growing := by
  intro position group s
  unfold spread
  split
  · exact Store.grows_add (by simp) s _
  · exact Store.grows_add (by simp) s _

end Assembler

namespace Conversion

/-- The store is `s`, grown. -/
def growing (s : Store) : Upkeep where
  holds t := s.Grows t
  refs _ _ := True
  made _ _ := True
  units _ _ := True
  rows _ _ := True

theorem growing_next {s t : Store} (h : s.Grows t) (u : Store) : (growing s).Next u t :=
  ⟨h, fun _ h => h, fun _ h => h, fun _ h => h, fun _ h => h⟩

theorem growing_kept {assembler : Assembler} (h : assembler.Growing) (s : Store) :
    (growing s).Kept assembler where
  madeRefs _ hid := hid
  madeUnits _ hid := hid
  rowRefs _ hid := hid
  spliced _ _ _ _ := trivial
  added {t n} p ht hn :=
    ⟨growing_next (ht.trans (Store.grows_add (by rintro r slot rfl; cases hn) t p)) t, trivial⟩
  compacted {t ids} ht _ := growing_next
    (ht.trans (.of_size (Store.keeps_compact t ids) (Store.size_compact t ids))) t
  classified {t group} p ht _ := by
    simp only [Store.classify]
    split
    · exact ⟨growing_next (ht.trans (h p group t)) t, trivial⟩
    · exact ⟨growing_next (ht.trans (Store.grows_flattenStatic p group t)) t, trivial⟩

theorem convert_grows {settings : Settings} (h : settings.policy.assembler.Growing) (e : Element)
    (w : Workspace) : w.store.Grows (last (convert settings e w)).store :=
  ((growing_kept h w.store).convert e ⟨.refl _, fun _ _ _ => trivial⟩ fun _ _ => trivial).last.store

end Conversion

/-! ## Runs -/

/-- What a host does with a store. -/
inductive Operation where
  | convert (given : Option Context) (o : Options) (e : Element)
  | compact (ids : List NodeId)
  | act (a : Action)

namespace Operation

/-- The store after an operation. One that fails leaves what it has done so far. -/
def perform [Pattern.CharacterNames] (s : Store) : Operation → Store
  | convert given o e =>
      match toNode given o e s with
      | .ok run => run.store
      | .error _ => s
  | compact ids => s.compact ids
  | act a => a.perform s

def run [Pattern.CharacterNames] (s : Store) (ops : List Operation) : Store :=
  ops.foldl perform s

/-- The operation compacts rows of nodes. -/
def isNumbering : Operation → Bool
  | act _ => false
  | _ => true

/-- The policy of a conversion is of this kind. -/
def Assembles [Pattern.CharacterNames] (P : Assembler → Prop) : Operation → Prop
  | convert given o _ => ∀ c, Context.choose given o = .ok c → P c.settings.policy.assembler
  | _ => True

/-- The nodes of the store that stand among siblings in an operation. -/
def siblings (s : Store) : Operation → List NodeId
  | convert _ _ e => e.siblingSupply s
  | compact ids => ids
  | act _ => []

variable {s : Store} {op : Operation} {id slot : NodeId}

theorem perform_convert [Pattern.CharacterNames] (given : Option Context) (o : Options) (e : Element)
    (s : Store) :
    perform s (.convert given o e) = s ∨ ∃ c, Context.choose given o = .ok c ∧
      perform s (.convert given o e) =
        (Conversion.last (Conversion.convert c.settings e (c.start s))).store := by
  simp only [perform, toNode]
  cases hc : Context.choose given o with
  | error err => exact .inl rfl
  | ok c => exact .inr ⟨c, rfl, Context.store_run c s _⟩

theorem perform_grows [Pattern.CharacterNames] (hop : op.Assembles Assembler.Growing)
    (hnum : op.isNumbering = true) :
    s.Grows (perform s op) := by
  cases op with
  | convert given o e =>
    rcases perform_convert given o e s with he | ⟨c, hc, he⟩
    · rw [he]
      exact .refl s
    · rw [he]
      exact Conversion.convert_grows (hop c hc) e (c.start s)
  | compact ids => exact .of_size (Store.keeps_compact s ids) (Store.size_compact s ids)
  | act a => cases hnum

theorem perform_fills (hs : s.SlotsFirst) (a : Action) : s.Fills (a.perform s) := by
  induction a using Action.cases_edit with
  | render scope id => exact Store.fills_renderWith hs scope (s.size + 1) id
  | edit a ha =>
    rcases Action.perform_edit ha s with heq | ⟨n, n', hn, hr, heq⟩
    · rw [heq]
      exact .refl hs
    · rw [heq]
      exact Store.fills_setNode hs hn hr

/-- In each step the dynamic nodes stay behind their slots, and what is built stays. -/
theorem perform_keeps [Pattern.CharacterNames] (hop : op.Assembles Assembler.Growing) (hs : s.SlotsFirst) :
    (perform s op).SlotsFirst ∧ ∀ {id slot}, s.BuiltField id slot → (perform s op).BuiltField id slot := by
  cases op with
  | act a => exact ⟨(perform_fills hs a).slotsFirst, (perform_fills hs a).built⟩
  | _ =>
    have hgrows := perform_grows (s := s) hop rfl
    exact ⟨hgrows.slotsFirst hs, (hgrows.builtField_iff hs).mpr⟩

theorem run_concat [Pattern.CharacterNames] (s : Store) (before : List Operation) (op : Operation) :
    run s (before ++ [op]) = perform (run s before) op := by
  rw [run, List.foldl_append]
  rfl

theorem run_slotsFirst [Pattern.CharacterNames] (hs : s.SlotsFirst) {ops : List Operation}
    (hops : ∀ op ∈ ops, op.Assembles Assembler.Growing) : (run s ops).SlotsFirst := by
  induction ops generalizing s with
  | nil => exact hs
  | cons op ops ih =>
    exact ih (perform_keeps (hops op (by simp)) hs).1 fun op' h => hops op' (by simp [h])

/-- Rendering, typing and choosing leave what is built where it is, and what they build is in step. So is
all else as long as no compaction brings something that is built out of step. -/
theorem perform_inStep [Pattern.CharacterNames] (hop : op.Assembles Assembler.Growing)
    (hs : s.SlotsFirst) (h : s.InStep)
    (hstill : op.isNumbering = true → ∀ id slot, s.BuiltField id slot →
      (perform s op).position? slot = (perform s op).position? id) : (perform s op).InStep := by
  intro id slot hb
  cases op with
  | act a =>
    have hfills := perform_fills hs a
    rcases hfills.fresh hb with hold | hnew
    · have hstill := hfills.still hold
      exact (hstill.2.trans (h id slot hold)).trans hstill.1.symm
    · exact hnew
  | _ => exact hstill rfl id slot (((perform_grows hop rfl).builtField_iff hs).mp hb)

section Runs

variable {ops : List Operation}

theorem run_inStep [Pattern.CharacterNames] (hops : ∀ op ∈ ops, op.Assembles Assembler.Growing)
    (hs : s.SlotsFirst) (h : s.InStep)
    (hstill : ∀ before op, before ++ [op] <+: ops → op.isNumbering = true →
      (run s before).InStep → ∀ id slot, (run s before).BuiltField id slot →
        (run s (before ++ [op])).position? slot = (run s (before ++ [op])).position? id) :
    ∀ before, before <+: ops → (run s before).InStep := by
  intro before hbefore
  -- One operation after the other, as every beginning of a beginning is one.
  induction before using List.reverseRecOn with
  | nil => exact h
  | append_singleton before op ih =>
    have hshorter := (List.prefix_append before [op]).trans hbefore
    have hop := hops op (hbefore.subset (by simp))
    have hslotsFirst := run_slotsFirst hs fun op' hmem => hops op' (hshorter.subset hmem)
    have hsame := hstill before op hbefore
    rw [run_concat] at hsame ⊢
    exact perform_inStep hop hslotsFirst (ih hshorter) fun hnum => hsame hnum (ih hshorter)

/-- Where live bodies are embedded as they are, an operation moves siblings at most. -/
theorem perform_still [Pattern.CharacterNames] (hop : op.Assembles (· = Assembler.embed)) (hs : s.SlotsFirst)
    (hb : s.BuiltField id slot) (hid : id ∉ op.siblings s) (hslot : slot ∉ op.siblings s) :
    (perform s op).position? id = s.position? id ∧
      (perform s op).position? slot = s.position? slot := by
  obtain ⟨hlt, hsize⟩ := hs.slot_lt hb
  cases op with
  | convert given o e =>
    rcases perform_convert given o e s with he | ⟨c, hc, he⟩
    · rw [he]
      exact ⟨rfl, rfl⟩
    · have hframes := Conversion.convert_frames (hop c hc) e (c.start s)
      rw [he]
      exact ⟨hframes.still id hsize hid, hframes.still slot (Nat.lt_trans hlt hsize) hslot⟩
  | compact ids =>
    exact ⟨Store.position?_compact_of fun hmem => absurd hmem hid,
      Store.position?_compact_of fun hmem => absurd hmem hslot⟩
  | act a => exact (perform_fills hs a).still hb

/-- A run stays in step as long as no conversion and no compaction brings what is built for a static body out
of step with its dynamic node, and not any longer. Where live bodies are embedded as they are, only rows
in which one of the two stands among the siblings can do so. -/
theorem run_inStep_iff [Pattern.CharacterNames] (hs : s.SlotsFirst) (h : s.InStep)
    (hops : ∀ op ∈ ops, op.Assembles Assembler.Growing) :
    ((∀ before, before <+: ops → (run s before).InStep) ↔
      ∀ before op, before ++ [op] <+: ops → op.isNumbering = true → ∀ id slot,
        (run s before).BuiltField id slot →
          (run s (before ++ [op])).position? slot = (run s (before ++ [op])).position? id) ∧
    ((∀ op ∈ ops, op.Assembles (· = Assembler.embed)) →
      (∀ before op, before ++ [op] <+: ops → op.isNumbering = true → ∀ id slot,
        (run s before).BuiltField id slot →
          id ∉ op.siblings (run s before) ∧ slot ∉ op.siblings (run s before)) →
      ∀ before, before <+: ops → (run s before).InStep) := by
  have slotsFirst : ∀ before, before <+: ops → (run s before).SlotsFirst :=
    fun before hbefore => run_slotsFirst hs fun op hmem => hops op (hbefore.subset hmem)
  refine ⟨⟨fun hall before op hop hnum id slot hb => ?only, fun hstill => ?all⟩,
    fun hembed hapart => ?apart⟩
  case only =>
    have hshorter := (List.prefix_append before [op]).trans hop
    have hbuilt := (perform_keeps (hops op (hop.subset (by simp))) (slotsFirst before hshorter)).2 hb
    rw [← run_concat] at hbuilt
    exact hall (before ++ [op]) hop id slot hbuilt
  case all => exact run_inStep hops hs h fun before op hop hnum _ => hstill before op hop hnum
  case apart =>
    refine run_inStep hops hs h fun before op hop hnum hstep id slot hb => ?_
    have hshorter := (List.prefix_append before [op]).trans hop
    obtain ⟨hid, hslot⟩ := hapart before op hop hnum id slot hb
    have hstill := perform_still (hembed op (hop.subset (by simp))) (slotsFirst before hshorter) hb hid
      hslot
    rw [run_concat, hstill.1, hstill.2]
    exact hstep id slot hb

end Runs

theorem builtField_of_typeName (body : NodeId)
    (hid : (s.node? id).map (fun n => (n.typeName, n.edges)) = some ("DynamicNode", [body, slot]))
    (hslot : (s.node? slot).map Node.typeName ≠ some Node.vacant.typeName) :
    s.BuiltField id slot := by
  refine ⟨?_, fun hv => hslot (by rw [hv]; rfl)⟩
  obtain ⟨n, hn, hpair⟩ := Option.map_eq_some_iff.mp hid
  obtain ⟨htype, hedges⟩ := Prod.mk.inj hpair
  cases n with
  | dynamic rebuild x =>
    match rebuild with
    | some (.body group) =>
      obtain ⟨rfl, rfl⟩ : group = body ∧ x = slot := by simpa [Node.edges] using hedges
      exact ⟨group, hn⟩
    | some (.host make) => cases hedges
    | none => cases hedges
  | bound target => cases hedges
  | host type lines positioned => cases hedges
  | _ => simp [Node.typeName] at htype

/-- A template with a static body. It is rendered when the row has been numbered. -/
def punctual : List Operation := [
  .convert none Options.none (.snippet [.placeholder 5 none [.text "a", .text "b"]]),
  .act (.render Scope.empty 4)]

theorem run_inStep_iff_punctual :
    (∀ before, before <+: punctual → (run Store.empty before).InStep) ∧
      (run Store.empty punctual).BuiltField 4 3 ∧
        (run Store.empty punctual).position? 3 = some 1 := by
  have hops : ∀ op ∈ punctual, op.Assembles Assembler.Growing := by
    intro op hop
    rcases List.mem_pair.mp hop with rfl | rfl
    · rintro c ⟨⟩
      exact Assembler.growing_embed
    · trivial
  obtain ⟨hiff, -⟩ := run_inStep_iff Store.slotsFirst_empty Store.inStep_empty hops
  refine ⟨hiff.mpr fun before op hop hnum id slot hb => ?_,
    builtField_of_typeName 2 (by decide +kernel) (by decide +kernel), by decide +kernel⟩
  -- The one row is numbered first of all, when nothing is there.
  obtain ⟨rest, hrest⟩ := hop
  match before with
  | [] =>
    have hlt := (Store.slotsFirst_empty.slot_lt hb).2
    exact absurd hlt (Nat.not_lt_zero id)
  | [first] =>
    obtain ⟨-, rfl, -⟩ : _ ∧ op = .act (.render Scope.empty 4) ∧ _ := by
      simpa [punctual] using hrest
    cases hnum
  | first :: second :: more => simp [punctual] at hrest

/-- A static body, rendered by itself and then put into a template. -/
def overtaken : List Operation := [
  .convert none Options.none (.placeholder 5 none [.text "a", .text "b"]),
  .act (.render Scope.empty 4),
  .convert none Options.none (.snippet [.built 4])]

/-- The dynamic node is numbered as the first of its row, and what is built for it is not. -/
theorem overtaken_outOfStep :
    let s := run Store.empty overtaken
    s.BuiltField 4 3 ∧ s.position? 4 = some 1 ∧ s.position? 3 = some 5 ∧ ¬s.InStep := by
  intro s
  have hb : s.BuiltField 4 3 :=
    builtField_of_typeName 2 (by decide +kernel) (by decide +kernel)
  have hid : s.position? 4 = some 1 := by decide +kernel
  have hslot : s.position? 3 = some 5 := by decide +kernel
  refine ⟨hb, hid, hslot, fun h => ?_⟩
  have hsame := h 4 3 hb
  rw [hid, hslot] at hsame
  cases hsame

end Operation

end Snippet
