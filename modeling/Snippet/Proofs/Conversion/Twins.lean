import Snippet.Proofs.Conversion.Growth
import Snippet.Proofs.Conversion.Relations

/-!
A conversion does not see what is in the store before it. From any store it goes as it goes from the empty
one, and what it adds is what it adds there, numbered on from the size of the store.
-/

namespace Snippet

namespace Positions

variable {α β : Type} [DecidableEq α] [DecidableEq β] {f : α → β}

/-- The same change of the position of something else. -/
def Change.map (f : α → β) (c : Change α) : Change β :=
  ⟨f c.what, c.old, c.new⟩

theorem numbered_map (hf : Function.Injective f) (seen : List α)
    (siblings : List (α × Option Int)) :
    numbered (seen.map f) (siblings.map fun x => (f x.1, x.2)) =
      (numbered seen siblings).map fun x => (f x.1, x.2) := by
  induction siblings generalizing seen with
  | nil => rfl
  | cons x r ih =>
    obtain ⟨a, p⟩ := x
    rw [List.map_cons]
    cases p with
    | none => exact ih seen
    | some p =>
      have hseen : f a ∈ seen.map f ↔ a ∈ seen := List.mem_map_of_injective hf
      have htail := ih (a :: seen)
      rw [List.map_cons] at htail
      simp only [numbered, hseen]
      split
      · rw [htail, List.map_cons]
      · exact ih seen

omit [DecidableEq α] [DecidableEq β] in
theorem changesFrom_map (rank : Int) (ranked : List (α × Int)) :
    changesFrom rank (ranked.map fun x => (f x.1, x.2)) =
      (changesFrom rank ranked).map (Change.map f) := by
  induction ranked generalizing rank with
  | nil => rfl
  | cons x r ih =>
    obtain ⟨a, p⟩ := x
    simp only [List.map_cons, changesFrom, ih]
    split <;> rfl

/-- What changes is a matter of the positions, and not of what has them. -/
theorem changes_map (hf : Function.Injective f) (siblings : List (α × Option Int)) :
    changes (siblings.map fun x => (f x.1, x.2)) = (changes siblings).map (Change.map f) := by
  have hnumbered := numbered_map hf [] siblings
  rw [List.map_nil] at hnumbered
  -- Sorting looks at the positions alone, so it goes with the renaming.
  have hranked : ranked (siblings.map fun x => (f x.1, x.2)) =
      (ranked siblings).map fun x => (f x.1, x.2) := by
    rw [ranked, hnumbered, ranked, List.map_mergeSort]
    exact fun _ _ _ _ => rfl
  rw [changes, hranked, changesFrom_map, changes]

end Positions

theorem Node.isLive_rename (f : NodeId → NodeId) (below : NodeId → Bool) (n : Node) :
    (n.rename f).isLive below = n.isLive fun x => below (f x) := by
  cases n with
  | computed fn dependencies => simp [rename, isLive]
  | group children => simp [rename, isLive, List.any_map, Function.comp_def]
  | _ => rfl

theorem Node.mem_edges_rename {f : NodeId → NodeId} {n : Node} {x : NodeId}
    (hx : x ∈ (n.rename f).edges) : ∃ y ∈ n.edges, f y = x := by
  cases n with
  | computed fn dependencies => exact List.mem_map.mp hx
  | dynamic rebuild slot =>
    rcases rebuild with _ | group | make <;>
      simp only [rename, Option.map, Rebuild.rename, edges, List.mem_cons, List.not_mem_nil,
        or_false] at hx ⊢
    · exact ⟨slot, rfl, hx.symm⟩
    · rcases hx with rfl | rfl
      · exact ⟨group, .inl rfl, rfl⟩
      · exact ⟨slot, .inr rfl, rfl⟩
    · exact ⟨slot, rfl, hx.symm⟩
  | group children => exact List.mem_map.mp hx
  | wrap child indent =>
    simp only [rename, edges, List.mem_singleton] at hx
    exact ⟨child, by simp [edges], hx.symm⟩
  | row members => exact List.mem_map.mp hx
  | bound target =>
    simp only [rename, edges, List.mem_singleton] at hx
    exact ⟨target, by simp [edges], hx.symm⟩
  | _ => cases hx

namespace Store

/-- The store `t'` has the nodes of `t` behind `base` others, with their numbers moved on. In `t` nodes
refer to older ones. -/
structure Copy (base : Nat) (t t' : Store) : Prop where
  size : t'.size = base + t.size
  node : ∀ id, t'.node? (base + id) = (t.node? id).map (Node.rename (base + ·))
  position : ∀ id, t'.position? (base + id) = t.position? id
  older : ∀ (id : Nat) n, t.node? id = some n → ∀ x : Nat, x ∈ n.edges → x < id

theorem position?_eq_none {s : Store} {id : NodeId} (h : s.size ≤ id) : s.position? id = none := by
  have hcell : s.cells[id]? = none := Array.getElem?_eq_none h
  rw [position?, hcell]
  rfl

variable {base id : Nat} {t t' : Store} {n : Node}

theorem copy_empty (s : Store) : Copy s.size Store.empty s where
  size := rfl
  node _ := node?_eq_none_iff.mpr (Nat.le_add_right _ _)
  position _ := position?_eq_none (Nat.le_add_right _ _)
  older _ _ h := by cases h

theorem Copy.add (h : Copy base t t') (hn : ∀ x : Nat, x ∈ n.edges → x < t.size) (p : Option Int) :
    Copy base (t.add n p).2 (t'.add (n.rename (base + ·)) p).2 where
  size := by rw [size_add, size_add, h.size, Nat.add_assoc]
  -- The new node stands last in both.
  node id := by
    have hid : base + id = base + t.size ↔ id = t.size := Nat.add_left_cancel_iff
    rw [node?_add, node?_add, h.size, h.node]
    simp only [hid]
    split <;> rfl
  position id := by
    have hid : base + id = base + t.size ↔ id = t.size := Nat.add_left_cancel_iff
    rw [position?_add, position?_add, h.size, h.position]
    simp only [hid]
  older id m hm x hx := by
    rw [node?_add] at hm
    split at hm
    · next hid =>
      cases hm
      exact hid ▸ hn x hx
    · exact h.older id m hm x hx

theorem Copy.setPosition (h : Copy base t t') (id : NodeId) (p : Option Int) :
    Copy base (t.setPosition id p) (t'.setPosition (base + id) p) where
  size := by rw [size_setPosition, size_setPosition, h.size]
  node other := by rw [node?_setPosition, node?_setPosition, h.node]
  position other := by
    have hsame : base + id = base + other ↔ id = other := Nat.add_left_cancel_iff
    have hlt : base + id < base + t.size ↔ id < t.size := Nat.add_lt_add_iff_left
    rw [position?_setPosition, position?_setPosition, h.size, h.position]
    simp only [hsame, hlt]
  older other m hm := by
    rw [node?_setPosition] at hm
    exact h.older other m hm

theorem Copy.compaction (h : Copy base t t') (ids : List NodeId) :
    t'.compaction (ids.map (base + ·)) =
      (t.compaction ids).map (Positions.Change.map (base + ·)) := by
  rw [Store.compaction, Store.compaction, ← Positions.changes_map fun _ _ => Nat.add_left_cancel, List.map_map,
    List.map_map]
  congr 1
  exact List.map_congr_left fun id _ => by simp only [Function.comp_apply, h.position]

theorem Copy.compactionEvents (h : Copy base t t') (ids : List NodeId) :
    t'.compactionEvents (ids.map (base + ·)) = t.compactionEvents ids := by
  rw [Store.compactionEvents, Store.compactionEvents, h.compaction, List.map_map]
  rfl

theorem Copy.compact (h : Copy base t t') (ids : List NodeId) :
    Copy base (t.compact ids) (t'.compact (ids.map (base + ·))) := by
  rw [Store.compact, Store.compact, h.compaction, renumber, renumber, List.foldl_map]
  generalize t.compaction ids = changes
  induction changes generalizing t t' with
  | nil => exact h
  | cons c cs ih => exact ih (h.setPosition c.what (some c.new))

/-- Nodes refer to older ones, so whether one can change depends neither on fuel nor on the numbers. -/
theorem Copy.isInteractiveWith (h : Copy base t t') {fuel fuel' : Nat} (hid : id < t.size)
    (hf : id < fuel) (hf' : id < fuel') :
    t'.isInteractiveWith fuel' (base + id) = t.isInteractiveWith fuel id := by
  induction fuel generalizing fuel' id with
  | zero => omega
  | succ fuel ih =>
    obtain ⟨fuel', rfl⟩ : ∃ k, fuel' = k + 1 := ⟨fuel' - 1, by omega⟩
    obtain ⟨n, hn⟩ := exists_node? hid
    have hn' : t'.node? (base + id) = some (n.rename (base + ·)) := by rw [h.node, hn]; rfl
    rw [isInteractiveWith_succ hn, isInteractiveWith_succ hn', Node.isLive_rename]
    refine Node.isLive_congr fun x hx => ?_
    -- The fuel is enough on both sides, as it is more than the number of the node in `t`.
    have hlt := h.older id n hn x hx
    exact ih (Nat.lt_trans hlt hid) (by omega) (by omega)

theorem Copy.isInteractive (h : Copy base t t') (hid : id < t.size) :
    t'.isInteractive (base + id) = t.isInteractive id := by
  have hsize := h.size
  exact h.isInteractiveWith hid (by omega) (by omega)

theorem Copy.spliced (h : Copy base t t') (hid : id < t.size) :
    Conversion.spliced t' (.one (base + id)) =
      (Conversion.spliced t (.one id)).map (base + ·) := by
  obtain ⟨n, hn⟩ := exists_node? hid
  have hn' : t'.node? (base + id) = some (n.rename (base + ·)) := by rw [h.node, hn]; rfl
  simp only [Conversion.spliced, hn, hn']
  cases n <;> rfl

theorem Copy.spliced_lt (h : Copy base t t') (hid : id < t.size) :
    ∀ x ∈ Conversion.spliced t (.one id), x < t.size := by
  intro x hx
  simp only [Conversion.spliced] at hx
  split at hx
  · next members hn => exact Nat.lt_trans (h.older id _ hn x hx) hid
  · exact List.mem_singleton.mp hx ▸ hid

theorem Copy.flattenStatic (h : Copy base t t') {group : Nat} (hg : group < t.size) (p : Int) :
    let r := t.flattenStatic p group
    let r' := t'.flattenStatic p (base + group)
    r'.1 = base + r.1 ∧ Copy base r.2 r'.2 ∧ t.size ≤ r.2.size ∧ r.1 < r.2.size := by
  have hslot := h.add (n := .vacant) (by simp [Node.edges]) none
  have hdynamic := hslot.add (n := .dynamic (some (.body group)) t.size)
    (by simpa [Node.edges] using Nat.lt_succ_of_lt hg) (some p)
  have hnode : (Node.dynamic (some (.body group)) t.size).rename (base + ·) =
      .dynamic (some (.body (base + group))) t'.size := by
    rw [h.size]
    rfl
  rw [hnode] at hdynamic
  refine ⟨?_, hdynamic, ?_, ?_⟩
  · simp [Store.flattenStatic, h.size, Nat.add_assoc]
  · exact Nat.le_trans (keeps_add t _ _).size_le (keeps_add _ _ _).size_le
  · simp [Store.flattenStatic]

/-- Bodies are told apart in the same way, and what is made of them is the same. -/
theorem Copy.classify (h : Copy base t t') {group : Nat} (hg : group < t.size) (p : Int) :
    let r := t.classify Assembler.embed p group
    let r' := t'.classify Assembler.embed p (base + group)
    r'.1 = base + r.1 ∧ Copy base r.2 r'.2 ∧ t.size ≤ r.2.size ∧ r.1 < r.2.size := by
  simp only [Store.classify, h.isInteractive hg]
  split
  · exact ⟨rfl, h.setPosition group (some p), by simp [Assembler.embed], by simpa [Assembler.embed]⟩
  · exact h.flattenStatic hg p

theorem Copy.classifyEvents (h : Copy base t t') {group : Nat} (hg : group < t.size) (p : Int) :
    t'.classifyEvents p (base + group) = t.classifyEvents p group := by
  rw [Store.classifyEvents, Store.classifyEvents, h.isInteractive hg]

end Store

/-- The same workspace, with the nodes behind `base` others. -/
structure Workspace.Twin (base : Nat) (w w' : Workspace) : Prop where
  store : w.store.Copy base w'.store
  registry : ∀ p, w'.registry.lookup p = (w.registry.lookup p).map (base + ·)
  inStore : ∀ p id, w.registry.lookup p = some id → id < w.store.size
  lastText : w'.lastText = w.lastText
  journal : w'.journal = w.journal

theorem Registry.registerEvents_map {f : NodeId → NodeId} (hf : Function.Injective f)
    {r r' : Registry} {p : Int} (h : r'.lookup p = (r.lookup p).map f) (id : NodeId) :
    r'.registerEvents p (f id) = r.registerEvents p id := by
  rw [registerEvents, registerEvents, h]
  cases r.lookup p with
  | none => rfl
  | some primary => simp [hf.eq_iff]

theorem Workspace.Twin.registered {base : Nat} {w w' : Workspace} (h : Twin base w w') (p : Int)
    {id : Nat} (hid : id < w.store.size) :
    Twin base (w.registered p id) (w'.registered p (base + id)) where
  store := h.store
  registry q := by
    rw [registry_registered, registry_registered, Registry.lookup_register,
      Registry.lookup_register, h.registry]
    cases w.registry.lookup q with
    | some x => rfl
    | none => split <;> rfl
  inStore q x hx := by
    rcases Registry.lookup_register_some hx with hx | rfl
    · exact h.inStore q x hx
    · exact hid
  lastText := h.lastText
  journal := by
    have hevents := Registry.registerEvents_map (fun _ _ => Nat.add_left_cancel (n := base))
      (h.registry p) id
    simp only [Workspace.registered, h.journal, hevents]

namespace Conversion

open Workspace

/-- The workspaces are the same but for the nodes before, and so are the nodes. -/
def twins (base : Nat) : Bond where
  works w w' := Twin base w w'
  refs w _ id id' := id' = base + id ∧ id < w.store.size
  made w _ id id' := id' = base + id ∧ id < w.store.size
  units w _ id id' := id' = base + id ∧ id < w.store.size
  rows w _ id id' := id' = base + id ∧ id < w.store.size

variable {base : Nat} {w w' v v' : Workspace} {settings : Settings}

theorem Twin.step (h : Twin base v v') (hsize : w.store.size ≤ v.store.size) :
    (twins base).Step w w' v v' where
  works := h
  made _ _ hid := ⟨hid.1, Nat.lt_of_lt_of_le hid.2 hsize⟩
  units _ _ hid := ⟨hid.1, Nat.lt_of_lt_of_le hid.2 hsize⟩
  rows _ _ hid := ⟨hid.1, Nat.lt_of_lt_of_le hid.2 hsize⟩

/-- A step that only changes the store leaves the rest of the workspaces the same. -/
theorem Twin.stored (h : Twin base w w') {t t' : Store} (ht : t.Copy base t')
    (hsize : w.store.size ≤ t.size) :
    (twins base).Step w w' { w with store := t } { w' with store := t' } :=
  Twin.step ⟨ht, h.registry, fun p id hid => Nat.lt_of_lt_of_le (h.inStore p id hid) hsize,
    h.lastText, h.journal⟩ hsize

theorem twins_kept (hassembler : settings.policy.assembler = Assembler.embed) :
    (twins base).Kept settings where
  lastText h := h.lastText
  lookup {w w'} p h := by
    rw [h.registry]
    cases hp : w.registry.lookup p with
    | none => exact .none
    | some id => exact .some ⟨rfl, h.inStore p id hp⟩
  madeRefs _ hid := hid
  madeUnits _ hid := hid
  rowRefs _ hid := hid
  spliced {w w' id id'} h hid := by
    obtain ⟨rfl, hid⟩ := hid
    exact forall₂_rename.mpr ⟨h.store.spliced hid, h.store.spliced_lt hid⟩
  noted events h := Twin.step ⟨h.store, h.registry, h.inStore, h.lastText, by
    rw [noted, noted, h.journal]⟩ (Nat.le_refl _)
  withLastText lines h := Twin.step ⟨h.store, h.registry, h.inStore, rfl, h.journal⟩ (Nat.le_refl _)
  added {w w' n n'} p h hn := by
    obtain ⟨rfl, hedges⟩ := hn.rename
    exact ⟨Twin.stored h (h.store.add hedges p) (by simp), h.store.size, by simp⟩
  registered {w w' id id'} p h hid := by
    obtain ⟨rfl, hid⟩ := hid
    exact Twin.step (h.registered p hid) (Nat.le_refl _)
  compacted {w w' ids ids'} h hids := by
    obtain ⟨rfl, hids⟩ := forall₂_rename.mp hids
    refine Twin.step ⟨h.store.compact ids, h.registry, ?_, h.lastText, ?_⟩ ?_
    · simpa using h.inStore
    · rw [compacted, compacted, h.journal, h.store.compactionEvents]
    · simp
  classified {w w' group group'} p h hid := by
    obtain ⟨rfl, hid⟩ := hid
    rw [hassembler]
    obtain ⟨hsame, hcopy, hsize, hlt⟩ := h.store.classify hid p
    exact ⟨h.store.classifyEvents hid p, Twin.stored h hcopy hsize, hsame, hlt⟩

theorem twin_fresh (s : Store) : Twin s.size (.fresh Store.empty) (.fresh s) where
  store := Store.copy_empty s
  registry _ := rfl
  inStore _ _ hid := by cases hid
  lastText := rfl
  journal := rfl

/-- In any store a fresh conversion goes as it goes in the empty one. -/
theorem convert_twins (hassembler : settings.policy.assembler = Assembler.embed) {e : Element}
    (hs : e.supplied = []) (s : Store) :
    (twins s.size).Builts (.fresh Store.empty) (.fresh s)
      (convert settings e (.fresh Store.empty)) (convert settings e (.fresh s)) :=
  (twins_kept hassembler).convert e (twin_fresh s) (by simp [hs])

end Conversion

/-! ## Two stores -/

/-- The number of a node, not below `base`, if nodes are counted on from `base'` instead. -/
def moved (base base' : Nat) (id : NodeId) : NodeId :=
  base' + (id - base)

theorem moved_add (base base' k : Nat) : moved base base' (base + k) = base' + k := by
  rw [moved, Nat.add_sub_cancel_left]

theorem Built.rename_rename (f g : NodeId → NodeId) (built : Built) :
    (built.rename f).rename g = built.rename fun x => g (f x) := by
  cases built with
  | one id => rfl
  | many ids => simp [rename, Function.comp_def]

/-- The graph that `t'` has from `base'` on is that of `t` from `base` on, with other numbers for its
nodes. It refers to nothing outside itself. -/
structure Store.Renamed (base base' : Nat) (t t' : Store) : Prop where
  size : base ≤ t.size ∧ t'.size = moved base base' t.size
  node : ∀ id, base ≤ id →
    t'.node? (moved base base' id) = (t.node? id).map (Node.rename (moved base base'))
  position : ∀ id, base ≤ id → t'.position? (moved base base' id) = t.position? id
  inside : ∀ id n, base ≤ id → t.node? id = some n → ∀ x ∈ n.edges, base ≤ x ∧ x < id

theorem Store.Copy.renamed {base base' : Nat} {u t t' : Store} (h : Copy base u t)
    (h' : Copy base' u t') : Renamed base base' t t' where
  size := by
    rw [h.size, h'.size, moved_add]
    exact ⟨Nat.le_add_right _ _, rfl⟩
  node id hid := by
    obtain ⟨k, rfl⟩ := Nat.exists_eq_add_of_le hid
    rw [moved_add, h.node, h'.node]
    cases u.node? k with
    | none => rfl
    | some n => simp only [Option.map_some, Node.rename_rename, moved_add]
  position id hid := by
    obtain ⟨k, rfl⟩ := Nat.exists_eq_add_of_le hid
    rw [moved_add, h.position, h'.position]
  inside id n hid hn x hx := by
    obtain ⟨k, rfl⟩ := Nat.exists_eq_add_of_le hid
    rw [h.node] at hn
    obtain ⟨m, hm, rfl⟩ := Option.map_eq_some_iff.mp hn
    obtain ⟨y, hy, rfl⟩ := Node.mem_edges_rename hx
    exact ⟨Nat.le_add_right _ _, Nat.add_lt_add_left (h.older k m hm y hy) _⟩

theorem Built.ids_rename (f : NodeId → NodeId) (built : Built) :
    (built.rename f).ids = built.ids.map f := by
  cases built <;> rfl

namespace Conversion

/-- Both ends of a conversion, from its ends in the empty store. -/
theorem ends_of_twins {base : Nat} {v v' : Workspace} {r r' : EStateM.Result Error Workspace Built}
    (h : (twins base).Builts v v' r r') :
    outcome r' = (outcome r).map (Built.rename (base + ·)) ∧ Workspace.Twin base (last r) (last r') ∧
      ∀ built, outcome r = .ok built → ∀ id ∈ built.ids, id < (last r).store.size := by
  cases h with
  | error e step => exact ⟨rfl, step.works, fun built hb => by cases hb⟩
  | @ok built built' w w' step both =>
    refine ⟨congrArg Except.ok both.rename, step.works, fun b hb => ?_⟩
    cases hb
    cases both with
    | one hid => exact fun x hx => List.mem_singleton.mp hx ▸ hid.2
    | many hids => exact (forall₂_rename.mp hids).2

/-- Fresh conversions of a tree without ready nodes, from any two stores, go the same way and end with the
same graph but for the numbers of its nodes. -/
theorem convert_renamed {settings : Settings}
    (hassembler : settings.policy.assembler = Assembler.embed) {e : Element} (hs : e.supplied = [])
    (s s' : Store) :
    let r := convert settings e (.fresh s)
    let r' := convert settings e (.fresh s')
    outcome r' = (outcome r).map (Built.rename (moved s.size s'.size)) ∧
      (last r').journal = (last r).journal ∧
        (last r).store.Renamed s.size s'.size (last r').store ∧
          ∀ built, outcome r = .ok built →
            ∀ id ∈ built.ids, s.size ≤ id ∧ id < (last r).store.size := by
  intro r r'
  -- Both are compared with the conversion in the empty store.
  obtain ⟨hout, htwin, hids⟩ := ends_of_twins (convert_twins hassembler hs s)
  obtain ⟨hout', htwin', -⟩ := ends_of_twins (convert_twins hassembler hs s')
  refine ⟨?_, htwin'.journal.trans htwin.journal.symm, htwin.store.renamed htwin'.store, ?_⟩
  · rw [hout', hout]
    cases outcome (convert settings e (.fresh Store.empty)) with
    | error err => rfl
    | ok built => simp only [Except.map, Built.rename_rename, moved_add]
  · intro built hb id hid
    rw [hout] at hb
    obtain ⟨built₀, hb₀, rfl⟩ := map_eq_ok hb
    rw [Built.ids_rename] at hid
    obtain ⟨k, hk, rfl⟩ := List.mem_map.mp hid
    have hlt := hids built₀ hb₀ k hk
    rw [htwin.store.size]
    exact ⟨Nat.le_add_right _ _, Nat.add_lt_add_left hlt _⟩

end Conversion

end Snippet
