import Snippet.Proofs.Conversion.Calls
import Snippet.Proofs.Conversion.Siblings

/-!
In the end all lists of siblings are numbered from 1 without a gap: that of the template, and the
children of each group that is made on the way. Inner lists are compacted first, and what is compacted
later does not stand in them, as long as no node stands ready in two lists.
-/

namespace Snippet.Conversion

open Workspace Element

/-- The group `g` with the `children` is made for the body of the placeholder that is converted. -/
def Call.Makes (settings : Settings) (c : Call) (body : List Element) (g : NodeId)
    (children : List NodeId) : Prop :=
  ∃ position spec v, c.element = .placeholder position spec body ∧
    convertAll settings body (c.work.withLastText none) = .ok children v ∧ g = v.store.size

/-- The group is made by one of the `calls`, and its children are numbered without a gap, in the order
that the body declares unless a template is nested in it. -/
def Compact (settings : Settings) (s t : Store) (calls : Call → Prop) (g : NodeId)
    (children : List NodeId) : Prop :=
  t.Dense children ∧ ∃ c body, calls c ∧ c.Makes settings body g children ∧
    ((∀ nested, .snippet nested ∉ body) → Ordered s t body children)

/-- The groups from `base` on are compact, and their children are among the `inner` nodes. -/
def Groups (settings : Settings) (s t : Store) (base : NodeId) (calls : Call → Prop)
    (inner : NodeId → Prop) : Prop :=
  ∀ g children, base ≤ g → t.node? g = some (.group children) →
    (∀ x ∈ children, x < t.size ∧ inner x) ∧ Compact settings s t calls g children

/-- A node that no row around sees: a new one that is not in the row `ids`, or one that stands ready in a
body. -/
def Inner (base : NodeId) (ids : List NodeId) (bodies : List (List NodeId)) (x : NodeId) : Prop :=
  base ≤ x ∧ x ∉ ids ∨ x ∈ bodies.flatten

section Inner

variable {v w : Workspace} {es : List Element} {base x : NodeId} {ids rest row : List NodeId}
  {bodies bodies' : List (List NodeId)}

/-- The siblings behind leave a node alone that the row before them does not see: they are made of newer
nodes, and of such as do not stand ready in a body before. -/
theorem Inner.kept (h : Inner base ids bodies x)
    (hlaid : Laid v w (es.flatMap inside) (rowSupplyAll es) rest)
    (hold : ∀ y ∈ suppliedAll es, y < base)
    (hseparate : Separate (row ++ rowSupplyAll es) (bodies ++ bodySuppliesAll es))
    (hx : x < v.store.size) :
    Inner base (ids ++ rest) (bodies ++ bodySuppliesAll es) x ∧
      w.store.position? x = v.store.position? x := by
  rcases h with ⟨hb, hnot⟩ | hbody
  · have hnew : x ∉ suppliedAll es := fun hmem => absurd (hold x hmem) (Nat.not_lt_of_le hb)
    refine ⟨.inl ⟨hb, fun hmem => ?_⟩, hlaid.still x hx fun hin => ?_⟩
    · rcases List.mem_append.mp hmem with hmem | hmem
      · exact hnot hmem
      · rcases hlaid.brought x hmem with hle | hgiven
        · exact absurd hx (Nat.not_lt_of_le hle)
        · exact hnew ((mem_suppliedAll es x).mpr (.inl hgiven))
    · exact hnew (flatMap_inside_subset es hin)
  · refine ⟨.inr (by simp [hbody]), hlaid.still x hx fun hin => ?_⟩
    obtain ⟨hrow, hbodies⟩ := hseparate.cross hbody
    exact ((mem_suppliedAll es x).mp (flatMap_inside_subset es hin)).elim hrow hbodies

/-- A node that the siblings behind do not see is new to those before, or stands ready in a body. -/
theorem Inner.behind (h : Inner v.store.size rest bodies' x) (hle : base ≤ v.store.size)
    (hids : ∀ y ∈ ids, y < v.store.size) : Inner base (ids ++ rest) (bodies ++ bodies') x := by
  rcases h with ⟨hb, hnot⟩ | hbody
  · refine .inl ⟨Nat.le_trans hle hb, fun hmem => ?_⟩
    rcases List.mem_append.mp hmem with hmem | hmem
    · exact absurd (hids x hmem) (Nat.not_lt_of_le hb)
    · exact hnot hmem
  · exact .inr (by simp [hbody])

end Inner

section Groups

variable {settings : Settings} {s t u : Store} {base : NodeId} {calls calls' : Call → Prop}
  {inner inner' : NodeId → Prop} {v w : Workspace} {es : List Element} {ids : List NodeId} {g : NodeId}
  {children : List NodeId}

theorem Compact.keeps (h : Compact settings s t calls g children)
    (hcalls : ∀ c, calls c → calls' c) (hk : t.Keeps u)
    (hstill : ∀ x ∈ children, x < t.size ∧ u.position? x = t.position? x) :
    Compact settings s u calls' g children := by
  obtain ⟨hdense, c, body, hc, hmakes, hordered⟩ := h
  refine ⟨hdense.congr fun x hx => (hstill x hx).2, c, body, hcalls c hc, hmakes, fun hplain => ?_⟩
  exact (hordered hplain).congr (fun x hx => hk.node_eq (hstill x hx).1)
    fun x hx => (hstill x hx).2

/-- More nodes may be added, as long as no inner one is moved and the new groups are compact as well. -/
theorem Groups.extend (h : Groups settings s t base calls inner)
    (hcalls : ∀ c, calls c → calls' c) (hk : t.Keeps u)
    (hinner : ∀ x : Nat, x < t.size → inner x → inner' x ∧ u.position? x = t.position? x)
    (hnew : Groups settings s u t.size calls' inner') : Groups settings s u base calls' inner' := by
  intro g children hb hg
  rcases Nat.lt_or_ge g t.size with hlt | hge
  · rw [hk.node_eq hlt] at hg
    obtain ⟨hchildren, hcompact⟩ := h g children hb hg
    refine ⟨fun x hx => ?_, hcompact.keeps hcalls hk fun x hx => ?_⟩
    · obtain ⟨hx, hi⟩ := hchildren x hx
      exact ⟨Nat.lt_of_lt_of_le hx hk.size_le, (hinner x hx hi).1⟩
    · obtain ⟨hx, hi⟩ := hchildren x hx
      exact ⟨hx, (hinner x hx hi).2⟩
  · exact hnew g children hge hg

theorem Groups.mono (h : Groups settings s t base calls inner) (hcalls : ∀ c, calls c → calls' c)
    (hinner : ∀ x, inner x → inner' x) : Groups settings s t base calls' inner' := by
  intro g children hb hg
  obtain ⟨hchildren, hcompact⟩ := h g children hb hg
  exact ⟨fun x hx => ⟨(hchildren x hx).1, hinner x (hchildren x hx).2⟩,
    hcompact.keeps hcalls (Store.Keeps.refl t) fun x hx => ⟨(hchildren x hx).1, rfl⟩⟩

variable (settings) in
theorem groups_of_size (s t : Store) (calls : Call → Prop) (inner : NodeId → Prop) :
    Groups settings s t t.size calls inner := by
  intro g children hb hg
  exact absurd (Store.lt_size hg) (Nat.not_lt_of_le hb)

/-- A node that is no group changes nothing. -/
theorem Groups.adding (h : Groups settings s w.store base calls inner) {n : Node}
    (hn : ∀ children, n ≠ .group children) (p : Option Int) :
    Groups settings s (w.added n p).store base calls inner := by
  refine h.extend (fun _ hc => hc) (Store.keeps_add _ _ _) (fun x hx hi => ⟨hi, ?_⟩) ?_
  · rw [store_added, Store.position?_add, if_neg (Nat.ne_of_lt hx)]
  · intro g children hb hg
    have hlt : g < w.store.size + 1 := by
      rw [← Store.size_add w.store n p]
      exact Store.lt_size hg
    obtain rfl : g = w.store.size := Nat.le_antisymm (Nat.le_of_lt_succ hlt) hb
    rw [store_added, Store.node?_add, if_pos rfl] at hg
    exact absurd (Option.some.inj hg) (hn children)

/-- The compaction of a row leaves the inner nodes where they are. -/
theorem Groups.compacted (hpolicy : settings.policy.assembler = Assembler.embed)
    (hs : ∀ x ∈ suppliedAll es, v.IsSingle x)
    (hseparate : Separate (rowSupplyAll es) (bodySuppliesAll es))
    (hall : convertAll settings es (v.withLastText none) = .ok ids w)
    (h : Groups settings s w.store v.store.size calls (Inner v.store.size ids (bodySuppliesAll es))) :
    Groups settings s (w.compacted ids).store v.store.size calls
      (Inner v.store.size ids (bodySuppliesAll es)) := by
  have hlaid := row_laid hpolicy es hs hall
  refine h.extend (fun _ hc => hc) (Store.keeps_compact _ _) (fun x _ hi => ⟨hi, ?_⟩) ?_
  · have hrow : x ∉ ids := by
      rcases hi with ⟨-, hnot⟩ | hbody
      · exact hnot
      · intro hmem
        rcases hlaid.brought x hmem with hnew | hgiven
        · have hold := (hs x ((mem_suppliedAll es x).mpr (.inr hbody))).1
          exact absurd hold (Nat.not_lt_of_le hnew)
        · exact hseparate.notMem hbody hgiven
    exact Store.position?_compact_of fun hmem => absurd hmem hrow
  · have hnone := groups_of_size settings s (w.compacted ids).store calls
      (Inner v.store.size ids (bodySuppliesAll es))
    rw [store_compacted, Store.size_compact] at hnone
    exact hnone

end Groups

section Bodies

variable {settings : Settings} {s : Store} {w w' : Workspace} {id g : NodeId}

/-- The one group that a body is made into has the nodes of the body for children. -/
theorem embodying_group (hpolicy : settings.policy.assembler = Assembler.embed) {position : Int}
    {ids children : List NodeId} (hr : embodying settings w position ids = .ok id w')
    (hb : w.store.size ≤ g) (hg : w'.store.node? g = some (.group children)) :
    g = w.store.size ∧ children = ids := by
  have hgroup : ∀ {u : Store}, u = (w.added (.group ids) none).store →
      u.node? g = some (.group children) → g = w.store.size ∧ children = ids := by
    rintro u rfl hu
    have hlt := Store.lt_size hu
    rw [store_added, Store.size_add] at hlt
    obtain rfl : g = w.store.size := Nat.le_antisymm (Nat.le_of_lt_succ hlt) hb
    rw [store_added, Store.node?_add, if_pos rfl] at hu
    cases hu
    exact ⟨rfl, rfl⟩
  obtain ⟨-, rfl, rfl⟩ | ⟨-, rfl, rfl⟩ := embodying_ok hpolicy hr
  · rw [store_positioned, Store.node?_setPosition] at hg
    exact hgroup rfl hg
  · -- Of the three nodes that are added, the slot and the dynamic node are no groups.
    rw [store_added, Store.node?_add] at hg
    split at hg
    · cases hg
    · rw [store_added, Store.node?_add] at hg
      split at hg
      · cases hg
      · exact hgroup rfl hg

/-- The group of a body is compact, and its children are inside the placeholder. -/
theorem embodying_groups (hpolicy : settings.policy.assembler = Assembler.embed)
    {v w₁ : Workspace} {position : Nat} {body : List Element} {ids : List NodeId}
    (before : List Mark) (spec : Option TransformSpec) (es : List Element)
    (hs : ∀ x ∈ suppliedAll body, v.IsSingle x)
    (hseparate : Separate (rowSupplyAll body) (bodySuppliesAll body))
    (hstart : ∀ x ∈ rowSupplyAll body, v.store.position? x = s.position? x)
    (hall : convertAll settings body (v.withLastText none) = .ok ids w₁)
    (hr : embodying settings (w₁.compacted ids) position ids = .ok id w') :
    Groups settings s w'.store w₁.store.size
      (Calls settings before (.placeholder position spec body :: es) v)
      (Inner v.store.size [id] (rowSupplyAll body :: bodySuppliesAll body)) := by
  intro g children hb hg
  have hlaid := row_laid hpolicy body hs hall
  have hnode := embodying_laid hpolicy (Laid.refl (w₁.compacted ids)) hr
  have hsize : (w₁.compacted ids).store.size = w₁.store.size := Store.size_compact _ _
  obtain ⟨rfl, rfl⟩ := embodying_group hpolicy hr (by rwa [hsize]) hg
  have hid : w₁.store.size ≤ id := by
    rw [← hsize]
    exact hnode.size_le
  -- Compaction is the last that happens to the children.
  have hstill : ∀ x ∈ children, x < (w₁.compacted children).store.size ∧
      w'.store.position? x = (w₁.compacted children).store.position? x := by
    intro x hx
    have hlt : x < (w₁.compacted children).store.size := by
      rw [hsize]
      exact (hlaid.single x hx).1
    exact ⟨hlt, hnode.still x hlt List.not_mem_nil⟩
  refine ⟨fun x hx => ⟨Nat.lt_of_lt_of_le (hstill x hx).1 hnode.keeps.size_le, ?_⟩, ?_⟩
  · have hlt := (hstill x hx).1
    rw [hsize] at hlt
    have hne : x ∉ [id] := fun hmem => by
      rw [List.mem_singleton.mp hmem] at hlt
      exact absurd hlt (Nat.not_lt_of_le hid)
    exact (hlaid.brought x hx).imp (fun hnew => ⟨hnew, hne⟩) fun hgiven => by simp [hgiven]
  · have hcompact : Compact settings s (w₁.compacted children).store
        (Calls settings before (.placeholder position spec body :: es) v)
        (w₁.compacted children).store.size children := by
      refine ⟨Store.dense_compact _ _, _, body, .here before _ es v,
        ⟨position, spec, w₁, rfl, hall, hsize⟩, fun hplain => ?_⟩
      exact (convertAll_declares (w := v.withLastText none) hpolicy hplain hs hseparate hstart
        hall).ordered
    exact hcompact.keeps (fun _ hc => hc) hnode.keeps hstill

end Bodies

section Leaves

variable {settings : Settings} {s : Store} {base id : NodeId} {calls : Call → Prop}
  {inner : NodeId → Prop} {w w' : Workspace}

theorem mirroring_groups (h : Groups settings s w.store base calls inner) {position : Int}
    {spec : Option TransformSpec} {primary : NodeId}
    (hr : mirroring settings w position spec primary = .ok id w') :
    Groups settings s w'.store base calls inner := by
  obtain ⟨f, -, rfl, rfl⟩ := mirroring_ok hr
  exact Groups.adding (w := (w.noted _).noted _) h (by simp) none

theorem wrapping_groups (h : Groups settings s w.store base calls inner) {name : String}
    {id' : NodeId} (hr : wrapping w id name = .ok id' w') :
    Groups settings s w'.store base calls inner := by
  obtain ⟨-, rfl, rfl⟩ | ⟨indent, -, rfl, rfl⟩ := wrapping_ok hr
  · exact h
  · exact h.adding (by simp) none

theorem varying_groups (h : Groups settings s w.store base calls inner) {name : String}
    {spec : Option TransformSpec} (hr : varying settings w name spec = .ok id w') :
    Groups settings s w'.store base calls inner := by
  obtain ⟨-, f, -, hw⟩ | ⟨-, f, -, hw⟩ | ⟨-, -, rfl, rfl⟩ := varying_ok hr
  · exact wrapping_groups (Groups.adding (w := w.noted _) h (by simp) none) hw
  · exact wrapping_groups (h.adding (by simp) none) hw
  · exact Groups.adding (w := w.noted _) h (by simp) none

end Leaves

section Trees

variable {settings : Settings} {s : Store}

mutual

/-- The groups that are made for an element are compact, and no row around moves their children. -/
theorem convert_groups (hpolicy : settings.policy.assembler = Assembler.embed) (e : Element)
    (before : List Mark) (es : List Element) {w w' : Workspace} {built : Built}
    (hs : ∀ id ∈ e.supplied, w.IsSingle id) (hseparate : Separate e.rowSupply e.bodySupplies)
    (hstart : ∀ id ∈ e.bodySupplies.flatten, w.store.position? id = s.position? id)
    (hr : convert settings e w = .ok built w') :
    Groups settings s w'.store w.store.size (Calls settings before (e :: es) w)
      (Inner w.store.size built.ids e.bodySupplies) := by
  have hnone := fun calls inner => groups_of_size settings s w.store calls inner
  match e with
  | .text content =>
    rw [convert_text] at hr
    cases hr
    exact Groups.adding (w := w.withLastText _) (hnone _ _) (by simp) none
  | .choice position items =>
    rw [convert_choice] at hr
    cases hr
    exact (hnone _ _).adding (by simp) _
  | .tabstop position spec =>
    rw [convert_tabstop] at hr
    split at hr
    · obtain ⟨id, w₁, hm, hr⟩ := chain_eq_ok hr
      cases hr
      exact mirroring_groups (hnone _ _) hm
    · cases hr
      exact (hnone _ _).adding (n := .tabstop none none) (by simp) (some (position : Int))
  | .placeholder position spec children =>
    rw [convert_placeholder] at hr
    split at hr
    · obtain ⟨id, w₁, hm, hr⟩ := chain_eq_ok hr
      cases hr
      exact mirroring_groups (hnone _ _) hm
    · next hfirst =>
      split at hr
      · next content _ =>
        cases hr
        exact (hnone _ _).adding (n := .tabstop (some content) none) (by simp)
          (some (position : Int))
      · next hseveral =>
        obtain ⟨ids, w₁, hall, hr⟩ := chain_eq_ok hr
        obtain ⟨id, w₂, hbody, hr⟩ := chain_eq_ok hr
        cases hr
        have hbodies : ∀ x ∈ (bodySuppliesAll children).flatten,
            w.store.position? x = s.position? x := fun x hx => hstart x (by simp [bodySupplies, hx])
        have hgroups := convertAll_groups (w := w.withLastText none) hpolicy children [] hs
          hseparate.body hbodies hall
        have hcompacted := Groups.compacted hpolicy hs hseparate.body hall hgroups
        have hnode := embodying_laid hpolicy (Laid.refl (w₁.compacted ids)) hbody
        have hgroup := embodying_groups hpolicy before spec es hs hseparate.body
          (fun x hx => hstart x (by simp [bodySupplies, hx])) hall hbody
        refine hcompacted.extend (fun c hc => .body before spec es hfirst hseveral hc) hnode.keeps
          (fun x hx hi => ⟨?_, hnode.still x hx List.not_mem_nil⟩) ?_
        · refine hi.imp (fun hnew => ⟨hnew.1, fun hmem => ?_⟩) fun hready => by
            simp [bodySupplies, hready]
          have hle : (w₁.compacted ids).store.size ≤ x := List.mem_singleton.mp hmem ▸ hnode.size_le
          exact absurd hx (Nat.not_lt_of_le hle)
        · rw [store_compacted, Store.size_compact]
          exact hgroup
  | .var name spec =>
    rw [convert_var] at hr
    obtain ⟨id, w₁, hv, hr⟩ := chain_eq_ok hr
    cases hr
    exact varying_groups (hnone _ _) hv
  | .snippet children =>
    rw [convert_snippet] at hr
    obtain ⟨ids, w₁, hall, hr⟩ := chain_eq_ok hr
    cases hr
    have hgroups := convertAll_groups (w := w.withLastText none) hpolicy children
      (before ++ [.opening]) hs hseparate hstart hall
    exact (Groups.compacted hpolicy hs hseparate hall hgroups).mono (fun c hc => .nested es hc)
      fun x hi => hi
  | .ownText content => cases hr
  | .ownSnippet children => cases hr
  | .custom kind => cases hr
  | .built id =>
    cases hr
    exact hnone _ _

theorem convertAll_groups (hpolicy : settings.policy.assembler = Assembler.embed)
    (es : List Element) (before : List Mark) {w w' : Workspace} {ids : List NodeId}
    (hs : ∀ id ∈ suppliedAll es, w.IsSingle id)
    (hseparate : Separate (rowSupplyAll es) (bodySuppliesAll es))
    (hstart : ∀ id ∈ (bodySuppliesAll es).flatten, w.store.position? id = s.position? id)
    (hr : convertAll settings es w = .ok ids w') :
    Groups settings s w'.store w.store.size (Calls settings before es w)
      (Inner w.store.size ids (bodySuppliesAll es)) := by
  match es with
  | [] =>
    cases hr
    exact groups_of_size settings s w.store _ _
  | e :: es =>
    rw [convertAll_cons] at hr
    obtain ⟨built, w₁, he, hr⟩ := chain_eq_ok hr
    obtain ⟨rest, w₂, hes, hr⟩ := chain_eq_ok hr
    cases hr
    simp only [suppliedAll, List.mem_append] at hs
    rw [bodySuppliesAll] at hstart
    rw [rowSupplyAll, bodySuppliesAll] at hseparate
    have hs₁ : ∀ x ∈ e.supplied, w.IsSingle x := fun x hx => hs x (.inl hx)
    have hs₂ : ∀ x ∈ suppliedAll es, w.IsSingle x := fun x hx => hs x (.inr hx)
    have hbuilt := convert_laid hpolicy e hs₁ he
    have hfirst := hbuilt.of_store (w₁.store_after e) (w₁.registry_after e)
    have hsingle : ∀ x ∈ suppliedAll es, (w₁.after e).IsSingle x :=
      fun x hx => (hs₂ x hx).keeps hfirst.keeps
    have hlaid := convertAll_laid hpolicy es hsingle hes
    -- What stands ready in the bodies behind has not been moved when they are come to.
    have hready : ∀ x ∈ (bodySuppliesAll es).flatten,
        (w₁.after e).store.position? x = s.position? x := by
      intro x hx
      rw [← hstart x (by simp [hx])]
      refine hfirst.still x (hs₂ x ((mem_suppliedAll es x).mpr (.inr hx))).1 fun hin => ?_
      obtain ⟨hrow, hbody⟩ := hseparate.cross_right hx
      exact ((mem_supplied e x).mp (e.inside_subset hin)).elim hrow hbody
    have hgroups := convert_groups hpolicy e before es hs₁ hseparate.left
      (fun x hx => hstart x (by simp [hx])) he
    have hrest := convertAll_groups hpolicy es (before ++ e.marks) hsingle hseparate.right hready hes
    rw [← store_after w₁ e] at hgroups
    rw [hbuilt.spliced_eq, bodySuppliesAll]
    exact hgroups.extend (fun _ hc => hc) hlaid.keeps
      (fun x hx hi => hi.kept hlaid (fun y hy => (hs₂ y hy).1) hseparate hx)
      (hrest.mono (fun c hc => .later he hc) fun x hi =>
        hi.behind hfirst.keeps.size_le fun y hy => (hfirst.single y hy).1)

end

/-- Where no node stands ready in two rows, a conversion that succeeds leaves its lists of siblings
numbered from 1 without a gap: the row of the template, and the children of each group that is added,
which is the group of a body that the conversion has come to. A list among whose siblings no template is
nested is numbered in the declared order. -/
theorem convert_compact (hpolicy : settings.policy.assembler = Assembler.embed) {es : List Element}
    {w w' : Workspace} {ids : List NodeId} (hs : ∀ id ∈ suppliedAll es, w.IsSingle id)
    (hseparate : Separate (rowSupplyAll es) (bodySuppliesAll es))
    (hr : convert settings (.snippet es) w = .ok (.many ids) w') :
    w'.store.Dense ids ∧
    ((∀ nested, .snippet nested ∉ es) → Ordered w.store w'.store es ids) ∧
    ∀ g children, w.store.size ≤ g → w'.store.node? g = some (.group children) →
      Compact settings w.store w'.store (Calls settings [] es (w.withLastText none)) g children := by
  rw [convert_snippet] at hr
  obtain ⟨ids, w₁, hall, hr⟩ := chain_eq_ok hr
  cases hr
  have hgroups := convertAll_groups (w := w.withLastText none) hpolicy es [] hs hseparate
    (fun _ _ => rfl) hall
  have hcompacted := Groups.compacted hpolicy hs hseparate hall hgroups
  refine ⟨Store.dense_compact _ _, fun hplain => ?_, fun g children hb hg => ?_⟩
  · exact (convertAll_declares (w := w.withLastText none) hpolicy hplain hs hseparate
      (fun _ _ => rfl) hall).ordered
  · exact (hcompacted g children hb hg).2

end Trees

theorem eq_group_of_typeName {n : Node} (h : n.typeName = "SnippetGroupNode") (hne : n.edges ≠ []) :
    n = .group n.edges := by
  cases n with
  | group children => rfl
  | host type lines positioned => exact absurd rfl hne
  | _ => simp [Node.typeName] at h

def succeedsWith {α : Type} (check : α → Workspace → Bool) :
    EStateM.Result Error Workspace α → Bool
  | .ok a w => check a w
  | .error _ _ => false

theorem ok_of_succeedsWith {α : Type} {check : α → Workspace → Bool}
    {r : EStateM.Result Error Workspace α} (h : succeedsWith check r = true) :
    ∃ a w, r = .ok a w ∧ check a w = true := by
  cases r with
  | ok a w => exact ⟨a, w, rfl, h⟩
  | error e w => cases h

/-- Two choices of one position around a node that stands ready with a smaller one, and a body. -/
def scattered : List Element :=
  [.choice 9 ["a"], .built 0, .choice 9 ["b"], .placeholder 2 none [.text "c", .tabstop 3 none]]

def ready : Store := ⟨#[⟨.tabstop none none, some 4⟩]⟩

/-- The node that stands ready comes before the choices, the first choice before the second one, and the
body is numbered for itself. -/
theorem convert_compact_scattered :
    ∃ w', convert (Context.fresh Options.none).settings (.snippet scattered) (.fresh ready) =
        .ok (.many [1, 0, 2, 5]) w' ∧
      w'.store.Dense [1, 0, 2, 5] ∧
      (∃ k l m, w'.store.position? 0 = some k ∧ w'.store.position? 1 = some l ∧
        w'.store.position? 2 = some m ∧ 0 < k ∧ k < l ∧ l < m) ∧
      w'.store.node? 5 = some (.group [3, 4]) ∧ w'.store.Dense [3, 4] := by
  have hpolicy : (Context.fresh Options.none).settings.policy.assembler = Assembler.embed := rfl
  have hsucceeds : succeedsWith (fun ids w => ids = [1, 0, 2, 5] ∧
      (w.store.node? 5).map (fun n => (n.typeName, n.edges)) = some ("SnippetGroupNode", [3, 4]))
      (convertAll (Context.fresh Options.none).settings scattered
        ((Workspace.fresh ready).withLastText none)) = true := by decide +kernel
  obtain ⟨ids, w₁, hall, hcheck⟩ := ok_of_succeedsWith hsucceeds
  obtain ⟨rfl, hgroup⟩ := of_decide_eq_true hcheck
  have hr : convert (Context.fresh Options.none).settings (.snippet scattered) (.fresh ready) =
      .ok (.many [1, 0, 2, 5]) (w₁.compacted [1, 0, 2, 5]) := by
    rw [convert_snippet, hall]
    rfl
  have hs : ∀ id ∈ suppliedAll scattered, (Workspace.fresh ready).IsSingle id := by
    intro id hid
    obtain rfl : id = 0 := by simpa [scattered, suppliedAll, supplied] using hid
    exact ⟨by decide, fun members he => by cases he⟩
  have hseparate : Separate (rowSupplyAll scattered) (bodySuppliesAll scattered) := by
    simp [Separate, scattered, rowSupplyAll, rowSupply, bodySuppliesAll, bodySupplies]
  obtain ⟨hdense, hordered, hgroups⟩ := convert_compact hpolicy hs hseparate hr
  have hplain : ∀ nested, .snippet nested ∉ scattered := by simp [scattered]
  have horder := (hordered hplain).order
  obtain ⟨k, l, hk, hl, hpos, hkl⟩ := horder (.built 0) 0 (.choice 9 ["a"]) 1 4 9 (by simp [scattered])
    (by simp [scattered]) rfl rfl (by decide) (.inl (by decide))
  obtain ⟨l', m, hl', hm, -, hlm⟩ := horder (.choice 9 ["a"]) 1 (.choice 9 ["b"]) 2 9 9
    (by simp [scattered]) (by simp [scattered]) rfl rfl (by decide) (.inr ⟨rfl, by decide⟩)
  obtain rfl : l = l' := Option.some.inj (hl.symm.trans hl')
  obtain ⟨n, hn, he⟩ := Option.map_eq_some_iff.mp hgroup
  obtain ⟨htype, hedges⟩ := Prod.mk.inj he
  have hnode : (w₁.compacted [1, 0, 2, 5]).store.node? 5 = some (.group [3, 4]) := by
    rw [store_compacted, Store.node?_compact, hn, eq_group_of_typeName htype (by simp [hedges]), hedges]
  exact ⟨_, hr, hdense, ⟨k, l, m, hk, hl, hm, hpos, hkl, hlm⟩, hnode,
    (hgroups 5 [3, 4] (by decide) hnode).1⟩

end Snippet.Conversion
