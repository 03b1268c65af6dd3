import Snippet.Proofs.Lines
import Snippet.Proofs.Store.Layered

/-!
Parts of a store that are formed. From some node on, nodes refer to older ones among them, and a
dynamic node has a static body and the slot right before it. Such a part is closed; while the store
grows, what a node of it shows stays, and whether it can change.
-/

namespace Snippet

theorem itemAt_of_lt {α : Type} {items : List α} {index : Nat} (h : index < items.length) :
    itemAt items index = .ok items[index] := by
  have hneg : ¬((index : Int) < 0) := Int.not_lt.mpr (Int.natCast_nonneg index)
  simp only [itemAt, if_neg hneg, Int.toNat_natCast, List.getElem?_eq_getElem h]

/-- What can be said of the node `id` in a part of a store that begins at `base`. -/
def Node.Formed (allowed : ValueFunction → Nat → Prop) (s : Store) (base id : Nat) :
    Node → Prop
  | text lines => lines ≠ []
  | tabstop _ typed => typed ≠ some []
  | choice choices index => [] ∉ choices ∧ (choices = [] ∨ index < choices.length)
  | computed fn dependencies =>
      allowed fn dependencies.length ∧ ∀ d ∈ dependencies, s.Readable base id d
  | dynamic rebuild slot =>
      base ≤ slot ∧ slot + 1 = id ∧
        ∃ body, rebuild = some (.body body) ∧ s.Readable base id body ∧
          s.isInteractive body = false
  | group children => ∀ c ∈ children, s.Readable base id c
  | wrap child _ => s.Readable base id child
  | host _ _ _ => False
  | row _ => False
  | vacant => True
  | bound _ => False

/-- All nodes from `base` on are formed. -/
def Store.Formed (allowed : ValueFunction → Nat → Prop) (base : Nat) (s : Store) : Prop :=
  ∀ id n, base ≤ id → s.node? id = some n → n.Formed allowed s base id

/-- The selection of a formed choice has a line. -/
theorem Node.selected_ne_nil {choices : List Lines} {index : Nat} (h : [] ∉ choices)
    (hi : choices = [] ∨ index < choices.length) :
    ∃ lines, Node.selected choices index = .ok lines ∧ lines ≠ [] := by
  match choices, hi with
  | [], _ => exact ⟨[""], rfl, by simp⟩
  | c :: cs, .inr hlt =>
    refine ⟨(c :: cs)[index], itemAt_of_lt hlt, fun hnil => h ?_⟩
    rw [← hnil]
    exact List.getElem_mem hlt

section Formed

variable {allowed allowed' : ValueFunction → Nat → Prop} {s t : Store} {base id d : Nat} {n : Node}

theorem Node.Formed.keeps (hk : s.Keeps t) (hid : id ≤ s.size)
    (ha : ∀ fn k, allowed fn k → allowed' fn k) (h : n.Formed allowed s base id) :
    n.Formed allowed' t base id := by
  cases n with
  | computed fn dependencies => exact ⟨ha _ _ h.1, fun x hx => (h.2 x hx).keeps hk hid⟩
  | dynamic rebuild slot =>
    obtain ⟨hb, hs, body, hr, hread, hstatic⟩ := h
    exact ⟨hb, hs, body, hr, hread.keeps hk hid, Store.isInteractive_keeps hk hstatic⟩
  | group children => exact fun c hc => (h c hc).keeps hk hid
  | wrap child indent => exact Store.Readable.keeps hk hid h
  | _ => exact h

theorem Store.Formed.keeps (hk : s.Keeps t) (hsize : t.size = s.size)
    (ha : ∀ fn k, allowed fn k → allowed' fn k) (h : s.Formed allowed base) :
    t.Formed allowed' base := by
  intro id n hb hn
  have hid : id < s.size := by rw [← hsize]; exact lt_size hn
  rw [hk.node_eq hid] at hn
  exact (h id n hb hn).keeps hk (Nat.le_of_lt hid) ha

theorem Store.Formed.add (h : s.Formed allowed base) (hn : n.Formed allowed s base s.size)
    (position : Option Int) : (s.add n position).2.Formed allowed base := by
  intro id m hb hm
  have hk := keeps_add s n position
  rw [node?_add] at hm
  split at hm
  · next hid =>
    cases hm
    rw [hid]
    exact hn.keeps hk (Nat.le_refl _) fun _ _ ha => ha
  · exact (h id m hb hm).keeps hk (Nat.le_of_lt (lt_size hm)) fun _ _ ha => ha

theorem Store.Formed.layered (h : s.Formed allowed base) : s.Layered base where
  source id n hb hn x hx := by
    have hf := h id n hb hn
    cases n with
    | computed fn dependencies => exact hf.2 x hx
    | dynamic rebuild slot =>
      obtain ⟨-, -, body, rfl, hread, -⟩ := hf
      exact List.mem_singleton.mp hx ▸ hread
    | group children => exact hf x hx
    | wrap child indent => exact List.mem_singleton.mp hx ▸ hf
    | row members => exact hf.elim
    | bound target => exact hf.elim
    | _ => cases hx
  slot id rebuild slot hb hn := by
    obtain ⟨hbase, hslot, -⟩ := h id _ hb hn
    exact ⟨hbase, hslot⟩
  -- No function of the host builds anything here.
  offered id slot x hb hx := by
    obtain ⟨-, make, -, hn, -⟩ := hx
    obtain ⟨-, -, body, hbody, -⟩ := h id _ hb hn
    cases hbody

/-- The nodes from `base` on are a closed part, ranked by their numbers. -/
theorem Store.Formed.closed (h : s.Formed allowed base) :
    s.Closed (fun id => base ≤ id ∧ id < s.size) (fun id => id) :=
  h.layered.closed

/-! ## Nothing changes while a store grows -/

/-- Whether a node can change is a matter of the nodes it refers to; neither fuel nor more nodes
count. -/
theorem Store.Formed.isInteractiveWith_eq (h : s.Formed allowed base) (hk : s.Keeps t)
    {fuel fuel' : Nat} (hb : base ≤ id) (hid : id < s.size) (hf : id < fuel) (hf' : id < fuel') :
    t.isInteractiveWith fuel' id = s.isInteractiveWith fuel id := by
  induction fuel generalizing fuel' id with
  | zero => exact absurd hf (Nat.not_lt_zero id)
  | succ fuel ih =>
    obtain ⟨fuel', rfl⟩ : ∃ k, fuel' = k + 1 := ⟨fuel' - 1, by omega⟩
    obtain ⟨n, hn⟩ := exists_node? hid
    have hform := h id n hb hn
    have below : ∀ d, s.Readable base id d →
        t.isInteractiveWith fuel' d = s.isInteractiveWith fuel d := by
      intro d hd
      have hlt := hd.2.1
      exact ih hd.1 (Nat.lt_trans hlt hid) (by omega) (by omega)
    -- Only groups and wrapped nodes look at other nodes.
    rw [isInteractiveWith_succ hn, isInteractiveWith_succ (hk id n hn)]
    cases n with
    | group children => exact any_congr_of_mem fun c hc => below c (hform c hc)
    | wrap child indent => exact below child hform
    | _ => rfl

theorem Store.Formed.isInteractive_eq (h : s.Formed allowed base) (hk : s.Keeps t)
    (hb : base ≤ id) (hid : id < s.size) : t.isInteractive id = s.isInteractive id := by
  have hle := hk.size_le
  exact h.isInteractiveWith_eq hk hb hid (by omega) (by omega)

theorem Store.Formed.isInteractive_node (h : s.Formed allowed base) (hb : base ≤ id)
    (hn : s.node? id = some n) : s.isInteractive id = n.isLive s.isInteractive := by
  have hid : id < s.size := lt_size hn
  have hform := h id n hb hn
  have below : ∀ d, s.Readable base id d → s.isInteractiveWith s.size d = s.isInteractive d := by
    intro d hd
    have hlt := hd.2.1
    exact h.isInteractiveWith_eq (Keeps.refl s) hd.1 (by omega) (by omega) (by omega)
  rw [isInteractive, isInteractiveWith_succ hn]
  cases n with
  | group children => exact any_congr_of_mem fun c hc => below c (hform c hc)
  | wrap child indent => exact below child hform
  | _ => rfl

theorem Store.Formed.isInteractive_add {position : Option Int}
    (h : (s.add n position).2.Formed allowed base) (hb : base ≤ s.size) :
    (s.add n position).2.isInteractive s.size = n.isLive (s.add n position).2.isInteractive :=
  h.isInteractive_node hb (by rw [node?_add, if_pos rfl])

/-- A node shows the same in a store that has grown. -/
theorem Store.Formed.view_eq_of_keeps (h : s.Formed allowed base) (h' : t.Formed allowed' base)
    (hk : s.Keeps t) (scope : Scope) (hb : base ≤ id) (hid : id < s.size) :
    t.view scope id = s.view scope id := by
  -- By induction on the number of the node: it refers to older ones.
  induction id using Nat.strongRecOn with
  | _ id ih =>
    obtain ⟨n, hn⟩ := exists_node? hid
    have hid' : id < t.size := Nat.lt_of_lt_of_le hid hk.size_le
    have hform := h id n hb hn
    have older : ∀ d, base ≤ d → d < id → t.view scope d = s.view scope d :=
      fun d hbd hlt => ih d hlt hbd (Nat.lt_trans hlt hid)
    rw [view_eq h.closed ⟨hb, hid⟩ hn, view_eq h'.closed ⟨hb, hid'⟩ (hk id n hn)]
    cases n with
    | computed fn dependencies =>
      exact showing_congr_store t s scope (by simp)
        fun d hd => older d (hform.2 d hd).1 (hform.2 d hd).2.1
    | dynamic rebuild slot =>
      obtain ⟨hbs, hslot, body, rfl, ⟨hbb, hlt, -⟩, hstatic⟩ := hform
      have hslot_lt : slot < id := Nat.lt_of_succ_le (Nat.le_of_eq hslot)
      have hslot_eq := hk.node_eq (Nat.lt_trans hslot_lt hid)
      by_cases hv : s.node? slot = some .vacant
      · -- The body is read where the dynamic node is not built; it is static in both stores.
        rw [showing_body hv, showing_body (hslot_eq.trans hv), evaluateStatic_eq_view hstatic,
          evaluateStatic_eq_view (isInteractive_keeps hk hstatic), older body hbb hlt]
      · rw [showing_built hv, showing_built (by rwa [hslot_eq]), older slot hbs hslot_lt]
    | group children =>
      exact showing_congr_store t s scope (by simp)
        fun c hc => older c (hform c hc).1 (hform c hc).2.1
    | wrap child indent =>
      refine showing_congr_store t s scope (by simp) fun d hd => ?_
      rw [List.mem_singleton.mp hd]
      exact older child hform.1 hform.2.1
    | host type ls positioned => exact hform.elim
    | row members => exact hform.elim
    | bound target => exact hform.elim
    | _ => exact showing_congr_store t s scope (by simp) (by simp [Node.edges])

/-- A node that shows something shows a line. -/
theorem Store.Formed.view_ne_nil (h : s.Formed allowed base) {scope : Scope} {lines : Lines}
    (hb : base ≤ id) (hid : id < s.size) (hv : s.view scope id = .ok lines) : lines ≠ [] := by
  induction id using Nat.strongRecOn generalizing lines with
  | _ id ih =>
    obtain ⟨n, hn⟩ := exists_node? hid
    have hform := h id n hb hn
    rw [view_eq h.closed ⟨hb, hid⟩ hn] at hv
    cases n with
    | text ls =>
      cases hv
      exact hform
    | tabstop default typed =>
      cases hv
      cases typed with
      | none => exact Lines.ofText_ne_nil _
      | some ls => exact fun hnil => hform (congrArg some hnil)
    | choice choices index =>
      obtain ⟨ls, hls, hne⟩ := Node.selected_ne_nil hform.1 hform.2
      rw [showing, hls] at hv
      cases hv
      exact hne
    | computed fn dependencies =>
      rw [showing] at hv
      obtain ⟨args, -, hv⟩ := bind_eq_ok hv
      obtain ⟨value, -, hv⟩ := bind_eq_ok hv
      cases hv
      exact Value.toLines_ne_nil value
    | dynamic rebuild slot =>
      obtain ⟨hbs, hslot, body, rfl, -⟩ := hform
      by_cases hvac : s.node? slot = some .vacant
      · rw [showing_body hvac] at hv
        obtain ⟨ls, -, rfl⟩ := map_eq_ok hv
        exact Lines.ofText_ne_nil ls.toText
      · rw [showing_built hvac] at hv
        have hlt : slot < id := Nat.lt_of_succ_le (Nat.le_of_eq hslot)
        exact ih slot hlt hbs (Nat.lt_trans hlt hid) hv
    | group children =>
      obtain ⟨pieces, -, rfl⟩ := map_eq_ok hv
      exact Lines.concat_ne_nil pieces
    | wrap child indent =>
      obtain ⟨ls, hls, rfl⟩ := map_eq_ok hv
      have hchild := ih child hform.2.1 hform.1 (Nat.lt_trans hform.2.1 hid) hls
      exact indent.apply_ne_nil scope.indent hchild
    | host type ls positioned => exact hform.elim
    | row members => exact hform.elim
    | vacant => cases hv
    | bound target => exact hform.elim

end Formed

end Snippet
