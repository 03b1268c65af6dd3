import Snippet.Proofs.Store.Formed
import Snippet.Proofs.Store.Parallel
import Snippet.Store.Edit

/-!
Nodes in use. They are rendered, typed into and chosen from, and all that is written then is the contents of
fields and what dynamic nodes are built with. So what is static stays static and shows the same, and a part
that is in layers, or formed, stays so.
-/

namespace Snippet

/-- An insertion point, a choice, or the slot where there will be an insertion point. -/
def Node.isField : Node → Bool
  | tabstop _ _ => true
  | choice _ _ => true
  | vacant => true
  | _ => false

theorem Node.isLive_of_isField {n : Node} (h : n.isField) (below : NodeId → Bool) :
    n.isLive below = true := by
  cases n with
  | tabstop default typed => rfl
  | choice choices index => rfl
  | vacant => rfl
  | _ => cases h

/-- A field, and the same field with contents of its kind. -/
inductive Node.Refilled : Node → Node → Prop where
  | tabstop (default : Option String) (typed : Option Lines) (value : Value) :
      Refilled (.tabstop default typed) (.tabstop default (some value.toLines))
  | choice (choices : List Lines) (index index' : Nat) (inRange : index' < choices.length) :
      Refilled (.choice choices index) (.choice choices index')

namespace Store

/-! ## What an edit does -/

section Edit

variable (s : Store) (id : NodeId)

/-- Text goes into an insertion point, and into no other node. -/
theorem setText_cases (value : Value) :
    (∃ default typed, s.node? id = some (.tabstop default typed) ∧
      setText id value s = .ok () (s.setNode id (.tabstop default (some value.toLines)))) ∨
    (∃ e, setText id value s = .error e s) ∧
      ¬∃ default typed, s.node? id = some (.tabstop default typed) := by
  simp only [setText, bind, EStateM.bind, get_apply]
  cases hn : s.node? id with
  | none => exact .inr ⟨⟨_, rfl⟩, by simp⟩
  | some n =>
    cases n with
    | tabstop default typed => exact .inl ⟨default, typed, rfl, rfl⟩
    | _ => exact .inr ⟨⟨_, rfl⟩, by simp⟩

/-- Of a choice, the alternatives that it has can be chosen. -/
theorem select_cases (index : Int) :
    (∃ choices current, s.node? id = some (.choice choices current) ∧
      (0 ≤ index ∧ index < choices.length) ∧
        select id index s = .ok () (s.setNode id (.choice choices index.toNat))) ∨
    (∃ e, select id index s = .error e s) ∧
      ¬∃ choices current, s.node? id = some (.choice choices current) ∧
        0 ≤ index ∧ index < choices.length := by
  simp only [select, bind, EStateM.bind, get_apply]
  cases hn : s.node? id with
  | none => exact .inr ⟨⟨_, rfl⟩, by simp⟩
  | some n =>
    cases n with
    | choice choices current =>
      dsimp only
      by_cases hi : 0 ≤ index ∧ index < choices.length
      · rw [if_pos hi]
        exact .inl ⟨choices, current, rfl, hi, rfl⟩
      · rw [if_neg hi]
        exact .inr ⟨⟨_, rfl⟩, by simpa using hi⟩
    | _ => exact .inr ⟨⟨_, rfl⟩, by simp⟩

end Edit

end Store

/-! ## Actions -/

/-- What is done with a compiled template. -/
inductive Action where
  | render (scope : Scope) (id : NodeId)
  | setText (id : NodeId) (value : Value)
  | select (id : NodeId) (index : Int)

namespace Action

def target : Action → NodeId
  | render _ id => id
  | setText id _ => id
  | select id _ => id

/-- The store after an action. One that fails leaves what it has done so far. -/
def perform (s : Store) : Action → Store
  | render scope id => Conversion.last (s.render scope id)
  | setText id value => Conversion.last (Store.setText id value s)
  | select id index => Conversion.last (Store.select id index s)

/-- The action is done to a field. -/
def isEdit : Action → Bool
  | render _ _ => false
  | setText _ _ => true
  | select _ _ => true

@[elab_as_elim]
theorem cases_edit {motive : Action → Prop} (render : ∀ scope id, motive (.render scope id))
    (edit : ∀ a : Action, a.isEdit → motive a) (a : Action) : motive a := by
  cases a with
  | render scope id => exact render scope id
  | setText id value => exact edit _ rfl
  | select id index => exact edit _ rfl

/-- An edit that does anything gives its field other contents. -/
theorem perform_edit {a : Action} (ha : a.isEdit) (s : Store) :
    a.perform s = s ∨ ∃ n n', s.node? a.target = some n ∧ n.Refilled n' ∧
      a.perform s = s.setNode a.target n' := by
  cases a with
  | render scope id => cases ha
  | setText id value =>
    simp only [perform, target]
    rcases s.setText_cases id value with ⟨default, typed, hn, hr⟩ | ⟨⟨e, hr⟩, -⟩
    · exact .inr ⟨_, _, hn, .tabstop default typed value, by rw [hr]; rfl⟩
    · exact .inl (by rw [hr]; rfl)
  | select id index =>
    simp only [perform, target]
    rcases s.select_cases id index with ⟨choices, current, hn, hi, hr⟩ | ⟨⟨e, hr⟩, -⟩
    · exact .inr ⟨_, _, hn, .choice choices current index.toNat (by omega), by rw [hr]; rfl⟩
    · exact .inl (by rw [hr]; rfl)

/-- What an edit does is a matter of the node that it is done to. -/
theorem perform_edit_congr {a : Action} (ha : a.isEdit) {s t : Store}
    (h : (t.node? a.target).map Node.unplaced = (s.node? a.target).map Node.unplaced) :
    (a.perform s = s ∧ a.perform t = t) ∨
      ∃ n, a.perform s = s.setNode a.target n ∧ a.perform t = t.setNode a.target n := by
  have same : ∀ {n : Node}, n.isOwn → (t.node? a.target = some n ↔ s.node? a.target = some n) :=
    fun hn => node_iff_of_unplaced h hn
  cases a with
  | render scope id => cases ha
  | setText id value =>
    simp only [perform, target] at same ⊢
    rcases s.setText_cases id value with ⟨default, typed, hn, hr⟩ | ⟨⟨e, hr⟩, hnot⟩ <;>
      rcases t.setText_cases id value with ⟨default', typed', hn', hr'⟩ | ⟨⟨e', hr'⟩, hnot'⟩
    · cases ((same rfl).mpr hn).symm.trans hn'
      exact .inr ⟨_, by rw [hr]; rfl, by rw [hr']; rfl⟩
    · exact absurd ⟨default, typed, (same rfl).mpr hn⟩ hnot'
    · exact absurd ⟨default', typed', (same rfl).mp hn'⟩ hnot
    · exact .inl ⟨by rw [hr]; rfl, by rw [hr']; rfl⟩
  | select id index =>
    simp only [perform, target] at same ⊢
    rcases s.select_cases id index with ⟨choices, current, hn, hi, hr⟩ | ⟨⟨e, hr⟩, hnot⟩ <;>
      rcases t.select_cases id index with ⟨choices', current', hn', hi', hr'⟩ | ⟨⟨e', hr'⟩, hnot'⟩
    · cases ((same rfl).mpr hn).symm.trans hn'
      exact .inr ⟨_, by rw [hr]; rfl, by rw [hr']; rfl⟩
    · exact absurd ⟨choices, current, (same rfl).mpr hn, hi⟩ hnot'
    · exact absurd ⟨choices', current', (same rfl).mp hn', hi'⟩ hnot
    · exact .inl ⟨by rw [hr]; rfl, by rw [hr']; rfl⟩

end Action

namespace Store

/-! ## What all actions leave -/

/-- What becomes of the node `id` in use. No field is emptied of its insertion point. -/
inductive RetouchedAt (s t : Store) (id : NodeId) : Prop
  | same (node : t.node? id = s.node? id)
  | field {n n' : Node} (before : s.node? id = some n) (isField : n.isField)
      (node : t.node? id = some n') (isField' : n'.isField) (present : n' ≠ .vacant)
  | bound {slot target : NodeId} (offer : s.Offers id slot target)
      (node : t.node? id = some (.bound target))

/-- The store `t` is `s` but for what is in the fields, and for nodes that the host has built. -/
structure Retouched (s t : Store) : Prop where
  size : t.size = s.size
  node : ∀ id, s.RetouchedAt t id

section Retouched

variable {s t u : Store} {id base : NodeId} {scope : Scope} {allowed : ValueFunction → Nat → Prop}

theorem Retouched.refl (s : Store) : s.Retouched s :=
  ⟨rfl, fun _ => .same rfl⟩

theorem Retouched.vacant_of_vacant (h : s.Retouched t) (hv : t.node? id = some .vacant) :
    s.node? id = some .vacant := by
  cases h.node id with
  | same heq => rw [← heq, hv]
  | field _ _ hn _ hv' => exact absurd (Option.some.inj (hn.symm.trans hv)) hv'
  | bound _ hn => cases hn.symm.trans hv

/-- What is no field and not built in `t`, was the same in `s`. -/
theorem Retouched.node_of_eq (h : s.Retouched t) {n : Node} (hn : t.node? id = some n)
    (hf : n.isField = false) (hb : ∀ target, n ≠ .bound target) : s.node? id = some n := by
  cases h.node id with
  | same heq => rw [← heq, hn]
  | field _ _ hn' hf' _ =>
    cases hn'.symm.trans hn
    rw [hf] at hf'
    cases hf'
  | bound _ hn' => exact absurd (Option.some.inj (hn.symm.trans hn')) (hb _)

theorem Retouched.offers (h : s.Retouched t) {slot x : NodeId} (ho : t.Offers id slot x) :
    s.Offers id slot x := by
  obtain ⟨hv, make, scope, hd, hmake⟩ := ho
  exact ⟨h.vacant_of_vacant hv, make, scope, h.node_of_eq hd rfl (by simp), hmake⟩

theorem Retouched.trans (h : s.Retouched t) (h' : t.Retouched u) : s.Retouched u where
  size := h'.size.trans h.size
  node id := by
    cases h'.node id with
    | same heq =>
      cases h.node id with
      | same heq' => exact .same (heq.trans heq')
      | field hn hf hn' hf' hv => exact .field hn hf (heq.trans hn') hf' hv
      | bound ho hn' => exact .bound ho (heq.trans hn')
    | field hn hf hn' hf' hv =>
      cases h.node id with
      | same heq => exact .field (heq ▸ hn) hf hn' hf' hv
      | field hm hmf _ _ _ => exact .field hm hmf hn' hf' hv
      | bound _ hm =>
        cases hm.symm.trans hn
        cases hf
    | bound ho hn' => exact .bound (h.offers ho) hn'

theorem Retouched.ne_vacant (h : s.Retouched t) (hv : s.node? id ≠ some .vacant) :
    t.node? id ≠ some .vacant :=
  fun he => hv (h.vacant_of_vacant he)

theorem Retouched.readable (h : s.Retouched t) {d : NodeId} (hr : s.Readable base id d) :
    t.Readable base id d :=
  ⟨hr.1, hr.2.1, h.ne_vacant hr.2.2⟩

/-- Fields refer to nothing, and what is built refers to what was offered, so a part in layers stays one. -/
theorem Retouched.layered (h : s.Retouched t) (hs : s.Layered base) : t.Layered base where
  source id n hb hn x hx := by
    cases h.node id with
    | same heq => exact h.readable (hs.source id n hb (heq ▸ hn) x hx)
    | field _ _ hn' hf' _ =>
      cases hn'.symm.trans hn
      cases n with
      | tabstop default typed => cases hx
      | choice choices index => cases hx
      | vacant => cases hx
      | _ => cases hf'
    | bound ho hn' =>
      cases hn'.symm.trans hn
      exact List.mem_singleton.mp hx ▸ h.readable (hs.offered id _ _ hb ho)
  slot id rebuild slot hb hn :=
    hs.slot id rebuild slot hb (h.node_of_eq hn rfl (by simp))
  offered id slot x hb hx := h.readable (hs.offered id slot x hb (h.offers hx))

variable (scope) in
/-- What is static has no field below it. -/
theorem Retouched.static (h : s.Retouched t) {fuel : Nat}
    (hs : s.isInteractiveWith fuel id = false) :
    t.isInteractiveWith fuel id = false ∧
      t.evaluateWith scope fuel id = s.evaluateWith scope fuel id := by
  refine static_of_kept (fun x n hn => ?_) (Nat.le_refl fuel) hs scope
  cases h.node x with
  | same heq => exact .inl (heq.trans hn)
  | field hm hf =>
    cases hm.symm.trans hn
    exact .inr (Node.isLive_of_isField hf)
  | bound ho =>
    obtain ⟨-, make, _, hm, -⟩ := ho
    cases hm.symm.trans hn
    exact .inr fun _ => rfl

theorem Retouched.isInteractive (h : s.Retouched t) (hs : s.isInteractive id = false) :
    t.isInteractive id = false := by
  rw [Store.isInteractive, h.size]
  exact (h.static Scope.empty hs).1

/-- A part stays formed as long as its fields have contents of their kind. -/
theorem Formed.retouched (hs : s.Formed allowed base) (h : s.Retouched t)
    (hfields : ∀ id n, base ≤ id → t.node? id = some n → n.isField → n ≠ .vacant →
      n.Formed allowed t base id) : t.Formed allowed base := by
  intro id n hb hn
  -- A node is what it was, and so are those it refers to, or it is a field.
  cases h.node id with
  | same heq =>
    have hform := hs id n hb (heq ▸ hn)
    cases n with
    | computed fn dependencies => exact ⟨hform.1, fun d hd => h.readable (hform.2 d hd)⟩
    | dynamic rebuild slot =>
      obtain ⟨hbs, hslot, body, hr, hread, hstatic⟩ := hform
      exact ⟨hbs, hslot, body, hr, h.readable hread, h.isInteractive hstatic⟩
    | group children => exact fun c hc => h.readable (hform c hc)
    | wrap child indent => exact h.readable hform
    | _ => exact hform
  | field _ _ hn' hf' hv =>
    cases hn'.symm.trans hn
    exact hfields id n hb hn hf' hv
  | bound ho =>
    obtain ⟨-, make, _, hd, -⟩ := ho
    obtain ⟨-, -, body, hbody, -⟩ := hs id _ hb hd
    cases hbody

theorem Filled.retouched (h : s.Filled t) : s.Retouched t where
  size := h.size
  node id := by
    cases h.node id with
    | same heq => exact .same heq
    | text content hv hn' => exact .field hv rfl hn' rfl (by simp)
    | bound ho hn' => exact .bound ho hn'

theorem retouched_setNode {n n' : Node} (hn : s.node? id = some n) (h : n.Refilled n') :
    s.Retouched (s.setNode id n') where
  size := size_setNode s id n'
  node x := by
    by_cases hx : id = x
    · subst hx
      have hn' : (s.setNode id n').node? id = some n' := by
        rw [node?_setNode, if_pos rfl, hn]
        rfl
      cases h <;> exact .field hn rfl hn' rfl (by simp)
    · exact .same (by rw [node?_setNode, if_neg hx])

end Retouched

end Store

namespace Action

variable {s : Store} {base : NodeId} {allowed : ValueFunction → Nat → Prop}

theorem retouched (a : Action) (s : Store) : s.Retouched (a.perform s) := by
  induction a using cases_edit with
  | render scope id => exact (Store.filled_render scope id s).retouched
  | edit a ha =>
    rcases perform_edit ha s with heq | ⟨n, n', hn, hr, heq⟩
    · rw [heq]
      exact .refl s
    · rw [heq]
      exact Store.retouched_setNode hn hr

theorem foldl_retouched (s : Store) (actions : List Action) :
    s.Retouched (actions.foldl perform s) := by
  induction actions generalizing s with
  | nil => exact .refl s
  | cons a actions ih => exact (a.retouched s).trans (ih (a.perform s))

/-- The contents that a formed field gets are contents of its kind. -/
theorem formed_of_refilled {t : Store} {id : NodeId} {n n' : Node} (hn : n.Formed allowed s base id)
    (h : n.Refilled n') : n'.Formed allowed t base id := by
  cases h with
  | tabstop default typed value => exact fun hnil => value.toLines_ne_nil (Option.some.inj hnil)
  | choice choices index index' hi => exact ⟨hn.1, .inr hi⟩

theorem formed (hs : s.Formed allowed base) (a : Action) : (a.perform s).Formed allowed base := by
  refine hs.retouched (a.retouched s) fun x n hb hx hf hv => ?_
  have same : s.node? x = some n → n.Formed allowed (a.perform s) base x := by
    intro hx
    have hform := hs x n hb hx
    cases n with
    | tabstop default typed => exact hform
    | choice choices index => exact hform
    | vacant => exact absurd rfl hv
    | _ => cases hf
  induction a using cases_edit with
  | render scope id =>
    cases (Store.filled_render scope id s).node x with
    | same heq => exact same (heq ▸ hx)
    | text content _ hn' =>
      cases hn'.symm.trans hx
      simp [Node.Formed]
    | bound _ hn' =>
      cases hn'.symm.trans hx
      cases hf
  | edit a ha =>
    rcases perform_edit ha s with heq | ⟨m, m', hm, hr, heq⟩
    · exact same (heq ▸ hx)
    · rw [heq, Store.node?_setNode] at hx
      split at hx
      · next he =>
        rw [← he, hm] at hx
        obtain rfl := Option.some.inj hx
        exact formed_of_refilled (he ▸ hs a.target m (he ▸ hb) hm) hr
      · exact same hx

theorem foldl_formed (hs : s.Formed allowed base) (actions : List Action) :
    (actions.foldl perform s).Formed allowed base := by
  induction actions generalizing s with
  | nil => exact hs
  | cons a actions ih => exact ih (formed hs a)

end Action

end Snippet
