import Snippet.Proofs.Lines
import Snippet.Proofs.Store.Depth

/-!
Two ways of reading nodes, rendering and static evaluation. Both read a group as its children in a row, and
a wrapped node as the node with its continuation lines indented. What follows from this holds of both.
-/

namespace Snippet.Store

open Conversion

/-! ## Static evaluation without fuel -/

section Evaluation

variable {s : Store} {scope : Scope} {id : NodeId} {n : Node} {depth fuel fuel' : Nat}
  {lines : Lines}

theorem falls_of_static (h : s.isInteractiveWith fuel id = false) :
    Falls (· < s.size) s.MayLink fuel id := by
  induction fuel generalizing id with
  | zero => cases h
  | succ fuel ih =>
    cases hn : s.node? id with
    | none => simp [isInteractiveWith, hn] at h
    | some n =>
      rw [isInteractiveWith_succ hn] at h
      have hl : s.Lasting n := by
        cases n with
        | dynamic rebuild slot => cases h
        | vacant => cases h
        | _ => trivial
      refine ⟨lt_size hn, fun x hx => ih ?_⟩
      rw [mayLink_iff hn hl] at hx
      cases n with
      | text ls => cases hx
      | computed fn dependencies =>
        obtain rfl : dependencies = [] := by simpa [Node.isLive] using h
        cases hx
      | group children => exact Bool.eq_false_iff.mpr (List.any_eq_false.mp h x hx)
      | wrap child indent =>
        obtain rfl : x = child := by simpa [Node.links] using hx
        exact h
      | _ => cases h

theorem grounded_of_static (h : s.isInteractive id = false) : s.Grounded id :=
  ⟨s.size + 1, falls_of_static h⟩

/-- Only what is static is evaluated to the end. -/
theorem static_of_evaluateWith (h : s.evaluateWith scope fuel id = .ok lines) :
    s.isInteractiveWith fuel id = false := by
  induction fuel generalizing id lines with
  | zero => cases h
  | succ fuel ih =>
    cases hn : s.node? id with
    | none => simp [evaluateWith, hn] at h
    | some n =>
      rw [evaluateWith_succ hn] at h
      rw [isInteractiveWith_succ hn]
      cases n with
      | text ls => rfl
      | computed fn dependencies =>
        cases dependencies with
        | nil => rfl
        | cons d dependencies => cases h
      | group children =>
        obtain ⟨pieces, hpieces, -⟩ := map_eq_ok h
        rw [Node.isLive, List.any_eq_false]
        intro c hc
        obtain ⟨piece, hpiece⟩ := exists_ok_of_mapM_ok hpieces hc
        simp [ih hpiece]
      | wrap child indent =>
        obtain ⟨ls, hls, -⟩ := map_eq_ok h
        exact ih hls
      | _ => cases h

theorem grounded_of_evaluateStatic (h : s.evaluateStatic scope id = .ok lines) : s.Grounded id :=
  grounded_of_static (static_of_evaluateWith h)

theorem evaluateWith_eq_of_falls (h : Falls (· < s.size) s.MayLink depth id) (hf : depth ≤ fuel)
    (hf' : depth ≤ fuel') : s.evaluateWith scope fuel id = s.evaluateWith scope fuel' id := by
  induction depth generalizing fuel fuel' id with
  | zero => exact h.elim
  | succ depth ih =>
    obtain ⟨fuel, rfl⟩ : ∃ k, fuel = k + 1 := ⟨fuel - 1, by omega⟩
    obtain ⟨fuel', rfl⟩ : ∃ k, fuel' = k + 1 := ⟨fuel' - 1, by omega⟩
    obtain ⟨n, hn⟩ := exists_node? h.1
    have below : ∀ x ∈ n.links, s.evaluateWith scope fuel x = s.evaluateWith scope fuel' x :=
      fun x hx => ih (h.2 x (.inl ⟨n, hn, hx⟩)) (by omega) (by omega)
    rw [evaluateWith_succ hn, evaluateWith_succ hn]
    exact Node.evaluated_congr below

theorem Grounded.evaluateStatic_eq (h : s.Grounded id) (hn : s.node? id = some n) :
    s.evaluateStatic scope id = n.evaluated scope (s.evaluateStatic scope) := by
  rw [evaluateStatic, evaluateWith_succ hn]
  exact Node.evaluated_congr fun x hx =>
    evaluateWith_eq_of_falls (h.below (.inl ⟨n, hn, hx⟩)).falls (Nat.le_refl s.size)
      (Nat.le_succ s.size)

end Evaluation

/-! ## Readings -/

variable {s t : Store} {scope : Scope} {read : NodeId → Render Lines} {id : NodeId}

/-- The lines of nodes in a row, read one after the other. -/
def gather (read : NodeId → Render Lines) (ids : List NodeId) : Render Lines := do
  return Lines.concat (← ids.mapM read)

theorem gather_nil : gather read [] = pure [""] := by
  simp [gather, Lines.concat]

theorem gather_cons (id : NodeId) (ids : List NodeId) :
    gather read (id :: ids) = do
      let lines ← read id
      let rest ← gather read ids
      return Lines.glue lines rest := by
  simp [gather, List.mapM_cons, Lines.concat]

theorem gather_append (ids ids' : List NodeId) :
    gather read (ids ++ ids') = do
      let lines ← gather read ids
      let rest ← gather read ids'
      return Lines.glue lines rest := by
  simp [gather, List.mapM_append, Lines.concat_append]

/-! ## Agreement -/

/-- The same where they succeed, and the same throughout where `full` holds. -/
def Agree {α : Type} (full : Prop) (r r' : EStateM.Result Error Store α) : Prop :=
  (∀ a u, r = .ok a u ↔ r' = .ok a u) ∧ (full → r = r')

section Agree

variable {α β : Type} {full full' : Prop} {r r' r'' : EStateM.Result Error Store α}

theorem Agree.refl (full : Prop) (r : EStateM.Result Error Store α) : Agree full r r :=
  ⟨fun _ _ => .rfl, fun _ => rfl⟩

theorem Agree.symm (h : Agree full r r') : Agree full r' r :=
  ⟨fun a u => (h.1 a u).symm, fun hfull => (h.2 hfull).symm⟩

theorem Agree.trans (h : Agree full r r') (h' : Agree full r' r'') : Agree full r r'' :=
  ⟨fun a u => (h.1 a u).trans (h'.1 a u), fun hfull => (h.2 hfull).trans (h'.2 hfull)⟩

theorem Agree.mono (h : Agree full r r') (himp : full' → full) : Agree full' r r' :=
  ⟨h.1, fun hfull => h.2 (himp hfull)⟩

/-- Where a success of either side makes the two equal, they agree. -/
theorem Agree.of_eq (h : full → r = r') (hok : ∀ a u, r = .ok a u → full)
    (hok' : ∀ a u, r' = .ok a u → full) : Agree full r r' :=
  ⟨fun a u => ⟨fun hr => h (hok a u hr) ▸ hr, fun hr => h (hok' a u hr) ▸ hr⟩, h⟩

theorem Agree.bind {m m' : Render α} {f f' : α → Render β} (h : Agree full (m s) (m' s))
    (hf : ∀ a u, m s = .ok a u → Agree full (f a u) (f' a u)) :
    Agree full ((m >>= f) s) ((m' >>= f') s) := by
  refine ⟨fun b v => ⟨fun hr => ?_, fun hr => ?_⟩, fun hfull => ?_⟩
  · obtain ⟨a, u, hm, hb⟩ := bind_eq_ok_at hr
    rw [bind_apply, (h.1 a u).mp hm]
    exact ((hf a u hm).1 b v).mp hb
  · obtain ⟨a, u, hm, hb⟩ := bind_eq_ok_at hr
    have hm := (h.1 a u).mpr hm
    rw [bind_apply, hm]
    exact ((hf a u hm).1 b v).mpr hb
  · exact bind_congr_at (h.2 hfull) fun a u hm => (hf a u hm).2 hfull

end Agree

/-! ## What readings have in common -/

/-- Nodes are read as they are built up, and slots are filled at most. -/
structure Reading (scope : Scope) (read : NodeId → Render Lines) : Prop where
  group : ∀ {s : Store} {id children}, s.node? id = some (.group children) →
    Agree (s.Grounded id) (read id s) (gather read children s)
  wrap : ∀ {s : Store} {id child indent}, s.node? id = some (.wrap child indent) →
    Agree (s.Grounded id) (read id s) ((do return indent.apply scope.indent (← read child)) s)
  filled : ∀ id (s : Store), s.Filled (last (read id s))

theorem reading_render (scope : Scope) : Reading scope (render scope) where
  group hn := ⟨fun _ _ => render_ok_iff hn, fun h => h.render_eq hn⟩
  wrap hn := ⟨fun _ _ => render_ok_iff hn, fun h => h.render_eq hn⟩
  filled := filled_render scope

/-- Static evaluation as a computation, which leaves the store as it is. -/
def evaluation (scope : Scope) (id : NodeId) : Render Lines :=
  fun s => leaving (s.evaluateStatic scope id) s

theorem mapM_evaluation (scope : Scope) (s : Store) (ids : List NodeId) :
    ids.mapM (evaluation scope) s = leaving (ids.mapM (s.evaluateStatic scope)) s := by
  induction ids with
  | nil => rfl
  | cons id ids ih =>
    rw [List.mapM_cons, List.mapM_cons, bind_apply, evaluation]
    cases s.evaluateStatic scope id with
    | error e => rfl
    | ok lines =>
      simp only [leaving, chain, bind_apply, ih]
      cases ids.mapM (s.evaluateStatic scope) <;> rfl

theorem evaluation_eq_ok {lines : Lines} {u : Store} (h : evaluation scope id s = .ok lines u) :
    s.evaluateStatic scope id = .ok lines := by
  rw [evaluation] at h
  cases hr : s.evaluateStatic scope id with
  | error e =>
    rw [hr] at h
    cases h
  | ok ls =>
    rw [hr] at h
    cases h
    rfl

theorem grounded_of_gather_evaluation {ids : List NodeId} {lines : Lines} {u : Store}
    (h : gather (evaluation scope) ids s = .ok lines u) : ∀ id ∈ ids, s.Grounded id := by
  intro id hid
  obtain ⟨pieces, v, hpieces, -⟩ := bind_eq_ok_at h
  rw [mapM_evaluation] at hpieces
  cases hr : ids.mapM (s.evaluateStatic scope) with
  | error e =>
    rw [hr] at hpieces
    cases hpieces
  | ok bs =>
    obtain ⟨piece, hpiece⟩ := exists_ok_of_mapM_ok hr hid
    exact grounded_of_evaluateStatic hpiece

theorem reading_evaluation (scope : Scope) : Reading scope (evaluation scope) where
  group {s id children} hn := by
    refine .of_eq (fun h => ?_) (fun _ _ hok => grounded_of_evaluateStatic (evaluation_eq_ok hok))
      fun _ _ hok => (grounded_iff hn trivial).mpr (grounded_of_gather_evaluation hok)
    rw [evaluation, h.evaluateStatic_eq hn, Node.evaluated, gather, bind_apply, mapM_evaluation]
    cases children.mapM (s.evaluateStatic scope) <;> rfl
  wrap {s id child indent} hn := by
    refine .of_eq (fun h => ?_) (fun _ _ hok => grounded_of_evaluateStatic (evaluation_eq_ok hok))
      fun _ _ hok => (grounded_iff hn trivial).mpr ?_
    · rw [evaluation, h.evaluateStatic_eq hn, Node.evaluated, bind_apply, evaluation]
      cases s.evaluateStatic scope child <;> rfl
    · obtain ⟨ls, v, hchild, -⟩ := bind_eq_ok_at hok
      simpa [Node.links] using grounded_of_evaluateStatic (evaluation_eq_ok hchild)
  filled id s := by
    rw [evaluation]
    cases s.evaluateStatic scope id <;> exact Filled.refl s

theorem Filled.group (h : s.Filled t) {children : List NodeId}
    (hn : s.node? id = some (.group children)) : t.node? id = some (.group children) :=
  h.node_eq hn trivial

theorem Filled.wrap (h : s.Filled t) {child : NodeId} {indent : Indent}
    (hn : s.node? id = some (.wrap child indent)) : t.node? id = some (.wrap child indent) :=
  h.node_eq hn trivial

end Snippet.Store
