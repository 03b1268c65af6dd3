import Snippet.Proofs.Store.Readings

/-!
Groups do not show. Rendering a row of nodes gives the same lines, and leaves the same store, however
stretches of the row are put into groups, and groups into groups. The text of a row is what the texts of its
nodes make one after the other.
-/

namespace Snippet

namespace Store

open Conversion

/-- The row `flat` is the row `ids` with groups opened, any of them and at any depth. -/
inductive Opens (s : Store) : List NodeId → List NodeId → Prop where
  | nil : Opens s [] []
  | keep (id : NodeId) {ids flat : List NodeId} (rest : Opens s ids flat) :
      Opens s (id :: ids) (id :: flat)
  | enter {group : NodeId} {children ids flat flat' : List NodeId}
      (node : s.node? group = some (.group children)) (inside : Opens s children flat)
      (rest : Opens s ids flat') : Opens s (group :: ids) (flat ++ flat')

section Opens

variable {s t : Store} {scope : Scope} {read : NodeId → Render Lines} {ids flat : List NodeId}

theorem Opens.grounded_iff (h : s.Opens ids flat) :
    (∀ id ∈ ids, s.Grounded id) ↔ ∀ id ∈ flat, s.Grounded id := by
  induction h with
  | nil => rfl
  | keep id rest ih => rw [List.forall_mem_cons, List.forall_mem_cons, ih]
  | enter node inside rest ihInside ihRest =>
    rw [List.forall_mem_cons, List.forall_mem_append, Store.grounded_iff node trivial, ← ihInside,
      ← ihRest]
    rfl

/-- By induction on what is opened, from any store in which slots have been filled on the way. -/
theorem Reading.gather_opens (hr : Reading scope read) (h : s.Opens ids flat) (ht : s.Filled t) :
    Agree (∀ id ∈ flat, s.Grounded id) (gather read ids t) (gather read flat t) := by
  induction h generalizing t with
  | nil => exact .refl _ _
  | keep id rest ih =>
    rw [gather_cons, gather_cons]
    refine (Agree.refl _ (read id t)).bind fun lines u hu => ?_
    have hrest := ih (ht.trans ((hr.filled _ t).of_ok hu))
    exact (hrest.mono fun hflat y hy => hflat y (by simp [hy])).bind fun _ _ _ => .refl _ _
  | @enter group children ids flat flat' node inside rest ihInside ihRest =>
    -- The group is read as its children are, and these as the row that they open to.
    have hgroup : (∀ y ∈ flat, s.Grounded y) → t.Grounded group := fun hflat =>
      ((Store.grounded_iff node trivial).mpr (inside.grounded_iff.mpr hflat)).filled ht
    have hread : Agree (∀ y ∈ flat, s.Grounded y) (read group t) (gather read flat t) :=
      ((hr.group (ht.group node)).mono hgroup).trans (ihInside ht)
    rw [gather_cons, gather_append]
    refine (hread.mono fun hflat y hy => hflat y (by simp [hy])).bind fun lines u hu => ?_
    have hrest := ihRest (ht.trans ((hr.filled _ t).of_ok hu))
    exact (hrest.mono fun hflat y hy => hflat y (by simp [hy])).bind fun _ _ _ => .refl _ _

end Opens

theorem renderNodesText_cons (scope : Scope) (id : NodeId) (ids : List NodeId) :
    renderNodesText scope (id :: ids) = do
      let text ← renderText scope id
      let rest ← renderNodesText scope ids
      return text ++ rest := by
  have hcons : renderNodes scope (id :: ids) = _ := gather_cons id ids
  have hrest : gather (render scope) ids = renderNodes scope ids := rfl
  simp [renderNodesText, renderText, hcons, hrest, Lines.toText_glue]

/-- The text of a row is made of the texts of its nodes, rendered in order. -/
theorem renderNodesText_eq_join (scope : Scope) (ids : List NodeId) :
    renderNodesText scope ids = do return String.join (← ids.mapM (renderText scope)) := by
  induction ids with
  | nil => simp [renderNodesText, renderNodes, Lines.concat, Lines.toText, String.join]
  | cons id ids ih =>
    rw [renderNodesText_cons, ih]
    simp [List.mapM_cons, String.join_cons]

/-- Two rows that are the same one with groups opened have the same lines and leave the same store. Where every
way down from their nodes ends, they have the same error otherwise. The text of a row is the texts of its nodes
one after the other. So it is with lines: pieces put together before do not show, and the joined text of pieces
is their joined texts. -/
theorem renderNodes_grouped (s : Store) (scope : Scope) :
    (∀ ids ids' flat, s.Opens ids flat → s.Opens ids' flat →
      (∀ lines u, renderNodes scope ids s = .ok lines u ↔ renderNodes scope ids' s = .ok lines u) ∧
      ((∀ id ∈ flat, s.Grounded id) → renderNodes scope ids s = renderNodes scope ids' s)) ∧
    (∀ ids, renderNodesText scope ids s =
      (do return String.join (← ids.mapM (renderText scope))) s) ∧
    (∀ xs ys zs : List Lines,
      Lines.concat (xs ++ [Lines.concat ys] ++ zs) = Lines.concat (xs ++ ys ++ zs)) ∧
    ∀ xs : List Lines, (Lines.concat xs).toText = String.join (xs.map Lines.toText) := by
  refine ⟨fun ids ids' flat h h' => ?rows, fun ids => ?texts, Lines.concat_concat,
    Lines.toText_concat⟩
  case rows =>
    have hr := reading_render scope
    exact (hr.gather_opens h (Filled.refl s)).trans (hr.gather_opens h' (Filled.refl s)).symm
  case texts => rw [renderNodesText_eq_join]

/-- A text, an insertion point and lines; an empty group, a group of it and the text, a group of that and the
insertion point; and a group of the insertion point, the lines and the empty group. -/
def regrouped : Store :=
  ⟨#[⟨.text ["a"], none⟩, ⟨.tabstop (some "b\nc") none, some 1⟩, ⟨.text ["d", "e"], none⟩,
    ⟨.group [], none⟩, ⟨.group [0, 3], none⟩, ⟨.group [4, 1], none⟩, ⟨.group [1, 2, 3], none⟩]⟩

theorem opens_regrouped :
    regrouped.Opens [5, 2] [0, 1, 2] ∧ regrouped.Opens [0, 6] [0, 1, 2] := by
  have hempty : ∀ {ids flat}, regrouped.Opens ids flat → regrouped.Opens (3 :: ids) flat :=
    fun h => .enter rfl .nil h
  have h4 : regrouped.Opens [4, 1] ([0] ++ [1]) := .enter rfl (.keep 0 (hempty .nil)) (.keep 1 .nil)
  have h5 : regrouped.Opens [5, 2] ([0, 1] ++ [2]) := .enter rfl h4 (.keep 2 .nil)
  have h6 : regrouped.Opens [6] ([1, 2] ++ []) :=
    .enter rfl (.keep 1 (.keep 2 (hempty .nil))) .nil
  exact ⟨h5, .keep 0 h6⟩

theorem renderNodes_grouped_regrouped :
    ∃ lines u, renderNodes Scope.empty [5, 2] regrouped = .ok lines u ∧
      renderNodes Scope.empty [0, 6] regrouped = .ok lines u ∧ lines = ["ab", "cd", "e"] := by
  obtain ⟨hrows, -⟩ := renderNodes_grouped regrouped Scope.empty
  obtain ⟨hiff, -⟩ := hrows [5, 2] [0, 6] [0, 1, 2] opens_regrouped.1 opens_regrouped.2
  obtain ⟨lines, u, hok⟩ : ∃ lines u, renderNodes Scope.empty [5, 2] regrouped = .ok lines u :=
    ⟨_, _, rfl⟩
  have hlines : outcome (renderNodes Scope.empty [5, 2] regrouped) = .ok ["ab", "cd", "e"] := by
    decide +kernel
  rw [hok] at hlines
  exact ⟨lines, u, hok, (hiff lines u).mp hok, Except.ok.inj hlines⟩

end Store

end Snippet
