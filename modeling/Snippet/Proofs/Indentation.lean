import Snippet.Proofs.Store.Readings

/-!
Laws of indentation. Wrapping goes through groups to the nodes in them, one wrapping inside another puts both
leads together, and what is wrapped keeps its number of lines and its first line. The laws hold of every way
of reading nodes, so of rendering and of static evaluation.
-/

namespace Snippet

namespace Store

open Conversion

/-- Node by node, `ws` are `ids` wrapped in the indentation `i`, where a group may also have been taken apart
and its children wrapped instead, to any depth. -/
inductive Inward (s : Store) (i : Indent) : List NodeId → List NodeId → Prop where
  | nil : Inward s i [] []
  | wrap {id w : NodeId} {ids ws : List NodeId} (node : s.node? w = some (.wrap id i))
      (rest : Inward s i ids ws) : Inward s i (id :: ids) (w :: ws)
  | group {id w : NodeId} {children wrapped ids ws : List NodeId}
      (node : s.node? id = some (.group children)) (node' : s.node? w = some (.group wrapped))
      (inside : Inward s i children wrapped) (rest : Inward s i ids ws) :
      Inward s i (id :: ids) (w :: ws)

/-- The nodes are read with the same lines and leave the same store. Where every way down from one of them
ends, they have the same error otherwise. -/
def ReadAlike (s : Store) (read : NodeId → Render Lines) (x y : NodeId) : Prop :=
  (∀ lines u, read x s = .ok lines u ↔ read y s = .ok lines u) ∧
    (s.Grounded x ∨ s.Grounded y → read x s = read y s)

/-- What indentation does to lines: only what follows a line feed changes. -/
structure Indented (i : Indent) (parent : String) (inner lines : Lines) : Prop where
  length : lines.length = inner.length
  head : lines.head? = inner.head?
  text : (∀ l ∈ inner, '\n' ∉ l.toList) →
    lines.toText =
      Indent.leading (if i.withParent then parent ++ i.text else i.text) inner.toText

/-- The laws of indentation for one way of reading the nodes of a store. -/
structure IndentLaws (s : Store) (scope : Scope) (read : NodeId → Render Lines) : Prop where
  /-- A wrapped group is read as the group of its children, wrapped themselves. -/
  inward : ∀ {w id g i children wrapped}, s.node? w = some (.wrap id i) →
    s.node? id = some (.group children) → s.node? g = some (.group wrapped) →
    s.Inward i children wrapped → s.ReadAlike read w g
  /-- Two wrappings are read as one with the outer lead before the inner one. -/
  twice : ∀ {w v once id outer inner both}, s.node? w = some (.wrap v outer) →
    s.node? v = some (.wrap id inner) → s.node? once = some (.wrap id both) →
    both.lead scope.indent = outer.lead scope.indent ++ inner.lead scope.indent →
    s.ReadAlike read w once
  lines : ∀ {w id i}, s.node? w = some (.wrap id i) → ∀ u,
    (∀ lines, read w s = .ok lines u →
      ∃ inner, read id s = .ok inner u ∧ Indented i scope.indent inner lines) ∧
    ∀ inner, read id s = .ok inner u → ∃ lines, read w s = .ok lines u
  errors : ∀ {w id i}, s.node? w = some (.wrap id i) → s.Grounded id → ∀ e u,
    read w s = .error e u ↔ read id s = .error e u

section Laws

variable {s t : Store} {scope : Scope} {read : NodeId → Render Lines} {i : Indent}
  {ids ws : List NodeId}

theorem Inward.grounded_iff (h : s.Inward i ids ws) :
    (∀ w ∈ ws, s.Grounded w) ↔ ∀ id ∈ ids, s.Grounded id := by
  induction h with
  | nil => rfl
  | wrap node rest ih =>
    rw [List.forall_mem_cons, List.forall_mem_cons, ih, Store.grounded_iff node trivial]
    simp [Node.links]
  | group node node' inside rest ihInside ihRest =>
    rw [List.forall_mem_cons, List.forall_mem_cons, ihRest, Store.grounded_iff node trivial,
      Store.grounded_iff node' trivial]
    simp only [Node.links, ihInside]

/-- A wrapped node with others behind it, given how the others are read behind it. -/
theorem gather_indented {full : Prop} {id w : NodeId}
    (hw : Agree full (read w t) ((do return i.apply scope.indent (← read id)) t))
    (hrest : ∀ lines u, read w t = .ok lines u →
      Agree full (gather read ws u) ((do return i.apply scope.indent (← gather read ids)) u)) :
    Agree full (gather read (w :: ws) t)
      ((do return i.apply scope.indent (← gather read (id :: ids))) t) := by
  rw [gather_cons, gather_cons]
  -- Indented lines with indented lines behind them are the lines of both, indented.
  have hboth : Agree full ((read w >>= fun lines => do return Lines.glue lines (← gather read ws)) t)
      (((do return i.apply scope.indent (← read id)) >>= fun lines => do
        let rest ← (do return i.apply scope.indent (← gather read ids))
        return Lines.glue lines rest) t) :=
    hw.bind fun lines u hu => (hrest lines u hu).bind fun _ _ _ => .refl _ _
  simpa [Indent.apply_glue] using hboth

/-- By induction on what is wrapped, from any store in which slots have been filled on the way. -/
theorem Reading.gather_inward (hr : Reading scope read) (h : s.Inward i ids ws) (ht : s.Filled t) :
    Agree (∀ w ∈ ws, s.Grounded w) (gather read ws t)
      ((do return i.apply scope.indent (← gather read ids)) t) := by
  induction h generalizing t with
  | nil =>
    simp only [gather_nil, pure_bind, Indent.apply]
    exact .refl _ _
  | wrap node rest ih =>
    refine gather_indented ((hr.wrap (ht.wrap node)).mono fun hws => ?_) fun _ u hu => ?_
    · exact (hws _ List.mem_cons_self).filled ht
    · exact (ih (ht.trans ((hr.filled _ t).of_ok hu))).mono fun hws y hy => hws y (by simp [hy])
  | @group id w children wrapped ids ws node node' inside rest ihInside ihRest =>
    refine gather_indented ?_ fun _ u hu => ?_
    · -- The group below need not be reached from the row of wrapped nodes, but its children are.
      have hbelow : (∀ y ∈ w :: ws, s.Grounded y) → ∀ y ∈ wrapped, s.Grounded y := fun hws =>
        (Store.grounded_iff node' trivial).mp (hws w List.mem_cons_self)
      have hid : (∀ y ∈ w :: ws, s.Grounded y) → t.Grounded id := fun hws =>
        ((Store.grounded_iff node trivial).mpr (inside.grounded_iff.mp (hbelow hws))).filled ht
      have hread := (hr.group (ht.group node')).mono fun hws : ∀ y ∈ w :: ws, s.Grounded y =>
        (hws w List.mem_cons_self).filled ht
      refine (hread.trans ((ihInside ht).mono hbelow)).trans ?_
      exact (((hr.group (ht.group node)).mono hid).symm).bind fun _ _ _ => .refl _ _
    · exact (ihRest (ht.trans ((hr.filled _ t).of_ok hu))).mono fun hws y hy => hws y (by simp [hy])

theorem Agree.readAlike {x y : NodeId} (h : Agree (s.Grounded x) (read x s) (read y s))
    (hiff : s.Grounded x ↔ s.Grounded y) : s.ReadAlike read x y :=
  ⟨h.1, fun hground => h.2 (hground.elim id hiff.mpr)⟩

theorem indented_apply (i : Indent) (parent : String) (inner : Lines) :
    Indented i parent inner (i.apply parent inner) where
  length := i.length_apply parent inner
  head := i.head?_apply parent inner
  text h := i.toText_apply parent h

theorem Reading.indentLaws (hr : Reading scope read) (s : Store) : IndentLaws s scope read where
  inward {w id g i children wrapped} hw hid hg h := by
    have hiff : s.Grounded w ↔ s.Grounded g := by
      rw [grounded_iff hw trivial, grounded_iff hg trivial]
      simp only [Node.links, List.forall_mem_singleton, grounded_iff hid trivial, h.grounded_iff]
    have hbelow : s.Grounded w → s.Grounded id := fun hground =>
      (grounded_iff hw trivial).mp hground id (by simp [Node.links])
    have hwrapped : s.Grounded w → ∀ y ∈ wrapped, s.Grounded y := fun hground =>
      (grounded_iff hg trivial).mp (hiff.mp hground)
    have hinside := ((hr.group hid).mono hbelow).bind (f := fun ls => pure (i.apply scope.indent ls))
      fun _ _ _ => .refl _ _
    have hrow := ((hr.gather_inward h (.refl s)).mono hwrapped).symm
    exact (((hr.wrap hw).trans hinside).trans
      (hrow.trans ((hr.group hg).mono hiff.mp).symm)).readAlike hiff
  twice {w v once id outer inner both} hw hv honce hboth := by
    have hiff : s.Grounded w ↔ s.Grounded once := by
      rw [grounded_iff hw trivial, grounded_iff honce trivial]
      simp [Node.links, grounded_iff hv trivial]
    have hbelow : s.Grounded w → s.Grounded v := fun hground =>
      (grounded_iff hw trivial).mp hground v (by simp [Node.links])
    have hinside := ((hr.wrap hv).mono hbelow).bind
      (f := fun ls => pure (outer.apply scope.indent ls)) fun _ _ _ => .refl _ _
    have htwice := (hr.wrap hw).trans hinside
    simp only [bind_assoc, pure_bind, Indent.apply_apply hboth] at htwice
    exact (htwice.trans ((hr.wrap honce).mono hiff.mp).symm).readAlike hiff
  lines {w id i} hw u := by
    have hwrap := hr.wrap hw
    refine ⟨fun lines hok => ?_, fun inner hok => ?_⟩
    · obtain ⟨inner, v, hinner, hlines⟩ := bind_eq_ok_at ((hwrap.1 lines u).mp hok)
      cases hlines
      exact ⟨inner, hinner, indented_apply i scope.indent inner⟩
    · refine ⟨i.apply scope.indent inner, (hwrap.1 _ u).mpr ?_⟩
      rw [bind_apply, hok]
      rfl
  errors {w id i} hw hid e u := by
    have hground : s.Grounded w :=
      (grounded_iff hw trivial).mpr (by simpa [Node.links] using hid)
    rw [(hr.wrap hw).2 hground, bind_apply]
    cases read id s with
    | ok lines v => simp [chain, pure, EStateM.pure]
    | error e' v => simp [chain]

end Laws

/-- The laws of indentation hold of rendering and of static evaluation, and from what is static every way down
ends. -/
theorem indentation_laws (s : Store) (scope : Scope) :
    IndentLaws s scope (render scope) ∧ IndentLaws s scope (evaluation scope) ∧
      (∀ id, evaluation scope id s = leaving (s.evaluateStatic scope id) s) ∧
        ∀ id, s.isInteractive id = false → s.Grounded id :=
  ⟨(reading_render scope).indentLaws s, (reading_evaluation scope).indentLaws s, fun _ => rfl,
    fun _ => grounded_of_static⟩

/-- A group with groups in it, one of them empty; the group wrapped, and the group with its parts wrapped; and
the group wrapped twice, and once in both indentations. -/
def indentable : Store :=
  ⟨#[⟨.text ["a"], none⟩, ⟨.text ["b", "", "c"], none⟩, ⟨.group [], none⟩, ⟨.group [1, 2], none⟩,
    ⟨.group [0, 3], none⟩, ⟨.wrap 4 ⟨"  ", true⟩, none⟩, ⟨.wrap 0 ⟨"  ", true⟩, none⟩,
    ⟨.wrap 1 ⟨"  ", true⟩, none⟩, ⟨.wrap 2 ⟨"  ", true⟩, none⟩, ⟨.group [7, 8], none⟩,
    ⟨.group [6, 9], none⟩, ⟨.wrap 5 ⟨"\t", false⟩, none⟩, ⟨.wrap 4 ⟨"\t>  ", false⟩, none⟩]⟩

theorem inward_indentable : indentable.Inward ⟨"  ", true⟩ [0, 3] [6, 9] := by
  have hinside : indentable.Inward ⟨"  ", true⟩ [1, 2] [7, 8] := .wrap rfl (.wrap rfl .nil)
  exact .wrap rfl (.group rfl rfl hinside .nil)

theorem indentation_laws_indentable :
    let scope : Scope := ⟨[], ">"⟩
    render scope 5 indentable = render scope 10 indentable ∧
      evaluation scope 5 indentable = evaluation scope 10 indentable ∧
      render scope 11 indentable = render scope 12 indentable ∧
      outcome (render scope 5 indentable) = .ok ["ab", ">  ", ">  c"] ∧
      ∃ lines u, render scope 5 indentable = .ok lines u ∧
        lines.toText = Indent.leading ">  " "ab\n\nc" := by
  intro scope
  obtain ⟨hrender, hevaluation, -, hground⟩ := indentation_laws indentable scope
  refine ⟨(hrender.inward rfl rfl rfl inward_indentable).2 (.inl (hground 5 (by decide +kernel))),
    (hevaluation.inward rfl rfl rfl inward_indentable).2 (.inl (hground 5 (by decide +kernel))),
    (hrender.twice rfl rfl rfl (by decide +kernel)).2 (.inl (hground 11 (by decide +kernel))),
    by decide +kernel, ?_⟩
  obtain ⟨inner, u, hinner⟩ : ∃ inner u, render scope 4 indentable = .ok inner u := ⟨_, _, rfl⟩
  have hshown : outcome (render scope 4 indentable) = .ok ["ab", "", "c"] := by decide +kernel
  rw [hinner] at hshown
  obtain rfl := Except.ok.inj hshown
  obtain ⟨hback, hforth⟩ := hrender.lines (w := 5) rfl u
  obtain ⟨lines, hlines⟩ := hforth _ hinner
  obtain ⟨inner', hinner', hindented⟩ := hback lines hlines
  cases hinner.symm.trans hinner'
  exact ⟨lines, u, hlines, hindented.text (by decide +kernel)⟩

end Store

end Snippet
