import Snippet.Proofs.Lines
import Snippet.Proofs.Store.Locality

/-!
A flattened body in use. The node is unbuilt until a rendering of it succeeds, and that is where rendering
the body does. Then it is built, once and for all, with the text of the body at that moment. It shows
this text in every scope, and what has been typed as soon as something has. The body stays as it is.
-/

namespace Snippet

/-- What is done with the node of a flattened body. Text is typed into the insertion point that it is built
with, and while there is none, nothing can be. -/
inductive Use where
  | render (scope : Scope)
  | place (node : NodeId) (position : Option Int)
  | type (value : Value)

namespace Use

/-- The slot of the node stands right before it. -/
def perform (slot : NodeId) (s : Store) : Use → Store
  | render scope => (Action.render scope (slot + 1)).perform s
  | place node position => s.setPosition node position
  | type value => (Action.setText slot value).perform s

/-- What stands in the insertion point after a use, once it is built. -/
def typed (before : Option Lines) : Use → Option Lines
  | type value => some value.toLines
  | _ => before

end Use

/-- What is in the slot of the node: nothing, or an insertion point with the text of the body at some
moment, and with what has been typed since. -/
inductive Content where
  | unbuilt
  | built (text : String) (typed : Option Lines)

namespace Content

def node : Content → Node
  | unbuilt => .vacant
  | built text typed => .tabstop (some text) typed

/-- The first rendering that succeeds is the one that counts. -/
def after (rendered : Scope → Except Error Lines) : Content → Use → Content
  | unbuilt, .render scope =>
      match rendered scope with
      | .ok lines => built lines.toText none
      | .error _ => unbuilt
  | built text typed, use => built text (use.typed typed)
  | unbuilt, _ => unbuilt

section After

variable {rendered : Scope → Except Error Lines} {uses : List Use}

theorem foldl_after_unbuilt
    (h : ∀ scope, .render scope ∈ uses → ∃ e, rendered scope = .error e) :
    uses.foldl (after rendered) unbuilt = unbuilt := by
  induction uses with
  | nil => rfl
  | cons use uses ih =>
    have hrest := ih fun scope hmem => h scope (List.mem_cons_of_mem _ hmem)
    cases use with
    | render scope =>
      obtain ⟨e, he⟩ := h scope List.mem_cons_self
      rw [List.foldl_cons, after, he, hrest]
    | place x p => exact hrest
    | type value => exact hrest

theorem foldl_after_built (text : String) (typed : Option Lines) :
    uses.foldl (after rendered) (built text typed) = built text (uses.foldl Use.typed typed) := by
  induction uses generalizing typed with
  | nil => rfl
  | cons use uses ih => exact ih (use.typed typed)

end After

end Content

namespace Store

open Conversion

/-- The store `t` is `s` with the node of a flattened body behind it, which comes after its slot. -/
structure Flattened (s : Store) (body : NodeId) (content : Content) (t : Store) : Prop where
  size : t.size = s.size + 2
  older : ∀ x < s.size, t.node? x = s.node? x
  slot : t.node? s.size = some content.node
  dynamic : t.node? (s.size + 1) = some (.dynamic (some (.body body)) s.size)

section Flattened

variable {s t : Store} {body : NodeId} {content : Content} {scope : Scope} {lines : Lines}
  {text : String} {typed : Option Lines}

theorem flattened_flattenStatic (s : Store) (body : NodeId) (position : Int) :
    s.Flattened body .unbuilt (s.flattenStatic position body).2 where
  size := by simp [flattenStatic]
  older x hx := by
    have hslot : x ≠ s.size := Nat.ne_of_lt hx
    have hnode : x ≠ s.size + 1 := Nat.ne_of_lt (Nat.lt_succ_of_lt hx)
    simp [flattenStatic, node?_add, hslot, hnode]
  slot := by simp [flattenStatic, node?_add, Content.node]
  dynamic := by simp [flattenStatic, node?_add]

theorem Flattened.keeps (h : s.Flattened body content t) : s.Keeps t := by
  intro id n hn
  rw [h.older id (lt_size hn), hn]

/-- The body renders as it did before it was flattened, and rendering it writes nothing. -/
theorem Flattened.render_body (h : s.Flattened body content t) (hs : s.isInteractive body = false)
    (scope : Scope) : render scope body t = leaving (s.evaluateStatic scope body) t := by
  rw [render_static (isInteractive_keeps h.keeps hs), evaluateStatic_keeps h.keeps hs]

theorem Flattened.rebuilt_eq (h : s.Flattened body content t) (hs : s.isInteractive body = false)
    (scope : Scope) :
    t.rebuilt scope (some (.body body)) =
      (s.evaluateStatic scope body).map fun lines => .text lines.toText := by
  rw [rebuilt, evaluateStatic_keeps h.keeps hs]

theorem Flattened.setPosition (h : s.Flattened body content t) (x : NodeId) (p : Option Int) :
    s.Flattened body content (t.setPosition x p) where
  size := by rw [size_setPosition, h.size]
  older y hy := by rw [node?_setPosition, h.older y hy]
  slot := by rw [node?_setPosition, h.slot]
  dynamic := by rw [node?_setPosition, h.dynamic]

theorem Flattened.write (h : s.Flattened body content t) (content' : Content) :
    s.Flattened body content' (t.setNode s.size content'.node) where
  size := by rw [size_setNode, h.size]
  older x hx := by rw [node?_setNode, if_neg (Nat.ne_of_gt hx), h.older x hx]
  slot := by rw [node?_setNode, if_pos rfl, h.slot, Option.map_some]
  dynamic := by rw [node?_setNode, if_neg (Nat.ne_of_lt (Nat.lt_succ_self _)), h.dynamic]

/-! ## One use -/

theorem Flattened.render_eq (h : s.Flattened body content t) (scope : Scope) (id : NodeId) :
    render scope id t = renderWith scope (s.size + 3) id t := by
  have hrun : render scope id t = renderWith scope (t.size + 1) id t := rfl
  rw [hrun, h.size]

theorem Flattened.render_fails (h : s.Flattened body .unbuilt t) (hs : s.isInteractive body = false)
    {e : Error} (he : s.evaluateStatic scope body = .error e) :
    render scope (s.size + 1) t = .error e t := by
  have hrebuilt := h.rebuilt_eq hs scope
  rw [he] at hrebuilt
  rw [h.render_eq]
  exact renderWith_fails h.dynamic h.slot hrebuilt

/-- Building gives the insertion point the text of the body, and the position of the node. -/
theorem Flattened.render_builds (h : s.Flattened body .unbuilt t) (hs : s.isInteractive body = false)
    (hlines : s.evaluateStatic scope body = .ok lines) :
    let u := t.fill (s.size + 1) s.size (.text lines.toText)
    render scope (s.size + 1) t = .ok (Lines.ofText lines.toText) u ∧
      s.Flattened body (.built lines.toText none) u := by
  intro u
  have hu : s.Flattened body (.built lines.toText none) u :=
    (h.write (.built lines.toText none)).setPosition s.size (t.position? (s.size + 1))
  have hrebuilt := h.rebuilt_eq hs scope
  rw [hlines] at hrebuilt
  refine ⟨?_, hu⟩
  rw [h.render_eq, renderWith_unbuilt h.dynamic h.slot hrebuilt]
  exact renderWith_tabstop hu.slot

theorem Flattened.render_built (h : s.Flattened body (.built text typed) t) (scope : Scope) :
    render scope (s.size + 1) t = .ok (typed.getD (Lines.ofText text)) t := by
  have hbuilt : t.node? s.size ≠ some .vacant := by simp [h.slot, Content.node]
  rw [h.render_eq, renderWith_built h.dynamic hbuilt]
  exact renderWith_tabstop h.slot

theorem Flattened.perform (h : s.Flattened body content t) (hs : s.isInteractive body = false)
    (use : Use) :
    s.Flattened body (content.after (fun scope => s.evaluateStatic scope body) use)
        (use.perform s.size t) ∧
      ∀ x, x ≠ s.size → (∀ p, use ≠ .place x p) →
        (use.perform s.size t).position? x = t.position? x := by
  cases use with
  | place y p =>
    have hplaced := h.setPosition y p
    refine ⟨by cases content <;> exact hplaced, fun x _ hne => ?_⟩
    have hxy : y ≠ x := fun he => hne p (he ▸ rfl)
    rw [Use.perform, position?_setPosition, if_neg fun h => hxy h.1]
  | render scope =>
    cases content with
    | built text typed =>
      rw [Use.perform, Action.perform, h.render_built]
      exact ⟨h, fun _ _ _ => rfl⟩
    | unbuilt =>
      cases hlines : s.evaluateStatic scope body with
      | error e =>
        rw [Use.perform, Action.perform, h.render_fails hs hlines, Content.after, hlines]
        exact ⟨h, fun _ _ _ => rfl⟩
      | ok lines =>
        obtain ⟨hrender, hu⟩ := h.render_builds hs hlines
        rw [Use.perform, Action.perform, hrender, Content.after, hlines]
        refine ⟨hu, fun x hx _ => ?_⟩
        rw [last, position?_fill_text, if_neg fun h => hx h.1.symm]
  | type value =>
    cases content with
    | built text typed =>
      have hwrite : (Use.type value).perform s.size t =
          t.setNode s.size (Content.built text (some value.toLines)).node := by
        rcases t.setText_cases s.size value with ⟨default, old, hn, hr⟩ | ⟨-, hnot⟩
        · cases h.slot.symm.trans hn
          rw [Use.perform, Action.perform, hr]
          rfl
        · exact absurd ⟨_, _, h.slot⟩ hnot
      rw [hwrite]
      exact ⟨h.write (.built text (some value.toLines)), fun x _ _ => position?_setNode t _ _ x⟩
    | unbuilt =>
      -- There is no insertion point to type into.
      have hfails : (Use.type value).perform s.size t = t := by
        rcases t.setText_cases s.size value with ⟨default, old, hn, -⟩ | ⟨⟨e, hr⟩, -⟩
        · cases h.slot.symm.trans hn
        · rw [Use.perform, Action.perform, hr]
          rfl
      rw [hfails]
      exact ⟨h, fun _ _ _ => rfl⟩

/-! ## Any uses -/

theorem Flattened.foldl_perform (h : s.Flattened body content t) (hs : s.isInteractive body = false)
    (uses : List Use) :
    s.Flattened body (uses.foldl (Content.after fun scope => s.evaluateStatic scope body) content)
        (uses.foldl (Use.perform s.size) t) ∧
      ∀ x, x ≠ s.size → (∀ p, .place x p ∉ uses) →
        (uses.foldl (Use.perform s.size) t).position? x = t.position? x := by
  induction uses generalizing t content with
  | nil => exact ⟨h, fun _ _ _ => rfl⟩
  | cons use uses ih =>
    obtain ⟨huse, hposition⟩ := h.perform hs use
    obtain ⟨hrest, hpositions⟩ := ih huse
    refine ⟨hrest, fun x hx hnot => ?_⟩
    simp only [List.mem_cons, not_or] at hnot
    rw [List.foldl_cons, hpositions x hx fun p => (hnot p).2]
    exact hposition x hx fun p => Ne.symm (hnot p).1

end Flattened

/-- The rendering has built the node in the slot with the text of `lines`, at the position that the node has
at this moment, and has written nothing else. -/
structure Builds (slot : NodeId) (lines : Lines) (t : Store) (out : Lines) (u : Store) : Prop where
  text : out.toText = lines.toText
  same : (∀ l ∈ lines, '\n' ∉ l.toList) → out = lines
  node : u.node? slot = some (.tabstop (some lines.toText) none)
  position : u.position? slot = t.position? (slot + 1)
  size : u.size = t.size
  others : ∀ x, x ≠ slot → u.node? x = t.node? x ∧ u.position? x = t.position? x

section Snapshot

variable {s t : Store} {body : NodeId} {children : List NodeId} {lines : Lines} {scope : Scope}

theorem builds_fill (h : s.Flattened body .unbuilt t) (hne : lines ≠ []) :
    Builds s.size lines t (Lines.ofText lines.toText)
      (t.fill (s.size + 1) s.size (.text lines.toText)) where
  text := Lines.toText_ofText _
  same hfree := Lines.ofText_toText hne hfree
  node := node?_fill_slot h.slot _ _
  position := by
    have hlt : s.size < s.size + 2 := by omega
    rw [position?_fill_text, h.size, if_pos ⟨rfl, hlt⟩]
  size := size_fill _ _ _ _
  others x hx := by
    rw [node?_fill_text, if_neg (Ne.symm hx), position?_fill_text, if_neg fun h => hx h.1.symm]
    exact ⟨rfl, rfl⟩

theorem ne_nil_of_evaluateStatic (hg : s.node? body = some (.group children))
    (h : s.evaluateStatic scope body = .ok lines) : lines ≠ [] := by
  rw [evaluateStatic, evaluateWith_succ hg] at h
  obtain ⟨pieces, -, rfl⟩ := map_eq_ok h
  exact Lines.concat_ne_nil pieces

/-- The node of a flattened static body is a snapshot of the body. Whatever is done with it, nothing but its
slot is written, and the body renders as ever. While all renderings fail, as the body does in their
scopes, it is unbuilt. The first rendering in whose scope the body renders builds it with the text of the
body there, and shows this text. Any later one shows it as well, whatever its scope is, or else what was
typed last. -/
theorem flattenStatic_snapshot (hg : s.node? body = some (.group children))
    (hs : s.isInteractive body = false) (position : Int) (uses : List Use) :
    let slot := s.size
    let node := (s.flattenStatic position body).1
    let start := (s.flattenStatic position body).2
    let t := uses.foldl (Use.perform slot) start
    (node = slot + 1 ∧ start.position? node = some position ∧ t.size = s.size + 2 ∧
      t.node? node = some (.dynamic (some (.body body)) slot) ∧
      (∀ x < s.size, t.node? x = s.node? x) ∧
      ∀ x, x ≠ slot → (∀ p, .place x p ∉ uses) → t.position? x = start.position? x) ∧
    (∀ scope, render scope body t = leaving (outcome (render scope body s)) t) ∧
    ((∀ scope, .render scope ∈ uses → ∃ e, outcome (render scope body s) = .error e) →
      t.node? slot = some .vacant ∧
      (∀ scope e, outcome (render scope body s) = .error e → render scope node t = .error e t) ∧
      ∀ scope lines, outcome (render scope body s) = .ok lines →
        ∃ out u, render scope node t = .ok out u ∧ Builds slot lines t out u ∧
          ∀ (later : List Use) (scope' : Scope),
            let v := later.foldl (Use.perform slot) u
            v.node? slot = some (.tabstop (some lines.toText) (later.foldl Use.typed none)) ∧
              render scope' node v = .ok ((later.foldl Use.typed none).getD out) v) := by
  intro slot node start t
  have hstart := flattened_flattenStatic s body position
  have hbody : ∀ scope, outcome (render scope body s) = s.evaluateStatic scope body := by
    intro scope
    rw [render_static hs]
    cases s.evaluateStatic scope body <;> rfl
  obtain ⟨ht, hpositions⟩ := hstart.foldl_perform hs uses
  have hnode : node = slot + 1 := by simp [node, slot, flattenStatic]
  have hposition : start.position? node = some position := by
    simp [node, start, flattenStatic, position?_add]
  refine ⟨⟨hnode, hposition, ht.size, hnode ▸ ht.dynamic, ht.older, hpositions⟩, ?rendered, ?use⟩
  case rendered =>
    intro scope
    rw [hbody, ht.render_body hs]
  case use =>
    simp only [hbody, hnode]
    intro hfail
    rw [Content.foldl_after_unbuilt hfail] at ht
    refine ⟨ht.slot, fun scope e he => ht.render_fails hs he, fun scope lines hlines => ?_⟩
    obtain ⟨hrender, hu⟩ := ht.render_builds hs hlines
    refine ⟨_, _, hrender, builds_fill ht (ne_nil_of_evaluateStatic hg hlines), fun later scope' => ?_⟩
    have hv := (hu.foldl_perform hs later).1
    rw [Content.foldl_after_built] at hv
    exact ⟨hv.slot, hv.render_built scope'⟩

/-- A group of a text and a variable that has to have a value. -/
def awaiting : Store :=
  ⟨#[⟨.text ["a"], none⟩, ⟨.computed (.require "X") [], none⟩, ⟨.group [0, 1], none⟩]⟩

/-- Without a value the node is not built. With one it is, where it has been moved to, and keeps the text
until something is typed. -/
theorem flattenStatic_snapshot_awaiting :
    let t := [.render Scope.empty, .place 4 (some 7)].foldl (Use.perform 3)
      (awaiting.flattenStatic 1 2).2
    awaiting.isInteractive 2 = false ∧ t.node? 3 = some .vacant ∧
      ∃ u, render ⟨[("X", .text "b")], ""⟩ 4 t = .ok ["ab"] u ∧
        u.position? 3 = some 7 ∧ render Scope.empty 4 u = .ok ["ab"] u ∧
        let v := (Use.type (.text "c")).perform 3 u
        render Scope.empty 4 v = .ok ["c"] v := by
  have hg : awaiting.node? 2 = some (.group [0, 1]) := rfl
  have hs : awaiting.isInteractive 2 = false := rfl
  have hfails : outcome (render Scope.empty 2 awaiting) = .error (.missingName "X") := rfl
  have hrenders : outcome (render ⟨[("X", .text "b")], ""⟩ 2 awaiting) = .ok ["ab"] := by
    decide +kernel
  obtain ⟨-, -, hstage⟩ := flattenStatic_snapshot hg hs 1
    [.render Scope.empty, .place 4 (some 7)]
  obtain ⟨hvacant, -, hbuild⟩ := hstage fun scope hmem => by
    obtain rfl : scope = Scope.empty := by simpa using hmem
    exact ⟨_, hfails⟩
  obtain ⟨out, u, hrender, hbuilds, hlater⟩ := hbuild _ _ hrenders
  obtain rfl := hbuilds.same (by decide)
  refine ⟨hs, hvacant, u, hrender, hbuilds.position.trans rfl, (hlater [] Scope.empty).2, ?_⟩
  exact (hlater [.type (.text "c")] Scope.empty).2

end Snapshot

end Store

end Snippet
