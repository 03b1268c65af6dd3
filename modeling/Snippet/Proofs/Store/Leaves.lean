import Snippet.Proofs.Store.Graph
import Snippet.Proofs.Store.Rendering

/-!
Three readings of one graph. Groups and indentation are taken apart into leaves in document order; then
a node can change just where it has a leaf that can, static evaluation fails at the first leaf that can
change or whose function fails, and rendering a node without such leaves is static evaluation.
-/

namespace Snippet

/-- A leaf whose text cannot change during editing. -/
def Node.isFixed : Node → Bool
  | text _ => true
  | computed _ [] => true
  | _ => false

/-- The error of the function that a leaf has its text from. -/
def Node.valueError? (scope : Scope) : Node → Option Error
  | computed fn [] =>
      match fn [] scope with
      | .ok _ => none
      | .error e => some e
  | _ => none

/-- Why a leaf cannot be evaluated. -/
def Node.fault? (scope : Scope) (n : Node) : Option Error :=
  if n.isFixed then n.valueError? scope else some (.interactive n.typeName)

/-- The leaves of a node, given those of the nodes it refers to. -/
def Node.spelled (below : NodeId → List Node) : Node → List Node
  | group children => children.flatMap below
  | wrap child _ => below child
  | n => [n]

section Errors

variable {α β : Type}

/-- A row of computations fails as the first of them that fails. -/
theorem error?_mapM (f : α → Except Error β) (l : List α) :
    error? (l.mapM f) = l.findSome? fun x => error? (f x) := by
  induction l with
  | nil => rfl
  | cons x l ih =>
    rw [List.mapM_cons, List.findSome?_cons]
    cases hf : f x with
    | error e => rfl
    | ok b =>
      rw [error?, ← ih]
      cases l.mapM f <;> rfl

theorem findSome?_flatMap (f : β → Option Error) (g : α → List β) (l : List α) :
    (l.flatMap g).findSome? f = l.findSome? fun x => (g x).findSome? f := by
  induction l with
  | nil => rfl
  | cons x l ih =>
    rw [List.flatMap_cons, List.findSome?_append, List.findSome?_cons, ih]
    cases (g x).findSome? f <;> rfl

theorem findSome?_congr_of_mem {f g : α → Option β} {l : List α} (h : ∀ x ∈ l, f x = g x) :
    l.findSome? f = l.findSome? g := by
  induction l with
  | nil => rfl
  | cons x l ih =>
    rw [List.findSome?_cons, List.findSome?_cons, h x (by simp), ih fun y hy => h y (by simp [hy])]

end Errors

theorem Node.spelled_congr {f g : NodeId → List Node} {n : Node} (h : ∀ x ∈ n.edges, f x = g x) :
    n.spelled f = n.spelled g := by
  cases n with
  | group children =>
    have hm : children.map f = children.map g := List.map_congr_left h
    rw [spelled, spelled, List.flatMap_def, List.flatMap_def, hm]
  | wrap child indent => exact h child (by simp [edges])
  | _ => rfl

namespace Store

def leavesWith (s : Store) : Nat → NodeId → List Node
  | 0, _ => []
  | fuel + 1, id => ((s.node? id).getD .vacant).spelled (s.leavesWith fuel)

/-- The leaves of a node in document order. No path through a store without cycles is longer than the
store. -/
def leaves (s : Store) (id : NodeId) : List Node :=
  s.leavesWith (s.size + 1) id

variable {s : Store} {scope : Scope} {id : NodeId} {n : Node}

theorem Acyclic.leaves_eq (h : s.Acyclic id) (hn : s.node? id = some n) :
    s.leaves id = n.spelled s.leaves :=
  h.unfolds (fun fuel id n hn => by rw [leavesWith, hn, Option.getD_some])
    (fun _ _ _ => Node.spelled_congr) hn

/-! ## Classification and evaluation, leaf by leaf -/

theorem Acyclic.isInteractive_eq_any (h : s.Acyclic id) :
    s.isInteractive id = (s.leaves id).any fun n => !n.isFixed := by
  refine h.induction (P := fun id => s.isInteractive id = (s.leaves id).any fun n => !n.isFixed)
    fun id n h hn ih => ?_
  rw [h.isInteractive_eq hn, h.leaves_eq hn]
  cases n with
  | computed fn dependencies => cases dependencies <;> rfl
  | group children =>
    rw [Node.isLive, Node.spelled, List.any_flatMap]
    exact any_congr_of_mem ih
  | wrap child indent => exact ih child (by simp [Node.edges])
  | _ => rfl

theorem Acyclic.error?_evaluateStatic (h : s.Acyclic id) (scope : Scope) :
    error? (s.evaluateStatic scope id) = (s.leaves id).findSome? (Node.fault? scope) := by
  refine h.induction (P := fun id => error? (s.evaluateStatic scope id) =
    (s.leaves id).findSome? (Node.fault? scope)) fun id n h hn ih => ?_
  rw [h.evaluateStatic_eq hn scope, h.leaves_eq hn]
  -- Groups and indentation pass the first error of what is in them on; the rest is a leaf.
  cases n with
  | computed fn dependencies =>
    cases dependencies with
    | nil =>
      show _ = [Node.computed fn []].findSome? (Node.fault? scope)
      rw [Node.evaluated, error?_map, List.findSome?_cons, List.findSome?_nil]
      cases hfn : fn [] scope <;> simp [error?, Node.fault?, Node.isFixed, Node.valueError?, hfn]
    | cons d dependencies => rfl
  | group children =>
    rw [Node.evaluated, error?_map, error?_mapM, Node.spelled, findSome?_flatMap]
    exact findSome?_congr_of_mem ih
  | wrap child indent =>
    rw [Node.evaluated, error?_map]
    exact ih child (by simp [Node.edges])
  | _ => rfl

/-! ## Rendering -/

/-- Rendering a static node is static evaluation, and builds nothing. -/
theorem renderWith_static {fuel : Nat} (hs : s.isInteractiveWith fuel id = false) :
    renderWith scope fuel id s = leaving (s.evaluateWith scope fuel id) s := by
  induction fuel generalizing id with
  | zero => rfl
  | succ fuel ih =>
    cases hn : s.node? id with
    | none => simp [isInteractiveWith, hn] at hs
    | some n =>
      rw [isInteractiveWith_succ hn] at hs
      rw [evaluateWith_succ hn]
      simp only [renderWith, bind, EStateM.bind, get_apply, hn]
      cases n with
      | text lines => rfl
      | computed fn dependencies =>
        obtain rfl : dependencies = [] := by simpa [Node.isLive] using hs
        simp only [List.mapM_nil, pure, EStateM.pure, EStateM.bind, Node.evaluated]
        cases fn [] scope <;> rfl
      | group children =>
        simp only [Node.isLive, List.any_eq_false, Bool.not_eq_true] at hs
        have below : ∀ c ∈ children,
            Steady (· = s) (renderWith scope fuel c) (s.evaluateWith scope fuel c) := by
          intro c hc
          refine steady_of_leaving fun t ht => ?_
          rw [ht]
          exact ih (hs c hc)
        obtain ⟨_, rfl, -, hm, -⟩ := Steady.mapM below s rfl
        simp only [EStateM.bind, hm, Node.evaluated]
        cases children.mapM (evaluateWith _ scope fuel) <;> rfl
      | wrap child indent =>
        simp only [EStateM.bind, ih hs, Node.evaluated]
        cases s.evaluateWith scope fuel child <;> rfl
      | _ => cases hs

theorem render_static (hs : s.isInteractive id = false) :
    render scope id s = leaving (s.evaluateStatic scope id) s :=
  renderWith_static hs

/-! ## The three readings together -/

theorem exists_first_of_any {α : Type} {p : α → Bool} {l : List α} (h : l.any p = true) :
    ∃ before x after, l = before ++ x :: after ∧ p x = true ∧ ∀ y ∈ before, p y = false := by
  obtain ⟨x, hx⟩ := Option.isSome_iff_exists.mp (List.isSome_find?.trans h)
  obtain ⟨hp, before, after, hl, hbefore⟩ := List.find?_eq_some_iff_append.mp hx
  exact ⟨before, x, after, hl, hp, fun y hy => by simpa using hbefore y hy⟩

theorem fault?_of_fixed {l : List Node} (h : ∀ n ∈ l, n.isFixed = true) :
    l.findSome? (Node.fault? scope) = l.findSome? (Node.valueError? scope) :=
  findSome?_congr_of_mem fun n hn => by rw [Node.fault?, if_pos (h n hn)]

variable (scope) in
/-- A node of an acyclic graph that cannot change is rendered as it is evaluated, which fails only with
the error of a value function in it, and changes no node. One that can change is never evaluated: of
its first leaf that can change and the functions of the leaves before, the first to fail is reported. -/
theorem static_agreement (h : s.Acyclic id) :
    (s.isInteractive id = false →
      render scope id s = leaving (s.evaluateStatic scope id) s ∧
        ∀ e, s.evaluateStatic scope id = .error e →
          ∃ n ∈ s.leaves id, n.valueError? scope = some e) ∧
    (s.isInteractive id = true →
      ∃ before n after, s.leaves id = before ++ n :: after ∧ n.isFixed = false ∧
        (∀ m ∈ before, m.isFixed = true) ∧
          s.evaluateStatic scope id =
            .error ((before.findSome? (Node.valueError? scope)).getD (.interactive n.typeName))) := by
  have hfault := h.error?_evaluateStatic scope
  rw [h.isInteractive_eq_any]
  refine ⟨fun hs => ?static, fun hs => ?live⟩
  case static =>
    have hfixed : ∀ n ∈ s.leaves id, n.isFixed = true := by simpa using hs
    refine ⟨render_static (h.isInteractive_eq_any.trans hs), fun e he => ?_⟩
    rw [fault?_of_fixed hfixed, he] at hfault
    exact List.exists_of_findSome?_eq_some hfault.symm
  case live =>
    obtain ⟨before, n, after, hl, hn, hbefore⟩ := exists_first_of_any hs
    have hn : n.isFixed = false := by simpa using hn
    have hbefore : ∀ m ∈ before, m.isFixed = true := by simpa using hbefore
    refine ⟨before, n, after, hl, hn, hbefore, ?_⟩
    -- What comes behind the leaf does not count, since the leaf itself is reported at the latest.
    rw [hl, List.findSome?_append, fault?_of_fixed hbefore, List.findSome?_cons, Node.fault?,
      if_neg (by simp [hn])] at hfault
    rw [← error?_eq_some, hfault]
    cases before.findSome? (Node.valueError? scope) <;> rfl

/-- A text, an indented variable that has to have a value, and an insertion point. -/
def mixed : Store :=
  ⟨#[⟨.text ["a"], none⟩, ⟨.computed (.require "NAME") [], none⟩, ⟨.wrap 1 ⟨"  ", true⟩, none⟩,
    ⟨.tabstop none none, some 1⟩, ⟨.group [0, 2, 3], none⟩]⟩

/-- The insertion point is reported, but only once the variable before it has a value. -/
theorem static_agreement_mixed :
    mixed.Acyclic 4 ∧ mixed.isInteractive 4 = true ∧
    mixed.evaluateStatic Scope.empty 4 = .error (.missingName "NAME") ∧
    mixed.evaluateStatic ⟨[("NAME", .text "b")], ""⟩ 4 = .error (.interactive "TabstopNode") := by
  have h : mixed.Acyclic 4 := acyclic_of_older (by decide) (by decide)
  have hlive : mixed.isInteractive 4 = true := rfl
  have hleaves : mixed.leaves 4 =
    [.text ["a"], .computed (.require "NAME") [], .tabstop none none] := rfl
  have key : ∀ scope, mixed.evaluateStatic scope 4 =
      .error (((Node.computed (.require "NAME") []).valueError? scope).getD
        (.interactive "TabstopNode")) := by
    intro scope
    obtain ⟨before, n, after, hl, hn, hbefore, he⟩ := (static_agreement scope h).2 hlive
    rw [he]
    rw [hleaves] at hl
    -- The first two leaves are fixed and the third is not, so it is the one that is meant.
    match before with
    | [] =>
      cases hl
      cases hn
    | [x] =>
      cases hl
      cases hn
    | [x, y] =>
      cases hl
      rw [List.findSome?_cons, List.findSome?_cons]
      cases (Node.computed (.require "NAME") []).valueError? scope <;> rfl
    | x :: y :: z :: rest =>
      have hlength := congrArg List.length hl
      simp only [List.length_cons, List.length_nil, List.length_append] at hlength
      omega
  exact ⟨h, hlive, key Scope.empty, key ⟨[("NAME", .text "b")], ""⟩⟩

end Store

end Snippet
