import Snippet.Proofs.Conversion.Invariants

/-!
The conversions that the conversion of a row of siblings calls for: of the siblings one after the other,
of what is in nested templates, and of the bodies of placeholders. Each is known with what stands before
it in its row, and with the workspace it starts in.
-/

namespace Snippet

/-- What there is in a row with its nested templates written out: elements, and the places where a
nested template begins. -/
inductive Mark where
  | element (e : Element)
  | opening

namespace Element

mutual

def marks : Element → List Mark
  | snippet children => .opening :: marksAll children
  | e => [.element e]

def marksAll : List Element → List Mark
  | [] => []
  | e :: es => e.marks ++ marksAll es

end

end Element

namespace Conversion

/-- The conversion of an element, with the row before it. -/
structure Call where
  before : List Mark
  element : Element
  work : Workspace

/-- What is called for by the conversion of siblings that stand behind `before` in their row. -/
inductive Calls (settings : Settings) : List Mark → List Element → Workspace → Call → Prop where
  | here (before : List Mark) (e : Element) (es : List Element) (w : Workspace) :
      Calls settings before (e :: es) w ⟨before, e, w⟩
  | later {before : List Mark} {e : Element} {es : List Element} {w w' : Workspace} {built : Built}
      {c : Call} (done : convert settings e w = .ok built w')
      (call : Calls settings (before ++ e.marks) es (w'.after e) c) :
      Calls settings before (e :: es) w c
  /-- A nested template goes on with the row. -/
  | nested {before : List Mark} {children : List Element} (es : List Element) {w : Workspace}
      {c : Call} (call : Calls settings (before ++ [.opening]) children (w.withLastText none) c) :
      Calls settings before (.snippet children :: es) w c
  /-- The body of a placeholder is a row of its own. -/
  | body (before : List Mark) {position : Nat} (spec : Option TransformSpec)
      {children : List Element} (es : List Element) {w : Workspace} {c : Call}
      (first : w.registry.lookup (position : Int) = none)
      (several : Element.loneText? children = none)
      (call : Calls settings [] children (w.withLastText none) c) :
      Calls settings before (.placeholder position spec children :: es) w c

variable {settings : Settings} {before : List Mark} {es : List Element} {w : Workspace} {c : Call}

/-! ## Every sibling has its call -/

theorem eq_of_singleton_split {α : Type} {x y : α} {l r : List α} (h : [x] = l ++ y :: r) :
    l = [] ∧ y = x := by
  cases l with
  | nil => exact ⟨rfl, (List.cons.inj h).1.symm⟩
  | cons z l => simp at h

mutual

theorem calls_of_marks (e : Element) {w w' : Workspace} {built : Built}
    (hr : convert settings e w = .ok built w') (before : List Mark) (es : List Element)
    {l r : List Mark} {x : Element} (hm : e.marks = l ++ .element x :: r) :
    ∃ v built v', Calls settings before (e :: es) w ⟨before ++ l, x, v⟩ ∧
      convert settings x v = .ok built v' := by
  cases e with
  | snippet children =>
    rw [convert_snippet] at hr
    obtain ⟨ids, w₁, hall, -⟩ := chain_eq_ok hr
    -- The mark of the beginning is not the one that is looked for.
    cases l with
    | nil => cases hm
    | cons y l =>
      obtain ⟨rfl, hmarks⟩ := List.cons.inj hm
      obtain ⟨v, built, v', hcall, hx⟩ :=
        callsAll_of_marks children hall (before ++ [.opening]) hmarks
      rw [List.append_assoc, List.singleton_append] at hcall
      exact ⟨v, built, v', .nested es hcall, hx⟩
  | _ =>
    obtain ⟨rfl, he⟩ := eq_of_singleton_split hm
    cases he
    rw [List.append_nil]
    exact ⟨w, built, w', .here before _ es w, hr⟩

theorem callsAll_of_marks (es : List Element) {w w' : Workspace} {ids : List NodeId}
    (hr : convertAll settings es w = .ok ids w') (before : List Mark) {l r : List Mark} {x : Element}
    (hm : Element.marksAll es = l ++ .element x :: r) :
    ∃ v built v', Calls settings before es w ⟨before ++ l, x, v⟩ ∧
      convert settings x v = .ok built v' := by
  cases es with
  | nil => simp [Element.marksAll] at hm
  | cons e es =>
    rw [convertAll_cons] at hr
    obtain ⟨built, w₁, he, hr⟩ := chain_eq_ok hr
    obtain ⟨rest, w₂, hes, -⟩ := chain_eq_ok hr
    rw [Element.marksAll] at hm
    -- The mark is one of the first element, or one of those behind it.
    rcases List.append_eq_append_iff.mp hm with ⟨m, rfl, hrest⟩ | ⟨m, hl, hrest⟩
    · obtain ⟨v, built', v', hcall, hx⟩ := callsAll_of_marks es hes (before ++ e.marks) hrest
      rw [List.append_assoc] at hcall
      exact ⟨v, built', v', .later he hcall, hx⟩
    · cases m with
      | nil =>
        obtain rfl : e.marks = l := by simpa using hl
        obtain ⟨v, built', v', hcall, hx⟩ :=
          callsAll_of_marks es hes (before ++ e.marks) (l := []) hrest.symm
        rw [List.append_nil] at hcall
        exact ⟨v, built', v', .later he hcall, hx⟩
      | cons y m =>
        obtain ⟨rfl, -⟩ := List.cons.inj hrest
        exact calls_of_marks e he before es hl

end

/-! ## What a call leaves -/

/-- Where the whole row succeeds, all that it calls for has succeeded. -/
theorem Calls.succeeds (h : Calls settings before es w c) {ids : List NodeId} {w' : Workspace}
    (hr : convertAll settings es w = .ok ids w') :
    ∃ built v, convert settings c.element c.work = .ok built v := by
  induction h generalizing ids w' with
  | here before e es w =>
    rw [convertAll_cons] at hr
    obtain ⟨built, v, he, -⟩ := chain_eq_ok hr
    exact ⟨built, v, he⟩
  | later done call ih =>
    rw [convertAll_cons] at hr
    obtain ⟨built, v, he, hr⟩ := chain_eq_ok hr
    cases he.symm.trans done
    obtain ⟨rest, u, hes, -⟩ := chain_eq_ok hr
    exact ih hes
  | nested es call ih =>
    rw [convertAll_cons, convert_snippet] at hr
    obtain ⟨built, v, he, -⟩ := chain_eq_ok hr
    obtain ⟨inner, u, hall, -⟩ := chain_eq_ok he
    exact ih hall
  | body before spec es first several call ih =>
    rw [convertAll_cons, convert_placeholder, first, several] at hr
    obtain ⟨built, v, he, -⟩ := chain_eq_ok hr
    obtain ⟨inner, u, hall, -⟩ := chain_eq_ok he
    exact ih hall

theorem keeps_chain {α β : Type} {f : α → Workspace → EStateM.Result Error Workspace β}
    {r : EStateM.Result Error Workspace α} {s : Store} (hs : s.Keeps (last r).store)
    (hf : ∀ a v, Keeps v.store (f a v)) : s.Keeps (last (chain f r)).store := by
  cases r with
  | ok a v => exact hs.trans (hf a v).last
  | error e v => exact hs

/-- The siblings behind an element leave it what it has made. -/
theorem keeps_row (hassembler : settings.policy.assembler.Keeping) {s : Store} (e : Element)
    (es : List Element) (w : Workspace) (hs : s.Keeps (last (convert settings e w)).store) :
    s.Keeps (last (convertAll settings (e :: es) w)).store := by
  rw [convertAll_cons]
  refine keeps_chain hs fun built v => ?_
  have hrest := convertAll_keeps hassembler es (Store.Keeps.refl (v.after e).store)
  rw [Workspace.store_after] at hrest
  exact hrest.chain fun _ _ hk _ => ⟨hk, trivial⟩

/-- What a call has left is still there when the whole row is done. -/
theorem Calls.keeps (hassembler : settings.policy.assembler.Keeping)
    (h : Calls settings before es w c) :
    (last (convert settings c.element c.work)).store.Keeps (last (convertAll settings es w)).store := by
  induction h with
  | here before e es w => exact keeps_row hassembler e es w (Store.Keeps.refl _)
  | later done call ih =>
    rw [convertAll_cons, done]
    simp only [chain]
    exact keeps_chain ih fun ids v => ⟨Store.Keeps.refl _, trivial⟩
  | nested es call ih =>
    refine keeps_row hassembler _ es _ ?_
    rw [convert_snippet]
    exact keeps_chain ih fun ids v => ⟨Store.keeps_compact _ ids, trivial⟩
  | body before spec es first several call ih =>
    refine keeps_row hassembler _ es _ ?_
    rw [convert_placeholder, first, several]
    refine keeps_chain ih fun ids v => ?_
    have hcompact := Store.keeps_compact v.store ids
    exact (embodying_keeps hassembler hcompact _ ids).chain fun _ _ hk _ => ⟨hk, trivial⟩

/-! ## The text in sight -/

/-- The lines of the text that stands last in a row, where nothing else comes after it. -/
def sight (row : List Mark) : Option Lines :=
  match row.getLast? with
  | some (.element (.text content)) => some (Lines.ofText content)
  | _ => none

theorem sight_append (row : List Mark) (m : Mark) : sight (row ++ [m]) = sight [m] := by
  rw [sight, sight, List.getLast?_concat, List.getLast?_singleton]

theorem lastText_after {e : Element} (h : e.passesText = false) (w : Workspace) :
    (w.after e).lastText = none := by
  rw [Workspace.after, h]
  rfl

mutual

/-- An element leaves the text in sight that stands last in the row then. -/
theorem lastText_convert (e : Element) (before : List Mark) {w w' : Workspace} {built : Built}
    (hr : convert settings e w = .ok built w') :
    (w'.after e).lastText = sight (before ++ e.marks) := by
  have unseen : e.passesText = false → sight [.element e] = none →
      (w'.after e).lastText = sight (before ++ [.element e]) := by
    intro hpass hsight
    rw [lastText_after hpass, sight_append, hsight]
  cases e with
  | text content =>
    rw [convert_text] at hr
    cases hr
    rw [Element.marks, sight_append]
    · rfl
    · simp
  | snippet children =>
    rw [convert_snippet] at hr
    obtain ⟨ids, w₁, hall, hr⟩ := chain_eq_ok hr
    cases hr
    have hopening : (w.withLastText none).lastText = sight (before ++ [.opening]) := by
      rw [sight_append]
      rfl
    have hrow := lastText_convertAll children hall hopening
    rw [List.append_assoc, List.singleton_append] at hrow
    exact hrow
  | ownText content => cases hr
  | ownSnippet children => cases hr
  | custom kind => cases hr
  | _ => exact unseen rfl rfl

theorem lastText_convertAll (es : List Element) {before : List Mark} {w w' : Workspace}
    {ids : List NodeId} (hr : convertAll settings es w = .ok ids w')
    (hw : w.lastText = sight before) : w'.lastText = sight (before ++ Element.marksAll es) := by
  cases es with
  | nil =>
    cases hr
    rw [Element.marksAll, List.append_nil]
    exact hw
  | cons e es =>
    rw [convertAll_cons] at hr
    obtain ⟨built, w₁, he, hr⟩ := chain_eq_ok hr
    obtain ⟨rest, w₂, hes, hr⟩ := chain_eq_ok hr
    cases hr
    have hrest := lastText_convertAll es hes (lastText_convert e before he)
    rw [Element.marksAll, ← List.append_assoc]
    exact hrest

end

/-- Each call sees the text that stands right before it in its row. -/
theorem Calls.lastText (h : Calls settings before es w c) (hw : w.lastText = sight before) :
    c.work.lastText = sight c.before := by
  induction h with
  | here before e es w => exact hw
  | later done call ih => exact ih (lastText_convert _ _ done)
  | nested es call ih =>
    apply ih
    rw [sight_append]
    rfl
  | body before spec es first several call ih => exact ih rfl

end Conversion

end Snippet
