import Snippet.Proofs.Conversion.Calls
import Snippet.Proofs.Session

/-!
The indentation of variables. A variable keeps the white space it stands behind if the text with that
white space is right before it in its row, no matter how deep in nested templates either of them is.
The beginning of a nested template takes the text out of sight, though nothing is put in between there.
-/

namespace Snippet

/-- The element is a text that ends in a line of white space, `blank`, behind another line. -/
def Element.EndsIn (e : Element) (blank : String) : Prop :=
  ∃ u, e = .text (u ++ "\n" ++ blank) ∧ blank ≠ "" ∧ '\n' ∉ blank.toList ∧
    ∀ c ∈ blank.toList, Unicode.isSpace c = true

namespace Mark

def element? : Mark → Option Element
  | element e => some e
  | opening => none

/-- The element that stands last in a row ends in a line of white space. -/
def EndIn (row : List Mark) (blank : String) : Prop :=
  ∃ e, (row.filterMap element?).getLast? = some e ∧ e.EndsIn blank

end Mark

namespace Conversion

variable {settings : Settings} {w w' : Workspace} {id : NodeId}

theorem captured?_iff_endsIn {content blank : String} :
    Indent.captured? (Lines.ofText content) = some blank ↔ (Element.text content).EndsIn blank := by
  rw [Indent.captured?_ofText]
  constructor
  · rintro ⟨u, rfl, hl, hblank⟩
    obtain ⟨hne, hspace⟩ := Indent.isBlank_iff.mp hblank
    exact ⟨u, rfl, hne, hl, hspace⟩
  · rintro ⟨u, he, hne, hl, hspace⟩
    cases he
    exact ⟨u, rfl, hl, Indent.isBlank_iff.mpr ⟨hne, hspace⟩⟩

/-- What is captured is the white space that the row ends in, unless a nested template has begun. -/
theorem captured?_sight {row : List Mark} {blank : String} :
    (sight row).bind Indent.captured? = some blank ↔
      Mark.EndIn row blank ∧ row.getLast? ≠ some .opening := by
  cases hm : row.getLast? with
  | none =>
    obtain rfl := List.getLast?_eq_none_iff.mp hm
    simp [sight, Mark.EndIn]
  | some m =>
    obtain ⟨before, rfl⟩ := List.getLast?_eq_some_iff.mp hm
    rw [sight_append]
    cases m with
    | opening => simp [sight]
    | element e =>
      have hend : Mark.EndIn (before ++ [.element e]) blank ↔ e.EndsIn blank := by
        simp [Mark.EndIn, Mark.element?]
      rw [hend]
      -- Only texts are seen, and only texts end in a line of white space.
      cases e with
      | text content => simpa [sight] using captured?_iff_endsIn
      | _ => simp [sight, Element.EndsIn]

/-- The node of a value stays as it is, or gets the indentation for the variable. -/
theorem wrapping_node {fn : ValueFunction} {name : String}
    (hr : wrapping (w.added (.computed fn []) none) w.store.size name = .ok id w') :
    (Indent.forVariable? name w.lastText = none ∧ w'.store.node? id = some (.computed fn [])) ∨
      ∃ indent child, Indent.forVariable? name w.lastText = some indent ∧
        w'.store.node? child = some (.computed fn []) ∧
          w'.store.node? id = some (.wrap child indent) := by
  have hnode : (w.added (.computed fn []) none).store.node? w.store.size =
      some (.computed fn []) := by
    rw [Workspace.store_added, Store.node?_add, if_pos rfl]
  rcases wrapping_ok hr with ⟨hi, rfl, rfl⟩ | ⟨indent, hi, rfl, rfl⟩
  · exact .inl ⟨hi, hnode⟩
  · refine .inr ⟨indent, w.store.size, hi, Store.keeps_add _ _ _ _ _ hnode, ?_⟩
    rw [Workspace.store_added _ (.wrap _ _), Store.node?_add, if_pos rfl]

theorem varying_node {name : String} {spec : Option TransformSpec}
    (hvalue : settings.knows name = true ∨ (settings.resolvers.lookup name).isSome = true)
    (hr : varying settings w name spec = .ok id w') :
    ∃ fn, (Indent.forVariable? name w.lastText = none ∧ w'.store.node? id = some (.computed fn [])) ∨
      ∃ indent child, Indent.forVariable? name w.lastText = some indent ∧
        w'.store.node? child = some (.computed fn []) ∧
          w'.store.node? id = some (.wrap child indent) := by
  obtain ⟨-, f, -, hw⟩ | ⟨-, f, -, hw⟩ | ⟨hknows, hlookup, -, -⟩ := varying_ok hr
  · exact ⟨_, wrapping_node (w := w.noted (spec.toList.map .transformMade)) hw⟩
  · exact ⟨f, wrapping_node hw⟩
  · simp [hknows, hlookup] at hvalue

/-- A variable that has a value is indented by the white space that the element before it in its row
ends in, if it does and no nested template begins in between. Otherwise it is not indented. -/
theorem convert_indents (hassembler : settings.policy.assembler.Keeping) {es : List Element}
    {before : List Mark} {name : String} {spec : Option TransformSpec} {v v' : Workspace}
    (hcall : Calls settings [] es (w.withLastText none) ⟨before, .var name spec, v⟩)
    (hvalue : settings.knows name = true ∨ (settings.resolvers.lookup name).isSome = true)
    (hr : convert settings (.var name spec) v = .ok (.one id) v') :
    let s := (last (convert settings (.snippet es) w)).store
    ∃ fn,
      (∀ blank, Mark.EndIn before blank → before.getLast? ≠ some .opening →
        ∃ child, s.node? child = some (.computed fn []) ∧
          s.node? id = some (.wrap child ⟨blank, name ≠ Indent.selectedText⟩)) ∧
      ((∀ blank, ¬Mark.EndIn before blank) ∨ before.getLast? = some .opening →
        s.node? id = some (.computed fn [])) := by
  intro s
  have hlast : v.lastText = sight before := hcall.lastText rfl
  have hkeeps : v'.store.Keeps s := by
    have hcalled := hcall.keeps hassembler
    rw [hr] at hcalled
    refine hcalled.trans ?_
    show Store.Keeps _ (last (convert settings (.snippet es) w)).store
    rw [convert_snippet]
    cases convertAll settings es (w.withLastText none) with
    | ok ids u => exact Store.keeps_compact u.store ids
    | error e u => exact Store.Keeps.refl u.store
  rw [convert_var] at hr
  obtain ⟨id', u, hvar, hr⟩ := chain_eq_ok hr
  cases hr
  obtain ⟨fn, hnode⟩ := varying_node hvalue hvar
  rw [hlast, Indent.forVariable?] at hnode
  refine ⟨fn, fun blank hblank hopen => ?_, fun hplain => ?_⟩
  · rw [captured?_sight.mpr ⟨hblank, hopen⟩, Option.map_some] at hnode
    rcases hnode with ⟨hnone, -⟩ | ⟨indent, child, hindent, hchild, hid⟩
    · cases hnone
    · cases hindent
      exact ⟨child, hkeeps _ _ hchild, hkeeps _ _ hid⟩
  · have hnone : (sight before).bind Indent.captured? = none := by
      rw [Option.eq_none_iff_forall_ne_some]
      intro blank hblank
      obtain ⟨hend, hopen⟩ := captured?_sight.mp hblank
      rcases hplain with hplain | hplain
      · exact hplain blank hend
      · exact hopen hplain
    rw [hnone, Option.map_none] at hnode
    rcases hnode with ⟨-, hid⟩ | ⟨indent, child, hindent, -, -⟩
    · exact hkeeps _ _ hid
    · cases hindent

theorem endsIn_blank : (Element.text "a\n  ").EndsIn "  " := by
  refine ⟨"a", rfl, by decide, by decide, fun c hc => ?_⟩
  obtain rfl : c = ' ' := by simpa using hc
  exact Unicode.isSpace_space

/-- A nested template that ends in a line of white space, and a variable behind it. -/
def indenting : List Element := [.snippet [.text "a\n  "], .var "TM_FILENAME" none]

theorem convert_indents_nested :
    ∃ id child fn,
      let s := (last (convert (Context.fresh Options.none).settings (.snippet indenting)
        (.fresh Store.empty))).store
      s.node? child = some (.computed fn []) ∧ s.node? id = some (.wrap child ⟨"  ", true⟩) := by
  have hrow : Element.marksAll indenting =
      [.opening, .element (.text "a\n  ")] ++ .element (.var "TM_FILENAME" none) :: [] := rfl
  obtain ⟨built, u, hall⟩ : ∃ ids u, convertAll (Context.fresh Options.none).settings indenting
      ((Workspace.fresh Store.empty).withLastText none) = .ok ids u := ⟨_, _, rfl⟩
  obtain ⟨v, built, v', hcall, hr⟩ := callsAll_of_marks indenting hall [] hrow
  obtain ⟨id, u', -, hid⟩ := chain_eq_ok ((convert_var _ _ _ _).symm.trans hr)
  cases hid
  have hknown : (Context.fresh Options.none).settings.knows "TM_FILENAME" = true := by decide +kernel
  obtain ⟨fn, hindent, -⟩ := convert_indents Assembler.keeping_embed hcall (.inl hknown) hr
  obtain ⟨child, hchild, hid⟩ := hindent "  " ⟨_, rfl, endsIn_blank⟩ (by simp)
  exact ⟨id, child, fn, hchild, hid⟩

/-- A line of white space, and a variable behind it that a nested template begins with. -/
def unindented : List Element := [.text "a\n  ", .snippet [.var "TM_FILENAME" none]]

/-- The variable is right behind the text in its row, but is not indented. -/
theorem compileSnippet_unindented :
    (Element.marksAll unindented).filterMap Mark.element? =
      [.text "a\n  ", .var "TM_FILENAME" none] ∧ (Element.text "a\n  ").EndsIn "  " ∧
    ∃ run, compileSnippet none Options.none (.snippet unindented) Store.empty = .ok run ∧
      run.outcome = .ok [0, 1] ∧ (run.store.node? 1).map Node.typeName = some "ComputedNode" :=
  ⟨rfl, endsIn_blank, _, rfl, ok_of_toOption (by decide +kernel), by decide +kernel⟩

end Conversion

end Snippet
