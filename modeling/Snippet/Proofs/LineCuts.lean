import Mathlib.Data.Set.Function
import Snippet.Proofs.Lines

/-!
Cutting a text and joining lines. The lines of a text hold all of it but its line feeds, in order, and
joining them gives the text back. A list of lines comes back from its joined text exactly if it has a line
and no line has a line feed in it, so that the texts correspond to those lists one to one.
-/

namespace Snippet

namespace Lines

/-! ## Characters -/

/-- The line feeds are all that a cut takes away. -/
theorem flatten_cut (cs : List Char) : (cut cs).flatten = cs.filter (· ≠ '\n') := by
  induction cs with
  | nil => rfl
  | cons c r ih =>
    by_cases hc : c = '\n'
    · rw [hc, cut_feed, List.flatten_cons, List.nil_append, ih, List.filter_cons_of_neg (by decide)]
    · obtain ⟨first, rest, hr, hcut⟩ := cut_cons_of_ne hc r
      have hkeep : (c :: r).filter (· ≠ '\n') = c :: r.filter (· ≠ '\n') :=
        List.filter_cons_of_pos (by simpa using hc)
      rw [hcut, hkeep, ← ih, hr]
      rfl

/-! ## Texts and values -/

theorem flatMap_ofText (t : String) :
    (ofText t).flatMap String.toList = t.toList.filter (· ≠ '\n') := by
  rw [ofText, List.flatMap_map, ← flatten_cut]
  simp only [String.toList_ofList, List.flatMap_id']

theorem ofText_toText_iff (ls : Lines) :
    ofText (toText ls) = ls ↔ ls ≠ [] ∧ ∀ l ∈ ls, '\n' ∉ l.toList := by
  constructor
  · intro h
    rw [← h]
    exact ⟨ofText_ne_nil _, fun l hl => notMem_of_mem_ofText hl⟩
  · rintro ⟨hne, hfree⟩
    exact ofText_toText hne hfree

theorem bijOn_ofText :
    Set.BijOn ofText Set.univ {ls | ls ≠ [] ∧ ∀ l ∈ ls, '\n' ∉ l.toList} := by
  refine ⟨?maps, ?injective, ?surjective⟩
  case maps => exact fun t _ => ⟨ofText_ne_nil t, fun l hl => notMem_of_mem_ofText hl⟩
  case injective =>
    intro t _ u _ h
    rw [← toText_ofText t, h, toText_ofText]
  case surjective => exact fun ls hls => ⟨toText ls, trivial, (ofText_toText_iff ls).mpr hls⟩

end Lines

/-- Lines that a value was made into are a value that is made into the same lines. -/
theorem Value.toLines_lines_toLines (v : Value) : (Value.lines v.toLines).toLines = v.toLines := by
  obtain ⟨l, ls, hv⟩ := List.exists_cons_of_ne_nil v.toLines_ne_nil
  rw [hv]
  rfl

/-- Cutting at line feeds, and at nothing else, and joining with line feeds are inverse between the texts and
the lists of lines that are not empty and have no line feed in a line, and between no more lists than those. -/
theorem Lines.texts_correspond :
    (∀ t, toText (ofText t) = t ∧ ofText t ≠ [] ∧ (∀ l ∈ ofText t, '\n' ∉ l.toList) ∧
      (ofText t).flatMap String.toList = t.toList.filter (· ≠ '\n')) ∧
    (∀ ls, ofText (toText ls) = ls ↔ ls ≠ [] ∧ ∀ l ∈ ls, '\n' ∉ l.toList) ∧
    (∀ v : Value, (Value.lines v.toLines).toLines = v.toLines) ∧
    Set.BijOn ofText Set.univ {ls | ls ≠ [] ∧ ∀ l ∈ ls, '\n' ∉ l.toList} := by
  refine ⟨fun t => ⟨toText_ofText t, ofText_ne_nil t, ?_, flatMap_ofText t⟩, ofText_toText_iff,
    Value.toLines_lines_toLines, bijOn_ofText⟩
  exact fun l hl => notMem_of_mem_ofText hl

/-- Other marks that end a line somewhere stay in the lines, also at the end of one. -/
theorem Lines.texts_correspond_marks :
    (["a\r", "\u2028b\u0085", ""] ≠ [] ∧ ∀ l ∈ ["a\r", "\u2028b\u0085", ""], '\n' ∉ l.toList) ∧
      ofText (toText ["a\r", "\u2028b\u0085", ""]) = ["a\r", "\u2028b\u0085", ""] ∧
      toText ["a\r", "\u2028b\u0085", ""] = "a\r\n\u2028b\u0085\n" := by
  have hfree : ["a\r", "\u2028b\u0085", ""] ≠ [] ∧
      ∀ l ∈ ["a\r", "\u2028b\u0085", ""], '\n' ∉ l.toList := by decide
  exact ⟨hfree, (texts_correspond.2.1 _).mpr hfree, by decide⟩

end Snippet
