import Snippet.Indent

/-!
Lines side by side. Putting pieces next to each other is associative, pieces without lines leave no
trace, and the joined text of pieces is what their texts make one after the other.
-/

namespace Snippet

namespace Lines

/-! ## Two pieces -/

@[simp] theorem glue_nil_left (ys : Lines) : glue [] ys = ys := rfl

@[simp] theorem glue_nil_right (xs : Lines) : glue xs [] = xs := by
  cases xs with
  | nil => rfl
  | cons x xs => rfl

@[simp] theorem glue_cons_cons (x x' : String) (xs ys : Lines) :
    glue (x :: x' :: xs) ys = x :: glue (x' :: xs) ys := by
  cases ys with
  | nil => rw [glue_nil_right, glue_nil_right]
  | cons y ys => rfl

theorem glue_ne_nil_left {xs : Lines} (ys : Lines) (h : xs ≠ []) : glue xs ys ≠ [] := by
  match xs, ys with
  | [], _ => exact absurd rfl h
  | _ :: _, [] => simp
  | [_], _ :: _ => simp [glue]
  | _ :: _ :: _, _ :: _ => simp

theorem glue_ne_nil_right (xs : Lines) {ys : Lines} (h : ys ≠ []) : glue xs ys ≠ [] := by
  cases xs with
  | nil => exact h
  | cons x xs => exact glue_ne_nil_left ys (by simp)

/-- An empty line at the front is where the first line of what follows begins. -/
theorem glue_blank {ys : Lines} (h : ys ≠ []) : glue [""] ys = ys := by
  cases ys with
  | nil => exact absurd rfl h
  | cons y ys => simp [glue]

/-- An empty line at the end adds nothing to a piece that has lines. -/
theorem glue_blank_right {xs : Lines} (h : xs ≠ []) : glue xs [""] = xs := by
  induction xs with
  | nil => exact absurd rfl h
  | cons x xs ih =>
    cases xs with
    | nil => simp [glue]
    | cons x' xs => rw [glue_cons_cons, ih (by simp)]

theorem glue_assoc (xs ys zs : Lines) : glue (glue xs ys) zs = glue xs (glue ys zs) := by
  induction xs with
  | nil => rfl
  | cons x xs ih =>
    cases xs with
    | cons x' xs =>
      have hne : glue (x' :: xs) ys ≠ [] := glue_ne_nil_left ys (by simp)
      obtain ⟨u, us, hu⟩ := List.exists_cons_of_ne_nil hne
      rw [glue_cons_cons, glue_cons_cons, ← ih, hu, glue_cons_cons]
    | nil =>
      -- The one line of `xs` meets the first line of `ys`, which may be the only one as well.
      match ys, zs with
      | [], _ => rfl
      | _ :: _, [] => simp
      | [_], _ :: _ => simp [glue, String.append_assoc]
      | _ :: _ :: _, _ :: _ => simp [glue]

/-! ## Any number of pieces -/

theorem concat_ne_nil (cs : List Lines) : concat cs ≠ [] := by
  induction cs with
  | nil => simp [concat]
  | cons c cs ih => exact glue_ne_nil_right c ih

theorem concat_singleton {c : Lines} (h : c ≠ []) : concat [c] = c :=
  glue_blank_right h

theorem concat_append (cs ds : List Lines) : concat (cs ++ ds) = glue (concat cs) (concat ds) := by
  induction cs with
  | nil => exact (glue_blank (concat_ne_nil ds)).symm
  | cons c cs ih =>
    rw [List.cons_append, concat, concat, ih, glue_assoc]

/-- Pieces that have been put together before do not show. -/
theorem concat_concat (cs ds es : List Lines) :
    concat (cs ++ [concat ds] ++ es) = concat (cs ++ ds ++ es) := by
  rw [concat_append, concat_append, concat_singleton (concat_ne_nil ds), ← concat_append,
    ← concat_append]

/-! ## Joined texts -/

theorem toText_cons {l : String} {ls : Lines} (h : ls ≠ []) :
    toText (l :: ls) = l ++ "\n" ++ toText ls := by
  cases ls with
  | nil => exact absurd rfl h
  | cons l' ls => rfl

/-- Gluing lines puts their texts in a row. -/
theorem toText_glue (xs ys : Lines) : toText (glue xs ys) = toText xs ++ toText ys := by
  induction xs with
  | nil => simp [toText]
  | cons x xs ih =>
    cases xs with
    | cons x' xs =>
      have hne : glue (x' :: xs) ys ≠ [] := glue_ne_nil_left ys (by simp)
      have htail : toText (x :: x' :: xs) = x ++ "\n" ++ toText (x' :: xs) := rfl
      rw [glue_cons_cons, toText_cons hne, ih, htail]
      simp only [String.append_assoc]
    | nil =>
      match ys with
      | [] => simp [toText]
      | [_] => simp [glue, toText]
      | _ :: _ :: _ => simp [glue, toText, String.append_assoc]

theorem toText_concat (cs : List Lines) : toText (concat cs) = String.join (cs.map toText) := by
  induction cs with
  | nil => rfl
  | cons c cs ih => rw [concat, toText_glue, ih, List.map_cons, String.join_cons]

theorem toText_map_cut (cs : List Char) :
    toText ((cut cs).map String.ofList) = String.ofList cs := by
  induction cs with
  | nil => rfl
  | cons c r ih =>
    obtain ⟨l, ls, hr⟩ := List.exists_cons_of_ne_nil (cut_ne_nil r)
    by_cases hc : c = '\n'
    · subst hc
      have hne : (cut r).map String.ofList ≠ [] := by simp [cut_ne_nil]
      have hcut : cut ('\n' :: r) = [] :: cut r := by simp [cut]
      rw [hcut, List.map_cons, toText_cons hne, ih]
      simp
    · have hcut : cut (c :: r) = (c :: l) :: ls := by simp [cut, hc, hr]
      rw [hr] at ih
      rw [hcut]
      -- The character joins the first line, whether or not there are others behind it.
      cases ls with
      | nil =>
        simp only [List.map_cons, List.map_nil, toText] at ih ⊢
        simpa [← String.toList_inj] using congrArg String.toList ih
      | cons l' ls =>
        simp only [List.map_cons, toText] at ih ⊢
        simpa [← String.toList_inj] using congrArg String.toList ih

/-- Cutting a text and joining its lines gives the text back. -/
theorem toText_ofText (t : String) : toText (ofText t) = t := by
  rw [ofText, toText_map_cut, String.ofList_toList]

theorem cut_feed (r : List Char) : cut ('\n' :: r) = [] :: cut r := by
  rw [cut, if_pos rfl]

/-- A character that is no line feed stands at the front of the first line. -/
theorem cut_cons_of_ne {c : Char} (hc : c ≠ '\n') (r : List Char) :
    ∃ l ls, cut r = l :: ls ∧ cut (c :: r) = (c :: l) :: ls := by
  obtain ⟨l, ls, hr⟩ := List.exists_cons_of_ne_nil (cut_ne_nil r)
  refine ⟨l, ls, hr, ?_⟩
  rw [cut, if_neg hc, hr]

theorem notMem_of_mem_cut {cs l : List Char} (h : l ∈ cut cs) : '\n' ∉ l := by
  induction cs generalizing l with
  | nil =>
    obtain rfl : l = [] := List.mem_singleton.mp h
    exact List.not_mem_nil
  | cons c r ih =>
    by_cases hc : c = '\n'
    · rw [hc, cut_feed] at h
      rcases List.mem_cons.mp h with rfl | h
      · exact List.not_mem_nil
      · exact ih h
    · -- The first line has one more character, which is no line feed; the other lines are the same.
      obtain ⟨first, rest, hr, hcut⟩ := cut_cons_of_ne hc r
      rw [hcut] at h
      rw [hr] at ih
      rcases List.mem_cons.mp h with rfl | h
      · rw [List.mem_cons, not_or]
        exact ⟨Ne.symm hc, ih List.mem_cons_self⟩
      · exact ih (List.mem_cons_of_mem first h)

theorem notMem_of_mem_ofText {t l : String} (h : l ∈ ofText t) : '\n' ∉ l.toList := by
  obtain ⟨cs, hcs, rfl⟩ := List.mem_map.mp h
  rw [String.toList_ofList]
  exact notMem_of_mem_cut hcs

theorem cut_line {cs : List Char} (h : '\n' ∉ cs) : cut cs = [cs] := by
  induction cs with
  | nil => rfl
  | cons c r ih =>
    simp only [List.mem_cons, not_or] at h
    rw [cut, if_neg (Ne.symm h.1), ih h.2]

theorem cut_append (cs ds : List Char) : cut (cs ++ '\n' :: ds) = cut cs ++ cut ds := by
  induction cs with
  | nil => simp [cut]
  | cons c r ih =>
    obtain ⟨l, ls, hr⟩ := List.exists_cons_of_ne_nil (cut_ne_nil r)
    rw [List.cons_append, cut, cut, ih, hr]
    by_cases hc : c = '\n'
    · rw [if_pos hc, if_pos hc]
      rfl
    · rw [if_neg hc, if_neg hc]
      rfl

theorem ofText_line {t : String} (h : '\n' ∉ t.toList) : ofText t = [t] := by
  rw [ofText, cut_line h, List.map_singleton, String.ofList_toList]

/-- What stands behind the last line feed is the last line. -/
theorem ofText_append (t : String) {l : String} (h : '\n' ∉ l.toList) :
    ofText (t ++ "\n" ++ l) = ofText t ++ [l] := by
  have hcs : (t ++ "\n" ++ l).toList = t.toList ++ '\n' :: l.toList := by simp
  rw [ofText, hcs, cut_append, cut_line h, List.map_append, List.map_singleton,
    String.ofList_toList, ofText]

/-- Joining lines without line feeds and cutting the text gives the lines back. -/
theorem ofText_toText {ls : Lines} (h : ls ≠ []) (hfree : ∀ l ∈ ls, '\n' ∉ l.toList) :
    ofText (toText ls) = ls := by
  induction ls with
  | nil => exact absurd rfl h
  | cons l ls ih =>
    have hl := hfree l (by simp)
    by_cases hls : ls = []
    · subst hls
      exact ofText_line hl
    · have hcs : (l ++ "\n" ++ toText ls).toList = l.toList ++ '\n' :: (toText ls).toList := by simp
      have htail := ih hls fun l' hl' => hfree l' (by simp [hl'])
      rw [ofText] at htail
      rw [toText_cons hls, ofText, hcs, cut_append, cut_line hl, List.map_append, htail,
        List.map_singleton, String.ofList_toList]
      rfl

/-- A text is a line, or there is a last line feed in it. -/
theorem exists_last_line {t : String} (h : '\n' ∈ t.toList) :
    ∃ u l, t = u ++ "\n" ++ l ∧ '\n' ∉ l.toList := by
  obtain ⟨r, l, hsplit, hr⟩ := List.eq_append_cons_of_mem (List.mem_reverse.mpr h)
  refine ⟨String.ofList l.reverse, String.ofList r.reverse, ?_, by simpa using hr⟩
  rw [← String.toList_inj, ← List.reverse_reverse t.toList, hsplit]
  simp

end Lines

namespace Indent

theorem apply_ne_nil (i : Indent) (parent : String) {ls : Lines} (h : ls ≠ []) :
    i.apply parent ls ≠ [] := by
  cases ls with
  | nil => exact absurd rfl h
  | cons l ls => simp [apply]

theorem apply_apply {outer inner both : Indent} {parent : String}
    (h : both.lead parent = outer.lead parent ++ inner.lead parent) (ls : Lines) :
    outer.apply parent (inner.apply parent ls) = both.apply parent ls := by
  cases ls with
  | nil => rfl
  | cons l ls => simp [apply, h, Function.comp_def, String.append_assoc]

@[simp] theorem length_apply (i : Indent) (parent : String) (ls : Lines) :
    (i.apply parent ls).length = ls.length := by
  cases ls <;> simp [apply]

@[simp] theorem head?_apply (i : Indent) (parent : String) (ls : Lines) :
    (i.apply parent ls).head? = ls.head? := by
  cases ls <;> rfl

/-- Behind a line, all of the lines are indented, up to the piece that goes on where they end. -/
theorem map_glue (pre x : String) (xs ys : Lines) :
    (Lines.glue (x :: xs) ys).map (pre ++ ·) =
      Lines.glue ((x :: xs).map (pre ++ ·)) (ys.head?.toList ++ ys.tail.map (pre ++ ·)) := by
  induction xs generalizing x with
  | nil =>
    cases ys with
    | nil => simp
    | cons y ys => simp [Lines.glue, String.append_assoc]
  | cons x' xs ih => simpa using ih x'

/-- The line that two pieces share is a continuation line or not as it is one of the first piece. -/
theorem apply_glue (i : Indent) (parent : String) (xs ys : Lines) :
    i.apply parent (Lines.glue xs ys) = Lines.glue (i.apply parent xs) (i.apply parent ys) := by
  have hys : i.apply parent ys = ys.head?.toList ++ ys.tail.map (i.lead parent ++ ·) := by
    cases ys <;> rfl
  match xs, ys with
  | [], _ => rfl
  | _ :: _, [] => simp [apply]
  | [_], _ :: _ => rfl
  | x :: x' :: xs, ys =>
    rw [Lines.glue_cons_cons, apply, apply, map_glue, hys, List.map_cons, Lines.glue_cons_cons]

/-- A text with `lead` put behind each line feed. -/
def leading (lead t : String) : String :=
  String.ofList (t.toList.flatMap fun c => if c = '\n' then '\n' :: lead.toList else [c])

theorem leading_append (lead t t' : String) :
    leading lead (t ++ t') = leading lead t ++ leading lead t' := by
  simp [leading]

theorem leading_feed (lead : String) : leading lead "\n" = "\n" ++ lead := by
  simp [leading]

theorem leading_line {lead l : String} (h : '\n' ∉ l.toList) : leading lead l = l := by
  have hchars : ∀ cs : List Char, '\n' ∉ cs →
      (cs.flatMap fun c => if c = '\n' then '\n' :: lead.toList else [c]) = cs := by
    intro cs hcs
    induction cs with
    | nil => rfl
    | cons c cs ih =>
      simp only [List.mem_cons, not_or] at hcs
      rw [List.flatMap_cons, if_neg (Ne.symm hcs.1), ih hcs.2]
      rfl
  rw [leading, hchars _ h, String.ofList_toList]

theorem toText_apply (i : Indent) (parent : String) {ls : Lines}
    (h : ∀ l ∈ ls, '\n' ∉ l.toList) :
    (i.apply parent ls).toText = leading (i.lead parent) ls.toText := by
  induction ls with
  | nil => rfl
  | cons l ls ih =>
    have hl : leading (i.lead parent) l = l := leading_line (h l (by simp))
    cases ls with
    | nil => exact hl.symm
    | cons l' ls =>
      -- The second line has the lead; the text behind it is what indenting from it on gives.
      have hlead : ∀ rest : Lines, Lines.toText ((i.lead parent ++ l') :: rest) =
          i.lead parent ++ Lines.toText (l' :: rest) := by
        intro rest
        cases rest <;> simp [Lines.toText, String.append_assoc]
      have htail := ih fun x hx => h x (by simp [hx])
      rw [apply] at htail
      have htext : Lines.toText (l :: l' :: ls) = l ++ "\n" ++ Lines.toText (l' :: ls) := rfl
      rw [apply, List.map_cons, Lines.toText_cons (by simp), hlead, htail, htext, leading_append,
        leading_append, leading_feed, hl]
      simp only [String.append_assoc]

theorem isBlank_iff {s : String} :
    isBlank s = true ↔ s ≠ "" ∧ ∀ c ∈ s.toList, Unicode.isSpace c = true := by
  simp [isBlank]

theorem captured?_append {ls : Lines} (h : ls ≠ []) (l : String) :
    captured? (ls ++ [l]) = (some l).filter isBlank := by
  match ls with
  | [x] => rfl
  | x :: y :: ls =>
    show (some ((x :: y :: ls ++ [l]).getLast _)).filter isBlank = _
    rw [List.getLast_concat]

/-- What is captured is the white space behind the last line feed, if there is nothing else. -/
theorem captured?_ofText {t blank : String} :
    captured? (Lines.ofText t) = some blank ↔
      ∃ u, t = u ++ "\n" ++ blank ∧ '\n' ∉ blank.toList ∧ isBlank blank = true := by
  constructor
  · intro h
    by_cases hnl : '\n' ∈ t.toList
    · obtain ⟨u, l, rfl, hl⟩ := Lines.exists_last_line hnl
      rw [Lines.ofText_append u hl, captured?_append (Lines.ofText_ne_nil u)] at h
      obtain ⟨he, hblank⟩ := Option.filter_eq_some_iff.mp h
      cases he
      exact ⟨u, rfl, hl, hblank⟩
    · rw [Lines.ofText_line hnl] at h
      cases h
  · rintro ⟨u, rfl, hl, hblank⟩
    rw [Lines.ofText_append u hl, captured?_append (Lines.ofText_ne_nil u), Option.filter_some,
      if_pos hblank]

end Indent

end Snippet
