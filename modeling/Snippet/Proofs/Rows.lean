import Snippet.Conversion.Context
import Snippet.Proofs.Element
import Snippet.Proofs.Store.Ranks

/-!
Rows of siblings as a tree declares them. A nested template contributes its row to that around it, and
can as well be written out there. Its fields are numbered twice then, once among themselves and once
in the row around them, which is harmless as long as the first round keeps the order of the whole row.
-/

namespace Snippet.Element

open Positions

/-! ## What a tree declares -/

mutual

/-- The positions that have a primary node behind an element, given those that have one before it. -/
def met (seen : List Nat) : Element → List Nat
  | tabstop p _ => if p ∈ seen then seen else p :: seen
  | placeholder p _ children => if p ∈ seen then seen else p :: metAll seen children
  | snippet children => metAll seen children
  | _ => seen

def metAll (seen : List Nat) : List Element → List Nat
  | [] => seen
  | e :: es => metAll (e.met seen) es

end

mutual

/-- The numbers that an element contributes to a row. A repeated position has none, for its node is a
mirror, and what becomes of the row of a nested template is up to `close`. -/
def row (close : List (Option Int) → List (Option Int)) (seen : List Nat) :
    Element → List (Option Int)
  | text _ => [none]
  | var _ _ => [none]
  | choice p _ => [some p]
  | tabstop p _ => [if p ∈ seen then none else some p]
  | placeholder p _ _ => [if p ∈ seen then none else some p]
  | snippet children => close (rowAll close seen children)
  | _ => []

def rowAll (close : List (Option Int) → List (Option Int)) (seen : List Nat) :
    List Element → List (Option Int)
  | [] => []
  | e :: es => e.row close seen ++ rowAll close (e.met seen) es

end

/-- The numbers in a row of siblings as they are written, nested templates opened. -/
def declared (seen : List Nat) (es : List Element) : List (Option Int) :=
  rowAll id seen es

mutual

/-- The transforms that are made for an element, in order: those of mirrors and of variables that are
known. -/
def requests (settings : Settings) (seen : List Nat) : Element → List TransformSpec
  | tabstop p spec => if p ∈ seen then spec.toList else []
  | placeholder p spec children =>
      if p ∈ seen then spec.toList else requestsAll settings seen children
  | var name spec => if settings.knows name then spec.toList else []
  | snippet children => requestsAll settings seen children
  | _ => []

def requestsAll (settings : Settings) (seen : List Nat) : List Element → List TransformSpec
  | [] => []
  | e :: es => e.requests settings seen ++ requestsAll settings (e.met seen) es

end

/-! ## Nested templates written out -/

mutual

/-- An element with the nested templates in it written out where they stand. -/
def inline : Element → List Element
  | placeholder p spec children => [placeholder p spec (inlineAll children)]
  | snippet children => inlineAll children
  | e => [e]

def inlineAll : List Element → List Element
  | [] => []
  | e :: es => e.inline ++ inlineAll es

end

section Append

variable (settings : Settings) (close : List (Option Int) → List (Option Int)) (seen : List Nat)
  (es es' : List Element)

theorem metAll_append : metAll seen (es ++ es') = metAll (metAll seen es) es' := by
  induction es generalizing seen with
  | nil => rfl
  | cons e es ih => rw [List.cons_append, metAll, metAll, ih]

theorem rowAll_append :
    rowAll close seen (es ++ es') = rowAll close seen es ++ rowAll close (metAll seen es) es' := by
  induction es generalizing seen with
  | nil => rfl
  | cons e es ih => rw [List.cons_append, rowAll, rowAll, metAll, ih, List.append_assoc]

theorem requestsAll_append : requestsAll settings seen (es ++ es') =
    requestsAll settings seen es ++ requestsAll settings (metAll seen es) es' := by
  induction es generalizing seen with
  | nil => rfl
  | cons e es ih => rw [List.cons_append, requestsAll, requestsAll, metAll, ih, List.append_assoc]

theorem grammaticalAll_append :
    grammaticalAll (es ++ es') = (grammaticalAll es && grammaticalAll es') := by
  induction es with
  | nil => rfl
  | cons e es ih => rw [List.cons_append, grammaticalAll, grammaticalAll, ih, Bool.and_assoc]

end Append

mutual

theorem grammaticalAll_inline (e : Element) (hg : e.grammatical) : grammaticalAll e.inline := by
  match e with
  | placeholder p spec children =>
    have h := grammaticalAll_inlineAll children hg
    simpa [inline, grammaticalAll, grammatical] using h
  | snippet children => exact grammaticalAll_inlineAll children hg
  | text _ | choice _ _ | tabstop _ _ | var _ _ => rfl
  | ownText _ | ownSnippet _ | custom _ | built _ => cases hg

theorem grammaticalAll_inlineAll (es : List Element) (hg : grammaticalAll es) :
    grammaticalAll (inlineAll es) := by
  match es with
  | [] => rfl
  | e :: es =>
    rw [grammaticalAll, Bool.and_eq_true] at hg
    rw [inlineAll, grammaticalAll_append, grammaticalAll_inline e hg.1,
      grammaticalAll_inlineAll es hg.2]
    rfl

end

mutual

/-- Writing nested templates out changes neither which positions are met, nor what is declared, nor
which transforms are made. -/
theorem inline_spec (settings : Settings) (close : List (Option Int) → List (Option Int))
    (seen : List Nat) (e : Element) :
    metAll seen e.inline = e.met seen ∧ rowAll close seen e.inline = e.row id seen ∧
      requestsAll settings seen e.inline = e.requests settings seen := by
  -- Only a nested template and a placeholder have anything in them to write out.
  match e with
  | snippet children => exact inlineAll_spec settings close seen children
  | placeholder p spec children =>
    obtain ⟨hmet, -, hrequests⟩ := inlineAll_spec settings close seen children
    simp [inline, metAll, met, rowAll, row, requestsAll, requests, hmet, hrequests]
  | text _ | choice _ _ | tabstop _ _ | var _ _ =>
    simp [inline, metAll, met, rowAll, row, requestsAll, requests]
  | ownText _ | ownSnippet _ | custom _ | built _ =>
    simp [inline, metAll, met, rowAll, row, requestsAll, requests]

theorem inlineAll_spec (settings : Settings) (close : List (Option Int) → List (Option Int))
    (seen : List Nat) (es : List Element) :
    metAll seen (inlineAll es) = metAll seen es ∧
      rowAll close seen (inlineAll es) = declared seen es ∧
      requestsAll settings seen (inlineAll es) = requestsAll settings seen es := by
  match es with
  | [] => exact ⟨rfl, rfl, rfl⟩
  | e :: es =>
    obtain ⟨hmet, hrow, hrequests⟩ := inline_spec settings close seen e
    obtain ⟨hmet', hrow', hrequests'⟩ := inlineAll_spec settings close (e.met seen) es
    rw [inlineAll, metAll_append, rowAll_append, requestsAll_append, hmet, hrow, hrequests, hmet',
      hrow', hrequests']
    exact ⟨rfl, rfl, rfl⟩

end

/-! ## Two rounds of numbering -/

/-- The numbers that an element brings into a row around it: a nested template brings the ranks of its
fields, any other element its own number. -/
def offered (seen : List Nat) : Element → List (Option Int)
  | snippet children => ranks (declared seen children)
  | e => e.row id seen

def offeredAll (seen : List Nat) : List Element → List (Option Int)
  | [] => []
  | e :: es => e.offered seen ++ offeredAll (e.met seen) es

mutual

/-- In every row of nested templates the numbers that are brought into it are in the order of those
that are declared. -/
def inOrder (seen : List Nat) : Element → Bool
  | snippet children =>
      SameOrder (declared seen children) (offeredAll seen children) && inOrderAll seen children
  | _ => true

def inOrderAll (seen : List Nat) : List Element → Bool
  | [] => true
  | e :: es => e.inOrder seen && inOrderAll (e.met seen) es

end

mutual

theorem shape_row (seen : List Nat) (e : Element) :
    (e.row ranks seen).map shape = (e.row id seen).map shape := by
  match e with
  | snippet children => rw [row, row, shape_ranks, shape_rowAll seen children, declared, id_eq]
  | text _ | choice _ _ | tabstop _ _ | placeholder _ _ _ | var _ _ => rfl
  | ownText _ | ownSnippet _ | custom _ | built _ => rfl

theorem shape_rowAll (seen : List Nat) (es : List Element) :
    (rowAll ranks seen es).map shape = (declared seen es).map shape := by
  match es with
  | [] => rfl
  | e :: es =>
    have htail := shape_rowAll (e.met seen) es
    rw [declared] at htail ⊢
    rw [rowAll, rowAll, List.map_append, List.map_append, shape_row seen e, htail]

end

theorem length_eq_of_shape {ps qs : List (Option Int)} (h : ps.map shape = qs.map shape) :
    ps.length = qs.length := by
  simpa using congrArg List.length h

theorem shape_offered (seen : List Nat) (e : Element) :
    (e.offered seen).map shape = (e.row id seen).map shape := by
  cases e with
  | snippet children => exact shape_ranks _
  | _ => rfl

theorem shape_offeredAll (seen : List Nat) (es : List Element) :
    (offeredAll seen es).map shape = (declared seen es).map shape := by
  induction es generalizing seen with
  | nil => rfl
  | cons e es ih =>
    rw [offeredAll, List.map_append, shape_offered, ih, declared, declared, rowAll,
      List.map_append]

/-- A nested row that keeps the declared order has the declared ranks. -/
theorem row_eq_offered {seen : List Nat} {e : Element}
    (h : SameOrder (e.row id seen) (e.row ranks seen)) : e.row ranks seen = e.offered seen := by
  cases e with
  | snippet children =>
    have hranks := (ranks_eq_iff (shape_row seen (snippet children)).symm).mpr h
    rw [row, row, ranks_ranks] at hranks
    exact hranks.symm
  | _ => rfl

theorem rowAll_eq_offeredAll {seen : List Nat} {es : List Element}
    (h : SameOrder (declared seen es) (rowAll ranks seen es)) :
    rowAll ranks seen es = offeredAll seen es := by
  induction es generalizing seen with
  | nil => rfl
  | cons e es ih =>
    rw [declared, rowAll, rowAll] at h
    obtain ⟨hhead, htail⟩ := h.of_append (length_eq_of_shape (shape_row seen e)).symm
    rw [rowAll, offeredAll, row_eq_offered hhead, ih htail]

mutual

/-- The numbers that an element brings are those that it is given, if and only if the rows in it are
in order. -/
theorem row_eq_offered_iff (seen : List Nat) (e : Element) :
    e.row ranks seen = e.offered seen ↔ e.inOrder seen := by
  match e with
  | snippet children =>
    have hshape := shape_rowAll seen children
    rw [row, offered, inOrder, Bool.and_eq_true, decide_eq_true_eq, ranks_eq_iff hshape,
      ← rowAll_eq_offeredAll_iff seen children]
    -- If the row keeps the order then so does each nested one in it, being a part of it.
    constructor
    · intro h
      have hsymm := h.symm (length_eq_of_shape hshape)
      have heq := rowAll_eq_offeredAll hsymm
      exact ⟨heq ▸ hsymm, heq⟩
    · rintro ⟨h, heq⟩
      rw [heq]
      exact h.symm (length_eq_of_shape (shape_offeredAll seen children)).symm
  | text _ | choice _ _ | tabstop _ _ | placeholder _ _ _ | var _ _ => exact ⟨fun _ => rfl, fun _ => rfl⟩
  | ownText _ | ownSnippet _ | custom _ | built _ => exact ⟨fun _ => rfl, fun _ => rfl⟩

theorem rowAll_eq_offeredAll_iff (seen : List Nat) (es : List Element) :
    rowAll ranks seen es = offeredAll seen es ↔ inOrderAll seen es := by
  match es with
  | [] => exact ⟨fun _ => rfl, fun _ => rfl⟩
  | e :: es =>
    have hlength : (e.row ranks seen).length = (e.offered seen).length :=
      length_eq_of_shape ((shape_row seen e).trans (shape_offered seen e).symm)
    rw [rowAll, offeredAll, inOrderAll, Bool.and_eq_true, ← row_eq_offered_iff seen e,
      ← rowAll_eq_offeredAll_iff (e.met seen) es]
    constructor
    · intro h
      exact List.append_inj h hlength
    · rintro ⟨hhead, htail⟩
      rw [hhead, htail]

end

end Snippet.Element
