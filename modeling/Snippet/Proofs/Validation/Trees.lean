import Snippet.Proofs.Store.View
import Snippet.Proofs.Validation.Checks

/-!
The trees that validation gives. Every element of a tree stands where the data has a record with the tag of
its kind, and has the position that is written there. Writing a tree and validating what is written gives the
tree back.
-/

namespace Snippet

/-! ## Ways down -/

namespace Element

/-- The class of an element of the grammar. -/
def kind? : Element → Option ElementKind
  | text _ => some .text
  | choice _ _ => some .choice
  | tabstop _ _ => some .tabstop
  | placeholder _ _ _ => some .placeholder
  | var _ _ => some .var
  | snippet _ => some .snippet
  | _ => none

/-- The elements one level down. -/
def parts : Element → List Element
  | placeholder _ _ children => children
  | snippet children => children
  | ownSnippet children => children
  | _ => []

/-- The element at the end of a way down, given by the indexes of children. -/
def at? : List Nat → Element → Option Element
  | [], e => some e
  | k :: path, e => e.parts[k]?.bind (at? path)

end Element

namespace Data

/-- The data one level down, of the children. -/
def parts : Data → List Data
  | record fields =>
      match fields.lookup "children" with
      | some (list ds) => ds
      | _ => []
  | made e => e.parts.map made
  | _ => []

def at? : List Nat → Data → Option Data
  | [], d => some d
  | k :: path, d => d.parts[k]?.bind (at? path)

end Data

/-! ## What is read -/

/-- The element is what the record says, read as the kind. -/
structure Element.ReadFrom (coerce : Coercion) (kind : ElementKind) (fields : List (String × Data))
    (e : Element) : Prop where
  ofKind : e.kind? = some kind
  /-- The position is the integer that is written, and without one it is zero. -/
  position : ∀ p, e.position? = some p → (fields.lookup "position" = none ∧ p = 0) ∨
    ∃ d, fields.lookup "position" = some d ∧ coerce d = .ok (p : Int)
  /-- Where there can be children, every child is there. -/
  parts : kind = .placeholder ∨ kind = .snippet → e.parts.length = (Data.record fields).parts.length

/-- The element is made already, or is what a record says, read as the kind that its tag names. -/
def Element.IsChild (coerce : Coercion) (d : Data) (e : Element) : Prop :=
  d = .made e ∨ ∃ kind fields, d = .record fields ∧
    fields.lookup "kind" = some (.text kind.tag) ∧ e.ReadFrom coerce kind fields

namespace Checked

variable {α β γ : Type}

@[simp] theorem below_ok (step : Step) (a : α) : below step (.ok a) = .ok a := rfl

@[simp] theorem both_ok (f : α → β → γ) (a : α) (b : β) : both f (.ok a) (.ok b) = .ok (f a b) := rfl

theorem both_eq_ok {f : α → β → γ} {a : Checked α} {b : Checked β} {c : γ} (h : both f a b = .ok c) :
    ∃ x y, a = .ok x ∧ b = .ok y ∧ f x y = c := by
  cases a with
  | error is => cases b <;> cases h
  | ok x =>
    cases b with
    | error is => cases h
    | ok y => exact ⟨x, y, rfl, rfl, Except.ok.inj h⟩

theorem below_eq_ok {step : Step} {c : Checked α} {a : α} (h : c.below step = .ok a) : c = .ok a := by
  cases c with
  | error is => cases h
  | ok x => exact h

theorem each_eq_ok {read : Data → Checked α} {k : Nat} {ds : List Data} {as : List α}
    (h : each read k ds = .ok as) : as.length = ds.length ∧
      ∀ (l : Nat) a, as[l]? = some a → ∃ d, ds[l]? = some d ∧ read d = .ok a := by
  induction ds generalizing k as with
  | nil =>
    cases h
    exact ⟨rfl, by simp⟩
  | cons d ds ih =>
    obtain ⟨x, xs, hx, hxs, rfl⟩ := both_eq_ok h
    obtain ⟨hlength, hitems⟩ := ih hxs
    refine ⟨by simp [hlength], fun l a hl => ?_⟩
    cases l with
    | zero =>
      obtain rfl : x = a := by simpa using hl
      exact ⟨d, rfl, below_eq_ok hx⟩
    | succ l => exact hitems l a (by simpa using hl)

end Checked

namespace Data

open Checked

variable {coerce : Coercion} {fields : List (String × Data)} {kind : ElementKind} {e x : Element}
  {d : Data}

theorem field_position {p : Nat} (h : field fields "position" (.ok 0) (position coerce) = .ok p) :
    (fields.lookup "position" = none ∧ p = 0) ∨
      ∃ d, fields.lookup "position" = some d ∧ coerce d = .ok (p : Int) := by
  rw [field] at h
  cases hd : fields.lookup "position" with
  | none =>
    rw [hd] at h
    exact .inl ⟨rfl, (Except.ok.inj (below_eq_ok h)).symm⟩
  | some d =>
    rw [hd] at h
    have hread := below_eq_ok h
    rw [position] at hread
    cases hn : coerce d with
    | error reason =>
      rw [hn] at hread
      cases hread
    | ok n =>
      simp only [hn] at hread
      split at hread
      · cases hread
      · cases hread
        exact .inr ⟨d, rfl, by rw [hn, Int.toNat_of_nonneg (by omega)]⟩

/-- The children read are those in the data, in their order. -/
theorem childrenIn_eq_ok {es : List Element}
    (h : (childrenIn coerce fields).below (.field "children") = .ok es) :
    es.length = (record fields).parts.length ∧
      ∀ (l : Nat) x, es[l]? = some x →
        ∃ d, (record fields).parts[l]? = some d ∧ d.child coerce = .ok x := by
  rw [childrenIn_eq, field] at h
  rw [parts]
  cases hd : fields.lookup "children" with
  | none =>
    rw [hd] at h
    obtain rfl := Except.ok.inj (below_eq_ok h)
    exact ⟨rfl, by simp⟩
  | some d =>
    rw [hd] at h
    have hread := below_eq_ok h
    cases d with
    | list ds =>
      rw [childList, children_eq_each] at hread
      exact each_eq_ok hread
    | _ =>
      rw [childList] at hread
      · cases hread
      · simp

theorem elementOf_eq_ok (h : elementOf coerce fields (childrenIn coerce fields) kind = .ok e) :
    e.ReadFrom coerce kind fields ∧
      ∀ (l : Nat) x, e.parts[l]? = some x →
        ∃ d, (record fields).parts[l]? = some d ∧ d.child coerce = .ok x := by
  -- Only placeholders and templates have children; below the other kinds there is nothing to compare.
  cases kind with
  | text =>
    obtain ⟨s, -, rfl⟩ := map_eq_ok h
    exact ⟨⟨rfl, by simp [Element.position?], by simp⟩, by simp [Element.parts]⟩
  | choice =>
    obtain ⟨p, items, hp, -, rfl⟩ := both_eq_ok h
    refine ⟨⟨rfl, fun q hq => ?_, by simp⟩, by simp [Element.parts]⟩
    exact Option.some.inj hq ▸ field_position hp
  | tabstop =>
    obtain ⟨p, spec, hp, -, rfl⟩ := both_eq_ok h
    refine ⟨⟨rfl, fun q hq => ?_, by simp⟩, by simp [Element.parts]⟩
    exact Option.some.inj hq ▸ field_position hp
  | placeholder =>
    obtain ⟨pair, es, hpair, hes, rfl⟩ := both_eq_ok h
    obtain ⟨p, spec, hp, -, rfl⟩ := both_eq_ok hpair
    obtain ⟨hlength, hitems⟩ := childrenIn_eq_ok hes
    refine ⟨⟨rfl, fun q hq => ?_, fun _ => hlength⟩, hitems⟩
    exact Option.some.inj hq ▸ field_position hp
  | var =>
    obtain ⟨name, spec, -, -, rfl⟩ := both_eq_ok h
    exact ⟨⟨rfl, by simp [Element.position?], by simp⟩, by simp [Element.parts]⟩
  | snippet =>
    obtain ⟨es, hes, rfl⟩ := map_eq_ok h
    obtain ⟨hlength, hitems⟩ := childrenIn_eq_ok hes
    exact ⟨⟨rfl, by simp [Element.position?], fun _ => hlength⟩, hitems⟩

/-- What is not made already is a child as it is read by its tag. -/
theorem anyBranch_eq_ok {c : Checked Element} (hmade : ∀ e, d ≠ .made e)
    (h : anyBranch c d = .ok e) : c = .ok e := by
  cases c with
  | ok e' => exact h
  | error is =>
    cases d with
    | made e' => exact absurd rfl (hmade e')
    | _ => cases h

theorem child_eq_ok (h : d.child coerce = .ok e) :
    e.IsChild coerce d ∧ ∀ (l : Nat) x, e.parts[l]? = some x →
      ∃ d', d.parts[l]? = some d' ∧ d'.child coerce = .ok x := by
  have hmade : ∀ x : Element, (made x).child coerce = .ok x := by
    intro x
    rw [child, anyBranch_made]
    simp
  cases d with
  | made e' =>
    obtain rfl := Except.ok.inj ((hmade e').symm.trans h)
    exact ⟨.inl rfl, fun l x hx => ⟨.made x, by simp [parts, hx], hmade x⟩⟩
  | record fields =>
    rw [child] at h
    have htagged := anyBranch_eq_ok (by simp) h
    rw [taggedOf] at htagged
    cases hd : fields.lookup "kind" with
    | none =>
      rw [hd] at htagged
      cases htagged
    | some d =>
      rw [hd] at htagged
      cases d with
      | text tag =>
        cases hkind : ElementKind.ofTag? tag with
        | none =>
          simp only [hkind] at htagged
          cases htagged
        | some kind =>
          simp only [hkind] at htagged
          obtain ⟨hread, hparts⟩ := elementOf_eq_ok (below_eq_ok htagged)
          obtain rfl := ElementKind.ofTag?_eq_some_iff.mp hkind
          exact ⟨.inr ⟨kind, fields, rfl, hd, hread⟩, hparts⟩
      | _ => cases htagged
  | _ =>
    rw [child] at h
    · cases anyBranch_eq_ok (by simp) h
    · simp

/-- By induction on the way down. -/
theorem isChild_at {path : List Nat} (h : d.child coerce = .ok e) (hx : e.at? path = some x) :
    ∃ d', d.at? path = some d' ∧ x.IsChild coerce d' := by
  induction path generalizing d e with
  | nil =>
    cases hx
    exact ⟨d, rfl, (child_eq_ok h).1⟩
  | cons k path ih =>
    obtain ⟨y, hy, hx⟩ := Option.bind_eq_some_iff.mp hx
    obtain ⟨c, hc, hread⟩ := (child_eq_ok h).2 k y hy
    obtain ⟨d', hd', hchild⟩ := ih hread hx
    exact ⟨d', by rw [at?, hc]; exact hd', hchild⟩

theorem element_eq_ok (h : element coerce kind d = .ok e) : ∃ fields, d = .record fields ∧
    e.ReadFrom coerce kind fields ∧
    ∀ k path x, e.at? (k :: path) = some x →
      ∃ d', d.at? (k :: path) = some d' ∧ x.IsChild coerce d' := by
  cases d with
  | record fields =>
    obtain ⟨_, e', -, hread, rfl⟩ := both_eq_ok h
    obtain ⟨hroot, hparts⟩ := elementOf_eq_ok hread
    refine ⟨fields, rfl, hroot, fun k path x hx => ?_⟩
    obtain ⟨y, hy, hx⟩ := Option.bind_eq_some_iff.mp hx
    obtain ⟨c, hc, hchild⟩ := hparts k y hy
    obtain ⟨d', hd', hx⟩ := isChild_at hchild hx
    exact ⟨d', by rw [at?, hc]; exact hd', hx⟩
  | _ => cases h

/-! ## Written data -/

theorem transform_toData (t : TransformSpec) : t.toData.transform = .ok t := by
  simp [TransformSpec.toData, TransformSpec.fields, transform, field, List.lookup_cons, string]

theorem transform?_ofTransform? (t : Option TransformSpec) : (Data.ofTransform? t).transform? = .ok t := by
  cases t with
  | none => rfl
  | some t =>
    have hrecord : t.toData.transform? = t.toData.transform.map some := rfl
    rw [ofTransform?, hrecord, transform_toData]
    rfl

theorem strings_map_text (items : List String) (k : Nat) :
    strings k (items.map .text) = .ok items := by
  induction items generalizing k with
  | nil => rfl
  | cons s items ih =>
    rw [List.map_cons, strings, ih]
    rfl

theorem position_int (hexact : coerce.Exact) (p : Nat) : (Data.int p).position coerce = .ok p := by
  have hnot : ¬(p : Int) < 0 := by omega
  simp [position, hexact p, hnot]

theorem lookup_kind (h : e.kind? = some kind) :
    e.fields.lookup "kind" = some (.text kind.tag) := by
  cases e <;> cases h <;> rfl

theorem elementOf_fields (hexact : coerce.Exact) (h : e.kind? = some kind)
    (hparts : childrenIn coerce e.fields = .ok e.parts) :
    elementOf coerce e.fields (childrenIn coerce e.fields) kind = .ok e := by
  have hposition := position_int hexact
  rw [hparts]
  cases e with
  | text content =>
    cases h
    rfl
  | choice p items =>
    cases h
    have hitems : (Data.list (items.map .text)).stringList = .ok items := strings_map_text items 0
    simp [elementOf, Element.fields, field, List.lookup_cons, hposition, hitems]
  | tabstop p spec =>
    cases h
    simp [elementOf, Element.fields, field, List.lookup_cons, hposition, transform?_ofTransform?]
  | placeholder p spec es =>
    cases h
    simp [elementOf, Element.fields, Element.parts, field, List.lookup_cons, hposition,
      transform?_ofTransform?]
  | var name spec =>
    cases h
    simp [elementOf, Element.fields, field, List.lookup_cons, string, transform?_ofTransform?]
  | snippet es =>
    cases h
    rfl
  | _ => cases h

theorem toData_of_kind (h : e.kind? = some kind) : e.toData = .record e.fields := by
  cases e <;> cases h <;> rfl

theorem child_toData (hexact : coerce.Exact) (hparts : childrenIn coerce e.fields = .ok e.parts) :
    e.toData.child coerce = .ok e := by
  cases hkind : e.kind? with
  | some kind =>
    have htag := ElementKind.ofTag?_eq_some_iff.mpr (rfl : kind.tag = kind.tag)
    rw [toData_of_kind hkind, child, taggedOf, lookup_kind hkind]
    simp only [htag, elementOf_fields hexact hkind hparts]
    rfl
  | none =>
    have hmade : e.toData = .made e := by
      cases e <;> first | rfl | cases hkind
    rw [hmade, child, anyBranch_made]
    simp

end Data

namespace Element

variable {coerce : Coercion}

mutual

theorem childrenIn_fields (hexact : coerce.Exact) (e : Element) :
    Data.childrenIn coerce e.fields = .ok e.parts := by
  cases e with
  | placeholder p spec es =>
    simp [fields, parts, Data.childrenIn, Data.childList, children_dataList hexact es 0]
  | snippet es => simp [fields, parts, Data.childrenIn, Data.childList, children_dataList hexact es 0]
  | ownSnippet es => simp [fields, parts, Data.childrenIn, Data.childList, children_dataList hexact es 0]
  | _ => simp [fields, parts, Data.childrenIn]

theorem children_dataList (hexact : coerce.Exact) (es : List Element) (k : Nat) :
    Data.children coerce (dataList es) k = .ok es := by
  cases es with
  | nil => rw [dataList, Data.children]
  | cons e es =>
    have hfirst : e.toData.child coerce = .ok e := 
      Data.child_toData hexact (childrenIn_fields hexact e)
    rw [toData] at hfirst
    rw [dataList, Data.children, hfirst, children_dataList hexact es (k + 1)]
    rfl

end

/-- Reading what has been written gives the element back. -/
theorem element_toData (hexact : coerce.Exact) {kind : ElementKind} {e : Element}
    (h : e.kind? = some kind) :
    Data.element coerce kind e.toData = .ok e := by
  have htag : Data.rootTag kind e.fields = .ok () := by
    simp [Data.rootTag, Data.lookup_kind h]
  rw [Data.toData_of_kind h, Data.element, htag,
    Data.elementOf_fields hexact h (childrenIn_fields hexact e)]
  rfl

end Element

/-! ## Validation -/

namespace Schema

/-- What reading data as a class promises: data that fits is read, and what is read is read again once
written; on other data all faults are found and nothing else, no two at one location, in the order of the
fields. -/
structure Validates {α : Type} (coerce : Coercion) (m : Model) (read : Data → Checked α)
    (write : α → Data) (d : Data) : Prop where
  accepts : (∃ a, read d = .ok a) ↔ Fits coerce (.model m) d
  rereads : ∀ a, read d = .ok a → read (write a) = .ok a
  rejects : ∀ is, read d = .error is → is ≠ []
  faults : ∀ is, read d = .error is → ∀ i, i ∈ is ↔ Fault coerce (.model m) d i
  distinct : ∀ is, read d = .error is → (is.map Issue.location).Nodup
  ordered : ∀ is, read d = .error is → is.Pairwise fun i j => Earlier i.location j.location

theorem validates_of_checks {α : Type} {coerce : Coercion} {m : Model} {read : Data → Checked α}
    {write : α → Data} {d : Data} (h : (read d).Checks coerce (.model m) d)
    (hwrite : ∀ a, read d = .ok a → read (write a) = .ok a) : Validates coerce m read write d := by
  have hissues : ∀ is, read d = .error is → (read d).issues = is := by
    intro is hr
    rw [hr]
    rfl
  have hordered : ∀ is, read d = .error is →
      is.Pairwise fun i j => Earlier i.location j.location := fun is hr => hissues is hr ▸ h.ordered
  exact {
    accepts := by
      constructor
      · rintro ⟨a, ha⟩
        exact h.fits (by rw [ha]; rfl)
      · intro hfits
        -- Without a fault there is no issue, and a check without issues has a value.
        apply h.value
        rw [List.eq_nil_iff_forall_not_mem]
        exact fun i hi => hfits.no_fault i ((h.faults i).mp hi)
    rereads := hwrite
    rejects := by
      rintro is hr rfl
      obtain ⟨a, ha⟩ := h.value (hissues [] hr)
      cases hr.symm.trans ha
    faults := fun is hr => hissues is hr ▸ h.faults
    distinct := fun is hr => List.pairwise_map.mpr ((hordered is hr).imp Earlier.ne)
    ordered := hordered }

/-- Whatever counts as an integer beside integers, data is validated as each class at every depth. The tree
read has an element at every place where it has one in the data, of the kind that its tag names, at the
position that is written there. -/
theorem validation_exact {coerce : Coercion} (hexact : coerce.Exact) (d : Data) :
    Validates coerce .transform Data.transform TransformSpec.toData d ∧
    ∀ kind, Validates coerce (.element kind) (Data.element coerce kind) Element.toData d ∧
      ∀ e, Data.element coerce kind d = .ok e →
        (∃ fields, d = .record fields ∧ e.ReadFrom coerce kind fields) ∧
          ∀ k path x, e.at? (k :: path) = some x →
            ∃ d', d.at? (k :: path) = some d' ∧ x.IsChild coerce d' := by
  have htransform : Validates coerce .transform Data.transform TransformSpec.toData d :=
    validates_of_checks (Checked.checks_transform coerce d) fun t _ => Data.transform_toData t
  refine ⟨htransform, fun kind => ⟨?_, fun e he => ?_⟩⟩
  · refine validates_of_checks (Checked.checks_element kind d) fun e he => ?_
    obtain ⟨fields, -, hroot, -⟩ := Data.element_eq_ok he
    exact Element.element_toData hexact hroot.ofKind
  · obtain ⟨fields, hd, hroot, hbelow⟩ := Data.element_eq_ok he
    exact ⟨⟨fields, hd, hroot⟩, hbelow⟩

/-- A reader of integers that takes truth values for one and zero, and nothing else beside integers. -/
def countingTruths : Coercion
  | .int n => .ok n
  | .bool b => .ok (if b then 1 else 0)
  | _ => .error "int_type"

/-- A placeholder with a variable and a tabstop in it. -/
def fitting : Data :=
  .record [("position", .int 2), ("children", .list [
    .record [("kind", .text "variable"), ("name", .text "UUID"), ("transform", .null)],
    .record [("kind", .text "tabstop"), ("position", .bool true)]])]

/-- A placeholder before the start of the tab order, with a variable without a name and a plain text. -/
def faulty : Data :=
  .record [("children", .list [.record [("kind", .text "variable")], .text "x"]),
    ("position", .int (-1)), ("kind", .text "text")]

theorem validation_exact_placeholders :
    countingTruths.Exact ∧ Fits countingTruths (.model (.element .placeholder)) fitting ∧
      (∃ e x, Data.element countingTruths .placeholder fitting = .ok e ∧ e.at? [1] = some x ∧
        x.position? = some 1 ∧ ∃ d, fitting.at? [1] = some d ∧ x.IsChild countingTruths d) ∧
      ∃ is, Data.element countingTruths .placeholder faulty = .error is ∧
        (is.map Issue.location).Nodup ∧ is.map Issue.kind = [.wrongKind, .negative,
          .missing, .notInstance, .notInstance, .childNotRecord, .notInstance, .notInstance] := by
  have hexact : countingTruths.Exact := fun _ => rfl
  obtain ⟨-, hfitting⟩ := validation_exact hexact fitting
  obtain ⟨hvalidates, htree⟩ := hfitting .placeholder
  obtain ⟨e, he⟩ : ∃ e, Data.element countingTruths .placeholder fitting = .ok e := ⟨_, rfl⟩
  obtain ⟨-, hfaulty⟩ := validation_exact hexact faulty
  obtain ⟨is, his⟩ : ∃ is, Data.element countingTruths .placeholder faulty = .error is := ⟨_, rfl⟩
  refine ⟨hexact, hvalidates.accepts.mp ⟨e, he⟩, ?_, is, his, (hfaulty .placeholder).1.distinct is his,
    ?_⟩
  · have hat : (Data.element countingTruths .placeholder fitting).toOption.map
        (fun e => (e.at? [1]).bind (·.position?)) = some (some 1) := by decide +kernel
    rw [he] at hat
    obtain ⟨x, hx, hposition⟩ := Option.bind_eq_some_iff.mp (Option.some.inj hat)
    exact ⟨e, x, he, hx, hposition, (htree e he).2 1 [] x hx⟩
  · have hkinds : (Data.element countingTruths .placeholder faulty).issues.map Issue.kind =
        [.wrongKind, .negative, .missing, .notInstance, .notInstance, .childNotRecord, .notInstance,
          .notInstance] := by decide +kernel
    rwa [his] at hkinds

end Schema

end Snippet
