import Snippet.Element.Validation

/-!
The schema of syntax trees. A class declares its fields in order, each with what its value has to be. Data
that fits does so at every depth; other data has faults, and each fault is of a kind and at a location.
-/

namespace Snippet

namespace ElementKind

theorem tag_injective : Function.Injective tag := by
  intro k k' h
  cases k <;> cases k' <;> first | rfl | simp [tag] at h

theorem ofTag?_eq_some_iff {s : String} {k : ElementKind} : ofTag? s = some k ↔ s = k.tag := by
  constructor
  · intro h
    have hk := List.find?_some (p := fun k : ElementKind => decide (k.tag = s)) h
    exact (of_decide_eq_true hk).symm
  · rintro rfl
    cases k <;> decide

end ElementKind

namespace Schema

/-- The classes of records that data is read as. -/
inductive Model where
  | element (kind : ElementKind)
  | transform
deriving DecidableEq

/-- What a value has to be. -/
inductive Shape where
  /-- This text and no other. -/
  | tag (name : String)
  | text
  | position
  | texts
  | model (m : Model)
  /-- A record of a transform, or null. -/
  | transform
  | children
  /-- A record tagged with its kind. -/
  | tagged
  /-- Such a record, or an element that is made already. -/
  | child
deriving DecidableEq

structure Field where
  name : String
  shape : Shape
  required : Bool
deriving DecidableEq

def positionField : Field := ⟨"position", .position, false⟩

def transformField : Field := ⟨"transform", .transform, false⟩

def childrenField : Field := ⟨"children", .children, false⟩

def tagField (kind : ElementKind) : Field := ⟨"kind", .tag kind.tag, false⟩

/-- The fields of an element beside its tag. -/
def ownFields : ElementKind → List Field
  | .text => [⟨"esc", .text, false⟩]
  | .choice => [positionField, ⟨"items", .texts, false⟩]
  | .tabstop => [positionField, transformField]
  | .placeholder => [positionField, transformField, childrenField]
  | .var => [⟨"name", .text, true⟩, transformField]
  | .snippet => [childrenField]

/-- The fields of a class in the order of their declaration. -/
def Model.fields : Model → List Field
  | element kind => tagField kind :: ownFields kind
  | transform => [⟨"pattern", .text, true⟩, ⟨"format", .text, false⟩, ⟨"options", .text, false⟩]

/-! ## Data that fits, and faults -/

variable (coerce : Coercion)

/-- The data is as it has to be, at every depth. -/
inductive Fits : Shape → Data → Prop where
  | tag (name : String) : Fits (.tag name) (.text name)
  | text (s : String) : Fits .text (.text s)
  | position {d : Data} {n : Int} (integer : coerce d = .ok n) (nonneg : 0 ≤ n) : Fits .position d
  | texts {ds : List Data} (items : ∀ d ∈ ds, Fits .text d) : Fits .texts (.list ds)
  | model {m : Model} {fields : List (String × Data)}
      (present : ∀ f ∈ m.fields, f.required = true → fields.lookup f.name ≠ none)
      (values : ∀ f ∈ m.fields, ∀ d, fields.lookup f.name = some d → Fits f.shape d) :
      Fits (.model m) (.record fields)
  | noTransform : Fits .transform .null
  | transform {d : Data} (spec : Fits (.model .transform) d) : Fits .transform d
  | children {ds : List Data} (items : ∀ d ∈ ds, Fits .child d) : Fits .children (.list ds)
  | tagged {kind : ElementKind} {fields : List (String × Data)}
      (tagged : fields.lookup "kind" = some (.text kind.tag))
      (record : Fits (.model (.element kind)) (.record fields)) : Fits .tagged (.record fields)
  | made (e : Element) : Fits .child (.made e)
  | child {d : Data} (tagged : Fits .tagged d) : Fits .child d

/-- The data is not as it has to be: the fault, and where in the data it is. -/
inductive Fault : Shape → Data → Issue → Prop where
  | tag {name : String} {d : Data} (other : d ≠ .text name) : Fault (.tag name) d ⟨.wrongKind, []⟩
  | text {d : Data} (other : ∀ s, d ≠ .text s) : Fault .text d ⟨.notText, []⟩
  | noInteger {d : Data} {reason : String} (integer : coerce d = .error reason) :
      Fault .position d ⟨.noInteger reason, []⟩
  | negative {d : Data} {n : Int} (integer : coerce d = .ok n) (neg : n < 0) :
      Fault .position d ⟨.negative, []⟩
  | noTexts {d : Data} (other : ∀ ds, d ≠ .list ds) : Fault .texts d ⟨.notList, []⟩
  | amongTexts {ds : List Data} {k : Nat} {d : Data} {i : Issue} (item : ds[k]? = some d)
      (fault : Fault .text d i) : Fault .texts (.list ds) (i.below (.index k))
  | noRecord {m : Model} {d : Data} (other : ∀ fields, d ≠ .record fields) :
      Fault (.model m) d ⟨.notRecord, []⟩
  | missing {m : Model} {fields : List (String × Data)} {f : Field} (declared : f ∈ m.fields)
      (required : f.required = true) (absent : fields.lookup f.name = none) :
      Fault (.model m) (.record fields) (Issue.below (.field f.name) ⟨.missing, []⟩)
  | inField {m : Model} {fields : List (String × Data)} {f : Field} {d : Data} {i : Issue}
      (declared : f ∈ m.fields) (value : fields.lookup f.name = some d) (fault : Fault f.shape d i) :
      Fault (.model m) (.record fields) (i.below (.field f.name))
  | transform {d : Data} {i : Issue} (present : d ≠ .null) (fault : Fault (.model .transform) d i) :
      Fault .transform d i
  | noChildren {d : Data} (other : ∀ ds, d ≠ .list ds) : Fault .children d ⟨.notList, []⟩
  | amongChildren {ds : List Data} {k : Nat} {d : Data} {i : Issue} (item : ds[k]? = some d)
      (fault : Fault .child d i) : Fault .children (.list ds) (i.below (.index k))
  | noChild {d : Data} (unmade : ∀ e, d ≠ .made e) (other : ∀ fields, d ≠ .record fields) :
      Fault .tagged d ⟨.childNotRecord, []⟩
  | untagged {fields : List (String × Data)} (absent : fields.lookup "kind" = none) :
      Fault .tagged (.record fields) ⟨.kindMissing, []⟩
  | unknownTag {fields : List (String × Data)} {d : Data} (value : fields.lookup "kind" = some d)
      (other : ∀ kind : ElementKind, d ≠ .text kind.tag) :
      Fault .tagged (.record fields) ⟨.kindUnknown, []⟩
  | inTagged {kind : ElementKind} {fields : List (String × Data)} {i : Issue}
      (tagged : fields.lookup "kind" = some (.text kind.tag))
      (fault : Fault (.model (.element kind)) (.record fields) i) :
      Fault .tagged (.record fields) (i.below (.tag kind.tag))
  | inBranch {d : Data} {i : Issue} (fault : Fault .tagged d i) :
      Fault .child d (i.below (.branch .tagged))
  | noInstance {d : Data} {i : Issue} (b : Branch) (other : b ≠ .tagged) (fault : Fault .tagged d i) :
      Fault .child d (Issue.below (.branch b) ⟨.notInstance, []⟩)

section Shapes

variable {coerce} {m : Model} {f : Field} {fs gs : List Field} {fields : List (String × Data)}
  {i : Issue}

variable (coerce) in
/-- The field fits if it is there, and is there if it has to be. -/
def Field.Fits (fields : List (String × Data)) (f : Field) : Prop :=
  (f.required = true → fields.lookup f.name ≠ none) ∧
    ∀ d, fields.lookup f.name = some d → Schema.Fits coerce f.shape d

variable (coerce) in
def Field.Fault (fields : List (String × Data)) (f : Field) (i : Issue) : Prop :=
  (f.required = true ∧ fields.lookup f.name = none ∧ i = Issue.below (.field f.name) ⟨.missing, []⟩) ∨
    ∃ d j, fields.lookup f.name = some d ∧ Schema.Fault coerce f.shape d j ∧ i = j.below (.field f.name)

theorem Field.Fault.location (h : f.Fault coerce fields i) : ∃ rest, i.location = .field f.name :: rest := by
  rcases h with ⟨-, -, rfl⟩ | ⟨d, j, -, -, rfl⟩
  · exact ⟨[], rfl⟩
  · exact ⟨j.location, rfl⟩

theorem fits_model_iff : Fits coerce (.model m) (.record fields) ↔ ∀ f ∈ m.fields, f.Fits coerce fields := by
  constructor
  · intro h f hf
    cases h with
    | model present values => exact ⟨present f hf, values f hf⟩
  · intro h
    exact .model (fun f hf => (h f hf).1) fun f hf => (h f hf).2

theorem fault_model_iff :
    Fault coerce (.model m) (.record fields) i ↔ ∃ f ∈ m.fields, f.Fault coerce fields i := by
  constructor
  · intro h
    cases h with
    | noRecord other => exact absurd rfl (other fields)
    | missing declared required absent => exact ⟨_, declared, .inl ⟨required, absent, rfl⟩⟩
    | inField declared value fault => exact ⟨_, declared, .inr ⟨_, _, value, fault, rfl⟩⟩
  · rintro ⟨f, declared, ⟨required, absent, rfl⟩ | ⟨d, j, value, fault, rfl⟩⟩
    · exact .missing declared required absent
    · exact .inField declared value fault

/-- What fits has no fault. -/
theorem Fits.no_fault {shape : Shape} {d : Data} (h : Fits coerce shape d) :
    ∀ i, ¬Fault coerce shape d i := by
  induction h with
  | tag name =>
    intro i hf
    cases hf with
    | tag other => exact other rfl
  | text s =>
    intro i hf
    cases hf with
    | text other => exact other s rfl
  | position integer nonneg =>
    intro i hf
    cases hf with
    | noInteger integer' => cases integer.symm.trans integer'
    | negative integer' neg =>
      obtain rfl := Except.ok.inj (integer.symm.trans integer')
      omega
  | texts items ih =>
    intro i hf
    cases hf with
    | noTexts other => exact other _ rfl
    | amongTexts item fault => exact ih _ (List.mem_of_getElem? item) _ fault
  | model present values ih =>
    intro i hf
    obtain ⟨f, declared, ⟨required, absent, rfl⟩ | ⟨d, j, value, fault, rfl⟩⟩ := fault_model_iff.mp hf
    · exact present f declared required absent
    · exact ih f declared d value j fault
  | noTransform =>
    intro i hf
    cases hf with
    | transform present fault => exact present rfl
  | transform spec ih =>
    intro i hf
    cases hf with
    | transform present fault => exact ih i fault
  | children items ih =>
    intro i hf
    cases hf with
    | noChildren other => exact other _ rfl
    | amongChildren item fault => exact ih _ (List.mem_of_getElem? item) _ fault
  | @tagged kind fields tagged record ih =>
    intro i hf
    cases hf with
    | noChild unmade other => exact other _ rfl
    | untagged absent => cases absent.symm.trans tagged
    | unknownTag value other => exact other kind (Option.some.inj (value.symm.trans tagged))
    | inTagged tagged' fault =>
      have htag := Data.text.inj (Option.some.inj (tagged'.symm.trans tagged))
      obtain rfl := ElementKind.tag_injective htag
      exact ih _ fault
  | made e =>
    -- What is made already has no tag to be read by.
    have hnone : ∀ i, ¬Fault coerce .tagged (.made e) i := by
      intro i hf
      cases hf with
      | noChild unmade other => exact unmade e rfl
    intro i hf
    cases hf with
    | inBranch fault => exact hnone _ fault
    | noInstance b other fault => exact hnone _ fault
  | child tagged ih =>
    intro i hf
    cases hf with
    | inBranch fault => exact ih _ fault
    | noInstance b other fault => exact ih _ fault

theorem Field.Fits.no_fault (h : f.Fits coerce fields) (i : Issue) :
    ¬f.Fault coerce fields i := by
  rintro (⟨required, absent, -⟩ | ⟨d, j, value, fault, -⟩)
  · exact h.1 required absent
  · exact (h.2 d value).no_fault j fault

end Shapes

/-! ## The order of faults -/

/-- The one location comes before the other: in a field declared before the other's, in an item before the
other's, or in a branch tried before the other's. -/
inductive Earlier : List Step → List Step → Prop where
  | fields {m : Model} {name name' : String} {rest rest' : List Step}
      (order : [name, name'].Sublist (m.fields.map Field.name)) :
      Earlier (.field name :: rest) (.field name' :: rest')
  | items {k l : Nat} {rest rest' : List Step} (order : k < l) :
      Earlier (.index k :: rest) (.index l :: rest')
  | branches {b b' : Branch} {rest rest' : List Step} (order : [b, b'].Sublist Branch.all) :
      Earlier (.branch b :: rest) (.branch b' :: rest')
  | within (step : Step) {rest rest' : List Step} (order : Earlier rest rest') :
      Earlier (step :: rest) (step :: rest')

/-- All field names. Those of each class are in this order. -/
def names : List String :=
  ["kind", "pattern", "format", "options", "esc", "name", "position", "items", "transform", "children"]

theorem Model.names_sublist (m : Model) : (m.fields.map Field.name).Sublist names := by
  cases m with
  | element kind => cases kind <;> decide
  | transform => decide

theorem idxOf_lt_of_fields {m : Model} {name name' : String}
    (h : [name, name'].Sublist (m.fields.map Field.name)) : names.idxOf name < names.idxOf name' := by
  have hnames : names.Pairwise fun a b => names.idxOf a < names.idxOf b := by decide
  simpa using hnames.sublist (h.trans m.names_sublist)

theorem idxOf_lt_of_branches {b b' : Branch} (h : [b, b'].Sublist Branch.all) :
    Branch.all.idxOf b < Branch.all.idxOf b' := by
  have hall : Branch.all.Pairwise fun a b => Branch.all.idxOf a < Branch.all.idxOf b := by decide
  simpa using hall.sublist h

/-- No two locations come before each other, so none comes before itself. -/
theorem Earlier.asymm {l l' : List Step} (h : Earlier l l') : ¬Earlier l' l := by
  induction h with
  | fields order =>
    have hlt := idxOf_lt_of_fields order
    intro h
    cases h with
    | fields order' => exact absurd (idxOf_lt_of_fields order') (Nat.lt_asymm hlt)
    | within step order' => exact absurd hlt (Nat.lt_irrefl _)
  | items order =>
    intro h
    cases h with
    | items order' => omega
    | within step order' => exact absurd order (Nat.lt_irrefl _)
  | branches order =>
    have hlt := idxOf_lt_of_branches order
    intro h
    cases h with
    | branches order' => exact absurd (idxOf_lt_of_branches order') (Nat.lt_asymm hlt)
    | within step order' => exact absurd hlt (Nat.lt_irrefl _)
  | within step order ih =>
    intro h
    cases h with
    | fields order' => exact absurd (idxOf_lt_of_fields order') (Nat.lt_irrefl _)
    | items order' => exact absurd order' (Nat.lt_irrefl _)
    | branches order' => exact absurd (idxOf_lt_of_branches order') (Nat.lt_irrefl _)
    | within _ order' => exact ih order'

theorem Earlier.ne {l l' : List Step} (h : Earlier l l') : l ≠ l' := by
  rintro rfl
  exact h.asymm h

end Schema

end Snippet
