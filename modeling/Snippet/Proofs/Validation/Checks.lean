import Snippet.Proofs.Validation.Schema

/-!
Checks against the schema. A check passes what fits, and finds every fault there is and nothing else, in the
order of the fields. Checks of parts are put together so, and the readers of data are such checks.
-/

namespace Snippet

namespace Checked

open Schema

variable {α β γ : Type} {coerce : Coercion}

/-- The issues found, none in a value. -/
def issues : Checked α → List Issue
  | .ok _ => []
  | .error is => is

@[simp] theorem issues_issue (kind : IssueKind) :
    (issue kind : Checked α).issues = [⟨kind, []⟩] := rfl

@[simp] theorem issues_map (f : α → β) (c : Checked α) : issues (c.map f) = c.issues := by
  cases c <;> rfl

@[simp] theorem issues_below (step : Step) (c : Checked α) :
    (c.below step).issues = c.issues.map (Issue.below step) := by
  cases c <;> rfl

theorem issues_either {a b : Checked α} (ha : a.issues ≠ []) (hb : b.issues ≠ []) :
    (either a b).issues = a.issues ++ b.issues := by
  cases a with
  | ok x => exact absurd rfl ha
  | error is =>
    cases b with
    | ok y => exact absurd rfl hb
    | error js => rfl

@[simp] theorem issues_both (f : α → β → γ) (a : Checked α) (b : Checked β) :
    (both f a b).issues = a.issues ++ b.issues := by
  cases a <;> cases b <;> simp [both, issues]

/-- The check passes only what fits, and finds the faults, each once and in order. -/
structure Judges (c : Checked α) (fits : Prop) (fault : Issue → Prop) : Prop where
  value : c.issues = [] → ∃ a, c = .ok a
  fits : c.issues = [] → fits
  faults : ∀ i, i ∈ c.issues ↔ fault i
  ordered : c.issues.Pairwise fun i j => Earlier i.location j.location

namespace Judges

variable {c : Checked α} {c' : Checked β} {fits fits' : Prop} {fault fault' : Issue → Prop}

theorem ok (a : α) (h : fits) (hnone : ∀ i, ¬fault i) : Judges (.ok a : Checked α) fits fault where
  value _ := ⟨a, rfl⟩
  fits _ := h
  faults i := by simp [issues, hnone i]
  ordered := .nil

theorem issue {kind : IssueKind} (honly : ∀ i, fault i ↔ i = ⟨kind, []⟩) :
    Judges (Checked.issue kind : Checked α) fits fault where
  value h := by simp at h
  fits h := by simp at h
  faults i := by simp [honly i]
  ordered := by simp

theorem congr (h : Judges c fits fault) (hfits : fits → fits') (hfault : ∀ i, fault i ↔ fault' i) :
    Judges c fits' fault' where
  value := h.value
  fits hc := hfits (h.fits hc)
  faults i := (h.faults i).trans (hfault i)
  ordered := h.ordered

theorem map (h : Judges c fits fault) (f : α → β) : Judges (c.map f : Checked β) fits fault where
  value hc := by
    obtain ⟨a, rfl⟩ := h.value (by simpa using hc)
    exact ⟨f a, rfl⟩
  fits hc := h.fits (by simpa using hc)
  faults i := by simpa using h.faults i
  ordered := by simpa using h.ordered

theorem below (h : Judges c fits fault) (step : Step) :
    Judges (c.below step) fits fun i => ∃ j, fault j ∧ i = j.below step where
  value hc := by
    obtain ⟨a, rfl⟩ := h.value (by simpa using hc)
    exact ⟨a, rfl⟩
  fits hc := h.fits (by simpa using hc)
  faults i := by simp [h.faults, eq_comm]
  ordered := by
    rw [issues_below, List.pairwise_map]
    exact h.ordered.imp fun hlt => .within step hlt

theorem both (f : α → β → γ) (h : Judges c fits fault) (h' : Judges c' fits' fault')
    (horder : ∀ i j, fault i → fault' j → Earlier i.location j.location) :
    Judges (both f c c') (fits ∧ fits') fun i => fault i ∨ fault' i where
  value hc := by
    rw [issues_both, List.append_eq_nil_iff] at hc
    obtain ⟨a, rfl⟩ := h.value hc.1
    obtain ⟨b, rfl⟩ := h'.value hc.2
    exact ⟨f a b, rfl⟩
  fits hc := by
    rw [issues_both, List.append_eq_nil_iff] at hc
    exact ⟨h.fits hc.1, h'.fits hc.2⟩
  faults i := by rw [issues_both, List.mem_append, h.faults, h'.faults]
  ordered := by
    rw [issues_both, List.pairwise_append]
    refine ⟨h.ordered, h'.ordered, fun i hi j hj => ?_⟩
    exact horder i j ((h.faults i).mp hi) ((h'.faults j).mp hj)

end Judges

/-! ## Values -/

/-- The check judges whether the data is as it has to be. -/
def Checks (coerce : Coercion) (c : Checked α) (shape : Shape) (d : Data) : Prop :=
  Judges c (Fits coerce shape d) (Fault coerce shape d)

section Values

variable {c : Checked α} {shape : Shape} {d : Data} {kind : IssueKind}

theorem Checks.ok (a : α) (h : Fits coerce shape d) : Checks coerce (.ok a : Checked α) shape d :=
  Judges.ok a h h.no_fault

theorem Checks.issue (h : Fault coerce shape d ⟨kind, []⟩)
    (honly : ∀ i, Fault coerce shape d i → i = ⟨kind, []⟩) :
    Checks coerce (Checked.issue kind : Checked α) shape d :=
  Judges.issue fun i => ⟨honly i, by rintro rfl; exact h⟩

variable (coerce) in
theorem checks_string (d : Data) : Checks coerce d.string .text d := by
  cases d with
  | text s => exact .ok s (.text s)
  | _ =>
    refine .issue (.text (by simp)) fun i hf => ?_
    cases hf
    rfl

variable (coerce) in
theorem checks_position (d : Data) : Checks coerce (d.position coerce) .position d := by
  rw [Data.position]
  cases hd : coerce d with
  | error reason =>
    refine .issue (.noInteger hd) fun i hf => ?_
    cases hf with
    | noInteger integer =>
      cases hd.symm.trans integer
      rfl
    | negative integer neg => cases hd.symm.trans integer
  | ok n =>
    by_cases hn : n < 0
    · simp only [if_pos hn]
      refine .issue (.negative hd hn) fun i hf => ?_
      cases hf with
      | noInteger integer => cases hd.symm.trans integer
      | negative integer neg => rfl
    · simp only [if_neg hn]
      exact .ok n.toNat (.position hd (by omega))

/-- The check that a tag at the root is the one asked for. -/
def tagIs (name : String) : Data → Checked Unit
  | .text t => if t = name then .ok () else Checked.issue .wrongKind
  | _ => Checked.issue .wrongKind

variable (coerce) in
theorem checks_tagIs (name : String) (d : Data) : Checks coerce (tagIs name d) (.tag name) d := by
  have hwrong : d ≠ .text name → Checks coerce (Checked.issue .wrongKind : Checked Unit) (.tag name) d := by
    intro hd
    refine .issue (.tag hd) fun i hf => ?_
    cases hf
    rfl
  cases d with
  | text t =>
    rw [tagIs]
    split
    · next h => exact h ▸ .ok () (.tag t)
    · next h => exact hwrong (by simpa using h)
  | _ => exact hwrong (by simp)

end Values

/-! ## Fields -/

section Fields

variable {c : Checked α} {c' : Checked β} {fields : List (String × Data)} {fs gs : List Field} {m : Model}

/-- The check judges whether the fields are as they have to be. -/
def ChecksFields (coerce : Coercion) (c : Checked α) (fields : List (String × Data))
    (fs : List Field) : Prop :=
  Judges c (∀ f ∈ fs, f.Fits coerce fields) fun i => ∃ f ∈ fs, f.Fault coerce fields i

theorem checksFields_field (f : Field) {default : Checked α} {read : Data → Checked α}
    (hdefault : if f.required then default = Checked.issue .missing else ∃ a, default = .ok a)
    (hread : ∀ d, fields.lookup f.name = some d → Checks coerce (read d) f.shape d) :
    ChecksFields coerce (Data.field fields f.name default read) fields [f] := by
  have hone : Judges (Data.field fields f.name default read) (f.Fits coerce fields)
      (f.Fault coerce fields) := by
    rw [Data.field]
    cases hd : fields.lookup f.name with
    | some d =>
      refine ((hread d hd).below (.field f.name)).congr (fun hfits => ?_) fun i => ?_
      · exact ⟨by simp [hd], fun d' hd' => Option.some.inj (hd.symm.trans hd') ▸ hfits⟩
      · simp [Field.Fault, hd]
    | none =>
      cases hreq : f.required with
      | true =>
        obtain rfl : default = Checked.issue .missing := by simpa [hreq] using hdefault
        have hissue : Judges (Checked.issue .missing : Checked α) (f.Fits coerce fields)
            fun i => i = ⟨.missing, []⟩ := .issue fun _ => Iff.rfl
        refine (hissue.below (.field f.name)).congr id fun i => ?_
        simp [Field.Fault, hd, hreq]
      | false =>
        obtain ⟨a, rfl⟩ : ∃ a, default = .ok a := by simpa [hreq] using hdefault
        exact .ok a ⟨by simp [hreq], by simp [hd]⟩ (by simp [Field.Fault, hd, hreq])
  exact hone.congr (by simp) (by simp)

theorem checksFields_required (fields : List (String × Data)) (name : String) {shape : Shape}
    {read : Data → Checked α} (hread : ∀ d, Checks coerce (read d) shape d) :
    ChecksFields coerce (Data.field fields name (Checked.issue .missing) read) fields [⟨name, shape, true⟩] :=
  checksFields_field ⟨name, shape, true⟩ (if_pos rfl ▸ rfl) fun d _ => hread d

theorem checksFields_optional (fields : List (String × Data)) (name : String) {shape : Shape}
    {read : Data → Checked α} (a : α) (hread : ∀ d, Checks coerce (read d) shape d) :
    ChecksFields coerce (Data.field fields name (.ok a) read) fields [⟨name, shape, false⟩] :=
  checksFields_field ⟨name, shape, false⟩ ⟨a, rfl⟩ fun d _ => hread d

theorem ChecksFields.both (f : α → β → γ) (h : ChecksFields coerce c fields fs)
    (h' : ChecksFields coerce c' fields gs) (horder : (fs ++ gs).Sublist m.fields) :
    ChecksFields coerce (both f c c') fields (fs ++ gs) := by
  refine (Judges.both f h h' ?_).congr ?_ ?_
  · rintro i j ⟨f, hf, hi⟩ ⟨g, hg, hj⟩
    obtain ⟨rest, hi⟩ := hi.location
    obtain ⟨rest', hj⟩ := hj.location
    rw [hi, hj]
    have hpair : [f, g].Sublist (fs ++ gs) :=
      (List.singleton_sublist.mpr hf).append (List.singleton_sublist.mpr hg)
    exact .fields ((hpair.trans horder).map Field.name)
  · rintro ⟨hfs, hgs⟩ f hf
    exact (List.mem_append.mp hf).elim (hfs f) (hgs f)
  · intro i
    simp only [List.mem_append, or_and_right, exists_or]

theorem ChecksFields.checks (h : ChecksFields coerce c fields m.fields) :
    Checks coerce c (.model m) (.record fields) :=
  h.congr fits_model_iff.mpr fun _ => fault_model_iff.symm

/-- With the right tag, faults are among the other fields. -/
theorem ChecksFields.checks_of_tag {kind : ElementKind} (h : ChecksFields coerce c fields (ownFields kind))
    (htag : fields.lookup "kind" = some (.text kind.tag)) :
    Checks coerce c (.model (.element kind)) (.record fields) := by
  have hfits : (tagField kind).Fits coerce fields :=
    ⟨by simp [tagField], fun d hd => Option.some.inj (htag.symm.trans hd) ▸ .tag kind.tag⟩
  refine h.congr (fun hown => fits_model_iff.mpr ?_) fun i => ?_
  · exact List.forall_mem_cons.mpr ⟨hfits, hown⟩
  · simp [fault_model_iff, Model.fields, hfits.no_fault i]

theorem checks_notRecord {d : Data} (h : ∀ fields, d ≠ .record fields) :
    Checks coerce (Checked.issue .notRecord : Checked α) (.model m) d := by
  refine .issue (.noRecord h) fun i hf => ?_
  cases hf with
  | noRecord other => rfl
  | missing declared required absent => exact absurd rfl (h _)
  | inField declared value fault => exact absurd rfl (h _)

variable (coerce) in
theorem checks_transform (d : Data) : Checks coerce d.transform (.model .transform) d := by
  cases d with
  | record fields =>
    rw [Data.transform]
    have hpattern := checksFields_required fields "pattern" (checks_string coerce)
    have hrest := (checksFields_optional fields "format" "" (checks_string coerce)).both
      (m := .transform) Prod.mk (checksFields_optional fields "options" "" (checks_string coerce)) (by decide)
    exact (hpattern.both (m := .transform) _ hrest (by decide)).checks
  | _ => exact checks_notRecord (by simp)

variable (coerce) in
theorem checks_transform? (d : Data) : Checks coerce d.transform? .transform d := by
  -- Null is no record, but no fault here either.
  have hpresent : d ≠ .null → Checks coerce (d.transform.map some) .transform d := by
    intro hd
    refine ((checks_transform coerce d).map some).congr .transform fun i => ?_
    constructor
    · exact .transform hd
    · intro hf
      cases hf with
      | transform present fault => exact fault
  cases d with
  | null => exact .ok none .noTransform
  | _ => exact hpresent (by simp)

end Fields

/-! ## Items -/

/-- The items of a list, each with its index; the first has the index `k`. -/
def each (read : Data → Checked α) : Nat → List Data → Checked (List α)
  | _, [] => .ok []
  | k, d :: ds => both (· :: ·) ((read d).below (.index k)) (each read (k + 1) ds)

theorem strings_eq_each (k : Nat) (ds : List Data) : Data.strings k ds = each Data.string k ds := by
  induction ds generalizing k with
  | nil => rfl
  | cons d ds ih => rw [Data.strings, each, ih]

theorem children_eq_each (ds : List Data) (k : Nat) :
    Data.children coerce ds k = each (Data.child coerce) k ds := by
  induction ds generalizing k with
  | nil => rw [Data.children, each]
  | cons d ds ih => rw [Data.children, each, ih]

theorem judges_each {read : Data → Checked α} {shape : Shape} {ds : List Data} (k : Nat)
    (h : ∀ d ∈ ds, Checks coerce (read d) shape d) :
    Judges (each read k ds) (∀ d ∈ ds, Fits coerce shape d) fun i =>
      ∃ l d j, ds[l]? = some d ∧ Fault coerce shape d j ∧ i = j.below (.index (k + l)) := by
  induction ds generalizing k with
  | nil => exact .ok [] (by simp) (by simp)
  | cons d ds ih =>
    have hfirst := (h d (by simp)).below (.index k)
    have hrest := ih (k + 1) fun x hx => h x (by simp [hx])
    refine (hfirst.both (· :: ·) hrest ?_).congr (by simp) fun i => ⟨?_, ?_⟩
    · -- The items behind the first one have larger indexes.
      rintro i j ⟨i, -, rfl⟩ ⟨l, x, j, -, -, rfl⟩
      exact .items (by omega)
    · rintro (⟨j, hj, rfl⟩ | ⟨l, x, j, hx, hj, rfl⟩)
      · exact ⟨0, d, j, rfl, hj, rfl⟩
      · exact ⟨l + 1, x, j, hx, hj, by rw [Nat.add_right_comm, Nat.add_assoc]⟩
    · rintro ⟨l, x, j, hx, hj, rfl⟩
      cases l with
      | zero =>
        obtain rfl : d = x := by simpa using hx
        exact .inl ⟨j, hj, rfl⟩
      | succ l => exact .inr ⟨l, x, j, by simpa using hx, hj, by rw [Nat.add_right_comm, Nat.add_assoc]⟩

variable (coerce) in
theorem checks_stringList (d : Data) : Checks coerce d.stringList .texts d := by
  cases d with
  | list ds =>
    rw [Data.stringList, strings_eq_each]
    refine (judges_each 0 fun d _ => checks_string coerce d).congr .texts fun i => ⟨?_, fun hf => ?_⟩
    · rintro ⟨l, d, j, item, fault, rfl⟩
      rw [Nat.zero_add]
      exact .amongTexts item fault
    · cases hf with
      | noTexts other => exact absurd rfl (other ds)
      | amongTexts item fault => exact ⟨_, _, _, item, fault, by rw [Nat.zero_add]⟩
  | _ =>
    refine .issue (.noTexts (by simp)) fun i hf => ?_
    cases hf
    rfl

theorem checks_childList {d : Data}
    (h : ∀ ds, d = .list ds → ∀ x ∈ ds, Checks coerce (x.child coerce) .child x) :
    Checks coerce (d.childList coerce) .children d := by
  cases d with
  | list ds =>
    rw [Data.childList, children_eq_each]
    refine (judges_each 0 (h ds rfl)).congr .children fun i => ⟨?_, fun hf => ?_⟩
    · rintro ⟨l, d, j, item, fault, rfl⟩
      rw [Nat.zero_add]
      exact .amongChildren item fault
    · cases hf with
      | noChildren other => exact absurd rfl (other ds)
      | amongChildren item fault => exact ⟨_, _, _, item, fault, by rw [Nat.zero_add]⟩
  | _ =>
    rw [Data.childList]
    · refine .issue (.noChildren (by simp)) fun i hf => ?_
      cases hf
      rfl
    · simp

/-! ## Elements -/

theorem sizeOf_lt_of_lookup {fields : List (String × Data)} {name : String} {d : Data}
    (h : fields.lookup name = some d) : sizeOf d < sizeOf fields := by
  obtain ⟨before, behind, rfl, -⟩ := List.lookup_eq_some_iff.mp h
  have hmem : (name, d) ∈ before ++ (name, d) :: behind := by simp
  have hlt := List.sizeOf_lt_of_mem hmem
  simp only [Prod.mk.sizeOf_spec] at hlt
  omega

/-- Induction over data along its children, the items of the list in the field of a record. -/
theorem children_induction {P : Data → Prop}
    (h : ∀ d, (∀ fields ds x, d = .record fields → fields.lookup "children" = some (.list ds) →
      x ∈ ds → P x) → P d) (d : Data) : P d := by
  refine h d fun fields ds x hd hlist hx => ?_
  have hitem := List.sizeOf_lt_of_mem hx
  have hfield := sizeOf_lt_of_lookup hlist
  have hlt : sizeOf x < sizeOf d := by
    subst hd
    simp only [Data.list.sizeOf_spec, Data.record.sizeOf_spec] at hfield ⊢
    omega
  exact children_induction h x
termination_by sizeOf d

section Elements

variable {fields : List (String × Data)}

theorem childrenIn_eq (fields : List (String × Data)) :
    (Data.childrenIn coerce fields).below (.field "children") =
      Data.field fields "children" (.ok []) (Data.childList coerce) := by
  induction fields with
  | nil => rw [Data.childrenIn, Data.field, List.lookup_nil]
  | cons f fields ih =>
    obtain ⟨name, d⟩ := f
    rw [Data.field] at ih ⊢
    rw [Data.childrenIn, List.lookup_cons]
    by_cases hname : name = "children"
    · subst hname
      rfl
    · have hne : ("children" == name) = false := by simpa using Ne.symm hname
      rw [if_neg hname, hne]
      exact ih

theorem rootTag_eq (kind : ElementKind) (fields : List (String × Data)) :
    Data.rootTag kind fields = Data.field fields "kind" (.ok ()) (tagIs kind.tag) := by
  rw [Data.rootTag, Data.field]
  cases fields.lookup "kind" with
  | none => rfl
  | some d =>
    cases d with
    | text tag =>
      simp only [tagIs]
      split <;> rfl
    | _ => rfl

theorem checksFields_elementOf {children : Checked (List Element)}
    (h : ChecksFields coerce (children.below (.field "children")) fields [childrenField])
    (kind : ElementKind) :
    ChecksFields coerce (Data.elementOf coerce fields children kind) fields (ownFields kind) := by
  have hposition := checksFields_optional fields "position" 0 (checks_position coerce)
  have htransform := checksFields_optional fields "transform" none (checks_transform? coerce)
  -- Each kind checks its fields in the order of their declaration, which `decide` compares.
  cases kind with
  | text => exact (checksFields_optional fields "esc" "" (checks_string coerce)).map _
  | choice =>
    exact hposition.both (m := .element .choice) _
      (checksFields_optional fields "items" [] (checks_stringList coerce)) (by decide)
  | tabstop => exact hposition.both (m := .element .tabstop) _ htransform (by decide)
  | placeholder =>
    have hpair := hposition.both (m := .element .placeholder) Prod.mk htransform (by decide)
    exact hpair.both (m := .element .placeholder) _ h (by decide)
  | var =>
    have hname := checksFields_required fields "name" (checks_string coerce)
    exact hname.both (m := .element .var) _ htransform (by decide)
  | snippet => exact h.map _

/-! The three cases of the tag of a child. -/

theorem checks_untagged (hd : fields.lookup "kind" = none) :
    Checks coerce (Checked.issue .kindMissing : Checked α) .tagged (.record fields) := by
  refine .issue (.untagged hd) fun i hf => ?_
  cases hf with
  | noChild unmade other => exact absurd rfl (other fields)
  | untagged absent => rfl
  | unknownTag value other => cases hd.symm.trans value
  | inTagged tagged fault => cases hd.symm.trans tagged

theorem checks_unknownTag {d : Data} (hd : fields.lookup "kind" = some d)
    (hother : ∀ kind : ElementKind, d ≠ .text kind.tag) :
    Checks coerce (Checked.issue .kindUnknown : Checked α) .tagged (.record fields) := by
  refine .issue (.unknownTag hd hother) fun i hf => ?_
  cases hf with
  | noChild unmade other => exact absurd rfl (other fields)
  | untagged absent => cases absent.symm.trans hd
  | unknownTag value other => rfl
  | inTagged tagged fault => exact absurd (Option.some.inj (hd.symm.trans tagged)) (hother _)

theorem Checks.tagged {c : Checked α} {kind : ElementKind}
    (h : Checks coerce c (.model (.element kind)) (.record fields))
    (htag : fields.lookup "kind" = some (.text kind.tag)) :
    Checks coerce (c.below (.tag kind.tag)) .tagged (.record fields) := by
  refine (h.below (.tag kind.tag)).congr (.tagged htag) fun i => ⟨?_, fun hf => ?_⟩
  · rintro ⟨j, hj, rfl⟩
    exact .inTagged htag hj
  · cases hf with
    | noChild unmade other => exact absurd rfl (other fields)
    | untagged absent => cases absent.symm.trans htag
    | unknownTag value other => exact absurd (Option.some.inj (value.symm.trans htag)) (other kind)
    | inTagged tagged fault =>
      have heq := Data.text.inj (Option.some.inj (tagged.symm.trans htag))
      obtain rfl := ElementKind.tag_injective heq
      exact ⟨_, fault, rfl⟩

theorem checks_tagged_record {children : Checked (List Element)}
    (h : ∀ kind, ChecksFields coerce (Data.elementOf coerce fields children kind) fields
      (ownFields kind)) :
    Checks coerce (Data.taggedOf coerce children (.record fields)) .tagged (.record fields) := by
  rw [Data.taggedOf]
  cases hd : fields.lookup "kind" with
  | none => exact checks_untagged hd
  | some d =>
    cases d with
    | text tag =>
      cases hkind : ElementKind.ofTag? tag with
      | none =>
        simp only [hkind]
        refine checks_unknownTag hd fun kind heq => ?_
        rw [ElementKind.ofTag?_eq_some_iff.mpr (Data.text.inj heq)] at hkind
        cases hkind
      | some kind =>
        obtain rfl := ElementKind.ofTag?_eq_some_iff.mp hkind
        simp only [hkind]
        exact ((h kind).checks_of_tag hd).tagged hd
    | _ => exact checks_unknownTag hd (by simp)

theorem checks_noChild {d : Data} (hmade : ∀ e, d ≠ .made e) (hother : ∀ fields, d ≠ .record fields) :
    Checks coerce (Checked.issue .childNotRecord : Checked α) .tagged d := by
  refine .issue (.noChild hmade hother) fun i hf => ?_
  cases hf with
  | noChild unmade other => rfl
  | untagged absent => exact absurd rfl (hother _)
  | unknownTag value other => exact absurd rfl (hother _)
  | inTagged tagged fault => exact absurd rfl (hother _)

/-! The three branches of a child. -/

theorem instanceOf_issues {d : Data} (hmade : ∀ e, d ≠ .made e) (b : Branch) :
    (Data.instanceOf b d).issues = [⟨.notInstance, []⟩] := by
  cases d with
  | made e => exact absurd rfl (hmade e)
  | _ => rfl

theorem anyBranch_made (e : Element) (children : Checked (List Element)) :
    Data.anyBranch (Data.taggedOf coerce children (.made e)) (.made e) = .ok e := by
  cases e <;> rfl

/-- Where nothing is read, each branch has found an issue. -/
theorem anyBranch_issues {d : Data} (hmade : ∀ e, d ≠ .made e) {is : List Issue} (his : is ≠ []) :
    (Data.anyBranch (.error is) d).issues = is.map (Issue.below (.branch .tagged)) ++
      [Issue.below (.branch .syntaxNode) ⟨.notInstance, []⟩,
        Issue.below (.branch .outputNode) ⟨.notInstance, []⟩] := by
  have hfirst : issues (.error is : Checked Element) = is := rfl
  have hinstance := instanceOf_issues hmade
  rw [Data.anyBranch, issues_either, issues_either]
  · simp [hfirst, hinstance]
  · simp [hinstance]
  · simp [hinstance]
  · simpa [hfirst] using his
  · rw [issues_either] <;> simp [hinstance]

/-- What is not made already is read by its tag, or not at all. -/
theorem Checks.child {c : Checked Element} {d : Data} (h : Checks coerce c .tagged d)
    (hmade : ∀ e, d ≠ .made e) : Checks coerce (Data.anyBranch c d) .child d := by
  cases c with
  | ok e => exact .ok e (.child (h.fits rfl))
  | error is =>
    have hfaults : ∀ i, i ∈ is ↔ Fault coerce .tagged d i := h.faults
    have his : is ≠ [] := by
      rintro rfl
      obtain ⟨e, he⟩ := h.value rfl
      cases he
    obtain ⟨first, hfirst⟩ := List.exists_mem_of_ne_nil is his
    have hissues := anyBranch_issues hmade his
    refine ⟨fun hc => ?value, fun hc => ?fits, fun i => ?faults, ?ordered⟩
    case value => simp [hissues] at hc
    case fits => simp [hissues] at hc
    case faults =>
      rw [hissues, List.mem_append, List.mem_map]
      constructor
      · rintro (⟨j, hj, rfl⟩ | hi)
        · exact .inBranch ((hfaults j).mp hj)
        · have hfault := (hfaults first).mp hfirst
          simp only [List.mem_cons, List.not_mem_nil, or_false] at hi
          rcases hi with rfl | rfl
          · exact .noInstance .syntaxNode (by decide) hfault
          · exact .noInstance .outputNode (by decide) hfault
      · intro hf
        cases hf with
        | inBranch fault => exact .inl ⟨_, (hfaults _).mpr fault, rfl⟩
        | noInstance b other fault =>
          cases b with
          | tagged => exact absurd rfl other
          | syntaxNode => exact .inr (by simp)
          | outputNode => exact .inr (by simp)
    case ordered =>
      rw [hissues, List.pairwise_append, List.pairwise_map]
      refine ⟨h.ordered.imp fun hlt => .within _ hlt, ?_, fun i hi j hj => ?_⟩
      · exact List.pairwise_pair.mpr (.branches (by decide))
      · -- The branch by the tag is tried first.
        obtain ⟨k, -, rfl⟩ := List.mem_map.mp hi
        simp only [List.mem_cons, List.not_mem_nil, or_false] at hj
        rcases hj with rfl | rfl
        · exact .branches (by decide)
        · exact .branches (by decide)

theorem checks_children_field
    (h : ∀ ds, fields.lookup "children" = some (.list ds) →
      ∀ x ∈ ds, Checks coerce (x.child coerce) .child x) :
    ChecksFields coerce ((Data.childrenIn coerce fields).below (.field "children")) fields
      [childrenField] := by
  rw [childrenIn_eq]
  refine checksFields_field childrenField ⟨[], rfl⟩ fun d hd => checks_childList ?_
  rintro ds rfl
  exact h ds hd

theorem checks_child (d : Data) : Checks coerce (d.child coerce) .child d := by
  induction d using children_induction with
  | h d ih =>
    cases d with
    | made e =>
      rw [Data.child, anyBranch_made]
      · exact .ok e (.made e)
      · simp
    | record fields =>
      have hchildren := checks_children_field fun ds hds x hx => ih fields ds x rfl hds hx
      rw [Data.child]
      exact (checks_tagged_record (checksFields_elementOf hchildren)).child (by simp)
    | _ =>
      rw [Data.child]
      · exact (checks_noChild (by simp) (by simp)).child (by simp)
      · simp

theorem checks_element (kind : ElementKind) (d : Data) :
    Checks coerce (Data.element coerce kind d) (.model (.element kind)) d := by
  cases d with
  | record fields =>
    rw [Data.element, rootTag_eq]
    have htag := checksFields_optional fields "kind" () (checks_tagIs coerce kind.tag)
    have hchildren : ChecksFields coerce
        ((Data.childrenIn coerce fields).below (.field "children")) fields [childrenField] :=
      checks_children_field fun _ _ x _ => checks_child x
    have hown := checksFields_elementOf hchildren kind
    exact (htag.both (m := .element kind) _ hown (List.Sublist.refl _)).checks
  | _ => exact checks_notRecord (by simp)

end Elements

end Checked

end Snippet
