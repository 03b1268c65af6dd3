import Snippet.Element.Data
import Snippet.Issue

/-!
Reading a syntax tree from data. Missing fields take their defaults and unknown ones are ignored; all
issues are collected, in the order of the fields. A child is read as the kind that its tag names,
unless it is an element that is made already. What counts as an integer is a parameter.
-/

namespace Snippet

/-- How data is taken as an integer, or the reason why it is none. Beside integers, a reader may take truth
values, decimals and texts for integers; that is a matter of the library that reads numbers. -/
abbrev Coercion := Data → Except String Int

/-- An integer is taken as it is. -/
def Coercion.Exact (coerce : Coercion) : Prop :=
  ∀ n, coerce (.int n) = .ok n

/-- A value that passed validation, or the issues found. -/
abbrev Checked := Except (List Issue)

namespace Checked

/-- Both parts, or all issues of both. -/
def both {α β γ : Type} (f : α → β → γ) : Checked α → Checked β → Checked γ
  | .ok a, .ok b => .ok (f a b)
  | .ok _, .error is => .error is
  | .error is, .ok _ => .error is
  | .error is, .error js => .error (is ++ js)

/-- The first of two values, or all issues of both. -/
def either {α : Type} : Checked α → Checked α → Checked α
  | .ok a, _ => .ok a
  | .error _, .ok b => .ok b
  | .error is, .error js => .error (is ++ js)

/-- The issues as seen from one level up. -/
def below {α : Type} (step : Step) (c : Checked α) : Checked α :=
  c.mapError (·.map (Issue.below step))

def issue {α : Type} (kind : IssueKind) : Checked α :=
  .error [⟨kind, []⟩]

end Checked

/-- The branches that take an element that is made already. -/
def Element.branches : Element → List Branch
  | custom _ => [.syntaxNode]
  | built _ => [.outputNode]
  | _ => [.tagged, .syntaxNode]

namespace Data

open Checked

/-! ## Plain fields -/

def position (coerce : Coercion) (d : Data) : Checked Nat :=
  match coerce d with
  | .error reason => issue (.noInteger reason)
  | .ok n => if n < 0 then issue .negative else .ok n.toNat

def string : Data → Checked String
  | text s => .ok s
  | _ => issue .notText

def strings (i : Nat) : List Data → Checked (List String)
  | [] => .ok []
  | d :: ds => both (· :: ·) (d.string.below (.index i)) (strings (i + 1) ds)

def stringList : Data → Checked (List String)
  | list ds => strings 0 ds
  | _ => issue .notList

/-- A field read by `read`; without the field, the default. -/
def field {α : Type} (fields : List (String × Data)) (name : String) (default : Checked α)
    (read : Data → Checked α) : Checked α :=
  match fields.lookup name with
  | none => default.below (.field name)
  | some d => (read d).below (.field name)

def transform : Data → Checked TransformSpec
  | record fields =>
      both (fun pattern (format, options) => ⟨pattern, format, options⟩)
        (field fields "pattern" (issue .missing) string)
        (both Prod.mk (field fields "format" (.ok "") string)
          (field fields "options" (.ok "") string))
  | _ => issue .notRecord

def transform? : Data → Checked (Option TransformSpec)
  | null => .ok none
  | d => d.transform.map some

/-! ## Elements -/

/-- The element of a kind with the given fields, given what the field of its children holds. The
kind itself is checked elsewhere. -/
def elementOf (coerce : Coercion) (fields : List (String × Data))
    (children : Checked (List Element)) : ElementKind → Checked Element
  | .text => (field fields "esc" (.ok "") string).map .text
  | .choice =>
      both .choice (field fields "position" (.ok 0) (position coerce))
        (field fields "items" (.ok []) stringList)
  | .tabstop =>
      both .tabstop (field fields "position" (.ok 0) (position coerce))
        (field fields "transform" (.ok none) transform?)
  | .placeholder =>
      both (fun (position, transform) children => .placeholder position transform children)
        (both Prod.mk (field fields "position" (.ok 0) (position coerce))
          (field fields "transform" (.ok none) transform?))
        (children.below (.field "children"))
  | .var =>
      both .var (field fields "name" (issue .missing) string)
        (field fields "transform" (.ok none) transform?)
  | .snippet => (children.below (.field "children")).map .snippet

/-- A record with the tag of its kind, given what the field of its children holds. -/
def taggedOf (coerce : Coercion) (children : Checked (List Element)) : Data → Checked Element
  | record fields =>
      match fields.lookup "kind" with
      | some (text tag) =>
          match ElementKind.ofTag? tag with
          | some kind => (elementOf coerce fields children kind).below (.tag tag)
          | none => issue .kindUnknown
      | some _ => issue .kindUnknown
      | none => issue .kindMissing
  | made e => if e.branches.contains .tagged then .ok e else issue .childNotRecord
  | _ => issue .childNotRecord

/-- An element that is made already, of the class that the branch takes. -/
def instanceOf (b : Branch) : Data → Checked Element
  | made e => if e.branches.contains b then .ok e else issue .notInstance
  | _ => issue .notInstance

/-- A child in one of the ways there are, given how it is read by its tag. -/
def anyBranch (tagged : Checked Element) (d : Data) : Checked Element :=
  either (tagged.below (.branch .tagged))
    (either ((instanceOf .syntaxNode d).below (.branch .syntaxNode))
      ((instanceOf .outputNode d).below (.branch .outputNode)))

section Children

variable (coerce : Coercion)

mutual

/-- The elements in the field of the children; none without the field. -/
def childrenIn : List (String × Data) → Checked (List Element)
  | [] => .ok []
  | (name, d) :: r => if name = "children" then childList d else childrenIn r

def childList : Data → Checked (List Element)
  | list ds => children ds 0
  | _ => issue .notList

/-- Children, the first of which has the index `i`. -/
def children : List Data → Nat → Checked (List Element)
  | [], _ => .ok []
  | d :: ds, i => both (· :: ·) ((child d).below (.index i)) (children ds (i + 1))

def child : Data → Checked Element
  | record fields => anyBranch (taggedOf coerce (childrenIn fields) (record fields)) (record fields)
  | d => anyBranch (taggedOf coerce (.ok []) d) d

end

end Children

/-- The tag of the root may be missing; if present it has to be that of the kind asked for. -/
def rootTag (kind : ElementKind) (fields : List (String × Data)) : Checked Unit :=
  match fields.lookup "kind" with
  | none => .ok ()
  | some (text tag) => if tag = kind.tag then .ok () else (issue .wrongKind).below (.field "kind")
  | some _ => (issue .wrongKind).below (.field "kind")

/-- Reads the root of a syntax tree as an element of the given kind. -/
def element (coerce : Coercion) (kind : ElementKind) : Data → Checked Element
  | record fields =>
      both (fun _ e => e) (rootTag kind fields)
        (elementOf coerce fields (childrenIn coerce fields) kind)
  | _ => issue .notRecord

end Data

end Snippet
