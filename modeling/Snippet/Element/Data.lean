import Snippet.Element.Basic

/-!
Data that a syntax tree is read from and written to: records, lists and plain values, and elements
that are made already.
-/

namespace Snippet

inductive Data where
  | null
  | bool (b : Bool)
  | int (n : Int)
  /-- The number `mantissa / 10 ^ places`. -/
  | decimal (mantissa : Int) (places : Nat)
  | text (s : String)
  | list (items : List Data)
  | record (fields : List (String × Data))
  | made (e : Element)
deriving Inhabited

namespace TransformSpec

def fields (t : TransformSpec) : List (String × Data) :=
  [("pattern", .text t.pattern), ("format", .text t.format), ("options", .text t.options)]

def toData (t : TransformSpec) : Data :=
  .record t.fields

end TransformSpec

namespace Data

def ofTransform? : Option TransformSpec → Data
  | none => .null
  | some t => t.toData

end Data

namespace Element

mutual

def fields : Element → List (String × Data)
  | text content => [("kind", .text "text"), ("esc", .text content)]
  | choice position items =>
      [("kind", .text "choice"), ("position", .int position), ("items", .list (items.map .text))]
  | tabstop position transform =>
      [("kind", .text "tabstop"), ("position", .int position),
        ("transform", .ofTransform? transform)]
  | placeholder position transform children =>
      [("kind", .text "placeholder"), ("position", .int position),
        ("transform", .ofTransform? transform), ("children", .list (dataList children))]
  | var name transform =>
      [("kind", .text "variable"), ("name", .text name), ("transform", .ofTransform? transform)]
  | snippet children => [("kind", .text "snippet"), ("children", .list (dataList children))]
  | ownText content => [("kind", .text "text"), ("esc", .text content)]
  | ownSnippet children => [("kind", .text "snippet"), ("children", .list (dataList children))]
  | custom kind => [("kind", .text kind)]
  | built _ => []

/-- Elements as data. What the grammar does not have stays as it is. -/
def dataList : List Element → List Data
  | [] => []
  | e :: r => (if e.inGrammar then .record (fields e) else .made e) :: dataList r

end

/-- An element as data. What the grammar does not have stays as it is. -/
def toData (e : Element) : Data :=
  if e.inGrammar then .record e.fields else .made e

end Element

end Snippet
