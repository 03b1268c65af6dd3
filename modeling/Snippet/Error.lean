import Snippet.Issue
import Snippet.Text.Quoted

/-!
What can go wrong between a syntax tree and its text, by cause.
-/

namespace Snippet

inductive Error where
  /-- A transform description that cannot be turned into a function. -/
  | invalidTransform (pattern reason : String)
  /-- A repetition count in a pattern that no counter holds. -/
  | countTooLarge
  /-- The flags of a whole pattern choose two character sets. -/
  | asciiAndUnicode
  /-- A pattern looks back further than is provided for. -/
  | lookBehindTooWide
  /-- A match has a group whose start lies behind its end. -/
  | brokenGroup
  /-- A syntax node of a kind that conversion does not know. -/
  | unknownKind (kind : String)
  /-- Static evaluation reached a node that can change while the template is edited. -/
  | interactive (typeName : String)
  /-- Options for a fresh context were given together with a context. -/
  | contextAndOptions
  /-- A dynamic node without a way to build its content. -/
  | noRebuild
  /-- A format refers to a group that the pattern lacks. -/
  | noSuchGroup
  | choiceOutOfRange (index : Int) (count : Nat)
  | indexOutOfRange
  /-- An index that no counter of a list holds. -/
  | indexTooLarge
  /-- A value function asked the environment for a name it lacks. -/
  | missingName (name : String)
  | invalidData (title : String) (issues : List Issue)
  /-- The node has no such operation. -/
  | unsupported (typeName operation : String)
  /-- The node reaches itself, so it has no text. -/
  | cyclic
deriving DecidableEq, Repr

namespace Error

def message : Error → String
  | invalidTransform pattern reason => "Invalid transform '" ++ pattern ++ "': " ++ reason
  | countTooLarge => "the repetition number is too large"
  | asciiAndUnicode => "ASCII and UNICODE flags are incompatible"
  | lookBehindTooWide => "the look-behind is too wide"
  | brokenGroup => "the span of a group is broken"
  | unknownKind kind => "No builder registered for syntax node kind '" ++ kind ++ "'"
  | interactive typeName => "Cannot evaluate interactive node '" ++ typeName ++ "' statically"
  | contextAndOptions => "Pass either a context or options for a new context, not both"
  | noRebuild => "DynamicNode has no rebuild function"
  | noSuchGroup => "no such group"
  | choiceOutOfRange index count =>
      "Choice index " ++ toString index ++ " out of range for " ++ toString count ++ " alternatives"
  | indexOutOfRange => "list index out of range"
  | indexTooLarge => "cannot fit 'int' into an index-sized integer"
  | missingName name => Text.quoted name
  | invalidData title _ => "invalid data for " ++ title
  | unsupported typeName operation => operation ++ " does not apply to " ++ typeName
  | cyclic => "the node reaches itself"

end Error

/-- The bound of the numbers that count places in a list. -/
def indexBound : Int := Nat.pow 2 63

/-- The item of a list at an index. A negative index counts from the last item. An index without an
item is out of range, or too large where it is beyond the numbers that count places. -/
def itemAt {α : Type} (items : List α) (index : Int) : Except Error α :=
  let place := if index < 0 then index + items.length else index
  match if place < 0 then none else items[place.toNat]? with
  | some item => .ok item
  | none =>
      .error (if index < -indexBound || indexBound ≤ index then .indexTooLarge else .indexOutOfRange)

end Snippet
