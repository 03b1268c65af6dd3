import Snippet.Error
import Snippet.Format.Reader
import Snippet.Lines
import Snippet.Pattern.Match
import Snippet.Pattern.Reader

/-!
Transforms of lines: what a pattern matches in a text is replaced after a format. The description is
checked when the transform is made, options first, then the pattern, then the format. A format that
refers to a group the pattern lacks shows only when there is something to replace.
-/

namespace Snippet

variable [Pattern.CharacterNames]

structure TransformSpec where
  pattern : String
  format : String
  options : String
deriving DecidableEq, Repr

abbrev LineTransform := Lines → Except Error Lines

/-- A transform whose description has been read. -/
structure Transform where
  search : Pattern.Compiled
  format : Format
  /-- Replace every match, not only the first. -/
  everywhere : Bool
deriving DecidableEq, Repr

namespace Transform

/-- The flags of a pattern that the options ask for. -/
def mode (options : List Char) : Pattern.Mode where
  ignoreCase := options.contains 'i'
  multiline := options.contains 'm'
  dotAll := options.contains 's'

def isOption (c : Char) : Bool :=
  c = 'g' || c = 'i' || c = 'm' || c = 's'

def ofSpec (spec : TransformSpec) : Except Error Transform :=
  match spec.options.toList.find? fun c => !isOption c with
  | some c => .error (.invalidTransform spec.pattern ("unknown option '" ++ c.toString ++ "'"))
  | none =>
      match Pattern.read spec.pattern (mode spec.options.toList) with
      | .error .countTooLarge => .error .countTooLarge
      | .error .asciiAndUnicode => .error .asciiAndUnicode
      | .error .lookBehindTooWide => .error .lookBehindTooWide
      | .error (.bad reason place) =>
          .error (.invalidTransform spec.pattern (reason.located spec.pattern place))
      | .ok search =>
          match Format.read spec.format with
          | .error fault => .error (.invalidTransform spec.pattern (fault.message spec.format))
          | .ok format => .ok ⟨search, format, spec.options.toList.contains 'g'⟩

def slice (text : Array Char) (start stop : Nat) : List Char :=
  (text.extract start stop).toList

/-- The text of a group in a match; a group that took no part has none. -/
def groupText (text : Array Char) (m : Pattern.Match) (group : Nat) : List Char :=
  match m.span? group with
  | some (start, stop) => slice text start stop
  | none => []

def expandToken (groups : Nat) (text : Array Char) (m : Pattern.Match) (t : Format.Token) :
    Except Error (List Char) :=
  match t.group? with
  | none => .ok (t.expand [])
  | some group =>
      if groups < group then .error .noSuchGroup else .ok (t.expand (groupText text m group))

/-- What is put in the place of a match: its tokens' texts in order. -/
def expand (groups : Nat) (text : Array Char) (m : Pattern.Match) :
    Format → Except Error (List Char)
  | [] => .ok []
  | t :: ts =>
      match expandToken groups text m t with
      | .error e => .error e
      | .ok s => (expand groups text m ts).map (s ++ ·)

/-- What a match is replaced with. A match with a broken group has no replacement. -/
def replacement (tr : Transform) (text : Array Char) (m : Pattern.Match) :
    Except Error (List Char) :=
  if m.isBroken tr.search.groups then .error .brokenGroup
  else expand tr.search.groups text m tr.format

/-- The text from a place on, with the matches replaced and all between them kept. -/
def replace (tr : Transform) (text : Array Char) : Nat → List Pattern.Match →
    Except Error (List Char)
  | start, [] => .ok (slice text start text.size)
  | start, m :: ms =>
      match replacement tr text m with
      | .error e => .error e
      | .ok s => (replace tr text m.stop ms).map (slice text start m.start ++ s ++ ·)

def apply (tr : Transform) : LineTransform := fun lines =>
  let text := lines.toText.toList.toArray
  (tr.replace text 0 (Pattern.findAll tr.search text tr.everywhere)).map fun s =>
    Lines.ofText (String.ofList s)

end Transform

def TransformSpec.toFunction (spec : TransformSpec) : Except Error LineTransform :=
  (Transform.ofSpec spec).map Transform.apply

end Snippet
