import Snippet.Pattern.Basic
import Snippet.Text.Quoted

/-!
Why a written pattern cannot be read. A fault names its place by the number of characters before
it, and also by line and column where the pattern has several lines.
-/

namespace Snippet.Pattern

inductive Reason where
  | danglingEscape
  | badEscape (escape : String)
  | incompleteEscape (escape : String)
  | octalTooLarge (escape : String)
  | missingNameBrace
  | unknownCharacter (name : String)
  | missingName (what : String)
  | unterminatedName (terminator : Char)
  | badGroupName (name : String)
  | groupRedefined (name : String) (number earlier : Nat)
  | unknownGroup (name : String)
  | openGroup
  | groupInLookBehind
  | badReference (number : Nat)
  | badGroupNumber
  | unknownExtension (text : String)
  | unexpectedEnd
  | unterminatedComment
  | unterminatedGroup
  | unterminatedSet
  | badRange (first last : String)
  | nothingToRepeat
  | multipleRepeat
  | emptyInterval
  | unbalanced
  | tooManyBranches
  | flagsNotAtStart
  | unknownFlag
  | missingFlag
  | missingFlagEnd
  | missingColon
  | localeFlag
  | incompatibleFlags
  | fixedFlagOff
  | wholeFlagOn
  | wholeFlagOff
  | flagOnAndOff
  | variableLookBehind
  /-- A repetition in a pattern whose flags allow none. -/
  | repetitionExcluded (greed : Greed)
deriving DecidableEq, Repr

namespace Reason

def message : Reason → String
  | danglingEscape => "bad escape (end of pattern)"
  | badEscape escape => "bad escape " ++ escape
  | incompleteEscape escape => "incomplete escape " ++ escape
  | octalTooLarge escape => "octal escape value " ++ escape ++ " outside of range 0-0o377"
  | missingNameBrace => "missing \x7b"
  | unknownCharacter name => "undefined character name " ++ Text.quoted name
  | missingName what => "missing " ++ what
  | unterminatedName terminator =>
      "missing " ++ terminator.toString ++ ", unterminated name"
  | badGroupName name => "bad character in group name " ++ Text.quoted name
  | groupRedefined name number earlier =>
      "redefinition of group name " ++ Text.quoted name ++ " as group " ++ toString number ++
        "; was group " ++ toString earlier
  | unknownGroup name => "unknown group name " ++ Text.quoted name
  | openGroup => "cannot refer to an open group"
  | groupInLookBehind => "cannot refer to group defined in the same lookbehind subpattern"
  | badReference number => "invalid group reference " ++ toString number
  | badGroupNumber => "bad group number"
  | unknownExtension text => "unknown extension ?" ++ text
  | unexpectedEnd => "unexpected end of pattern"
  | unterminatedComment => "missing ), unterminated comment"
  | unterminatedGroup => "missing ), unterminated subpattern"
  | unterminatedSet => "unterminated character set"
  | badRange first last => "bad character range " ++ first ++ "-" ++ last
  | nothingToRepeat => "nothing to repeat"
  | multipleRepeat => "multiple repeat"
  | emptyInterval => "min repeat greater than max repeat"
  | unbalanced => "unbalanced parenthesis"
  | tooManyBranches => "conditional backref with more than two branches"
  | flagsNotAtStart => "global flags not at the start of the expression"
  | unknownFlag => "unknown flag"
  | missingFlag => "missing flag"
  | missingFlagEnd => "missing -, : or )"
  | missingColon => "missing :"
  | localeFlag => "bad inline flags: cannot use 'L' flag with a str pattern"
  | incompatibleFlags => "bad inline flags: flags 'a', 'u' and 'L' are incompatible"
  | fixedFlagOff => "bad inline flags: cannot turn off flags 'a', 'u' and 'L'"
  | wholeFlagOn => "bad inline flags: cannot turn on global flag"
  | wholeFlagOff => "bad inline flags: cannot turn off global flag"
  | flagOnAndOff => "bad inline flags: flag turned on and off"
  | variableLookBehind => "look-behind requires fixed-width pattern"
  | repetitionExcluded .greedy => "internal: unsupported template operator MAX_REPEAT"
  | repetitionExcluded .lazy => "internal: unsupported template operator MIN_REPEAT"
  | repetitionExcluded .possessive => "internal: unsupported template operator POSSESSIVE_REPEAT"

end Reason

/-- Why reading stopped: a fault in the pattern, at a place unless it concerns the whole, or a
pattern that is well formed and cannot be used all the same. -/
inductive Fault where
  | bad (reason : Reason) (place : Option Nat)
  | countTooLarge
  | asciiAndUnicode
  | lookBehindTooWide
deriving DecidableEq, Repr

/-- What first stands in the way of using a pattern, from left to right and from the outside in: a
look-behind without a fixed width, or a repetition where none is allowed. -/
def objection? (excluded : Bool) : Pattern → Option Reason
  | seq p q => (objection? excluded p).or (objection? excluded q)
  | alt p rest => (objection? excluded p).or (objection? excluded rest)
  | group _ p => objection? excluded p
  | ifGroup _ yes no => (objection? excluded yes).or (objection? excluded no)
  | ahead _ p => objection? excluded p
  | behind _ width p =>
      if width.isFixed then objection? excluded p else some .variableLookBehind
  | atomic p => objection? excluded p
  | loop _ _ greed p => if excluded then some (.repetitionExcluded greed) else objection? excluded p
  | _ => none

def lookBehindLimit : Nat := Nat.pow 2 31 - 1

def looksTooFarBehind : Pattern → Bool
  | seq p q => looksTooFarBehind p || looksTooFarBehind q
  | alt p rest => looksTooFarBehind p || looksTooFarBehind rest
  | group _ p => looksTooFarBehind p
  | ifGroup _ yes no => looksTooFarBehind yes || looksTooFarBehind no
  | ahead _ p => looksTooFarBehind p
  | behind _ width p => lookBehindLimit < width.least || looksTooFarBehind p
  | atomic p => looksTooFarBehind p
  | loop _ _ _ p => looksTooFarBehind p
  | _ => false

/-- Line and column of a place, both counted from one. -/
def lineAndColumn (pattern : List Char) (place : Nat) : Nat × Nat :=
  let before := pattern.take place
  (before.count '\n' + 1, (before.reverse.takeWhile (· ≠ '\n')).length + 1)

/-- The message of a reason together with its place in the written pattern. -/
def Reason.located (reason : Reason) (pattern : String) : Option Nat → String
  | none => reason.message
  | some place =>
      let located := reason.message ++ " at position " ++ toString place
      if pattern.toList.contains '\n' then
        let (line, column) := lineAndColumn pattern.toList place
        located ++ " (line " ++ toString line ++ ", column " ++ toString column ++ ")"
      else located

end Snippet.Pattern
