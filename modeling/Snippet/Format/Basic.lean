import Snippet.Text.Case

/-!
Replacement formats: what is put in the place of a match. A format is a list of tokens; literal text
stands for itself, and a reference takes the text of a group, changes its case, or chooses between
two texts by whether the group has any.
-/

namespace Snippet

namespace Format

/-- One part of a format. -/
inductive Token where
  | literal (text : String)
  | group (number : Nat)
  | case (number : Nat) (change : CaseChange)
  | conditional (number : Nat) (present absent : String)
deriving DecidableEq, Repr

/-- Why a written format cannot be read. -/
inductive Fault where
  | unterminated
  | badReference (body : String)
  | unknownCase (name : String)
deriving DecidableEq, Repr

/-- The message of a fault in a written format. -/
def Fault.message (written : String) : Fault → String
  | unterminated => "unterminated '$\x7b' in format '" ++ written ++ "'"
  | badReference body => "invalid format reference '$\x7b" ++ body ++ "\x7d'"
  | unknownCase name => "unknown case modifier '" ++ name ++ "'"

namespace Token

/-- The group that a token refers to. -/
def group? : Token → Option Nat
  | literal _ => none
  | group number => some number
  | case number _ => some number
  | conditional number _ _ => some number

/-- The text of a token, given the text of the group it refers to; a group that took no part has
none. A conditional counts an empty text as absent. -/
def expand (groupText : List Char) : Token → List Char
  | literal text => text.toList
  | group _ => groupText
  | case _ change => change.apply groupText
  | conditional _ present absent =>
      if groupText.isEmpty then absent.toList else present.toList

end Token

end Format

/-- A replacement format as read. -/
abbrev Format := List Format.Token

end Snippet
