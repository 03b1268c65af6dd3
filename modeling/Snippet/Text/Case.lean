import Snippet.Unicode.CaseContext
import Snippet.Unicode.CaseMap

/-!
Changes of case on whole texts. Lower case looks at the neighbours of a capital sigma, which is a
final sigma at the end of a word. The two word cases keep the ASCII letters and digits alone.
-/

namespace Snippet

inductive CaseChange where
  | upcase
  | downcase
  | capitalize
  | pascalcase
  | camelcase
deriving DecidableEq, Repr

namespace Text

/-- The text up to a place, read backwards, ends in a cased character, marks aside. -/
def endsCased (before : List Char) : Bool :=
  match before.dropWhile Unicode.isCaseIgnorable with
  | [] => false
  | c :: _ => Unicode.isCased c

/-- Lower case of what follows `before`, which is read backwards. -/
def lowerAfter : List Char → List Char → List Char
  | _, [] => []
  | before, c :: r =>
      let low :=
        if c = 'Σ' then
          if endsCased before && !endsCased r then ['ς'] else ['σ']
        else Unicode.lower c
      low ++ lowerAfter (c :: before) r

def lower (s : List Char) : List Char :=
  lowerAfter [] s

def upper (s : List Char) : List Char :=
  s.flatMap Unicode.upper

def capitalize : List Char → List Char
  | [] => []
  | c :: r => Unicode.upper c ++ r

/-- ASCII letters and digits make up words. -/
def inWord (c : Char) : Bool :=
  c.isAlphanum

/-- Drops all that is in no word and capitalises each word; `fresh` tells that none is open. -/
def joinWords : Bool → List Char → List Char
  | _, [] => []
  | fresh, c :: r =>
      if inWord c then (if fresh then c.toUpper else c) :: joinWords false r
      else joinWords true r

def pascal (s : List Char) : List Char :=
  joinWords true s

def camel (s : List Char) : List Char :=
  match pascal s with
  | [] => []
  | c :: r => c.toLower :: r

end Text

namespace CaseChange

def all : List CaseChange :=
  [upcase, downcase, capitalize, pascalcase, camelcase]

/-- The name that a format gives the change by. -/
def name : CaseChange → String
  | upcase => "upcase"
  | downcase => "downcase"
  | capitalize => "capitalize"
  | pascalcase => "pascalcase"
  | camelcase => "camelcase"

def ofName? (s : String) : Option CaseChange :=
  all.find? fun c => c.name = s

def apply : CaseChange → List Char → List Char
  | upcase => Text.upper
  | downcase => Text.lower
  | capitalize => Text.capitalize
  | pascalcase => Text.pascal
  | camelcase => Text.camel

theorem ofName?_name (c : CaseChange) : ofName? c.name = some c := by
  cases c <;> rfl

theorem ofName?_eq_some {s : String} {c : CaseChange} (h : ofName? s = some c) : s = c.name := by
  have hname : c.name = s := by simpa using List.find?_some h
  exact hname.symm

end CaseChange

end Snippet
