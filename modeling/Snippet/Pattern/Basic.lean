import Snippet.Unicode.CaseFold
import Snippet.Unicode.Digit
import Snippet.Unicode.Space
import Snippet.Unicode.Word

/-!
Search patterns: what a written pattern denotes once its flags are resolved. A pattern is tried at a
place of a text and moves on to a later place; its groups remember where they began and ended.
-/

namespace Snippet

namespace Pattern

/-- How letters are compared: as they are, or without their case. -/
inductive Folding where
  | exact
  | ascii
  | unicode
deriving DecidableEq, Repr

/-- The named classes of characters. -/
inductive ClassName where
  | digit
  | space
  | word
deriving DecidableEq, Repr

/-- A named class or its complement, among all characters or with ASCII members only. -/
structure CharClass where
  name : ClassName
  negated : Bool
  ascii : Bool
deriving DecidableEq, Repr

/-- A member of a bracketed set. Code points are numbers, as a pattern can name ones that no text
holds. -/
inductive Member where
  | code (n : Nat)
  | range (first last : Nat)
  | named (cls : CharClass)
deriving DecidableEq, Repr

/-- What one character of the text has to be. -/
inductive CharTest where
  | any (lineFeed : Bool)
  | one (folding : Folding) (negated : Bool) (code : Nat)
  | set (folding : Folding) (negated : Bool) (members : List Member)
deriving DecidableEq, Repr

/-- Conditions on a place that take up no character. -/
inductive Anchor where
  | textStart
  | textEnd
  /-- The start of the text, written as that of a line. -/
  | firstLineStart
  | lineStart
  | lineEnd
  /-- The end of the text, or just before a line feed that ends it. -/
  | lastLineEnd
  | wordEdge (ascii : Bool)
  | wordInside (ascii : Bool)
deriving DecidableEq, Repr

/-- In which order a repetition tries its counts, and whether it gives any back. -/
inductive Greed where
  | greedy
  | lazy
  | possessive
deriving DecidableEq, Repr

/-- The least and greatest number of characters that a pattern can take up, as far as they are
counted. -/
structure Width where
  least : Nat
  most : Nat
deriving DecidableEq, Repr

end Pattern

open Pattern in
/-- A pattern with its flags resolved. -/
inductive Pattern where
  | empty
  | char (test : CharTest)
  | anchor (a : Anchor)
  | seq (p q : Pattern)
  /-- Alternatives end here: no text matches. -/
  | fail
  /-- One alternative and those after it, which are again of this form or the end of them. -/
  | alt (p rest : Pattern)
  | group (number : Nat) (p : Pattern)
  | backref (number : Nat) (folding : Folding)
  | ifGroup (number : Nat) (yes no : Pattern)
  | ahead (negated : Bool) (p : Pattern)
  | behind (negated : Bool) (width : Width) (p : Pattern)
  | atomic (p : Pattern)
  | loop (least : Nat) (most : Option Nat) (greed : Greed) (p : Pattern)
deriving DecidableEq, Repr

namespace Pattern

/-! ## Characters -/

def asciiLower (code : Nat) : Nat :=
  if 0x41 ≤ code && code ≤ 0x5a then code + 0x20 else code

namespace Folding

/-- The form in which two code points are compared. -/
def fold : Folding → Nat → Nat
  | exact, code => code
  | ascii, code => asciiLower code
  | unicode, code => Unicode.lowerCode code

/-- The folded forms that count as the same letter as `code`. -/
def forms : Folding → Nat → List Nat
  | exact, code => [code]
  | ascii, code => [asciiLower code]
  | unicode, code => Unicode.letterForms code

def affects : Folding → Nat → Bool
  | exact, _ => false
  | ascii, code => (0x41 ≤ code && code ≤ 0x5a) || (0x61 ≤ code && code ≤ 0x7a)
  | unicode, code => Unicode.hasCases code

/-- The code points whose forms include the folded form `low`. -/
def letter : Folding → Nat → List Nat
  | exact, low => [low]
  | ascii, low => if 0x61 ≤ low && low ≤ 0x7a then [low, low - 0x20] else [low]
  | unicode, low => Unicode.letterClass low

end Folding

namespace CharClass

def has (cls : CharClass) (c : Char) : Bool :=
  let plain := match cls.name, cls.ascii with
    | .digit, false => Unicode.isDigit c
    | .digit, true => c.isDigit
    | .space, false => Unicode.isSpace c
    | .space, true => c = ' ' || ('\t' ≤ c && c ≤ '\r')
    | .word, false => Unicode.isWord c
    | .word, true => Unicode.isAsciiWord c
  plain != cls.negated

end CharClass

def lastBasic : Nat := 0xffff

namespace Member

/-- The member holds the character. Without case, a single member beyond the basic plane stands for
its own folded form alone, and a range beyond it holds a letter if it holds either case. -/
def has (folding : Folding) (c : Char) : Member → Bool
  | named cls => cls.has c
  | code n =>
      if folding = .exact || n > lastBasic then folding.fold c.toNat = n
      else (folding.forms n).contains (folding.fold c.toNat)
  | range first last =>
      if folding = .exact then first ≤ c.toNat && c.toNat ≤ last
      else
        let low := folding.fold c.toNat
        (folding.letter low).any (fun n => first ≤ n && n ≤ last && n ≤ lastBasic) ||
          (last > lastBasic &&
            ((first ≤ low && low ≤ last) ||
              (first ≤ Unicode.upperCode low && Unicode.upperCode low ≤ last)))

def affectedBy (folding : Folding) : Member → Bool
  | named _ => false
  | code n => n > lastBasic || folding.affects n
  | range first last =>
      last > lastBasic ||
        (List.range (last + 1 - first)).any fun i => folding.affects (first + i)

end Member

namespace CharTest

/-- The test for one code point, which folds only where that can matter. -/
def ofCode (folding : Folding) (negated : Bool) (code : Nat) : CharTest :=
  one (if folding.affects code then folding else .exact) negated code

/-- The test for members, which folds only where that can matter. -/
def ofMembers (folding : Folding) (negated : Bool) (members : List Member) : CharTest :=
  let folds := folding ≠ .exact && members.any (·.affectedBy folding)
  set (if folds then folding else .exact) negated members

def code? : CharTest → Option Nat
  | one .exact false code => some code
  | _ => none

def isPlain : CharTest → Bool
  | one .exact false _ => true
  | set .exact _ _ => true
  | _ => false

/-- A row of such characters is gone through one by one, so that the cursor moves with it. -/
def isStepwise : CharTest → Bool
  | any _ => false
  | one folding _ code =>
      folding = .unicode && (Unicode.lowerSiblings.lookup (Unicode.lowerCode code)).isSome
  | set folding _ _ => folding ≠ .exact

def accepts : CharTest → Char → Bool
  | any lineFeed, c => lineFeed || c != '\n'
  | one folding negated code, c =>
      (folding.forms code).contains (folding.fold c.toNat) != negated
  | set folding negated members, c =>
      members.any (fun m => m.has folding c) != negated

end CharTest

/-! ## Widths -/

namespace Width

/-- Least widths are counted up to here, and greatest ones up to one more, so that a width beyond
the limit never counts as a single one. -/
def limit : Nat := Nat.pow 2 32 - 2

def capped (least most : Nat) : Width :=
  ⟨min least limit, min most (limit + 1)⟩

def andThen (v w : Width) : Width :=
  capped (v.least + w.least) (v.most + w.most)

def or (v w : Width) : Width :=
  ⟨min v.least w.least, max v.most w.most⟩

/-- A part repeated; without a greatest count there is no bound, unless the part is empty. -/
def times (w : Width) (least : Nat) (most : Option Nat) : Width :=
  capped (w.least * least) (w.most * most.getD (limit + 1))

def isFixed (w : Width) : Bool :=
  w.least = w.most

end Width

/-- How much text a pattern takes up, given the widths of the groups it refers to. -/
def width (groupWidth : Nat → Width) : Pattern → Width
  | empty => ⟨0, 0⟩
  | char _ => ⟨1, 1⟩
  | anchor _ => ⟨0, 0⟩
  | seq p q => (width groupWidth p).andThen (width groupWidth q)
  | fail => ⟨Width.limit, 0⟩
  | alt p rest => (width groupWidth p).or (width groupWidth rest)
  | group _ p => width groupWidth p
  | backref n _ => groupWidth n
  | ifGroup _ yes no => (width groupWidth yes).or (width groupWidth no)
  | ahead _ _ => ⟨0, 0⟩
  | behind _ _ _ => ⟨0, 0⟩
  | atomic p => width groupWidth p
  | loop least most _ p => (width groupWidth p).times least most

/-! ## How a pattern starts -/

/-- The plain test that a pattern starts with, where `after` is what comes after it. -/
def opening : Pattern → Option CharTest → Option CharTest
  | empty, after => after
  | char test, _ => if test.isPlain then some test else none
  | seq p q, after => opening p (opening q after)
  | _, _ => none

/-- Whether a pattern starts with a fixed character; none if it starts with nothing. -/
def startsWithCode? : Pattern → Option Bool
  | empty => none
  | char test => some test.code?.isSome
  | seq p q => (startsWithCode? p).or (startsWithCode? q)
  | group _ p => startsWithCode? p
  | _ => some false

/-- The first part of a pattern is a fixed character. -/
def firstIsCode : Pattern → Bool
  | char test => test.code?.isSome
  | seq p _ => firstIsCode p
  | _ => false

/-- The first part of a pattern is a plain test, or alternatives that each start with a fixed
character. -/
def firstIsPlain : Pattern → Bool
  | char test => test.isPlain
  | seq p _ => firstIsPlain p
  | group _ p => firstIsPlain p
  | fail => true
  | alt p rest => firstIsCode p && firstIsPlain rest
  | _ => false

/-- Whether a match can start at a place shows in the character there. -/
def startsPlainly (p : Pattern) : Bool :=
  startsWithCode? p = some true || firstIsPlain p

/-- A pattern ready to search with: the number of its groups, and the least width of a match. -/
structure Compiled where
  pattern : Pattern
  groups : Nat
  least : Nat
deriving DecidableEq, Repr

end Pattern

end Snippet
