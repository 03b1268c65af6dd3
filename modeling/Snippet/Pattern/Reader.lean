import Snippet.Pattern.Basic
import Snippet.Pattern.Fault
import Snippet.Pattern.Piece
import Snippet.Unicode.Identifier

/-!
Reading a written pattern. The text is first cut into tokens, where a backslash and the character
after it are one; the reader then goes through the tokens once, with one token in view. What it
knows of groups (names, widths, which are closed) decides whether a reference is good.
-/

namespace Snippet.Pattern

/-! ## Tokens -/

/-- A character, or a backslash with the character it escapes, and where it starts. -/
structure Token where
  start : Nat
  escaped : Bool
  char : Char
deriving DecidableEq, Repr

namespace Token

def chars (t : Token) : List Char :=
  if t.escaped then ['\\', t.char] else [t.char]

def text (t : Token) : String :=
  String.ofList t.chars

def isChar (t : Token) (c : Char) : Bool :=
  !t.escaped && t.char = c

def isPlain (t : Token) (p : Char → Bool) : Bool :=
  !t.escaped && p t.char

end Token

/-- The tokens from a place on, and whether a backslash stands alone at the end. -/
def tokens : Nat → List Char → List Token × Bool
  | _, [] => ([], false)
  | _, ['\\'] => ([], true)
  | place, '\\' :: c :: r =>
      let (ts, dangling) := tokens (place + 2) r
      (⟨place, true, c⟩ :: ts, dangling)
  | place, c :: r =>
      let (ts, dangling) := tokens (place + 1) r
      (⟨place, false, c⟩ :: ts, dangling)

/-! ## The reader -/

/-- The table of the names that characters have in escapes. -/
class CharacterNames where
  find? : String → Option Char

/-- No character has a name, where nothing else is said. -/
instance (priority := low) unnamed : CharacterNames where
  find? := fun _ => none

/-- Flags in force at a place of the pattern. -/
structure Mode where
  ignoreCase : Bool := false
  multiline : Bool := false
  dotAll : Bool := false
  verbose : Bool := false
  ascii : Bool := false
deriving DecidableEq, Repr

namespace Mode

def folding (m : Mode) : Folding :=
  if m.ignoreCase then (if m.ascii then .ascii else .unicode) else .exact

end Mode

/-- What the reader has in front of it and what it has seen. -/
structure Progress where
  rest : List Token
  dangling : Bool
  size : Nat
  nextGroup : Nat := 1
  names : List (String × Nat) := []
  widths : List (Nat × Width) := []
  /-- The number of the next group when the outermost open look-behind began. -/
  lookBehind : Option Nat := none
  /-- Group numbers that conditions ask for, with the place of the first such condition. -/
  asked : List (Nat × Nat) := []
  /-- The flag letters given for the whole pattern. -/
  wholeFlags : List Char := []
  mode : Mode

abbrev Reader := EStateM Fault Progress

namespace Reader

def place : Reader Nat := do
  let s ← get
  match s.rest with
  | [] => return s.size
  | t :: _ => return t.start

def failAt {α : Type} (place : Nat) (reason : Reason) : Reader α :=
  throw (.bad reason (some place))

/-- Stops with a fault `back` characters before the token in view. -/
def fail {α : Type} (back : Nat) (reason : Reason) : Reader α := do
  failAt ((← place) - back) reason

def peek : Reader (Option Token) := do
  return (← get).rest.head?

/-- A lone backslash at the end is a fault as soon as it comes into view. -/
def checkView : Reader Unit := do
  let s ← get
  if s.dangling && s.rest.isEmpty then failAt (s.size - 1) .danglingEscape

def next : Reader (Option Token) := do
  match (← get).rest with
  | [] => return none
  | t :: r =>
      modify fun s => { s with rest := r }
      checkView
      return some t

def accept (c : Char) : Reader Bool := do
  match ← peek with
  | some t => if t.isChar c then let _ ← next; return true else return false
  | none => return false

/-- Takes at most `n` unescaped characters with a property. -/
def takeWhile (p : Char → Bool) : Nat → Reader (List Char)
  | 0 => return []
  | n + 1 => do
      match ← peek with
      | some t =>
          if t.isPlain p then
            let _ ← next
            return t.char :: (← takeWhile p n)
          else return []
      | none => return []

def left : Reader Nat := do
  return (← get).rest.length

/-- Takes tokens up to and with a terminator, and gives the text before it. -/
def nameUntil (terminator : Char) (what : String) : Nat → List Char → Reader String
  | 0, _ => fail 0 (.missingName what)
  | fuel + 1, name => do
      match ← next with
      | none =>
          if name.isEmpty then fail 0 (.missingName what)
          else fail name.length (.unterminatedName terminator)
      | some t =>
          if t.isChar terminator then
            if name.isEmpty then fail 1 (.missingName what) else return String.ofList name
          else nameUntil terminator what fuel (name ++ t.chars)

def name (terminator : Char) (what : String) : Reader String := do
  nameUntil terminator what ((← left) + 1) []

def checkName (name : String) : Reader Unit :=
  if Unicode.isIdentifier name.toList then return ()
  else fail (name.length + 1) (.badGroupName name)

/-! ### Groups -/

def isClosed (s : Progress) (group : Nat) : Bool :=
  group < s.nextGroup && (s.widths.lookup group).isSome

def groupWidth (s : Progress) (group : Nat) : Width :=
  (s.widths.lookup group).getD ⟨0, 0⟩

/-- Opens the next group. A name is used once. -/
def openGroup (name : Option String) : Reader Nat := do
  let number := (← get).nextGroup
  modify fun s => { s with nextGroup := number + 1 }
  match name with
  | none => return number
  | some name =>
      match (← get).names.lookup name with
      | some earlier => fail (name.length + 1) (.groupRedefined name number earlier)
      | none =>
          modify fun s => { s with names := (name, number) :: s.names }
          return number

def closeGroup (number : Nat) (p : Pattern) : Reader Unit :=
  modify fun s => { s with widths := (number, p.width (groupWidth s)) :: s.widths }

/-- Inside a look-behind only groups that were closed before it may be referred to. -/
def checkLookBehind (group : Nat) : Reader Unit := do
  let s ← get
  match s.lookBehind with
  | none => return ()
  | some first =>
      if !isClosed s group then fail 0 .openGroup
      else if first ≤ group then fail 0 .groupInLookBehind

variable [CharacterNames]

/-! ### Escapes -/

def isOctal (c : Char) : Bool := '0' ≤ c && c ≤ '7'

def isHex (c : Char) : Bool := c.isDigit || ('a' ≤ c && c ≤ 'f') || ('A' ≤ c && c ≤ 'F')

def hexValue (c : Char) : Nat :=
  if c.isDigit then c.toNat - 48
  else if 'a' ≤ c then c.toNat - 87
  else c.toNat - 55

def inBase (base : Nat) (digits : List Char) : Nat :=
  digits.foldl (fun n c => base * n + hexValue c) 0

def hexEscape (letter : Char) (width : Nat) : Reader Nat := do
  let digits ← takeWhile isHex width
  let written := String.ofList ('\\' :: letter :: digits)
  if digits.length < width then fail written.length (.incompleteEscape written)
  if inBase 16 digits ≥ 0x110000 then fail written.length (.badEscape written)
  return inBase 16 digits

/-- A character given by its name. -/
def namedEscape : Reader Nat := do
  if ← accept '\x7b' then
    let name ← name '\x7d' "character name"
    match CharacterNames.find? name with
    | some c => return c.toNat
    | none => fail (name.length + 4) (.unknownCharacter name)
  else fail 0 .missingNameBrace

/-- An octal number has to be the code of one of the first 256 characters. -/
def octalEscape (digits : List Char) : Reader Nat :=
  if inBase 8 digits > 0o377 then
    fail (digits.length + 1) (.octalTooLarge (String.ofList ('\\' :: digits)))
  else return inBase 8 digits

def classEscape? (ascii : Bool) (c : Char) : Option CharClass :=
  match c with
  | 'd' => some ⟨.digit, false, ascii⟩
  | 'D' => some ⟨.digit, true, ascii⟩
  | 's' => some ⟨.space, false, ascii⟩
  | 'S' => some ⟨.space, true, ascii⟩
  | 'w' => some ⟨.word, false, ascii⟩
  | 'W' => some ⟨.word, true, ascii⟩
  | _ => none

def controlEscape? (c : Char) : Option Nat :=
  match c with
  | 'a' => some 7
  | 'b' => some 8
  | 'f' => some 12
  | 'n' => some 10
  | 'r' => some 13
  | 't' => some 9
  | 'v' => some 11
  | '\\' => some 92
  | _ => none

/-- A code point given by `x`, `u`, `U` or `N` and what follows, if the letter is one of these. -/
def codeEscape? (c : Char) : Reader (Option Nat) := do
  match c with
  | 'x' => return some (← hexEscape c 2)
  | 'u' => return some (← hexEscape c 4)
  | 'U' => return some (← hexEscape c 8)
  | 'N' => return some (← namedEscape)
  | _ => return none

def setEscape (ascii : Bool) (c : Char) : Reader Member := do
  if let some code := controlEscape? c then return .code code
  if let some cls := classEscape? ascii c then return .named cls
  if let some code ← codeEscape? c then return .code code
  if isOctal c then return .code (← octalEscape (c :: (← takeWhile isOctal 2)))
  if c.isDigit || c.isAlpha then fail 2 (.badEscape (String.ofList ['\\', c]))
  return .code c.toNat

/-- A reference to a group by its number, which was written with `length` characters. -/
def numberedReference (mode : Mode) (group length : Nat) : Reader Pattern := do
  let s ← get
  if group < s.nextGroup then
    if !isClosed s group then fail length .openGroup
    checkLookBehind group
    return .backref group mode.folding
  fail (length - 1) (.badReference group)

def anchorEscape? (ascii : Bool) (c : Char) : Option Anchor :=
  match c with
  | 'A' => some .textStart
  | 'Z' => some .textEnd
  | 'b' => some (.wordEdge ascii)
  | 'B' => some (.wordInside ascii)
  | _ => none

def literal (mode : Mode) (code : Nat) : Pattern :=
  .char (.ofCode mode.folding false code)

/-- An escape of digits: three octal digits are a code, one or two digits a group. -/
def digitEscape (mode : Mode) (c : Char) : Reader Pattern := do
  if c = '0' then
    return literal mode (← octalEscape (c :: (← takeWhile isOctal 2)))
  match ← takeWhile Char.isDigit 1 with
  | [] => numberedReference mode (inBase 10 [c]) 2
  | d :: _ =>
      if isOctal c && isOctal d then
        match ← takeWhile isOctal 1 with
        | [] => numberedReference mode (inBase 10 [c, d]) 3
        | e :: _ => return literal mode (← octalEscape [c, d, e])
      else numberedReference mode (inBase 10 [c, d]) 3

def escape (mode : Mode) (c : Char) : Reader Pattern := do
  if let some a := anchorEscape? mode.ascii c then return .anchor a
  if let some cls := classEscape? mode.ascii c then
    return .char (.ofMembers mode.folding false [.named cls])
  if let some code := controlEscape? c then return literal mode code
  if let some code ← codeEscape? c then return literal mode code
  if c.isDigit then return ← digitEscape mode c
  if c.isAlpha then fail 2 (.badEscape (String.ofList ['\\', c]))
  return literal mode c.toNat

/-! ### Sets -/

def member (ascii : Bool) (t : Token) : Reader Member :=
  if t.escaped then setEscape ascii t.char else return .code t.char.toNat

/-- The members of a set up to its closing bracket; a bracket in first place is a member. -/
def members (ascii : Bool) (start : Nat) : Nat → List Member → Reader (List Member)
  | 0, _ => failAt start .unterminatedSet
  | fuel + 1, found => do
      match ← next with
      | none => failAt start .unterminatedSet
      | some t =>
          if t.isChar ']' && !found.isEmpty then return found
          let first ← member ascii t
          if !(← accept '-') then return ← members ascii start fuel (found ++ [first])
          match ← next with
          | none => failAt start .unterminatedSet
          | some u =>
              if u.isChar ']' then return found ++ [first, .code '-'.toNat]
              match first, ← member ascii u with
              | .code low, .code high =>
                  if high < low then
                    fail (t.chars.length + 1 + u.chars.length) (.badRange t.text u.text)
                  members ascii start fuel (found ++ [.range low high])
              | _, _ => fail (t.chars.length + 1 + u.chars.length) (.badRange t.text u.text)

/-- A bracketed set, whose opening bracket stands at `start`. -/
def bracketed (mode : Mode) (start : Nat) : Reader Pattern := do
  let negated ← accept '^'
  match (← members mode.ascii start ((← left) + 1) []).eraseDups with
  | [.code n] => return .char (.ofCode mode.folding negated n)
  | ms => return .char (.ofMembers mode.folding negated ms)

/-! ### Repetition -/

/-- Counts from here on are too large for a repetition. -/
def countLimit : Nat := Nat.pow 2 32 - 1

/-- The counts between braces, the opening one taken; none if this is no repetition. -/
def interval : Reader (Option (Nat × Option Nat)) := do
  let here ← get
  let start ← place
  if let some t ← peek then
    if t.isChar '\x7d' then return none
  let low ← takeWhile Char.isDigit (← left)
  let high ← if ← accept ',' then takeWhile Char.isDigit (← left) else pure low
  if !(← accept '\x7d') then
    set here
    return none
  let least := inBase 10 low
  if least ≥ countLimit then throw .countTooLarge
  if high.isEmpty then return some (least, none)
  let most := inBase 10 high
  if most ≥ countLimit then throw .countTooLarge
  if most < least then failAt start .emptyInterval
  return some (least, some most)

/-- A mark after a repetition: a question mark makes it lazy, a plus possessive. -/
def greed : Reader Greed := do
  if ← accept '?' then return .lazy
  if ← accept '+' then return .possessive
  return .greedy

/-- What the repetition mark `c`, just taken, asks for; none if it is a plain brace. -/
def repetition (c : Char) : Reader (Option (Nat × Option Nat)) :=
  match c with
  | '?' => return some (0, some 1)
  | '*' => return some (0, none)
  | '+' => return some (1, none)
  | _ => interval

/-! ### Flags -/

abbrev Flags := List Char

def isFlag (c : Char) : Bool :=
  "iLmsxatu".toList.contains c

/-- Flags that choose the character set and exclude each other. -/
def isFixedFlag (c : Char) : Bool :=
  c = 'a' || c = 'L' || c = 'u'

/-- A letter that is no flag where a flag could stand, or the lack of one. -/
def badFlag {α : Type} (t : Option Token) (missing : Reason) : Reader α :=
  match t with
  | none => fail 0 missing
  | some t =>
      fail t.chars.length (if t.isPlain Unicode.isLetter then .unknownFlag else missing)

/-- Flags to turn on, and the character after them: a closing parenthesis, a dash or a colon. -/
def flagsOn : Nat → Char → Flags → Reader (Flags × Char)
  | 0, _, _ => fail 0 .missingFlagEnd
  | fuel + 1, c, on => do
      if c = 'L' then fail 0 .localeFlag
      if isFixedFlag c && on.any (fun d => isFixedFlag d && d != c) then fail 0 .incompatibleFlags
      let t ← next
      match t.filter (·.isPlain fun c => c = ')' || c = '-' || c = ':' || isFlag c) with
      | none => badFlag t .missingFlagEnd
      | some t =>
          if isFlag t.char then flagsOn fuel t.char (on ++ [c])
          else return (on ++ [c], t.char)

/-- Flags to turn off, up to and with the colon. -/
def flagsOff : Nat → Char → Flags → Reader Flags
  | 0, _, _ => fail 0 .missingColon
  | fuel + 1, c, off => do
      if isFixedFlag c then fail 0 .fixedFlagOff
      let t ← next
      match t.filter (·.isPlain fun c => c = ':' || isFlag c) with
      | none => badFlag t .missingColon
      | some t =>
          if isFlag t.char then flagsOff fuel t.char (off ++ [c])
          else return off ++ [c]

/-- The flags from their first character, `c`, on. Those for the whole pattern come without a list
of flags to turn off. -/
def flags (c : Char) : Reader (Flags × Option Flags) := do
  let fuel := (← left) + 1
  let (on, stop) ← if c = '-' then pure ([], c) else flagsOn fuel c []
  if stop = ')' then return (on, none)
  if on.contains 't' then fail 1 .wholeFlagOn
  let off ←
    if stop = '-' then
      let t ← next
      match t.filter (·.isPlain isFlag) with
      | none => badFlag t .missingFlag
      | some t => flagsOff fuel t.char []
    else pure []
  if off.contains 't' then fail 1 .wholeFlagOff
  if on.any off.contains then fail 1 .flagOnAndOff
  return (on, some off)

end Reader

def Mode.change (m : Mode) (on off : List Char) : Mode where
  ignoreCase := (m.ignoreCase || on.contains 'i') && !off.contains 'i'
  multiline := (m.multiline || on.contains 'm') && !off.contains 'm'
  dotAll := (m.dotAll || on.contains 's') && !off.contains 's'
  verbose := (m.verbose || on.contains 'x') && !off.contains 'x'
  ascii := if on.contains 'u' then false else m.ascii || on.contains 'a'

namespace Reader

variable [CharacterNames]

/-! ### Sequences and groups -/

/-- What stands in a parenthesis that only holds together, before it is known to be repeated, or
any other piece. -/
inductive Part where
  | piece (p : Piece)
  | bundle (ps : List Piece)

namespace Part

/-- The pieces that a part brings to a sequence, if it is not repeated. -/
def pieces : Part → List Piece
  | piece p => [p]
  | bundle ps => ps

def pattern (part : Part) : Pattern :=
  joinPieces part.pieces

def plain (p : Pattern) : Part := piece ⟨p, false⟩

/-- Why the part cannot be repeated: an anchor not at all, a repetition not once more. -/
def obstacle? : Part → Option Reason
  | piece ⟨.anchor _, false⟩ => some .nothingToRepeat
  | piece ⟨.loop .., false⟩ => some .multipleRepeat
  | _ => none

end Part

/-- What a parenthesis opens: a part, nothing (a comment), or flags for the whole pattern. -/
inductive Opened where
  | part (p : Part)
  | comment
  | flags (mode : Mode)

/-- Takes tokens up to and with the one that is the character; tells whether there was one. -/
def skipPast (c : Char) : Nat → Reader Bool
  | 0 => return false
  | fuel + 1 => do
      match ← next with
      | none => return false
      | some t => if t.isChar c then return true else skipPast c fuel

def close (start : Nat) : Reader Unit := do
  if !(← accept ')') then failAt start .unterminatedGroup

/-- The number written in a condition, as an integer: blanks around it, a sign, and low lines
between digits are allowed. -/
def conditionNumber? (name : String) : Option Int :=
  let trim (cs : List Char) := cs.dropWhile Unicode.isSpace
  let body := (trim (trim name.toList).reverse).reverse
  let (negative, body) := match body with
    | '-' :: r => (true, r)
    | '+' :: r => (false, r)
    | r => (false, r)
  let rec digits : Bool → List Char → Option (List Char)
    | afterDigit, [] => if afterDigit then some [] else none
    | afterDigit, c :: r =>
        if Unicode.isDigit c then (digits true r).map (c :: ·)
        else if c = '_' && afterDigit then digits false r
        else none
  (digits false body).map fun ds =>
    if negative then -(Unicode.decimalValue ds : Int) else Unicode.decimalValue ds

def groupLimit : Nat := 1073741823

/-- The group that a condition asks for, by name or by number. A number may belong to a group that
comes later. -/
def conditionGroup : Reader Nat := do
  let name ← name ')' "group name"
  let back := name.length + 1
  if Unicode.isIdentifier name.toList then
    match (← get).names.lookup name with
    | some number => return number
    | none => fail back (.unknownGroup name)
  match conditionNumber? name with
  | none => fail back (.badGroupName name)
  | some n =>
      if n < 0 then fail back (.badGroupName name)
      if n = 0 then fail back .badGroupNumber
      if n ≥ groupLimit then fail back (.badReference n.toNat)
      let here := (← place) - back
      if ((← get).asked.lookup n.toNat).isNone then
        modify fun s => { s with asked := s.asked ++ [(n.toNat, here)] }
      return n.toNat

def namedReference (mode : Mode) : Reader Pattern := do
  let name ← name ')' "group name"
  checkName name
  match (← get).names.lookup name with
  | none => fail (name.length + 1) (.unknownGroup name)
  | some number =>
      if !isClosed (← get) number then fail (name.length + 1) .openGroup
      checkLookBehind number
      return .backref number mode.folding

/-- A look-around; `sub` reads what is between the parentheses. -/
def lookAround (behind negated : Bool) (start : Nat) (sub : Reader (List Piece)) :
    Reader Opened := do
  let outer := (← get).lookBehind
  if behind && outer.isNone then
    modify fun s => { s with lookBehind := some s.nextGroup }
  let p := joinPieces (← sub)
  if behind && outer.isNone then modify fun s => { s with lookBehind := none }
  close start
  let p ← if behind then
      let s ← get
      pure (Pattern.behind negated (p.width (groupWidth s)) p)
    else pure (Pattern.ahead negated p)
  return .part (.plain p)

def capture (name : Option String) (start : Nat) (sub : Reader (List Piece)) : Reader Opened := do
  let number ← openGroup name
  let p := joinPieces (← sub)
  close start
  closeGroup number p
  return .part (.plain (.group number p))

/-- A choice by whether a group has taken part; `sequence` reads one alternative. -/
def condition (start : Nat) (sequence : Reader (List Piece)) : Reader Opened := do
  let group ← conditionGroup
  checkLookBehind group
  let yes ← sequence
  let no ← if ← accept '|' then
      let no ← sequence
      if let some t ← peek then
        if t.isChar '|' then fail 0 .tooManyBranches
      pure no
    else pure []
  close start
  return .part (.plain (.ifGroup group (joinPieces yes) (joinPieces no)))

/-- What follows an opening parenthesis at `start`. `sub` reads alternatives and `sequence` a single
one, each under given flags; flags for the whole pattern may stand only `atStart`. -/
def opened (mode : Mode) (atStart : Bool) (start : Nat)
    (sub sequence : Mode → Reader (List Piece)) : Reader Opened := do
  if !(← accept '?') then return ← capture none start (sub mode)
  let wrap (part : List Piece → Part) (mode : Mode) : Reader Opened := do
    let ps ← sub mode
    close start
    return .part (part ps)
  let unknown (t : Token) (before : String) : Reader Opened :=
    fail (t.chars.length + 1 + before.length) (.unknownExtension (before ++ t.text))
  match ← next with
  | none => fail 0 .unexpectedEnd
  | some t =>
      if t.escaped then return ← unknown t ""
      match t.char with
      | 'P' =>
          if ← accept '<' then
            let name ← name '>' "group name"
            checkName name
            return ← capture (some name) start (sub mode)
          if ← accept '=' then return .part (.plain (← namedReference mode))
          match ← next with
          | none => fail 0 .unexpectedEnd
          | some u => unknown u "P"
      | ':' => wrap .bundle mode
      | '>' => wrap (fun ps => .plain (.atomic (joinPieces ps))) mode
      | '#' =>
          if ← skipPast ')' ((← left) + 1) then return .comment
          failAt start .unterminatedComment
      | '=' => lookAround false false start (sub mode)
      | '!' => lookAround false true start (sub mode)
      | '<' =>
          match ← next with
          | none => fail 0 .unexpectedEnd
          | some u =>
              if u.isChar '=' then lookAround true false start (sub mode)
              else if u.isChar '!' then lookAround true true start (sub mode)
              else unknown u "<"
      | '(' => condition start (sequence mode)
      | c =>
          if !(isFlag c || c = '-') then return ← unknown t ""
          match ← flags c with
          | (on, some off) => wrap (fun ps => .piece (.underFlags ps)) (mode.change on off)
          | (on, none) =>
              if !atStart then failAt start .flagsNotAtStart
              let mode := mode.change on []
              modify fun s => { s with mode := mode, wholeFlags := s.wholeFlags ++ on }
              return .flags mode

/-- Repeats the last part, after the repetition mark `c` at `start` was taken. A brace that starts
no repetition is a part of its own. -/
def repeatLast (mode : Mode) (c : Char) (start : Nat) (parts : List Part) :
    Reader (List Part) := do
  match ← repetition c with
  | none => return .plain (literal mode c.toNat) :: parts
  | some (least, most) =>
      match parts with
      | [] => failAt start .nothingToRepeat
      | part :: earlier =>
          if let some reason := part.obstacle? then failAt start reason
          return .plain (.loop least most (← greed) part.pattern) :: earlier

def single (mode : Mode) (t : Token) : Reader Pattern := do
  if t.escaped then return ← escape mode t.char
  match t.char with
  | '.' => return .char (.any mode.dotAll)
  | '^' => return .anchor (if mode.multiline then .lineStart else .firstLineStart)
  | '$' => return .anchor (if mode.multiline then .lineEnd else .lastLineEnd)
  | '[' => bracketed mode t.start
  | c => return literal mode c.toNat

def isBlank (c : Char) : Bool :=
  c = ' ' || ('\t' ≤ c && c ≤ '\r')

def isRepetitionMark (c : Char) : Bool :=
  c = '*' || c = '+' || c = '?' || c = '\x7b'

mutual

/-- Alternatives, each a sequence of pieces. Each step of the two readers takes a token or follows
one that did, so twice the number of tokens bounds them. -/
def alternatives : Nat → Mode → Bool → Bool → Reader (List (List Piece))
  | 0, _, _, _ => fail 0 .unexpectedEnd
  | fuel + 1, mode, outermost, first => do
      let ps ← sequence fuel mode (outermost && first) []
      if ← accept '|' then
        let s ← get
        let mode := if outermost then s.mode else mode
        return ps :: (← alternatives fuel mode outermost false)
      return [ps]

/-- Parts one after another, up to the end, a bar or a closing parenthesis; those before come last
one first. -/
def sequence : Nat → Mode → Bool → List Part → Reader (List Piece)
  | 0, _, _, _ => fail 0 .unexpectedEnd
  | fuel + 1, mode, atStart, parts => do
      match (← peek).filter fun t => !t.isPlain fun c => c = '|' || c = ')' with
      | none => return parts.reverse.flatMap Part.pieces
      | some t =>
          let _ ← next
          if mode.verbose && t.isPlain isBlank then
            return ← sequence fuel mode atStart parts
          if mode.verbose && t.isChar '#' then
            let _ ← skipPast '\n' ((← left) + 1)
            return ← sequence fuel mode atStart parts
          if t.isPlain isRepetitionMark then
            return ← sequence fuel mode atStart (← repeatLast mode t.char t.start parts)
          if t.isChar '(' then
            match ← opened mode (atStart && parts.isEmpty) t.start
                (fun mode => do return choose mode.folding (← alternatives fuel mode false true))
                (fun mode => sequence fuel mode false []) with
            | .part part => sequence fuel mode atStart (part :: parts)
            | .comment => sequence fuel mode atStart parts
            | .flags mode => sequence fuel mode atStart parts
          else
            sequence fuel mode atStart (.plain (← single mode t) :: parts)

end

/-- The whole pattern: alternatives up to the end, and no condition on a group that is not there. -/
def whole (fuel : Nat) : Reader Pattern := do
  checkView
  let alternatives ← alternatives fuel (← get).mode true true
  let s ← get
  if s.wholeFlags.contains 'a' && s.wholeFlags.contains 'u' then throw .asciiAndUnicode
  if (← peek).isSome then fail 0 .unbalanced
  match s.asked.find? fun asked => s.nextGroup ≤ asked.1 with
  | some (number, here) => failAt here (.badReference number)
  | none => return joinPieces (choose s.mode.folding alternatives)

end Reader

variable [CharacterNames] in
/-- Reads a written pattern under the given flags, and makes sure at last that it can be searched
with. -/
def read (written : String) (mode : Mode) : Except Fault Compiled :=
  let (ts, dangling) := tokens 0 written.toList
  let start : Progress := { rest := ts, dangling, size := written.length, mode }
  match Reader.whole (2 * ts.length + 4) start with
  | .error fault _ => .error fault
  | .ok p s =>
      match p.objection? (s.wholeFlags.contains 't') with
      | some reason => .error (.bad reason none)
      | none =>
          if p.looksTooFarBehind then .error .lookBehindTooWide
          else .ok ⟨p, s.nextGroup - 1, (p.width (Reader.groupWidth s)).least⟩

end Snippet.Pattern
