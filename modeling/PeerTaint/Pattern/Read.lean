import PeerTaint.Bounds
import PeerTaint.Pattern.Size
import PeerTaint.Text.Decimal
import PeerTaint.Unicode.CaseFold
import PeerTaint.Unicode.Lookup

/-!
The notation of patterns.

A pattern is written with literals, `.`, bracketed sets with ranges, nested sets, set operations and
named classes, escapes, groups, alternation, repetition, assertions and flags. There are no
look-around assertions and no back-references. Reading gives up on the first fault. A text has no
pattern if it cannot be read, if its parts are nested too deeply, or if the pattern would be too
large.
-/

namespace PeerTaint.Pattern

/-- Switches that change what the notation means. -/
structure Flags where
  ignoreCase : Bool := false
  multiLine : Bool := false
  dotAll : Bool := false
  swapGreed : Bool := false
  unicode : Bool := true
  crlf : Bool := false
  /-- Blanks and comments between the parts of a pattern are skipped. -/
  verbose : Bool := false

/-- What is left to read, the switches in force, and the group names in use. -/
structure Source where
  rest : List Char
  flags : Flags := {}
  names : List (List Char) := []

/-- A reader of a part of a pattern. -/
abbrev Reader := StateT Source Option

/-! ## Characters -/

/-- The next character. -/
def peek : Reader (Option Char) := do return (← get).rest.head?

/-- The character after the next one. -/
def peekSecond : Reader (Option Char) := do return (← get).rest.tail.head?

/-- Moves past one character. -/
def advance : Reader Unit := modify fun s => { s with rest := s.rest.tail }

/-- What follows the blanks and comments at the beginning of a text. -/
def afterBlanks : Bool → List Char → List Char
  | _, [] => []
  | true, c :: cs => afterBlanks (c ≠ '\n') cs
  | false, c :: cs =>
    if Unicode.blanks.has c then afterBlanks false cs
    else if c = '#' then afterBlanks true cs
    else c :: cs

/-- Skips blanks and comments where they do not count. -/
def skipBlanks : Reader Unit :=
  modify fun s => if s.flags.verbose then { s with rest := afterBlanks false s.rest } else s

/-- Moves past one character and the blanks and comments behind it. -/
def advanceOver : Reader Unit := do
  advance
  skipBlanks

/-- The next character, which has to exist. -/
def current : Reader Char := do
  match ← peek with
  | some c => return c
  | none => failure

/-- Moves past a given character, which has to come next. -/
def expect (c : Char) : Reader Unit := do
  if (← current) = c then advance else failure

/-- Moves past a given character if it comes next. -/
def accept (c : Char) : Reader Bool := do
  if (← peek) = some c then
    advance
    return true
  else return false

/-- Splits off characters that satisfy a condition, at most as many as a limit says. Where blanks
and comments do not count they are left out, also behind the last of these characters. -/
def collectFrom (isVerbose : Bool) (isWanted : Char → Bool) :
    Bool → Option Nat → List Char → List Char × List Char
  | _, _, [] => ([], [])
  | inComment, limit, c :: cs =>
    if inComment then collectFrom isVerbose isWanted (c ≠ '\n') limit cs
    else if isVerbose && Unicode.blanks.has c then collectFrom isVerbose isWanted false limit cs
    else if isVerbose && c = '#' then collectFrom isVerbose isWanted true limit cs
    else if limit = some 0 || !isWanted c then ([], c :: cs)
    else
      let (found, rest) := collectFrom isVerbose isWanted false (limit.map (· - 1)) cs
      (c :: found, rest)

/-- Collects characters that satisfy a condition, at most as many as a limit says. -/
def collect (isWanted : Char → Bool) (limit : Option Nat) : Reader (List Char) := do
  let s ← get
  let (found, rest) := collectFrom s.flags.verbose isWanted false limit s.rest
  set { s with rest }
  return found

/-- Collects as many characters as satisfy a condition. -/
def collectAll (isWanted : Char → Bool) : Reader (List Char) := collect isWanted none

/-! ## Escapes -/

/-- The value of a hexadecimal digit. -/
def hexValue? (c : Char) : Option Nat :=
  if Decimal.isDigit c then some (c.toNat - 48)
  else if 'a' ≤ c ∧ c ≤ 'f' then some (c.toNat - 87)
  else if 'A' ≤ c ∧ c ≤ 'F' then some (c.toNat - 55)
  else none

/-- The character whose code point some hexadecimal digits denote. -/
def hexChar? (cs : List Char) : Option Char := do
  let n ← cs.foldlM (fun n c => (hexValue? c).map (16 * n + ·)) 0
  if n.isValidChar then some (Char.ofNat n) else none

/-- What an escape or a single character stands for. -/
inductive Atom where
  | literal (c : Char)
  | oneOf (s : CharSet)
  | look (a : Assertion)

/-- A character written by its code point, in `digits` digits or in braces. Two digits that denote a
byte which is not a character on its own have no meaning without Unicode. -/
def hexEscape (digits : Nat) : Reader Atom := do
  advanceOver
  if (← current) = '\x7b' then
    advanceOver
    let hex ← collectAll fun c => (hexValue? c).isSome
    if hex.isEmpty ∨ (← current) ≠ '\x7d' then failure
    advanceOver
    return .literal (← hexChar? hex)
  else
    let hex ← collect (fun c => (hexValue? c).isSome) (some digits)
    if hex.length ≠ digits then failure
    let c ← hexChar? hex
    if digits = 2 ∧ 128 ≤ c.toNat ∧ !(← get).flags.unicode then failure
    return .literal c

/-- The blanks of the notation. -/
def spaceSet (flags : Flags) : CharSet :=
  if flags.unicode then Unicode.blanks else ⟨[(9, 13), (32, 32)]⟩

/-- The digits of the notation. -/
def digitSet (flags : Flags) : CharSet := if flags.unicode then Unicode.digits else ⟨[(48, 57)]⟩

/-- The characters of words of the notation. -/
def letterSet (flags : Flags) : CharSet :=
  if flags.unicode then Unicode.wordChars else ⟨[(48, 57), (65, 90), (95, 95), (97, 122)]⟩

/-- A complement, which only makes sense over whole characters. -/
def complement (flags : Flags) (s : CharSet) : Reader CharSet :=
  if flags.unicode then pure s.compl else failure

/-- A set together with the other cases of its letters, where case is ignored. -/
def foldCase (flags : Flags) (s : CharSet) : CharSet :=
  if !flags.ignoreCase then s
  else if flags.unicode then Unicode.CaseFold.closure s
  else Unicode.CaseFold.asciiClosure s

/-- Splits a text at the first place where another text occurs in it. -/
def splitAt? (mark : List Char) : List Char → Option (List Char × List Char)
  | [] => none
  | c :: cs =>
    if mark.isPrefixOf (c :: cs) then some ([], (c :: cs).drop mark.length)
    else (splitAt? mark cs).map fun s => (c :: s.1, s.2)

/-- The set that the text in the braces of a class by name stands for. -/
def classByName? (name : List Char) : Option CharSet :=
  match splitAt? ['!', '='] name <|> splitAt? [':'] name <|> splitAt? ['='] name with
  | some (property, value) => Unicode.valued? (String.ofList property) (String.ofList value)
  | none => Unicode.named? (String.ofList name)

/-- A class by its name: in braces, or of one letter. -/
def namedClass (isNegated : Bool) : Reader Atom := do
  let flags := (← get).flags
  advanceOver
  let c ← current
  let name ← if c = '\x7b' then do
      advanceOver
      let name ← collectAll (· ≠ '\x7d')
      expect '\x7d'
      pure name
    else if c = '\\' then failure
    else do
      advanceOver
      pure [c]
  if !flags.unicode then failure
  let s := foldCase flags (← classByName? name)
  return .oneOf (if isNegated then s.compl else s)

/-- Characters that stand for themselves behind a backslash. -/
def isEscapable (c : Char) : Bool :=
  decide (c.toNat < 128) && !c.isAlphanum && c ≠ '<' && c ≠ '>'

/-- A word boundary, or a special one such as `\b{start}`. A brace with anything but a name in it
belongs to a repetition. -/
def wordBoundary (isAscii : Bool) : Reader Assertion := do
  let isName := fun c : Char => c.isAlpha || c = '-'
  let s ← get
  if (← peek) ≠ some '\x7b' then return .boundary isAscii
  advanceOver
  if !isName (← current) then
    set s
    return .boundary isAscii
  let name ← collectAll isName
  expect '\x7d'
  match String.ofList name with
  | "start" => return .wordStart isAscii
  | "end" => return .wordEnd isAscii
  | "start-half" => return .wordStartHalf isAscii
  | "end-half" => return .wordEndHalf isAscii
  | _ => failure

/-- Reads what follows a backslash. -/
def escape : Reader Atom := do
  let flags := (← get).flags
  let isAscii := !flags.unicode
  match ← current with
  | 'x' => hexEscape 2
  | 'u' => hexEscape 4
  | 'U' => hexEscape 8
  | 'p' => namedClass false
  | 'P' => namedClass true
  | c =>
    advance
    match c with
    | 'd' => return .oneOf (digitSet flags)
    | 's' => return .oneOf (spaceSet flags)
    | 'w' => return .oneOf (letterSet flags)
    | 'D' => return .oneOf (← complement flags (digitSet flags))
    | 'S' => return .oneOf (← complement flags (spaceSet flags))
    | 'W' => return .oneOf (← complement flags (letterSet flags))
    | 'a' => return .literal '\x07'
    | 'f' => return .literal '\x0c'
    | 't' => return .literal '\t'
    | 'n' => return .literal '\n'
    | 'r' => return .literal '\r'
    | 'v' => return .literal '\x0b'
    | 'A' => return .look .startText
    | 'z' => return .look .endText
    | 'b' => return .look (← wordBoundary isAscii)
    | 'B' => return .look (.notBoundary isAscii)
    | '<' => return .look (.wordStart isAscii)
    | '>' => return .look (.wordEnd isAscii)
    | c => if isEscapable c then return .literal c else failure

/-! ## Nesting -/

/-- How deep the parts of a pattern may be nested. -/
def nestLimit : Nat := 250

/-- The depth of what holds parts of the given depth. -/
def deeper (depth : Nat) : Reader Nat := if depth < nestLimit then return depth + 1 else failure

/-- The depth of several parts together: one part alone is not nested. -/
def depthOf : List Nat → Reader Nat
  | [] => return 0
  | [depth] => return depth
  | depths => deeper (depths.foldl Nat.max 0)

/-! ## Bracketed sets -/

/-- A set operation. -/
inductive SetOp where
  | inter
  | diff
  | symmDiff

/-- The result of a set operation. -/
def SetOp.apply : SetOp → CharSet → CharSet → CharSet
  | inter => .inter
  | diff => .diff
  | symmDiff => .symmDiff

/-- A bracketed set whose closing bracket is not reached yet. -/
structure OpenSet where
  isNegated : Bool
  /-- The left side of a set operation, with its depth. -/
  left : Option (SetOp × CharSet × Nat) := none
  /-- What was read since the last set operation. -/
  items : List CharSet := []
  /-- The depths of the items. -/
  depths : List Nat := []

namespace OpenSet

/-- Adds an item. -/
def add (o : OpenSet) (s : CharSet) (depth : Nat) : OpenSet :=
  { o with items := s :: o.items, depths := depth :: o.depths }

/-- The set read so far, with its depth. Both sides of an operation are folded before it. -/
def value (o : OpenSet) (flags : Flags) : Reader (CharSet × Nat) := do
  let right := CharSet.unions o.items
  let depth ← depthOf o.depths
  match o.left with
  | none => return (right, depth)
  | some (op, left, leftDepth) =>
    let set := op.apply (foldCase flags left) (foldCase flags right)
    return (set, ← deeper (Nat.max leftDepth depth))

/-- Begins the right side of a set operation. -/
def operate (o : OpenSet) (flags : Flags) (op : SetOp) : Reader OpenSet := do
  let (left, depth) ← o.value flags
  return { isNegated := o.isNegated, left := some (op, left, depth) }

/-- The whole set, with its depth. Without Unicode a set holds characters of ASCII alone. -/
def close (o : OpenSet) (flags : Flags) : Reader (CharSet × Nat) := do
  let (s, depth) ← o.value flags
  let s := foldCase flags s
  return (← if o.isNegated then complement flags s else pure s, ← deeper depth)

end OpenSet

/-- The ASCII classes, by name. -/
def asciiClass? : String → Option CharSet
  | "alnum" => some ⟨[(48, 57), (65, 90), (97, 122)]⟩
  | "alpha" => some ⟨[(65, 90), (97, 122)]⟩
  | "ascii" => some ⟨[(0, 127)]⟩
  | "blank" => some ⟨[(9, 9), (32, 32)]⟩
  | "cntrl" => some ⟨[(0, 31), (127, 127)]⟩
  | "digit" => some ⟨[(48, 57)]⟩
  | "graph" => some ⟨[(33, 126)]⟩
  | "lower" => some ⟨[(97, 122)]⟩
  | "print" => some ⟨[(32, 126)]⟩
  | "punct" => some ⟨[(33, 47), (58, 64), (91, 96), (123, 126)]⟩
  | "space" => some ⟨[(9, 13), (32, 32)]⟩
  | "upper" => some ⟨[(65, 90)]⟩
  | "word" => some ⟨[(48, 57), (65, 90), (95, 95), (97, 122)]⟩
  | "xdigit" => some ⟨[(48, 57), (65, 70), (97, 102)]⟩
  | _ => none

/-- Reads an ASCII class such as `[:alpha:]`, or nothing at all. -/
def asciiClass : Reader (Option CharSet) := do
  let s ← get
  match s.rest with
  | '[' :: ':' :: cs =>
    let isNegated := cs.head? = some '^'
    let cs := if isNegated then cs.tail else cs
    let name := cs.takeWhile (· ≠ ':')
    match asciiClass? (String.ofList name), cs.drop name.length with
    | some found, ':' :: ']' :: rest =>
      set { s with rest }
      let found := foldCase s.flags found
      return some (← if isNegated then complement s.flags found else pure found)
    | _, _ => return none
  | _ => return none

/-- Reads one character or class of a bracketed set. -/
def setAtom : Reader Atom := do
  let c ← current
  advance
  if c = '\\' then escape else return .literal c

/-- The code point of a character in a set. Without Unicode it is one of ASCII. -/
def setChar (c : Char) : Reader Nat := do
  if c.toNat < 128 ∨ (← get).flags.unicode then return c.toNat else failure

/-- The first character that is no blank, where the inside of a comment counts too; if there is
none, the first character of all. -/
def peekOver (cs : List Char) : Option Char :=
  let afterMark := fun cs : List Char => cs.dropWhile Unicode.blanks.has
  let found := match afterMark cs with
    | '#' :: comment => afterMark comment
    | cs => cs
  found.head?.or cs.head?

/-- The character behind a dash. A bracket or a dash there means that the dash is no range. -/
def peekBehindDash : Reader (Option Char) := do
  let s ← get
  return if s.flags.verbose then peekOver s.rest.tail else s.rest.tail.head?

/-- Reads one character, class or range of a bracketed set. -/
def setItem : Reader CharSet := do
  let low ← setAtom
  skipBlanks
  let behind ← peekBehindDash
  let isRange := (← current) = '-' && behind ≠ some ']' && behind ≠ some '-'
  if isRange then
    advanceOver
    match low, ← setAtom with
    | .literal c, .literal d =>
      let (low, high) := (← setChar c, ← setChar d)
      if low ≤ high then return .ofRanges [(low, high)] else failure
    | _, _ => failure
  else
    match low with
    | .literal c =>
      let n ← setChar c
      return ⟨[(n, n)]⟩
    | .oneOf found => return found
    | .look _ => failure

/-- Reads the beginning of a bracketed set: whether it is negated, and the dashes or the closing
bracket that stand for themselves there. -/
def openSet : Reader OpenSet := do
  advanceOver
  let isNegated := (← current) = '^'
  if isNegated then advanceOver
  let dashes ← collectAll (· = '-')
  let o := dashes.foldl (fun o c => o.add (.single c) 0) { isNegated }
  if (← current) = ']' ∧ dashes.isEmpty then
    advanceOver
    let _ ← current
    return o.add (.single ']') 0
  else return o

/-- Reads the rest of a bracketed set that lies in others. -/
def setRest : Nat → List OpenSet → OpenSet → Reader (CharSet × Nat)
  | 0, _, _ => failure
  | fuel + 1, outer, o => do
    skipBlanks
    let flags := (← get).flags
    match ← current, ← peekSecond with
    | '[', _ =>
      match ← asciiClass with
      | some ascii => setRest fuel outer (o.add ascii 0)
      | none => setRest fuel (o :: outer) (← openSet)
    | ']', _ =>
      advance
      let (s, depth) ← o.close flags
      match outer with
      | [] => return (s, depth)
      | o :: outer => setRest fuel outer (o.add s depth)
    | '&', some '&' =>
      advance
      advance
      setRest fuel outer (← o.operate flags .inter)
    | '-', some '-' =>
      advance
      advance
      setRest fuel outer (← o.operate flags .diff)
    | '~', some '~' =>
      advance
      advance
      setRest fuel outer (← o.operate flags .symmDiff)
    | _, _ => setRest fuel outer (o.add (← setItem) 0)

/-- Reads a bracketed set from its opening bracket on, of at most `fuel` items. -/
def bracketed (fuel : Nat) : Reader (CharSet × Nat) := do setRest fuel [] (← openSet)

/-! ## Parts of a pattern -/

/-- A part of a pattern, with the depth of its notation. -/
structure Part where
  pattern : Pattern
  depth : Nat := 0
  /-- Whether the part only sets flags; such a part cannot be repeated. -/
  isSwitch : Bool := false

/-- A group whose closing parenthesis is not reached yet. -/
structure OpenGroup where
  isCapture : Bool := false
  /-- The flags in force outside the group. -/
  outside : Flags := {}
  /-- The alternatives read so far, last first. -/
  branches : List Part := []
  /-- The parts of the current alternative, last first. -/
  parts : List Part := []

namespace OpenGroup

/-- Adds a part to the current alternative. -/
def add (g : OpenGroup) (p : Part) : OpenGroup := { g with parts := p :: g.parts }

/-- The current alternative. -/
def branch (g : OpenGroup) : Reader Part := do
  let parts := g.parts.reverse
  return { pattern := sequence (parts.map (·.pattern)), depth := ← depthOf (parts.map (·.depth)) }

/-- Begins a new alternative. -/
def nextBranch (g : OpenGroup) : Reader OpenGroup := do
  return { g with branches := (← g.branch) :: g.branches, parts := [] }

/-- All alternatives together. -/
def body (g : OpenGroup) : Reader Part := do
  let branches := ((← g.branch) :: g.branches).reverse
  return {
    pattern := anyOf (branches.map (·.pattern))
    depth := ← depthOf (branches.map (·.depth)) }

/-- The whole group. -/
def close (g : OpenGroup) : Reader Part := do
  let body ← g.body
  return {
    pattern := if g.isCapture then .group body.pattern else body.pattern
    depth := ← deeper body.depth }

/-- Repeats the last part. -/
def repeatLast (g : OpenGroup) (min : Nat) (max : Option Nat) : Reader OpenGroup := do
  match g.parts with
  | [] => failure
  | p :: parts =>
    if p.isSwitch then failure
    let pattern := repeated p.pattern min max
    return { g with parts := { pattern, depth := ← deeper p.depth } :: parts }

end OpenGroup

/-! ## Repetition -/

/-- Moves past blanks, wherever they stand. -/
def skipSpace : Reader Unit :=
  modify fun s => { s with rest := s.rest.dropWhile Unicode.blanks.has }

/-- Reads a number of repetitions, with blanks around it. -/
def repetitionCount : Reader (Option Nat) := do
  skipSpace
  let digits ← collectAll Decimal.isDigit
  let _ ← collectAll Unicode.blanks.has
  match Decimal.read? digits with
  | none => return none
  | some n => if n < bound32 then return some n else failure

/-- Reads the bounds of a repetition from its opening brace on. -/
def repetitionBounds : Reader (Nat × Option Nat) := do
  advanceOver
  let low ← repetitionCount
  match low, ← current with
  | some n, '\x7d' => return (n, some n)
  | some m, ',' =>
    advanceOver
    if (← current) = '\x7d' then return (m, none)
    match ← repetitionCount, ← current with
    | some n, '\x7d' => if m ≤ n then return (m, some n) else failure
    | _, _ => failure
  | _, _ => failure

/-- Moves past a mark that makes a repetition prefer few over many. It makes no difference to
whether a text contains a match. -/
def skipPreference : Reader Unit := do
  let _ ← accept '?'
  return ()

/-! ## Groups and flags -/

/-- Sets a flag by its letter. -/
def Flags.assign (flags : Flags) (c : Char) (on : Bool) : Option Flags :=
  match c with
  | 'i' => some { flags with ignoreCase := on }
  | 'm' => some { flags with multiLine := on }
  | 's' => some { flags with dotAll := on }
  | 'U' => some { flags with swapGreed := on }
  | 'u' => some { flags with unicode := on }
  | 'R' => some { flags with crlf := on }
  | 'x' => some { flags with verbose := on }
  | _ => none

/-- Applies flag letters; those behind a dash are switched off. No letter and no dash is repeated,
and a dash does not come last. -/
def Flags.apply (flags : Flags) (on : Bool) (seen : List Char) : List Char → Option Flags
  | [] => if seen.head? = some '-' then none else some flags
  | c :: cs =>
    if seen.contains c then none
    else if c = '-' then flags.apply false (c :: seen) cs
    else (flags.assign c on).bind fun flags => flags.apply on (c :: seen) cs

/-- Whether the name of a group may begin with a character. -/
def isNameStart (c : Char) : Bool := c = '_' || Unicode.Property.alphabetic.has c

/-- Whether the name of a group may go on with a character. -/
def isNameChar (c : Char) : Bool :=
  isNameStart c || c = '.' || c = '[' || c = ']' ||
    (Unicode.inCategories Unicode.Category.numbers).has c

/-- Reads the name of a group up to its closing bracket. No two groups have the same name. -/
def groupName : Reader Unit := do
  let s ← get
  let name := s.rest.takeWhile (· ≠ '>')
  let isName := match name with
    | [] => false
    | c :: cs => isNameStart c && cs.all isNameChar
  if !isName || name.length = s.rest.length || s.names.contains name then failure
  set { s with rest := s.rest.drop (name.length + 1), names := name :: s.names }

/-- What an opening parenthesis begins. -/
inductive Opening where
  /-- Flags for the rest of the enclosing group. -/
  | switch (flags : Flags)
  /-- A group, with the flags inside it. -/
  | group (isCapture : Bool) (flags : Flags)

/-- Reads from an opening parenthesis on what it begins. -/
def opening : Reader Opening := do
  advanceOver
  let s ← get
  match s.rest with
  | '?' :: '=' :: _ | '?' :: '!' :: _ | '?' :: '<' :: '=' :: _ | '?' :: '<' :: '!' :: _ => failure
  | '?' :: 'P' :: '<' :: rest | '?' :: '<' :: rest =>
    set { s with rest }
    groupName
    return .group true s.flags
  | '?' :: cs =>
    let letters := cs.takeWhile fun c => c ≠ ':' && c ≠ ')'
    let flags ← s.flags.apply true [] letters
    match cs.drop letters.length with
    | ':' :: rest =>
      set { s with rest }
      return .group false flags
    | ')' :: rest =>
      if letters.isEmpty then failure
      set { s with rest }
      return .switch flags
    | _ => failure
  | _ => return .group true s.flags

/-! ## Whole patterns -/

/-- The pattern of one character, with the other cases of its letter where case is ignored. -/
def charPattern (flags : Flags) (c : Char) : Pattern :=
  if !flags.ignoreCase then literal [c]
  else if flags.unicode then
    ofSet (.ofRanges ((Unicode.CaseFold.variants c.toNat).map fun n => (n, n)))
  else ofSet (Unicode.CaseFold.asciiClosure (.single c))

/-- The pattern of any character, within a line if not said otherwise. -/
def dot (flags : Flags) : Reader Pattern :=
  if !flags.unicode then failure
  else if flags.dotAll then return oneOf .all
  else if flags.crlf then return oneOf (.outside [(10, 10), (13, 13)])
  else return oneOf (.outside [(10, 10)])

/-- The assertion written `^`. -/
def lineStart (flags : Flags) : Assertion :=
  if !flags.multiLine then .startText else if flags.crlf then .startLineCr else .startLine

/-- The assertion written `$`. -/
def lineEnd (flags : Flags) : Assertion :=
  if !flags.multiLine then .endText else if flags.crlf then .endLineCr else .endLine

/-- Reads a part that is neither a group nor a repetition. A set in it has at most `fuel` items. -/
def simplePart (fuel : Nat) : Reader Part := do
  let flags := (← get).flags
  let c ← current
  if c = '[' then
    let (s, depth) ← bracketed fuel
    return { pattern := ofSet s, depth }
  advance
  match c with
  | '.' => return { pattern := ← dot flags }
  | '^' => return { pattern := .look (lineStart flags) }
  | '$' => return { pattern := .look (lineEnd flags) }
  | '\\' =>
    match ← escape with
    | .literal c => return { pattern := charPattern flags c }
    | .oneOf s => return { pattern := ofSet s }
    | .look a => return { pattern := .look a }
  | c => return { pattern := charPattern flags c }

/-- Reads the rest of a group that lies in others. -/
def groupRest : Nat → List OpenGroup → OpenGroup → Reader Pattern
  | 0, _, _ => failure
  | fuel + 1, outer, g => do
    skipBlanks
    match ← peek with
    | none => if outer.isEmpty then return (← g.body).pattern else failure
    | some '(' =>
      let outside := (← get).flags
      match ← opening with
      | .switch flags =>
        modify fun s => { s with flags }
        groupRest fuel outer (g.add { pattern := .empty, isSwitch := true })
      | .group isCapture flags =>
        modify fun s => { s with flags }
        groupRest fuel (g :: outer) { isCapture, outside }
    | some ')' =>
      match outer with
      | [] => failure
      | up :: outer =>
        advance
        modify fun s => { s with flags := g.outside }
        groupRest fuel outer (up.add (← g.close))
    | some '|' =>
      advance
      groupRest fuel outer (← g.nextBranch)
    | some '*' =>
      advance
      skipPreference
      groupRest fuel outer (← g.repeatLast 0 none)
    | some '+' =>
      advance
      skipPreference
      groupRest fuel outer (← g.repeatLast 1 none)
    | some '?' =>
      advance
      skipPreference
      groupRest fuel outer (← g.repeatLast 0 (some 1))
    | some '\x7b' =>
      let (min, max) ← repetitionBounds
      advanceOver
      skipPreference
      groupRest fuel outer (← g.repeatLast min max)
    | some _ => groupRest fuel outer (g.add (← simplePart (fuel + 1)))

/-- Reads a pattern. -/
def ofText? (text : String) : Option Pattern := do
  let cs := text.toList
  let (p, _) ← (groupRest (cs.length + 1) [] {}).run { rest := cs }
  if p.fits then some p else none

end PeerTaint.Pattern
