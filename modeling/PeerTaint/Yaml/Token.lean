import PeerTaint.Text.Decimal
import PeerTaint.Text.Utf8
import PeerTaint.Yaml.Scalar

/-!
Tokens of YAML text.

Block collections are marked by indentation alone, so their tokens are found by comparing columns: a
token further to the right than the current collection may open one, and a token further to the left
closes those that it leaves. A simple key shows itself only by the colon after it. The scanner
therefore remembers where a key may have started, and when the colon comes it puts the tokens for
the key in front of it. A key has to lie on one line within 1024 characters. In block context the
first token in a line at the column of a mapping has to be a key.
-/

namespace PeerTaint

namespace Yaml

/-- How a scalar is written. -/
inductive Style where
  | plain
  | quoted
  | literal
  | folded
  deriving DecidableEq

/-- A token. -/
inductive Token where
  | version (major minor : Nat)
  /-- Declares what a tag handle stands for. -/
  | handle (name meaning : String)
  | documentStart
  | documentEnd
  | blockSequenceStart
  | blockMappingStart
  | blockEnd
  | flowSequenceStart
  | flowSequenceEnd
  | flowMappingStart
  | flowMappingEnd
  | blockEntry
  | flowEntry
  | key
  | value
  | reference (name : String)
  | anchor (name : String)
  | tag (handle suffix : String)
  | scalar (text : String) (style : Style)
  deriving DecidableEq

/-! ## Positions -/

/-- The characters that are left, how many they are, and where they start. -/
structure Cursor where
  rest : List Char
  left : Nat
  line : Nat := 0
  column : Nat := 0

namespace Cursor

/-- The start of a text. -/
def start (cs : List Char) : Cursor := { rest := cs, left := cs.length }

/-- Passes one character. -/
def step (c : Cursor) : Cursor :=
  match c.rest with
  | [] => c
  | x :: rest =>
    if isBreak x then ⟨rest, c.left - 1, c.line + 1, 0⟩
    else ⟨rest, c.left - 1, c.line, c.column + 1⟩

/-- Passes some characters. -/
def advance : Nat → Cursor → Cursor
  | 0, c => c
  | n + 1, c => advance n c.step

/-- Passes everything in front of `rest`. -/
def moveTo (c : Cursor) (rest : List Char) : Cursor := c.advance (c.left - rest.length)

end Cursor

/-! ## The scanner -/

/-- A place where a simple key may have started. -/
structure SimpleKey where
  /-- Whether nothing but a key can stand there. -/
  required : Bool
  /-- Number of tokens in front of the key. -/
  position : Nat
  line : Nat
  column : Nat

/-- The scanner. -/
structure Scanner where
  cursor : Cursor
  /-- The tokens read so far, last first. -/
  reversed : List Token := []
  /-- The number of tokens read so far. -/
  count : Nat := 0
  /-- The columns of the open block collections, innermost first. -/
  indents : List Nat := []
  /-- The possible key in the innermost flow collection, or in block context. -/
  candidate : Option SimpleKey := none
  /-- The possible keys around the open flow collections, innermost first. -/
  outer : List (Option SimpleKey) := []
  /-- Whether a simple key can start at the next token. -/
  keyAllowed : Bool := true

namespace Scanner

/-- Whether a flow collection is open. -/
def inFlow (s : Scanner) : Bool := !s.outer.isEmpty

/-- The first column to the right of the innermost block collection. -/
def base (s : Scanner) : Nat :=
  match s.indents with
  | [] => 0
  | column :: _ => column + 1

/-- Puts a token in front of the token at a position. -/
def insert (s : Scanner) (position : Nat) (t : Token) : Scanner :=
  { s with reversed := s.reversed.insertIdx (s.count - position) t, count := s.count + 1 }

/-- Appends a token. -/
def emit (s : Scanner) (t : Token) : Scanner :=
  { s with reversed := t :: s.reversed, count := s.count + 1 }

/-- Passes some characters. -/
def advance (s : Scanner) (n : Nat) : Scanner := { s with cursor := s.cursor.advance n }

/-- Passes everything in front of `rest`. -/
def moveTo (s : Scanner) (rest : List Char) : Scanner := { s with cursor := s.cursor.moveTo rest }

/-- Says whether a simple key can start at the next token. -/
def allowKey (s : Scanner) (allowed : Bool) : Scanner := { s with keyAllowed := allowed }

/-! ### Simple keys -/

/-- Gives up the possible key, which must not be required. -/
def dropKey (s : Scanner) : Option Scanner :=
  if s.candidate.any (·.required) then none else some { s with candidate := none }

/-- Remembers that a key may start here. -/
def saveKey (s : Scanner) : Option Scanner :=
  if s.keyAllowed then
    s.dropKey.map fun s =>
      { s with
        candidate := some {
          required := !s.inFlow && s.indents.head? = some s.cursor.column
          position := s.count
          line := s.cursor.line
          column := s.cursor.column } }
  else some s

/-- Whether a possible key has become too long. -/
def isStale (c : Cursor) (k : SimpleKey) : Bool := k.line < c.line || k.column + 1024 < c.column

/-- Gives up a possible key that has become too long. -/
def refresh (c : Cursor) : Option SimpleKey → Option (Option SimpleKey)
  | none => some none
  | some k => if isStale c k then if k.required then none else some none else some (some k)

/-- Gives up all possible keys that have become too long. -/
def refreshKeys (s : Scanner) : Option Scanner := do
  return { s with
    candidate := ← refresh s.cursor s.candidate
    outer := ← s.outer.mapM (refresh s.cursor) }

/-! ### Indentation -/

/-- Opens a block collection at a column to the right of the innermost one. Its token is put in
front of the token at a position. -/
def openBlock (s : Scanner) (column position : Nat) (t : Token) : Scanner :=
  if !s.inFlow && s.base ≤ column then
    { s with indents := column :: s.indents }.insert position t
  else s

/-- Closes block collections, which leaves those around them. -/
def closeTo (s : Scanner) (closed around : List Nat) : Scanner :=
  if s.inFlow then s else closed.foldl (fun s _ => s.emit .blockEnd) { s with indents := around }

/-- Closes the block collections to the right of a column. -/
def closeBlocks (s : Scanner) (column : Nat) : Scanner :=
  s.closeTo (s.indents.takeWhile (column < ·)) (s.indents.dropWhile (column < ·))

/-- Closes all block collections. -/
def closeAllBlocks (s : Scanner) : Scanner := s.closeTo s.indents []

/-! ### Gaps between tokens -/

/-- Passes blanks, comments and line ends, and counts them. In block context a key may start in a
new line. A tab can stand where no key may start, and a byte order mark at the start of a line. -/
def skipGap (flow : Bool) : Bool → Bool → Bool → Nat → List Char → Bool × Nat
  | allowed, _, _, n, [] => (allowed, n)
  | allowed, atStart, inComment, n, c :: cs =>
    if isBreak c then skipGap flow (allowed || !flow) true false (n + 1) cs
    else if inComment then skipGap flow allowed false true (n + 1) cs
    else if atStart && c = '\ufeff' then skipGap flow allowed false false (n + 1) cs
    else if c = ' ' || c = '\t' && (flow || !allowed) then
      skipGap flow allowed false false (n + 1) cs
    else if c = '#' then skipGap flow allowed false true (n + 1) cs
    else (allowed, n)

/-- Moves to the next token. -/
def toNextToken (s : Scanner) : Option Scanner :=
  let (allowed, n) :=
    skipGap s.inFlow s.keyAllowed (s.cursor.column = 0) false 0 s.cursor.rest
  ((s.advance n).allowKey allowed).refreshKeys.map fun s => s.closeBlocks s.cursor.column

/-! ### Indicators -/

/-- Passes the start or the end of a document. -/
def documentMark (s : Scanner) (t : Token) : Option Scanner :=
  s.closeAllBlocks.dropKey.map fun s => ((s.allowKey false).emit t).advance 3

/-- Opens a flow collection. -/
def openFlow (s : Scanner) (t : Token) : Option Scanner :=
  s.saveKey.map fun s =>
    (({ s with candidate := none, outer := s.candidate :: s.outer }.allowKey true).emit t).advance 1

/-- Closes a flow collection. -/
def closeFlow (s : Scanner) (t : Token) : Option Scanner :=
  s.dropKey.map fun s =>
    let s := match s.outer with
      | [] => s
      | candidate :: outer => { s with candidate := candidate, outer := outer }
    ((s.allowKey false).emit t).advance 1

/-- Passes the comma in a flow collection. -/
def flowEntry (s : Scanner) : Option Scanner :=
  s.dropKey.map fun s => ((s.allowKey true).emit .flowEntry).advance 1

/-- Passes the hyphen in front of an item. -/
def blockEntry (s : Scanner) : Option Scanner :=
  if !s.inFlow && !s.keyAllowed then none
  else
    (s.openBlock s.cursor.column s.count .blockSequenceStart).dropKey.map fun s =>
      ((s.allowKey true).emit .blockEntry).advance 1

/-- Passes the question mark in front of a key. -/
def explicitKey (s : Scanner) : Option Scanner :=
  if !s.inFlow && !s.keyAllowed then none
  else
    (s.openBlock s.cursor.column s.count .blockMappingStart).dropKey.map fun s =>
      ((s.allowKey !s.inFlow).emit .key).advance 1

/-- Passes the colon in front of a value. -/
def valueMark (s : Scanner) : Option Scanner :=
  match s.candidate with
  | some k =>
    let s := { s with candidate := none }.insert k.position .key
    let s := s.openBlock k.column k.position .blockMappingStart
    some (((s.allowKey false).emit .value).advance 1)
  | none =>
    if !s.inFlow && !s.keyAllowed then none
    else
      let s := s.openBlock s.cursor.column s.count .blockMappingStart
      some (((s.allowKey !s.inFlow).emit .value).advance 1)

/-! ### Names and tags -/

/-- Characters that may follow the name of an anchor. -/
def endsName : List Char → Bool
  | [] => true
  | c :: cs => atGap (c :: cs) || ['?', ':', ',', ']', '\x7d', '%', '@', '\x60'].contains c

/-- Reads the name of an anchor or of a reference to one. -/
def named (s : Scanner) (token : String → Token) (cs : List Char) : Option Scanner :=
  let name := cs.takeWhile isNameChar
  let rest := cs.dropWhile isNameChar
  if name.isEmpty || !endsName rest then none
  else
    s.saveKey.map fun s =>
      ((s.allowKey false).emit (token (String.ofList name))).advance (name.length + 1)

/-- Characters of a tag. Inside angle brackets there are some more. -/
def isTagChar (bracketed : Bool) (c : Char) : Bool :=
  isNameChar c ||
    [';', '/', '?', ':', '@', '&', '=', '+', '$', '.', '!', '~', '*', '\'', '(', ')'].contains c ||
    bracketed && [',', '[', ']'].contains c

/-- The byte that two hexadecimal digits denote. -/
def octet? (high low : Char) : Option Nat := do return 16 * (← hexValue? high) + (← hexValue? low)

/-- Reads the characters of a tag. A character may be written as its bytes, each of them with a
percent sign and two hexadecimal digits; `missing` bytes of a character are still to come after
`bytes`. -/
def tagChars (bracketed : Bool) : Nat → List Nat → List Char → Option (List Char × List Char)
  | 0, _, '%' :: high :: low :: cs => do
    let byte ← octet? high low
    match ← Utf8.width? byte with
    | 1 => (tagChars bracketed 0 [] cs).map fun (found, rest) => (Utf8.char [byte] :: found, rest)
    | width => tagChars bracketed (width - 1) [byte] cs
  | 0, _, c :: cs =>
    if c = '%' then none
    else if isTagChar bracketed c then
      (tagChars bracketed 0 [] cs).map fun (found, rest) => (c :: found, rest)
    else some ([], c :: cs)
  | 0, _, [] => some ([], [])
  | missing + 1, bytes, '%' :: high :: low :: cs => do
    let byte ← octet? high low
    if !Utf8.isTrailing byte then none
    else if missing = 0 then
      (tagChars bracketed 0 [] cs).map fun (found, rest) =>
        (Utf8.char (bytes ++ [byte]) :: found, rest)
    else tagChars bracketed missing (bytes ++ [byte]) cs
  | _ + 1, _, _ => none

/-- Reads a part of a tag, which is not empty, and what it says: all up to a null character. -/
def readTagPart (bracketed : Bool) (cs : List Char) : Option (String × List Char) := do
  let (found, rest) ← tagChars bracketed 0 [] cs
  if found.isEmpty then none else some (String.ofList (found.takeWhile (· ≠ '\x00')), rest)

/-- Reads a tag after its first character: the handle, the suffix and the rest. -/
def readTag (cs : List Char) : Option (String × String × List Char) :=
  match cs with
  | '<' :: cs => do
    let (suffix, rest) ← readTagPart true cs
    if rest.head? = some '>' then return ("", suffix, rest.tail) else none
  | _ =>
    let name := cs.takeWhile isNameChar
    match cs.dropWhile isNameChar with
    | '!' :: cs => do
      let (suffix, rest) ← readTagPart false cs
      return (String.ofList ('!' :: name ++ ['!']), suffix, rest)
    | _ =>
      match readTagPart false cs with
      | some (suffix, rest) => some (if suffix = "" then ("", "!", rest) else ("!", suffix, rest))
      | none => if (tagChars false 0 [] cs).isSome then some ("", "!", cs) else none

/-- Reads a tag. -/
def tagged (s : Scanner) (cs : List Char) : Option Scanner :=
  match readTag cs with
  | none => none
  | some (handle, suffix, rest) =>
    if atGap rest || s.inFlow && rest.head? = some ',' then
      s.saveKey.map fun s => ((s.allowKey false).emit (.tag handle suffix)).moveTo rest
    else none

/-! ### Directives -/

/-- Reads a number of at most nine digits. -/
def readVersionNumber (cs : List Char) : Option (Nat × List Char) :=
  let digits := cs.takeWhile Decimal.isDigit
  if digits.isEmpty || 9 < digits.length then none
  else some (Decimal.value digits, cs.dropWhile Decimal.isDigit)

/-- Reads the handle that a directive declares. -/
def readHandle : List Char → Option (String × List Char)
  | '!' :: cs =>
    let name := cs.takeWhile isNameChar
    match cs.dropWhile isNameChar with
    | '!' :: rest => some (String.ofList ('!' :: name ++ ['!']), rest)
    | rest => if name.isEmpty then some ("!", rest) else none
  | _ => none

/-- Reads a directive after the percent sign. -/
def readDirective (cs : List Char) : Option (Token × List Char) :=
  let name := String.ofList (cs.takeWhile isNameChar)
  let rest := cs.dropWhile isNameChar
  if !atGap rest then none
  else if name = "YAML" then do
    let (major, rest) ← readVersionNumber (rest.dropWhile isBlank)
    match rest with
    | '.' :: rest =>
      let (minor, rest) ← readVersionNumber rest
      return (.version major minor, rest)
    | _ => none
  else if name = "TAG" then do
    let (handle, rest) ← readHandle (rest.dropWhile isBlank)
    if !rest.head?.any isBlank then none
    else
      let (meaning, rest) ← readTagPart true (rest.dropWhile isBlank)
      if atGap rest then some (.handle handle meaning, rest) else none
  else none

/-- Reads a directive with the rest of its line. -/
def directive (s : Scanner) (cs : List Char) : Option Scanner := do
  let s ← s.closeAllBlocks.dropKey
  let (token, rest) ← readDirective cs
  return ((s.allowKey false).emit token).moveTo (← endOfLine rest)

/-! ### Scalars -/

/-- Reads a block scalar after its indicator. -/
def blockScalar (s : Scanner) (folded : Bool) (cs : List Char) : Option Scanner := do
  let s ← s.dropKey
  let (text, rest) ← readBlock folded s.base cs
  let style := if folded then .folded else .literal
  return ((s.allowKey true).emit (.scalar (String.ofList text) style)).moveTo rest

/-- Reads a quoted scalar after its opening quote. -/
def quotedScalar (s : Scanner) (read : List Char → Option (List Char × List Char))
    (cs : List Char) : Option Scanner := do
  let s ← s.saveKey
  let (text, rest) ← read cs
  return ((s.allowKey false).emit (.scalar (String.ofList text) .quoted)).moveTo rest

/-- Reads a plain scalar. -/
def plainScalar (s : Scanner) (cs : List Char) : Option Scanner := do
  let s ← s.saveKey
  let p ← readPlain s.inFlow s.base cs
  return ((s.allowKey p.endsLine).emit (.scalar (String.ofList p.text) .plain)).moveTo p.rest

/-- Characters with which no plain scalar starts, except that some may if a word goes on. -/
def isIndicator (c : Char) : Bool :=
  ['-', '?', ':', ',', '[', ']', '\x7b', '\x7d', '#', '&', '*', '!', '|', '>', '\'', '"', '%', '@',
    '\x60'].contains c

/-- Whether a plain scalar starts here. -/
def startsPlain (flow : Bool) (c : Char) (cs : List Char) : Bool :=
  !isBlank c && !isBreak c && !isIndicator c ||
    c = '-' && !cs.head?.any isBlank ||
    !flow && (c = '?' || c = ':') && !atGap cs

/-! ### The whole text -/

/-- Reads the next token, which starts with `c`. -/
def fetch (s : Scanner) (c : Char) (cs : List Char) : Option Scanner :=
  let atLineStart := s.cursor.column = 0
  if atLineStart ∧ c = '%' then s.directive cs
  else if atLineStart ∧ atDocumentMark (c :: cs) then
    s.documentMark (if c = '-' then .documentStart else .documentEnd)
  else if c = '[' then s.openFlow .flowSequenceStart
  else if c = '\x7b' then s.openFlow .flowMappingStart
  else if c = ']' then s.closeFlow .flowSequenceEnd
  else if c = '\x7d' then s.closeFlow .flowMappingEnd
  else if c = ',' then s.flowEntry
  else if c = '-' && atGap cs then s.blockEntry
  else if c = '?' && (s.inFlow || atGap cs) then s.explicitKey
  else if c = ':' && (s.inFlow || atGap cs) then s.valueMark
  else if c = '*' then s.named .reference cs
  else if c = '&' then s.named .anchor cs
  else if c = '!' then s.tagged cs
  else if c = '|' && !s.inFlow then s.blockScalar false cs
  else if c = '>' && !s.inFlow then s.blockScalar true cs
  else if c = '\'' then s.quotedScalar readSingle cs
  else if c = '"' then s.quotedScalar readDouble cs
  else if startsPlain s.inFlow c cs then s.plainScalar (c :: cs)
  else none

/-- Reads all tokens. -/
def run : Nat → Scanner → Option (List Token)
  | 0, _ => none
  | fuel + 1, s =>
    match s.toNextToken with
    | none => none
    | some s =>
      match s.cursor.rest with
      | [] => s.closeAllBlocks.dropKey.map (·.reversed.reverse)
      | c :: cs =>
        match s.fetch c cs with
        | none => none
        | some s => run fuel s

end Scanner

/-- The tokens of a text. -/
def tokens? (text : String) : Option (List Token) :=
  if text.toList.all isAdmissible then
    let cs := uniformBreaks text.toList
    Scanner.run (cs.length + 1) { cursor := .start cs }
  else none

end Yaml

end PeerTaint
