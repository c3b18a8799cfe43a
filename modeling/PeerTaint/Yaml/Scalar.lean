import PeerTaint.Yaml.Characters

/-!
Reading scalars.

A scalar is read word by word. Between words stands a gap: blanks on one line, or one or more line
ends. A single line end folds into a blank, and of several the first is left out. Each reader takes
the characters that are left and gives the text with what is left after it.
-/

namespace PeerTaint

namespace Yaml

/-! ## Gaps -/

/-- What stands between two words. -/
inductive Gap where
  | blanks (cs : List Char)
  /-- The first line end, the following ones, and the column of the next word. -/
  | lines (first : Char) (more : List Char) (column : Nat)

namespace Gap

/-- What a gap contributes to the text. -/
def text : Gap → List Char
  | blanks cs => cs
  | lines first more _ =>
    if first = '\n' then if more.isEmpty then [' '] else more else first :: more

/-- Whether the gap holds a line end. -/
def isLines : Gap → Bool
  | blanks _ => false
  | lines .. => true

/-- Whether the next word starts a line. -/
def atLineStart : Gap → Bool
  | lines _ _ 0 => true
  | _ => false

end Gap

/-- Passes indentation and empty lines. The answer is the passed line ends and the column reached. A
tab must not stand in front of column `indent`. -/
def passLines (indent : Nat) : Nat → List Char → Option (List Char × Nat × List Char)
  | column, [] => some ([], column, [])
  | column, c :: cs =>
    if c = ' ' then passLines indent (column + 1) cs
    else if c = '\t' then if column < indent then none else passLines indent (column + 1) cs
    else if isBreak c then
      (passLines indent 0 cs).map fun (breaks, column, rest) => (c :: breaks, column, rest)
    else some ([], column, c :: cs)

/-- Passes a gap. -/
def passGap (indent : Nat) (cs : List Char) : Option (Gap × List Char) :=
  match cs.dropWhile isBlank with
  | [] => some (.blanks (cs.takeWhile isBlank), [])
  | c :: rest =>
    if isBreak c then
      (passLines indent 0 rest).map fun (more, column, rest) => (.lines c more column, rest)
    else some (.blanks (cs.takeWhile isBlank), c :: rest)

/-! ## Plain scalars -/

/-- Characters that end a plain scalar inside a flow collection. -/
def isFlowIndicator (c : Char) : Bool := c = ',' || c = '[' || c = ']' || c = '\x7b' || c = '\x7d'

/-- Whether a plain scalar ends in front of a character. -/
def endsPlain (flow : Bool) (c : Char) (cs : List Char) : Bool :=
  c = ':' && atGap cs || flow && isFlowIndicator c

/-- Inside a flow collection a colon must not touch an indicator. -/
def isMisplacedColon (flow : Bool) (c : Char) (cs : List Char) : Bool :=
  match cs with
  | [] => false
  | d :: _ => flow && c = ':' && (isFlowIndicator d || d = '?')

/-- Reads a word of a plain scalar. -/
def plainWord (flow : Bool) : List Char → Option (List Char × List Char)
  | [] => some ([], [])
  | c :: cs =>
    if isBlank c || isBreak c then some ([], c :: cs)
    else if isMisplacedColon flow c cs then none
    else if endsPlain flow c cs then some ([], c :: cs)
    else (plainWord flow cs).map fun (word, rest) => (c :: word, rest)

/-- A plain scalar, or the rest of one. -/
structure PlainText where
  text : List Char
  /-- Whether the scalar ends on an earlier line than the next token starts. -/
  endsLine : Bool
  rest : List Char

/-- Whether a plain scalar that ends with a gap goes on after it. -/
def continuesPlain (flow : Bool) (indent : Nat) (g : Gap) (rest : List Char) : Bool :=
  let deepEnough := match g with
    | .lines _ _ column => flow || indent ≤ column
    | .blanks _ => true
  deepEnough && !(g.atLineStart && atDocumentMark rest) && rest.head? != some '#'

/-- Reads a plain scalar after a word. -/
def plainRest (flow : Bool) (indent : Nat) : Nat → List Char → Option PlainText
  | 0, cs => some ⟨[], false, cs⟩
  | fuel + 1, cs =>
    if cs.isEmpty || !atGap cs then some ⟨[], false, cs⟩
    else
      match passGap indent cs with
      | none => none
      | some (g, rest) =>
        if continuesPlain flow indent g rest then
          match plainWord flow rest with
          | none => none
          | some ([], rest) => some ⟨[], g.isLines, rest⟩
          | some (word, rest) =>
            (plainRest flow indent fuel rest).map fun p =>
              { p with text := g.text ++ word ++ p.text }
        else some ⟨[], g.isLines, rest⟩

/-- Reads a plain scalar whose lines have to reach column `indent`. -/
def readPlain (flow : Bool) (indent : Nat) (cs : List Char) : Option PlainText :=
  match plainWord flow cs with
  | none => none
  | some (word, rest) =>
    (plainRest flow indent cs.length rest).map fun p => { p with text := word ++ p.text }

/-! ## Quoted scalars -/

/-- What ends a word of a quoted scalar. -/
inductive WordEnd where
  | quote
  | gap
  /-- A backslash at the end of a line: the line end does not count. -/
  | escapedBreak

/-- A word of a quoted scalar. -/
structure QuotedWord where
  text : List Char
  stop : WordEnd
  rest : List Char

/-- Puts a character in front of a word. -/
def QuotedWord.cons (c : Char) (w : QuotedWord) : QuotedWord := { w with text := c :: w.text }

/-- Reads a word between single quotes, where a quote is written twice. -/
def singleWord : List Char → Option QuotedWord
  | [] => none
  | '\'' :: '\'' :: cs => (singleWord cs).map (.cons '\'')
  | c :: cs =>
    if c = '\'' then some ⟨[], .quote, cs⟩
    else if isBlank c || isBreak c then some ⟨[], .gap, c :: cs⟩
    else (singleWord cs).map (.cons c)

/-- The character that a letter after a backslash stands for. -/
def escaped? : Char → Option Char
  | '0' => some '\x00'
  | 'a' => some '\x07'
  | 'b' => some '\x08'
  | 't' | '\t' => some '\t'
  | 'n' => some '\n'
  | 'v' => some '\x0b'
  | 'f' => some '\x0c'
  | 'r' => some '\r'
  | 'e' => some '\x1b'
  | ' ' => some ' '
  | '"' => some '"'
  | '/' => some '/'
  | '\\' => some '\\'
  | 'N' => some '\u0085'
  | '_' => some '\u00a0'
  | 'L' => some '\u2028'
  | 'P' => some '\u2029'
  | _ => none

/-- The number of hexadecimal digits that follow a letter after a backslash. -/
def codeLength? : Char → Option Nat
  | 'x' => some 2
  | 'u' => some 4
  | 'U' => some 8
  | _ => none

/-- The value of a hexadecimal digit. -/
def hexValue? (c : Char) : Option Nat :=
  if '0' ≤ c ∧ c ≤ '9' then some (c.toNat - '0'.toNat)
  else if 'a' ≤ c ∧ c ≤ 'f' then some (c.toNat - 'a'.toNat + 10)
  else if 'A' ≤ c ∧ c ≤ 'F' then some (c.toNat - 'A'.toNat + 10)
  else none

/-- The character with a given code. -/
def ofCode? (n : Nat) : Option Char := if n.isValidChar then some (Char.ofNat n) else none

/-- How far an escape sequence has been read. -/
inductive EscapeState where
  | none
  | letter
  /-- Digits to come, and the value of those read. -/
  | code (left value : Nat)

/-- Reads a word between double quotes. -/
def doubleWord : EscapeState → List Char → Option QuotedWord
  | _, [] => none
  | .none, c :: cs =>
    if isBlank c || isBreak c then some ⟨[], .gap, c :: cs⟩
    else if c = '"' then some ⟨[], .quote, cs⟩
    else if c = '\\' then doubleWord .letter cs
    else (doubleWord .none cs).map (.cons c)
  | .letter, c :: cs =>
    if isBreak c then some ⟨[], .escapedBreak, cs⟩
    else
      match codeLength? c, escaped? c with
      | some n, _ => doubleWord (.code n 0) cs
      | none, some e => (doubleWord .none cs).map (.cons e)
      | none, none => none
  | .code left value, c :: cs =>
    match hexValue? c with
    | none => none
    | some d =>
      if left = 1 then
        match ofCode? (value * 16 + d) with
        | some e => (doubleWord .none cs).map (.cons e)
        | none => none
      else doubleWord (.code (left - 1) (value * 16 + d)) cs

/-- Reads a quoted scalar from a word on. No document marker may stand at the start of a line. -/
def quotedRest (word : List Char → Option QuotedWord) :
    Nat → Bool → List Char → Option (List Char × List Char)
  | 0, _, _ => none
  | fuel + 1, atLineStart, cs =>
    if atLineStart && atDocumentMark cs then none
    else
      match word cs with
      | none => none
      | some ⟨text, .quote, rest⟩ => some (text, rest)
      | some ⟨text, .gap, rest⟩ =>
        match passGap 0 rest with
        | none => none
        | some (g, rest) =>
          (quotedRest word fuel g.atLineStart rest).map fun (more, rest) =>
            (text ++ g.text ++ more, rest)
      | some ⟨text, .escapedBreak, rest⟩ =>
        match passLines 0 0 rest with
        | none => none
        | some (breaks, column, rest) =>
          (quotedRest word fuel (column = 0) rest).map fun (more, rest) =>
            (text ++ breaks ++ more, rest)

/-- Reads a scalar after its opening single quote. -/
def readSingle (cs : List Char) : Option (List Char × List Char) :=
  quotedRest singleWord (cs.length + 1) false cs

/-- Reads a scalar after its opening double quote. -/
def readDouble (cs : List Char) : Option (List Char × List Char) :=
  quotedRest (doubleWord .none) (cs.length + 1) false cs

/-! ## Block scalars -/

/-- What happens to the line ends after the last line of a block scalar. -/
inductive Chomping where
  | strip
  | clip
  | keep
  deriving DecidableEq

/-- The header of a block scalar. -/
structure BlockHeader where
  chomping : Chomping := .clip
  /-- How far the text is indented, if the header says so. -/
  increment : Option Nat := none

/-- The chomping that a sign asks for. -/
def chomping? : Char → Option Chomping
  | '+' => some .keep
  | '-' => some .strip
  | _ => none

/-- The indentation that a digit asks for, which is not zero. -/
def increment? (c : Char) : Option Nat :=
  if '1' ≤ c ∧ c ≤ '9' then some (c.toNat - '0'.toNat) else none

/-- Reads the indicators of a header, in either order. -/
def readIndicators : List Char → BlockHeader × List Char
  | [] => ({}, [])
  | c :: cs =>
    match chomping? c, increment? c with
    | some chomping, _ =>
      match cs with
      | d :: rest =>
        match increment? d with
        | some n => (⟨chomping, some n⟩, rest)
        | none => (⟨chomping, none⟩, cs)
      | [] => (⟨chomping, none⟩, [])
    | none, some n =>
      match cs with
      | d :: rest =>
        match chomping? d with
        | some chomping => (⟨chomping, some n⟩, rest)
        | none => (⟨.clip, some n⟩, cs)
      | [] => (⟨.clip, some n⟩, [])
    | none, none => ({}, c :: cs)

/-- Passes the rest of a line, which holds nothing but a comment. -/
def endOfLine (cs : List Char) : Option (List Char) :=
  let rest := cs.dropWhile isBlank
  let rest := if rest.head? = some '#' then rest.dropWhile (!isBreak ·) else rest
  match rest with
  | [] => some []
  | c :: rest => if isBreak c then some rest else none

/-- Where the next line of a block scalar starts. -/
structure BlockBreaks where
  breaks : List Char
  column : Nat
  /-- The deepest column reached. -/
  deepest : Nat
  rest : List Char

/-- Passes empty lines and the indentation of the next line, up to column `limit` if there is one.
No tab may stand in the indentation. -/
def passIndentation (limit : Option Nat) : Nat → Nat → List Char → Option BlockBreaks
  | column, deepest, [] => some ⟨[], column, max deepest column, []⟩
  | column, deepest, c :: cs =>
    let inside := match limit with
      | some n => decide (column < n)
      | none => true
    if inside && c = ' ' then passIndentation limit (column + 1) deepest cs
    else if inside && c = '\t' then none
    else if isBreak c then
      (passIndentation limit 0 (max deepest column) cs).map fun b =>
        { b with breaks := c :: b.breaks }
    else some ⟨[], column, max deepest column, c :: cs⟩

/-- A line of a block scalar: its text, the end of the line, and the ends of the empty lines after
it. -/
structure BlockLine where
  text : List Char
  ending : List Char
  empty : List Char

/-- Reads the lines that are indented up to column `indent`. -/
def readBlockLines (indent : Nat) : Nat → Nat → List Char → Option (List BlockLine × List Char)
  | 0, _, cs => some ([], cs)
  | fuel + 1, column, cs =>
    if column ≠ indent || cs.isEmpty then some ([], cs)
    else
      let text := cs.takeWhile (!isBreak ·)
      let after := cs.dropWhile (!isBreak ·)
      match passIndentation (some indent) 0 0 (after.drop 1) with
      | none => none
      | some b =>
        (readBlockLines indent fuel b.column b.rest).map fun (lines, rest) =>
          (⟨text, after.take 1, b.breaks⟩ :: lines, rest)

namespace BlockLine

/-- Whether a line starts with a blank behind its indentation. -/
def startsBlank (l : BlockLine) : Bool := l.text.head?.any isBlank

/-- What stands between two lines. Folding replaces a single line end by a blank, unless one of the
lines starts with a blank. -/
def joint (folded : Bool) (a b : BlockLine) : List Char :=
  if folded && a.ending = ['\n'] && !a.startsBlank && !b.startsBlank then
    if a.empty.isEmpty then [' '] else a.empty
  else a.ending ++ a.empty

/-- What stands after the last line. -/
def tail (chomping : Chomping) (l : BlockLine) : List Char :=
  match chomping with
  | .strip => []
  | .clip => l.ending
  | .keep => l.ending ++ l.empty

/-- The text of some lines. -/
def join (folded : Bool) (chomping : Chomping) : List BlockLine → List Char
  | [] => []
  | [a] => a.text ++ a.tail chomping
  | a :: b :: ls => a.text ++ a.joint folded b ++ join folded chomping (b :: ls)

end BlockLine

/-- The text of a block scalar that starts with some empty lines. -/
def blockText (folded : Bool) (chomping : Chomping) (leading : List Char) (lines : List BlockLine) :
    List Char :=
  if lines.isEmpty && chomping ≠ .keep then []
  else leading ++ BlockLine.join folded chomping lines

/-- Reads a block scalar after its indicator. Its lines stand at column `base` or deeper, and an
indentation given in the header counts from the column before that. -/
def readBlock (folded : Bool) (base : Nat) (cs : List Char) : Option (List Char × List Char) := do
  let (header, rest) := readIndicators cs
  let rest ← endOfLine rest
  let given := header.increment.map (base - 1 + ·)
  let start ← passIndentation given 0 0 rest
  let indent := given.getD (max (max start.deepest base) 1)
  let (lines, rest) ← readBlockLines indent rest.length start.column start.rest
  return (blockText folded header.chomping start.breaks lines, rest)

end Yaml

end PeerTaint
