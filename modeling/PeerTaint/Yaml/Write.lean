import PeerTaint.Yaml.Resolve

/-!
Writing YAML text.

Mappings are indented by two blanks, the items of a sequence stand at the column of its key. A text
of several lines is written as a literal block where that is possible. Otherwise it is written
plainly if that reads back as the same text, else between single quotes, else between double quotes
with escape sequences.
-/

namespace PeerTaint

namespace Yaml

/-- A document to be written. -/
inductive Tree where
  /-- A word that needs no quotes. -/
  | word (s : String)
  | text (s : String)
  /-- A sequence of texts. -/
  | texts (items : List String)
  | map (entries : List (String × Tree))

/-! ## Which styles a text can have -/

/-- Whether a blank follows a line end in a text. -/
def hasBreakBlank : List Char → Bool
  | a :: b :: cs => isBreak a && b = ' ' || hasBreakBlank (b :: cs)
  | _ => false

/-- Whether a line end follows a blank in a text. -/
def hasBlankBreak : List Char → Bool
  | a :: b :: cs => a = ' ' && isBreak b || hasBlankBreak (b :: cs)
  | _ => false

/-- Whether a text has characters that have to be escaped. -/
def hasSpecial (cs : List Char) : Bool := !cs.all isPrintable

/-- Whether the first character of a text is an indicator. -/
def startsWithIndicator : List Char → Bool
  | [] => false
  | c :: cs =>
    ['#', ',', '[', ']', '\x7b', '\x7d', '&', '*', '!', '|', '>', '\'', '"', '%', '@',
      '\x60'].contains c || (c = '?' || c = ':' || c = '-') && atGap cs

/-- Whether an indicator stands after the first character of a text: a colon in front of a gap, or a
number sign after one. -/
def hasInnerIndicator : List Char → Bool
  | a :: b :: cs =>
    b = ':' && atGap cs || b = '#' && (isBlank a || isBreak a) || hasInnerIndicator (b :: cs)
  | _ => false

/-- Whether a text starts like a document marker. -/
def startsLikeMark : List Char → Bool
  | '-' :: '-' :: '-' :: _ | '.' :: '.' :: '.' :: _ => true
  | _ => false

/-- Whether a text can be written plainly. -/
def isPlainText (cs : List Char) : Bool :=
  !cs.any isBreak && cs.head? != some ' ' && cs.getLast? != some ' ' && !hasSpecial cs &&
    !startsLikeMark cs && !startsWithIndicator cs && !hasInnerIndicator cs

/-- Whether a text can be written between single quotes. -/
def isSingleText (cs : List Char) : Bool :=
  !hasBreakBlank cs && !hasBlankBreak cs && !hasSpecial cs

/-- Whether a text can be written as a literal block. -/
def isLiteralText (cs : List Char) : Bool :=
  cs.getLast? != some ' ' && !hasBlankBreak cs && !hasSpecial cs

/-! ## Writing texts -/

/-- Blanks up to a column. -/
def blanks (column : Nat) : List Char := List.replicate column ' '

/-- Whether the next character stands behind a line end. -/
def indentIf (broken : Bool) (column : Nat) : List Char := if broken then blanks column else []

/-- Writes the characters of a text between single quotes. Quotes are doubled, and a line feed is
written twice because a single one would fold. -/
def singleChars (column : Nat) : Bool → List Char → List Char
  | broken, [] => indentIf broken column
  | broken, c :: cs =>
    if isBreak c then
      (if !broken && c = '\n' then ['\n', '\n'] else [c]) ++ singleChars column true cs
    else
      indentIf broken column ++ (if c = '\'' then ['\'', '\''] else [c]) ++
        singleChars column false cs

/-- A text between single quotes. -/
def single (column : Nat) (cs : List Char) : List Char :=
  '\'' :: singleChars column false cs ++ ['\'']

/-- A hexadecimal digit in upper case. -/
def upperHexDigit (n : Nat) : Char := if n < 10 then Char.ofNat (48 + n) else Char.ofNat (55 + n)

/-- The last digits of a number in base sixteen. -/
def hexDigits : Nat → Nat → List Char
  | 0, _ => []
  | width + 1, n => hexDigits width (n / 16) ++ [upperHexDigit (n % 16)]

/-- The letter that stands for a character after a backslash. -/
def escapeLetter? : Char → Option Char
  | '\x00' => some '0'
  | '\x07' => some 'a'
  | '\x08' => some 'b'
  | '\t' => some 't'
  | '\n' => some 'n'
  | '\x0b' => some 'v'
  | '\x0c' => some 'f'
  | '\r' => some 'r'
  | '\x1b' => some 'e'
  | '"' => some '"'
  | '\\' => some '\\'
  | '\u0085' => some 'N'
  | '\u2028' => some 'L'
  | '\u2029' => some 'P'
  | _ => none

/-- A character as an escape sequence. -/
def escapeSequence (c : Char) : List Char :=
  match escapeLetter? c with
  | some letter => ['\\', letter]
  | none =>
    if c.toNat ≤ 0xFF then '\\' :: 'x' :: hexDigits 2 c.toNat
    else if c.toNat ≤ 0xFFFF then '\\' :: 'u' :: hexDigits 4 c.toNat
    else '\\' :: 'U' :: hexDigits 8 c.toNat

/-- A character between double quotes. -/
def doubleChar (c : Char) : List Char :=
  if !isPrintable c || isBreak c || c = '"' || c = '\\' then escapeSequence c else [c]

/-- A text between double quotes. -/
def double (cs : List Char) : List Char := '"' :: cs.flatMap doubleChar ++ ['"']

/-- The header of a literal block. Indentation is given if the text itself starts with a blank or a
line end. The sign says what happens at the end: without a line end, one, or several. -/
def literalHeader (cs : List Char) : List Char :=
  let indentation := if cs.head?.any fun c => c = ' ' || isBreak c then ['2'] else []
  let sign := match cs.reverse with
    | [] => ['-']
    | [c] => if isBreak c then ['+'] else ['-']
    | c :: d :: _ => if !isBreak c then ['-'] else if isBreak d then ['+'] else []
  '|' :: indentation ++ sign

/-- The lines of a literal block. -/
def literalChars (column : Nat) : Bool → List Char → List Char
  | _, [] => []
  | broken, c :: cs =>
    if isBreak c then c :: literalChars column true cs
    else indentIf broken column ++ c :: literalChars column false cs

/-- A literal block with the end of its last line. -/
def literal (column : Nat) (cs : List Char) : List Char :=
  literalHeader cs ++ '\n' :: literalChars column true cs ++
    if cs.getLast?.any isBreak then [] else ['\n']

/-- A text without line feeds, on the rest of a line. -/
def flowText (column : Nat) (s : String) : List Char :=
  let cs := s.toList
  if isPlainText cs && !isAmbiguous s then cs
  else if isSingleText cs then single column cs
  else double cs

/-- A text with the end of its line; its further lines stand at a column. -/
def writeText (column : Nat) (s : String) : List Char :=
  let cs := s.toList
  if cs.contains '\n' then
    if isLiteralText cs then literal column cs else double cs ++ ['\n']
  else flowText column s ++ ['\n']

/-! ## Writing documents -/

/-- Writes the items of a sequence. -/
def writeItems (column : Nat) (items : List String) : List Char :=
  items.flatMap fun s => blanks column ++ '-' :: ' ' :: writeText (column + 2) s

mutual

/-- Writes what stands after a key. -/
def writeValue (column : Nat) : Tree → List Char
  | .word s => ' ' :: s.toList ++ ['\n']
  | .text s => ' ' :: writeText (column + 2) s
  | .texts [] => [' ', '[', ']', '\n']
  | .texts items => '\n' :: writeItems column items
  | .map entries => '\n' :: writeEntries (column + 2) entries

/-- Writes the entries of a mapping. -/
def writeEntries (column : Nat) : List (String × Tree) → List Char
  | [] => []
  | (key, value) :: entries =>
    blanks column ++ key.toList ++ ':' :: writeValue column value ++ writeEntries column entries

end

/-- The text of a document that is a mapping. -/
def render (entries : List (String × Tree)) : String := String.ofList (writeEntries 0 entries)

end Yaml

end PeerTaint
