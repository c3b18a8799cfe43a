import PeerTaint.Json.Basic

/-!
Writing JSON text, on one line or laid out with two blanks for each level.
-/

namespace PeerTaint

namespace Json

/-- A hexadecimal digit in lower case. -/
def hexDigit (n : Nat) : Char := if n < 10 then Char.ofNat (48 + n) else Char.ofNat (87 + n)

/-- A character as it is written inside a text. Quotes, backslashes and control characters are
escaped, everything else stands for itself. -/
def escapeChar : Char → List Char
  | '"' => ['\\', '"']
  | '\\' => ['\\', '\\']
  | '\x08' => ['\\', 'b']
  | '\x0c' => ['\\', 'f']
  | '\n' => ['\\', 'n']
  | '\r' => ['\\', 'r']
  | '\t' => ['\\', 't']
  | c =>
    if c < ' ' then ['\\', 'u', '0', '0', hexDigit (c.toNat / 16), hexDigit (c.toNat % 16)] else [c]

/-- A text in quotes. -/
def quoted (s : String) : List Char := '"' :: s.toList.flatMap escapeChar ++ ['"']

/-- A value without parts. -/
def writeAtom : Json → List Char
  | null => ['n', 'u', 'l', 'l']
  | bool true => ['t', 'r', 'u', 'e']
  | bool false => ['f', 'a', 'l', 's', 'e']
  | nat n => Decimal.digits n
  | number literal => literal.toList
  | str s => quoted s
  | _ => ['n', 'u', 'l', 'l']

/-! ## On one line -/

mutual

/-- Writes a value on one line. -/
def compactChars : Json → List Char
  | arr items => '[' :: compactItems items ++ [']']
  | obj members => '\x7b' :: compactMembers members ++ ['\x7d']
  | value => writeAtom value

/-- Writes items with commas between them. -/
def compactItems : List Json → List Char
  | [] => []
  | [value] => value.compactChars
  | value :: values => value.compactChars ++ ',' :: compactItems values

/-- Writes members with commas between them. -/
def compactMembers : List (String × Json) → List Char
  | [] => []
  | [(key, value)] => quoted key ++ ':' :: value.compactChars
  | (key, value) :: members =>
    quoted key ++ ':' :: value.compactChars ++ ',' :: compactMembers members

end

/-- A value on one line. -/
def compact (value : Json) : String := String.ofList value.compactChars

/-! ## Laid out -/

/-- The start of a new line at a level. -/
def newLine (level : Nat) : List Char := '\n' :: List.replicate (2 * level) ' '

mutual

/-- Writes a value that stands at a level. -/
def prettyChars (level : Nat) : Json → List Char
  | arr [] => ['[', ']']
  | arr items => '[' :: prettyItems (level + 1) items ++ newLine level ++ [']']
  | obj [] => ['\x7b', '\x7d']
  | obj members => '\x7b' :: prettyMembers (level + 1) members ++ newLine level ++ ['\x7d']
  | value => writeAtom value

/-- Writes items on lines of their own. -/
def prettyItems (level : Nat) : List Json → List Char
  | [] => []
  | [value] => newLine level ++ value.prettyChars level
  | value :: values => newLine level ++ value.prettyChars level ++ ',' :: prettyItems level values

/-- Writes members on lines of their own. -/
def prettyMembers (level : Nat) : List (String × Json) → List Char
  | [] => []
  | [(key, value)] => newLine level ++ quoted key ++ ':' :: ' ' :: value.prettyChars level
  | (key, value) :: members =>
    newLine level ++ quoted key ++ ':' :: ' ' :: value.prettyChars level ++
      ',' :: prettyMembers level members

end

/-- A value laid out over several lines. -/
def pretty (value : Json) : String := String.ofList (value.prettyChars 0)

end Json

end PeerTaint
