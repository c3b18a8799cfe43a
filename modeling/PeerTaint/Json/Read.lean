import PeerTaint.Json.Basic

/-!
Reading JSON text.

Each reader takes the characters that are left and gives a value with what is left after it.
-/

namespace PeerTaint

namespace Json

/-- Whether a character may stand between tokens. -/
def isBlank (c : Char) : Bool := c = ' ' || c = '\n' || c = '\t' || c = '\r'

/-- Leaves out blanks. -/
def skipBlanks (cs : List Char) : List Char := cs.dropWhile isBlank

/-! ## Numbers -/

/-- Passes one or more digits. -/
def skipDigits (cs : List Char) : Option (List Char) :=
  if (cs.takeWhile Decimal.isDigit).isEmpty then none else some (cs.dropWhile Decimal.isDigit)

/-- Passes the digits after a point, if there is one. -/
def skipFraction : List Char → Option (List Char)
  | '.' :: cs => skipDigits cs
  | cs => some cs

/-- Passes an exponent, if there is one. -/
def skipExponent : List Char → Option (List Char)
  | 'e' :: '+' :: cs | 'e' :: '-' :: cs | 'E' :: '+' :: cs | 'E' :: '-' :: cs => skipDigits cs
  | 'e' :: cs | 'E' :: cs => skipDigits cs
  | cs => some cs

/-- The digits of a natural number, which starts with zero only if it is zero. -/
def readNatural (cs : List Char) : Option (Nat × List Char) :=
  match cs.takeWhile Decimal.isDigit with
  | [] => none
  | '0' :: _ :: _ => none
  | digits => some (Decimal.value digits, cs.dropWhile Decimal.isDigit)

/-- Reads a number. -/
def readNumber (cs : List Char) : Option (Json × List Char) :=
  let unsigned := match cs with
    | '-' :: rest => rest
    | _ => cs
  match readNatural unsigned with
  | none => none
  | some (n, rest) =>
    match (skipFraction rest).bind skipExponent with
    | none => none
    | some after =>
      if unsigned.length = cs.length ∧ after.length = rest.length then some (nat n, after)
      else some (number (String.ofList (cs.take (cs.length - after.length))), after)

/-! ## Texts -/

/-- A piece of a text: a character, or a code unit given by its number. -/
inductive TextUnit where
  | char (c : Char)
  | code (n : Nat)

/-- The value of a hexadecimal digit. -/
def hexDigit? (c : Char) : Option Nat :=
  if '0' ≤ c ∧ c ≤ '9' then some (c.toNat - '0'.toNat)
  else if 'a' ≤ c ∧ c ≤ 'f' then some (c.toNat - 'a'.toNat + 10)
  else if 'A' ≤ c ∧ c ≤ 'F' then some (c.toNat - 'A'.toNat + 10)
  else none

/-- The code unit that four hexadecimal digits stand for. -/
def codeUnit? (a b c d : Char) : Option Nat := do
  return (((← hexDigit? a) * 16 + (← hexDigit? b)) * 16 + (← hexDigit? c)) * 16 + (← hexDigit? d)

/-- The character that a letter after a backslash stands for. -/
def escaped? : Char → Option Char
  | '"' => some '"'
  | '\\' => some '\\'
  | '/' => some '/'
  | 'b' => some '\x08'
  | 'f' => some '\x0c'
  | 'n' => some '\n'
  | 'r' => some '\r'
  | 't' => some '\t'
  | _ => none

/-- Puts a unit in front of what was read after it. -/
def unitBefore (u : TextUnit) (r : List TextUnit × List Char) : List TextUnit × List Char :=
  (u :: r.1, r.2)

/-- Reads the pieces of a text up to the closing quote. -/
def readUnits : List Char → Option (List TextUnit × List Char)
  | [] => none
  | '"' :: cs => some ([], cs)
  | '\\' :: 'u' :: a :: b :: c :: d :: cs =>
    match codeUnit? a b c d with
    | some n => (readUnits cs).map (unitBefore (.code n))
    | none => none
  | '\\' :: c :: cs =>
    match escaped? c with
    | some e => (readUnits cs).map (unitBefore (.char e))
    | none => none
  | c :: cs =>
    if c = '\\' ∨ c < ' ' then none else (readUnits cs).map (unitBefore (.char c))

/-- Whether a code unit is the first half of a pair. -/
def isLeading (n : Nat) : Bool := 0xD800 ≤ n && n < 0xDC00

/-- Whether a code unit is the second half of a pair. -/
def isTrailing (n : Nat) : Bool := 0xDC00 ≤ n && n < 0xE000

/-- The characters of a text. There are none if half of a pair stands alone. -/
def characters? : List TextUnit → Option (List Char)
  | [] => some []
  | .char c :: us => (characters? us).map (c :: ·)
  | .code n :: .code m :: us =>
    if isLeading n then
      if isTrailing m then
        (characters? us).map (Char.ofNat (0x10000 + (n - 0xD800) * 0x400 + (m - 0xDC00)) :: ·)
      else none
    else if isTrailing n then none
    else (characters? (.code m :: us)).map (Char.ofNat n :: ·)
  | .code n :: us =>
    if isLeading n || isTrailing n then none else (characters? us).map (Char.ofNat n :: ·)

/-- Reads a text after its opening quote. -/
def readText (cs : List Char) : Option (Option String × List Char) :=
  (readUnits cs).map fun (units, rest) => ((characters? units).map String.ofList, rest)

/-! ## Values -/

/-- Joins the members of an object, if all of their keys are texts. -/
def ofMembers (members : List (Option String × Json)) : Json :=
  match members.mapM fun (key, value) => key.map (·, value) with
  | some members => obj members
  | none => garbled

mutual

/-- Reads a value. -/
def readValue : Nat → List Char → Option (Json × List Char)
  | 0, _ => none
  | fuel + 1, cs =>
    match skipBlanks cs with
    | 'n' :: 'u' :: 'l' :: 'l' :: rest => some (null, rest)
    | 't' :: 'r' :: 'u' :: 'e' :: rest => some (bool true, rest)
    | 'f' :: 'a' :: 'l' :: 's' :: 'e' :: rest => some (bool false, rest)
    | '"' :: rest =>
      match readText rest with
      | some (some s, rest) => some (str s, rest)
      | some (none, rest) => some (garbled, rest)
      | none => none
    | '[' :: rest =>
      match skipBlanks rest with
      | ']' :: rest => some (arr [], rest)
      | rest => (readItems fuel rest).map fun (items, rest) => (arr items, rest)
    | '\x7b' :: rest =>
      match skipBlanks rest with
      | '\x7d' :: rest => some (obj [], rest)
      | rest => (readMembers fuel rest).map fun (members, rest) => (ofMembers members, rest)
    | rest => readNumber rest

/-- Reads the items of an array, of which there is at least one, and the closing bracket. -/
def readItems : Nat → List Char → Option (List Json × List Char)
  | 0, _ => none
  | fuel + 1, cs =>
    match readValue fuel cs with
    | none => none
    | some (value, rest) =>
      match skipBlanks rest with
      | ']' :: rest => some ([value], rest)
      | ',' :: rest => (readItems fuel rest).map fun (values, rest) => (value :: values, rest)
      | _ => none

/-- Reads the members of an object, of which there is at least one, and the closing bracket. -/
def readMembers : Nat → List Char → Option (List (Option String × Json) × List Char)
  | 0, _ => none
  | fuel + 1, cs =>
    match skipBlanks cs with
    | '"' :: rest =>
      match readText rest with
      | none => none
      | some (key, rest) =>
        match skipBlanks rest with
        | ':' :: rest =>
          match readValue fuel rest with
          | none => none
          | some (value, rest) =>
            match skipBlanks rest with
            | '\x7d' :: rest => some ([(key, value)], rest)
            | ',' :: rest =>
              (readMembers fuel rest).map fun (members, rest) => ((key, value) :: members, rest)
            | _ => none
        | _ => none
    | _ => none

end

/-- Reads a text that holds one value. -/
def ofText? (text : String) : Option Json :=
  match readValue (2 * text.length + 2) text.toList with
  | some (value, rest) => if (skipBlanks rest).isEmpty then some value else none
  | none => none

end Json

end PeerTaint
