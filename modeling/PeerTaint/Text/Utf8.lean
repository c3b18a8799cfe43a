/-!
The bytes of characters in UTF-8.
-/

namespace PeerTaint.Utf8

/-- The bytes of a code point. -/
def bytes (c : Nat) : List Nat :=
  if c < 0x80 then [c]
  else if c < 0x800 then [0xC0 + c / 0x40, 0x80 + c % 0x40]
  else if c < 0x10000 then [0xE0 + c / 0x1000, 0x80 + c / 0x40 % 0x40, 0x80 + c % 0x40]
  else [0xF0 + c / 0x40000, 0x80 + c / 0x1000 % 0x40, 0x80 + c / 0x40 % 0x40, 0x80 + c % 0x40]

/-- How many bytes a character takes whose first byte is given. -/
def width? (first : Nat) : Option Nat :=
  if first < 0x80 then some 1
  else if first < 0xC0 then none
  else if first < 0xE0 then some 2
  else if first < 0xF0 then some 3
  else if first < 0xF8 then some 4
  else none

/-- Whether a byte goes on with a character. -/
def isTrailing (byte : Nat) : Bool := decide (0x80 ≤ byte) && decide (byte < 0xC0)

/-- The number that a first byte and trailing bytes denote. -/
def value : List Nat → Nat
  | [] => 0
  | first :: rest =>
    let lead := match rest.length with
      | 0 => first
      | 1 => first % 0x20
      | 2 => first % 0x10
      | _ => first % 8
    rest.foldl (fun n b => 0x40 * n + b % 0x40) lead

/-- The character with the given bytes. Bytes that are not those of a character stand for a
replacement character. -/
def char (bs : List Nat) : Char :=
  let n := value bs
  if n.isValidChar ∧ bytes n = bs then Char.ofNat n else '\ufffd'

end PeerTaint.Utf8
