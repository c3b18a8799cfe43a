import PeerTaint.Order.Key

/-!
Characters of YAML text.

Before a text is read its line ends are made uniform: a carriage return, alone or in front of a line
feed, and a next line character become a line feed. The line and paragraph separators also end lines
but stay themselves.
-/

namespace PeerTaint

namespace Yaml

/-- Blanks and tabs. -/
def isBlank (c : Char) : Bool := c = ' ' || c = '\t'

/-- Characters that end a line. -/
def isBreak (c : Char) : Bool := c = '\n' || c = '\u2028' || c = '\u2029'

/-- Whether a word ends here. -/
def atGap : List Char → Bool
  | [] => true
  | c :: _ => isBlank c || isBreak c

/-- Letters, digits, underscores and hyphens. -/
def isNameChar (c : Char) : Bool := c.isAlphanum || c = '_' || c = '-'

/-- Whether a code lies in one of several ranges. -/
def inRanges (n : Nat) (ranges : List (Nat × Nat)) : Bool :=
  ranges.any fun (low, high) => low ≤ n && n ≤ high

/-- Characters that may stand in a text. -/
def isAdmissible (c : Char) : Bool :=
  inRanges c.toNat
    [(0x09, 0x0A), (0x0D, 0x0D), (0x20, 0x7E), (0x85, 0x85), (0xA0, 0xD7FF), (0xE000, 0xFFFD),
      (0x10000, 0x10FFFF)]

/-- Characters that are written as themselves. -/
def isPrintable (c : Char) : Bool :=
  inRanges c.toNat
    [(0x0A, 0x0A), (0x20, 0x7E), (0xA0, 0xD7FF), (0xE000, 0xFEFE), (0xFF00, 0xFFFD),
      (0x10000, 0x10FFFF)]

/-- Makes line ends uniform. -/
def uniformBreaks : List Char → List Char
  | [] => []
  | '\r' :: '\n' :: cs => '\n' :: uniformBreaks cs
  | c :: cs => (if c = '\r' ∨ c = '\u0085' then '\n' else c) :: uniformBreaks cs

/-- Whether the marker of a document's start or end stands here. -/
def atDocumentMark : List Char → Bool
  | '-' :: '-' :: '-' :: cs | '.' :: '.' :: '.' :: cs => atGap cs
  | _ => false

end Yaml

end PeerTaint
