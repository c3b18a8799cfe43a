/-!
Sets of characters.

A set is kept as inclusive ranges of code points that ascend, neither overlap nor touch, and hold no
surrogates. So a set is written in one way only, and two sets with the same characters are equal.
Everything but the union is made of complements.
-/

namespace PeerTaint

/-- A set of characters, as inclusive ranges of code points. -/
structure CharSet where
  ranges : List (Nat × Nat)
  deriving DecidableEq

namespace CharSet

/-- The last code point. -/
def lastCode : Nat := 0x10FFFF

/-- The code points that are no characters. -/
def surrogates : Nat × Nat := (0xD800, 0xDFFF)

/-- Puts a range before ranges that begin no earlier, and joins those it overlaps or touches. -/
def join (r : Nat × Nat) : List (Nat × Nat) → List (Nat × Nat)
  | [] => [r]
  | s :: rest => if s.1 ≤ r.2 + 1 then join (r.1, Nat.max r.2 s.2) rest else r :: s :: rest

/-- Puts ranges in ascending order and joins those that overlap or touch. -/
def ordered (rs : List (Nat × Nat)) : List (Nat × Nat) :=
  (rs.mergeSort fun r s => decide (r.1 ≤ s.1)).foldr join []

/-- The code points from `n` on that lie in none of some ascending ranges. -/
def gapsFrom (n : Nat) : List (Nat × Nat) → List (Nat × Nat)
  | [] => if n ≤ lastCode then [(n, lastCode)] else []
  | r :: rest =>
    if n < r.1 then (n, r.1 - 1) :: gapsFrom (r.2 + 1) rest else gapsFrom (r.2 + 1) rest

/-- The characters outside some ranges. -/
def outside (rs : List (Nat × Nat)) : CharSet := ⟨gapsFrom 0 (ordered (surrogates :: rs))⟩

/-- The characters that are not in a set. -/
def compl (s : CharSet) : CharSet := outside s.ranges

/-- The characters in some ranges, given in any order. -/
def ofRanges (rs : List (Nat × Nat)) : CharSet := (outside rs).compl

/-- The set without characters. -/
def none : CharSet := ⟨[]⟩

/-- The set of all characters. -/
def all : CharSet := outside []

/-- The set of one character. -/
def single (c : Char) : CharSet := ⟨[(c.toNat, c.toNat)]⟩

/-- The characters of either set. -/
def union (s t : CharSet) : CharSet := ⟨ordered (s.ranges ++ t.ranges)⟩

/-- The characters of one of several sets. -/
def unions (ss : List CharSet) : CharSet := ⟨ordered (ss.flatMap (·.ranges))⟩

/-- The characters of both sets. -/
def inter (s t : CharSet) : CharSet := (s.compl.union t.compl).compl

/-- The characters of the first set that are not in the second. -/
def diff (s t : CharSet) : CharSet := (s.compl.union t).compl

/-- The characters of exactly one of two sets. -/
def symmDiff (s t : CharSet) : CharSet := (s.diff t).union (t.diff s)

/-- Whether a code point is in one of some ascending ranges. -/
def inRanges (c : Nat) : List (Nat × Nat) → Bool
  | [] => false
  | r :: rest => if c < r.1 then false else decide (c ≤ r.2) || inRanges c rest

/-- Whether a code point is in the set. -/
def contains (s : CharSet) (c : Nat) : Bool := inRanges c s.ranges

/-- Whether a character is in the set. -/
def has (s : CharSet) (c : Char) : Bool := s.contains c.toNat

/-- Whether all characters of the set are ASCII characters. -/
def isAscii (s : CharSet) : Bool := s.ranges.all fun r => decide (r.2 < 128)

/-- The only character of a set. -/
def only? (s : CharSet) : Option Char :=
  match s.ranges with
  | [r] => if r.1 = r.2 then some (Char.ofNat r.1) else Option.none
  | _ => Option.none

end CharSet

end PeerTaint
