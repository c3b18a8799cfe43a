import PeerTaint.Text.CharSet
import PeerTaint.Text.Decimal

/-!
Tables of code points, written as lines of text.

A table with labels gives, from the first code point on, how many code points in a row have a label:
`26Lu 6Po` are 26 with the label `Lu` and then 6 with the label `Po`. A table without labels gives
in turn how many code points in a row are left out and how many belong to the set.
-/

namespace PeerTaint.Unicode

/-- Code points in a row with one label. -/
structure Run where
  first : Nat
  last : Nat
  label : String

/-- The words of some lines. -/
def words (lines : List String) : List String := lines.flatMap (·.splitOn " ")

/-- The number at the beginning of a word and what follows it. -/
def splitWord (word : String) : Nat × String :=
  let cs := word.toList
  (Decimal.value (cs.takeWhile Decimal.isDigit), String.ofList (cs.dropWhile Decimal.isDigit))

/-- The runs that words describe, from code point `n` on. -/
def runsFrom (n : Nat) : List (Nat × String) → List Run
  | [] => []
  | (size, label) :: rest => ⟨n, n + size - 1, label⟩ :: runsFrom (n + size) rest

/-- Reads a table with labels. -/
def readRuns (lines : List String) : List Run := runsFrom 0 ((words lines).map splitWord)

/-- The code points whose label satisfies a condition. -/
def labelled (runs : List Run) (isWanted : String → Bool) : CharSet :=
  .ofRanges ((runs.filter fun r => isWanted r.label).map fun r => (r.first, r.last))

/-- The ranges that gaps and sizes describe, from code point `n` on. -/
def rangesFrom (n : Nat) : List Nat → List (Nat × Nat)
  | gap :: size :: rest => (n + gap, n + gap + size - 1) :: rangesFrom (n + gap + size) rest
  | _ => []

/-- Reads a table without labels. -/
def readSet (lines : List String) : CharSet :=
  .ofRanges (rangesFrom 0 ((words lines).map fun word => Decimal.value word.toList))

end PeerTaint.Unicode
