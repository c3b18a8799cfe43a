import PeerTaint.Alias.Partition

/-!
Merging points-to facts into alias classes.

Every value that is mentioned, as a pointer or as a target, starts as a class of its own that points
to itself and to its targets. Two classes that point to a common value are merged, until no two do.
A pass goes through the classes in order and lets each one absorb those after it that meet it; what
a class gains on the way counts at once. Passes are repeated until one of them merges nothing.
-/

namespace PeerTaint

/-- Points-to facts: what each mentioned value may point to. -/
structure PointsTo where
  targets : SortedMap Value (SortedSet Value) := .empty
  deriving DecidableEq

namespace PointsTo

/-- Adds the fact that a pointer may point to some targets. -/
def add (facts : PointsTo) (pointer : Value) (targets : List Value) : PointsTo :=
  let known := targets.foldl (fun m t => m.insertIfNew t .empty) facts.targets
  let old := (known.get? pointer).getD .empty
  ⟨known.insert pointer (old.union (.ofList targets))⟩

/-- The facts of a list of rows. -/
def ofRows (rows : List (Value × List Value)) : PointsTo :=
  rows.foldl (fun facts row => facts.add row.1 row.2) {}

/-- The facts of a map from pointers to their targets. -/
def ofMap (rows : SortedMap Value (SortedSet Value)) : PointsTo :=
  ofRows (rows.entries.map fun row => (row.1, row.2.elems))

/-- The mentioned values, ascending. -/
def ids (facts : PointsTo) : List Value := facts.targets.keys

end PointsTo

/-- A class while classes are being merged. -/
structure PendingClass where
  members : SortedSet Value
  pointsTo : SortedSet Value
  deriving DecidableEq

namespace PendingClass

/-- The class of a single value. -/
def single (v : Value) (targets : SortedSet Value) : PendingClass :=
  ⟨.ofList [v], targets.insert v⟩

/-- Whether two classes point to a common value. -/
def meets (c d : PendingClass) : Bool := c.pointsTo.meets d.pointsTo

/-- Both classes as one. -/
def join (c d : PendingClass) : PendingClass :=
  ⟨c.members.union d.members, c.pointsTo.union d.pointsTo⟩

/-- Lets a class absorb those of a list that meet it; the rest of the list stays in order. -/
def absorb (c : PendingClass) : List PendingClass → PendingClass × List PendingClass
  | [] => (c, [])
  | d :: ds =>
    if c.meets d then absorb (c.join d) ds
    else
      let (c, ds) := absorb c ds
      (c, d :: ds)

theorem length_absorb_le (c : PendingClass) (ds : List PendingClass) :
    (absorb c ds).2.length ≤ ds.length := by
  induction ds generalizing c with
  | nil => simp [absorb]
  | cons d ds ih =>
    simp only [absorb]
    split
    · exact Nat.le_succ_of_le (ih _)
    · simpa using ih c

/-- One pass over the classes. -/
def pass : List PendingClass → List PendingClass
  | [] => []
  | c :: cs => (absorb c cs).1 :: pass (absorb c cs).2
termination_by cs => cs.length
decreasing_by
  have := length_absorb_le c cs
  simp only [List.length_cons]
  omega

/-- Passes until one merges nothing: the classes that are left, and the number of passes. -/
def settle (cs : List PendingClass) : List PendingClass × Nat :=
  if (pass cs).length < cs.length then
    let (settled, passes) := settle (pass cs)
    (settled, passes + 1)
  else (pass cs, 1)
termination_by cs.length

end PendingClass

/-- How a merge went. -/
structure MergeStats where
  inputIds : Nat
  classes : Nat
  passes : Nat
  merges : Nat
  deriving DecidableEq

namespace PointsTo

/-- The classes to start from. -/
def singles (facts : PointsTo) : List PendingClass :=
  facts.targets.entries.map fun row => .single row.1 row.2

/-- Whether a class is listed before another one: the one with the smaller first member is. -/
def listedBefore (c d : PendingClass) : Bool := !Key.before d.members.elems c.members.elems

/-- The alias classes of the facts, with a record of the merge. -/
def mergeWithStats (facts : PointsTo) : AliasPartition × MergeStats :=
  let start := facts.singles
  let (settled, passes) := PendingClass.settle start
  let part := (settled.mergeSort listedBefore).foldl
    (fun part c => part.push c.members c.pointsTo.elems) {}
  (part, ⟨start.length, settled.length, passes, start.length - settled.length⟩)

/-- The alias classes of the facts. -/
def merge (facts : PointsTo) : AliasPartition := facts.mergeWithStats.1

end PointsTo

end PeerTaint
