import PeerTaint.Graph.Node

/-!
Alias classes: which pointer values may point to the same memory.

The analysis asks an oracle for the class of a value and for the members of a class. An
`AliasPartition` is such an oracle. Its classes are numbered in order, their members are listed in
ascending order, and no value is in two of them.
-/

namespace PeerTaint

/-- What the analysis asks about aliasing. -/
structure AliasOracle where
  /-- The class that a value is in. -/
  key? : Value → Option AliasKey
  /-- The members of a class. -/
  members? : AliasKey → Option (List Value)

/-- Searches an ascending list by halving it. -/
def bisect {κ : Type} [Key κ] [DecidableEq κ] (k : κ) (as : List κ) : Bool :=
  match h : as[as.length / 2]? with
  | none => false
  | some a =>
    if k = a then true
    else if Key.before k a then bisect k (as.take (as.length / 2))
    else bisect k (as.drop (as.length / 2 + 1))
termination_by as.length
decreasing_by
  all_goals
    have := (List.getElem?_eq_some_iff.1 h).1
    simp only [List.length_take, List.length_drop]
    omega

/-- A class of values that may alias. -/
structure AliasClass where
  key : AliasKey
  members : List Value
  /-- Everything that a member may point to, where that is known. -/
  pointsTo : List Value
  deriving DecidableEq

namespace AliasClass

/-- Number of members. -/
def size (c : AliasClass) : Nat := c.members.length

/-- Whether a value is in the class, whose members have to be ascending. -/
def contains (c : AliasClass) (v : Value) : Bool := bisect v c.members

end AliasClass

/-- Disjoint alias classes, numbered in order. -/
structure AliasPartition where
  classes : List AliasClass := []
  /-- The class of each member. -/
  index : SortedMap Value AliasKey := .empty
  deriving DecidableEq

namespace AliasPartition

/-- Adds a class under the next number. -/
def push (part : AliasPartition) (members : SortedSet Value) (pointsTo : List Value) :
    AliasPartition :=
  let key := part.classes.length
  { classes := part.classes ++ [⟨key, members.elems, pointsTo⟩]
    index := members.elems.foldl (fun index v => index.insert v key) part.index }

/-- The partition of some lists of values. A value stays in the first list that has it, and a list
of which nothing stays gives no class. -/
def ofLists (lists : List (List Value)) : AliasPartition :=
  lists.foldl (fun part vs =>
    let fresh := vs.filter fun v => !part.index.contains v
    if fresh.isEmpty then part else part.push (.ofList fresh) []) {}

/-- The class with a given number. -/
def class? (part : AliasPartition) (k : AliasKey) : Option AliasClass := part.classes[k]?

/-- The partition as an oracle. -/
def oracle (part : AliasPartition) : AliasOracle where
  key? v := part.index.get? v
  members? k := (part.class? k).map (·.members)

end AliasPartition

end PeerTaint
