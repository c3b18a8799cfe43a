import PeerTaint.Inputs.Primitive
import PeerTaint.Graph.Node

/-!
Input records and the sets they are collected in.

For each program there is a set of local records, a set of network records and a set of all of them,
each with at most one record per value. In the last one, the record that came first stays.
-/

namespace PeerTaint

/-- A value that input flows into. -/
structure InputRecord where
  value : Value
  program : Program
  isNetwork : Bool
  /-- The call or routine that brings the input in. -/
  instruction : String
  kind : PrimitiveKind
  deriving DecidableEq

namespace InputRecord

/-- A record under the program of its value. -/
def ofValue (v : Value) (isNetwork : Bool) (instruction : String) (kind : PrimitiveKind) :
    InputRecord :=
  ⟨v, v.program, isNetwork, instruction, kind⟩

/-- Where the input comes from. -/
def origin (r : InputRecord) : Origin := if r.isNetwork then .network else .local

end InputRecord

/-- Which records are meant. -/
inductive InputScope where
  | local
  | network
  | all
  deriving DecidableEq

/-- Records by their value. -/
abbrev RecordSet := SortedMap Value InputRecord

/-- The records of both programs. -/
structure InputSets where
  localSets : PerProgram RecordSet := .both .empty
  networkSets : PerProgram RecordSet := .both .empty
  allSets : PerProgram RecordSet := .both .empty
  deriving DecidableEq

namespace InputSets

/-- The records without any. -/
def empty : InputSets := {}

/-- The records of a program in a scope. -/
def get (s : InputSets) (p : Program) : InputScope → RecordSet
  | .local => s.localSets.get p
  | .network => s.networkSets.get p
  | .all => s.allSets.get p

/-- The scope that a record belongs to. -/
def scopeOf (r : InputRecord) : InputScope := if r.isNetwork then .network else .local

/-- Adds a record, unless its value has one in the record's scope. The answer is whether it was
added. -/
def insert (s : InputSets) (r : InputRecord) : Bool × InputSets :=
  if (s.get r.program (scopeOf r)).contains r.value then (false, s)
  else
    let add := fun set : RecordSet => set.insert r.value r
    let s := if r.isNetwork then { s with networkSets := s.networkSets.modify r.program add }
      else { s with localSets := s.localSets.modify r.program add }
    (true, { s with allSets := s.allSets.modify r.program (·.insertIfNew r.value r) })

/-- Adds records in order. -/
def insertAll (s : InputSets) (rs : List InputRecord) : InputSets :=
  rs.foldl (fun s r => (s.insert r).2) s

/-- The records of a program in a scope, by value. -/
def records (s : InputSets) (p : Program) (scope : InputScope) : List InputRecord :=
  (s.get p scope).values

/-- The local records, then the network records of a program. -/
def recordsOf (s : InputSets) (p : Program) : List InputRecord :=
  s.records p .local ++ s.records p .network

/-- All records, program by program. -/
def toList (s : InputSets) : List InputRecord := Program.all.flatMap s.recordsOf

/-- Adds the records of another collection. -/
def extend (s t : InputSets) : InputSets := s.insertAll t.toList

/-- Whether a value has a record. -/
def contains (s : InputSets) (p : Program) (scope : InputScope) (v : Value) : Bool :=
  (s.get p scope).contains v

/-- Number of records of a program in a scope. -/
def size (s : InputSets) (p : Program) (scope : InputScope) : Nat := (s.get p scope).size

/-- Whether there is no record. -/
def isEmpty (s : InputSets) : Bool := Program.all.all fun p => (s.get p .all).isEmpty

end InputSets

end PeerTaint
