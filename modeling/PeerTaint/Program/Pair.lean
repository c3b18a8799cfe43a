import PeerTaint.Order.SortedMap
import PeerTaint.Program.Routine

/-!
The pair of programs under analysis: their values, their routines, and where each value is defined.

Values are numbered per program in the order in which they are registered, operations across both
programs in stream order. When several operations define a value, the last one counts.
-/

namespace PeerTaint

/-- Both programs. -/
structure ProgramPair where
  values : SortedMap Value ValueInfo := .empty
  routines : List Routine := []
  /-- The operation that defines a value. This is the operation itself and not its place among the
  routines, so that a pair can also stand for programs whose definitions are found in another way. On
  registration it is the operation as it stands in the stream, at a place that never moves. -/
  definitions : SortedMap Value Operation := .empty
  /-- The next number of a value, for each program, and of an operation. They never wrap around. -/
  nextValue : PerProgram Nat := .both 0
  nextOperation : Nat := 0
  deriving DecidableEq

namespace ProgramPair

/-- Registers a value under the next number of its program. -/
def addValue (m : ProgramPair) (p : Program) (info : ValueInfo) : Value × ProgramPair :=
  let v : Value := ⟨p, m.nextValue.get p⟩
  (v, { m with
    values := m.values.insert v info
    nextValue := m.nextValue.modify p (· + 1) })

/-- Numbers operations consecutively, whatever numbers they had. -/
def numbered (start : Nat) : List Operation → List Operation
  | [] => []
  | op :: ops => { op with id := some start } :: numbered (start + 1) ops

/-- Makes an operation the definition of its result. -/
def define (defs : SortedMap Value Operation) (op : Operation) : SortedMap Value Operation :=
  match op.result with
  | some v => defs.insert v op
  | none => defs

/-- Registers a routine and its operations. -/
def addRoutine (m : ProgramPair) (r : Routine) : ProgramPair :=
  let ops := numbered m.nextOperation r.operations
  { m with
    routines := m.routines ++ [{ r with operations := ops }]
    definitions := ops.foldl define m.definitions
    nextOperation := m.nextOperation + ops.length }

/-- What is known about a value. -/
def info? (m : ProgramPair) (v : Value) : Option ValueInfo := m.values.get? v

/-- The operation that defines a value. -/
def definition? (m : ProgramPair) (v : Value) : Option Operation := m.definitions.get? v

/-- The first routine of a program with a given name. -/
def routine? (m : ProgramPair) (name : String) (p : Program) : Option Routine :=
  m.routines.find? fun r => r.program = p ∧ r.name = name

/-- All operations in stream order. -/
def operations (m : ProgramPair) : List Operation := m.routines.flatMap (·.operations)

/-- Whether a value is known to be a pointer. -/
def isPointer (m : ProgramPair) (v : Value) : Bool := (m.info? v).any (·.isPointer)

end ProgramPair

end PeerTaint
