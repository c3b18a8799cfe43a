import PeerTaint.Program.Value

/-!
Operations: the steps of a program, each with the values it uses and the value it defines.
-/

namespace PeerTaint

/-- A line of a source file. -/
structure Location where
  file : String
  line : Nat
  deriving DecidableEq

namespace Location

/-- Display text, `file:line`. -/
def text (l : Location) : String := l.file ++ ":" ++ decimal l.line

theorem pair_injective {l k : Location} (h : (l.file, l.line) = (k.file, k.line)) : l = k := by
  cases l; cases k; simp_all

/-- Locations are ordered by file, then by line. -/
instance : Key Location := Key.ofInjective (fun l => (l.file, l.line)) pair_injective

end Location

/-- The classes of operations that the analysis tells apart. -/
inductive Opcode where
  | load
  | store
  | phi
  | call
  | alloca
  | getElementPtr
  | cast
  | binary
  | compare
  | select
  | ret
  | branch
  | switch
  | unreachable
  | other
  deriving DecidableEq

namespace Opcode

/-- All classes, in order. -/
def all : List Opcode :=
  [load, store, phi, call, alloca, getElementPtr, cast, binary, compare, select, ret, branch,
    switch, unreachable, other]

/-- Whether the operation ends a block. -/
def isTerminator : Opcode → Bool
  | ret | branch | switch | unreachable => true
  | _ => false

/-- Short name, as it appears in labels. -/
def text : Opcode → String
  | load => "load"
  | store => "store"
  | phi => "phi"
  | call => "call"
  | alloca => "alloca"
  | getElementPtr => "getelementptr"
  | cast => "cast"
  | binary => "binary"
  | compare => "compare"
  | select => "select"
  | ret => "ret"
  | branch => "br"
  | switch => "switch"
  | unreachable => "unreachable"
  | other => "op"

end Opcode

/-- One operation. The operands of a store are the stored value and the destination; those of a call
are its arguments, in order. -/
structure Operation where
  /-- Number given on registration. An operation without one is only recognised by its result. Both
  programs together are taken to have fewer than `bound32` operations. -/
  id : Option Nat := none
  opcode : Opcode
  operands : List Value
  /-- The name of a call's target, where it is known. -/
  target : Option String := none
  location : Option Location := none
  result : Option Value := none
  deriving DecidableEq

/-- Display text of the number of an operation, such as `op3`. -/
def operationText (id : Nat) : String := "op" ++ decimal id

namespace Operation

/-- The name of the called function, for calls with a known target. -/
def callee (op : Operation) : Option String := if op.opcode = .call then op.target else none

end Operation

end PeerTaint
