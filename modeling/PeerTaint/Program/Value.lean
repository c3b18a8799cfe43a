import PeerTaint.Program.Basic

/-!
Values of the analysed programs and what is known about them.
-/

namespace PeerTaint

/-- A value of one of the programs, numbered within it. A program is taken to have fewer than `bound32`
values. -/
structure Value where
  program : Program
  id : Nat
  deriving DecidableEq

namespace Value

/-- Display text, such as `P1:%7`. -/
def text (v : Value) : String := v.program.text ++ ":%" ++ decimal v.id

theorem pair_injective {v w : Value} (h : (v.program, v.id) = (w.program, w.id)) : v = w := by
  cases v; cases w; simp_all

/-- Values are ordered by program, then by number. -/
instance : Key Value := Key.ofInjective (fun v => (v.program, v.id)) pair_injective

end Value

/-- What sort of thing a value is. -/
inductive ValueKind where
  | instruction
  | argument
  | global
  | constant
  | constantExpr
  | function
  deriving DecidableEq

namespace ValueKind

/-- All kinds, in order. -/
def all : List ValueKind := [instruction, argument, global, constant, constantExpr, function]

/-- Constants never stand for memory, whatever their type. -/
def isConstant : ValueKind → Bool
  | constant | constantExpr | function => true
  | instruction | argument | global => false

end ValueKind

/-- What is known about a value. -/
structure ValueInfo where
  name : String
  kind : ValueKind
  isPointer : Bool := false
  /-- The buffer that the value is known to point into. -/
  resolvesTo : Option String := none
  deriving DecidableEq

namespace ValueInfo

/-- The result of an instruction. -/
def scalar (name : String) : ValueInfo := { name, kind := .instruction }

/-- A pointer that an instruction computes. -/
def pointer (name : String) : ValueInfo := { name, kind := .instruction, isPointer := true }

/-- A global buffer. -/
def buffer (name : String) : ValueInfo := { name, kind := .global, isPointer := true }

/-- A parameter. -/
def argument (name : String) (isPointer : Bool) : ValueInfo := { name, kind := .argument, isPointer }

/-- A constant. -/
def constant (name : String) : ValueInfo := { name, kind := .constant }

/-- The name of the storage behind a value: the buffer it resolves to, else its own name. -/
def storageName (info : ValueInfo) : String := info.resolvesTo.getD info.name

end ValueInfo

end PeerTaint
