import PeerTaint.Program.Operation

/-!
Routines: the functions of the programs, as streams of operations with an optional layout in blocks.
-/

namespace PeerTaint

/-- A call as it stands in a block. -/
structure CallSite where
  callee : String
  location : Option Location
  deriving DecidableEq

/-- A block of a routine: its calls in order, and the blocks that may run next. -/
structure Block where
  id : Nat
  successors : List Nat
  calls : List CallSite
  deriving DecidableEq

/-- A function of one of the programs. -/
structure Routine where
  name : String
  program : Program
  params : List Value := []
  isEntryPoint : Bool := false
  operations : List Operation := []
  blocks : List Block := []
  deriving DecidableEq

namespace Routine

/-- The calls among the operations, in order. -/
def callSites (r : Routine) : List CallSite :=
  r.operations.filterMap fun op => op.callee.map fun name => ⟨name, op.location⟩

/-- The blocks of a routine. Without explicit ones, all its calls stand in a single block. -/
def layout (r : Routine) : List Block :=
  if r.blocks.isEmpty then [⟨0, [], r.callSites⟩] else r.blocks

/-- The values that the routine may return. -/
def returned (r : Routine) : List Value :=
  (r.operations.filter fun op => op.opcode = .ret).flatMap (·.operands)

end Routine

end PeerTaint
