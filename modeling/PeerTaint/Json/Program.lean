import PeerTaint.Json.Shape
import PeerTaint.Program.Routine

/-!
Programs, their values, operations and routines as JSON.
-/

namespace PeerTaint

open Json

namespace Program

/-- Name of a program in JSON. -/
def tag : Program → String
  | first => "First"
  | second => "Second"

/-- Writes a program. -/
def toJson (p : Program) : Json := .str p.tag

/-- Reads a program. -/
def ofJson? : Json → Option Program := named? (findNamed all tag)

end Program

namespace PerProgram

/-- Writes one thing for each program. -/
def toJson {α : Type} (item : α → Json) (s : PerProgram α) : Json :=
  .obj [("slots", .arr [item s.first, item s.second])]

/-- Reads one thing for each program. -/
def ofJson? {α : Type} (item : Json → Option α) (j : Json) : Option (PerProgram α) := do
  let r ← record? ["slots"] false j
  let (first, second) ← r.required "slots" (pair? item)
  return ⟨first, second⟩

end PerProgram

namespace Direction

/-- Writes a direction. -/
def toJson (d : Direction) : Json := .str d.text

/-- Reads a direction. -/
def ofJson? : Json → Option Direction := named? (findNamed all text)

end Direction

namespace Value

/-- Writes a value. -/
def toJson (v : Value) : Json := .obj [("program", v.program.toJson), ("id", .nat v.id)]

/-- Reads a value. -/
def ofJson? (j : Json) : Option Value := do
  let r ← record? ["program", "id"] false j
  return ⟨← r.required "program" Program.ofJson?, ← r.required "id" nat32?⟩

end Value

namespace ValueKind

/-- Name of a kind of value in JSON. -/
def tag : ValueKind → String
  | instruction => "Instruction"
  | argument => "Argument"
  | global => "Global"
  | constant => "Constant"
  | constantExpr => "ConstantExpr"
  | function => "Function"

/-- Writes a kind of value. -/
def toJson (k : ValueKind) : Json := .str k.tag

/-- Reads a kind of value. -/
def ofJson? : Json → Option ValueKind := named? (findNamed all tag)

end ValueKind

namespace ValueInfo

/-- Writes what is known about a value. -/
def toJson (info : ValueInfo) : Json :=
  .obj [
    ("name", .str info.name),
    ("kind", info.kind.toJson),
    ("is_pointer", .bool info.isPointer),
    ("resolves_to", ofOption .str info.resolvesTo)]

/-- Reads what is known about a value. -/
def ofJson? (j : Json) : Option ValueInfo := do
  let r ← record? ["name", "kind", "is_pointer", "resolves_to"] false j
  return {
    name := ← r.required "name" str?
    kind := ← r.required "kind" ValueKind.ofJson?
    isPointer := ← r.required "is_pointer" bool?
    resolvesTo := ← r.optional "resolves_to" str? }

end ValueInfo

namespace Location

/-- Writes a location. -/
def toJson (l : Location) : Json := .obj [("file", .str l.file), ("line", .nat l.line)]

/-- Reads a location. -/
def ofJson? (j : Json) : Option Location := do
  let r ← record? ["file", "line"] false j
  return ⟨← r.required "file" str?, ← r.required "line" nat32?⟩

end Location

namespace Opcode

/-- Name of an opcode in JSON. -/
def tag : Opcode → String
  | load => "Load"
  | store => "Store"
  | phi => "Phi"
  | call => "Call"
  | alloca => "Alloca"
  | getElementPtr => "GetElementPtr"
  | cast => "Cast"
  | binary => "Binary"
  | compare => "Compare"
  | select => "Select"
  | ret => "Return"
  | branch => "Branch"
  | switch => "Switch"
  | unreachable => "Unreachable"
  | other => "Other"

/-- Writes an opcode. -/
def toJson (o : Opcode) : Json := .str o.tag

/-- Reads an opcode. -/
def ofJson? : Json → Option Opcode := named? (findNamed all tag)

end Opcode

namespace Operation

/-- Writes the target of a call. -/
def targetJson (name : String) : Json := .obj [("name", .str name)]

/-- Reads the target of a call. -/
def target? (j : Json) : Option String := do
  (← record? ["name"] false j).required "name" str?

/-- Writes an operation. -/
def toJson (op : Operation) : Json :=
  .obj [
    ("id", ofOption .nat op.id),
    ("opcode", op.opcode.toJson),
    ("operands", ofList Value.toJson op.operands),
    ("call_target", ofOption targetJson op.target),
    ("location", ofOption Location.toJson op.location),
    ("result", ofOption Value.toJson op.result)]

/-- Reads an operation. -/
def ofJson? (j : Json) : Option Operation := do
  let r ← record? ["id", "opcode", "operands", "call_target", "location", "result"] false j
  return {
    id := ← r.withDefault "id" (option? nat32?) none
    opcode := ← r.required "opcode" Opcode.ofJson?
    operands := ← r.required "operands" (list? Value.ofJson?)
    target := ← r.optional "call_target" target?
    location := ← r.optional "location" Location.ofJson?
    result := ← r.optional "result" Value.ofJson? }

end Operation

namespace CallSite

/-- Writes a call site. -/
def toJson (c : CallSite) : Json :=
  .obj [("callee", .str c.callee), ("location", ofOption Location.toJson c.location)]

/-- Reads a call site. -/
def ofJson? (j : Json) : Option CallSite := do
  let r ← record? ["callee", "location"] false j
  return ⟨← r.required "callee" str?, ← r.optional "location" Location.ofJson?⟩

end CallSite

namespace Block

/-- Writes a block. -/
def toJson (b : Block) : Json :=
  .obj [
    ("id", .nat b.id),
    ("successors", ofList .nat b.successors),
    ("call_sites", ofList CallSite.toJson b.calls)]

/-- Reads a block. -/
def ofJson? (j : Json) : Option Block := do
  let r ← record? ["id", "successors", "call_sites"] false j
  return {
    id := ← r.required "id" nat32?
    successors := ← r.required "successors" (list? nat32?)
    calls := ← r.required "call_sites" (list? CallSite.ofJson?) }

end Block

namespace Routine

/-- Writes a routine. -/
def toJson (r : Routine) : Json :=
  .obj [
    ("name", .str r.name),
    ("program", r.program.toJson),
    ("params", ofList Value.toJson r.params),
    ("is_entry_point", .bool r.isEntryPoint),
    ("operations", ofList Operation.toJson r.operations),
    ("blocks", ofList Block.toJson r.blocks)]

/-- Reads a routine. -/
def ofJson? (j : Json) : Option Routine := do
  let r ← record? ["name", "program", "params", "is_entry_point", "operations", "blocks"] false j
  return {
    name := ← r.required "name" str?
    program := ← r.required "program" Program.ofJson?
    params := ← r.required "params" (list? Value.ofJson?)
    isEntryPoint := ← r.required "is_entry_point" bool?
    operations := ← r.required "operations" (list? Operation.ofJson?)
    blocks := ← r.required "blocks" (list? Block.ofJson?) }

end Routine

end PeerTaint
