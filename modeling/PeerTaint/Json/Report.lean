import PeerTaint.Alias.Merge
import PeerTaint.Json.Graph
import PeerTaint.Json.Read
import PeerTaint.Json.Write
import PeerTaint.Levels.Correlator
import PeerTaint.Reachability.Report

/-!
What the analyses find as JSON: inputs, alias classes, levels and the report.
-/

namespace PeerTaint

open Json

namespace PrimitiveKind

/-- Writes a kind of input. -/
def toJson (k : PrimitiveKind) : Json := .str k.text

/-- Reads a kind of input. -/
def ofJson? : Json → Option PrimitiveKind := named? (findNamed all text)

end PrimitiveKind

namespace TaintedOperands

/-- Writes which values of a call are tainted. -/
def toJson : TaintedOperands → Json
  | result => .str "Return"
  | arg i => tagged "Arg" (.nat i)
  | argsFrom i => tagged "ArgsFrom" (.nat i)
  | pointerArgs => .str "PointerArgs"
  | wholeCall => .str "WholeCall"

/-- The choices that carry no position. -/
def ofName? : String → Option TaintedOperands
  | "Return" => some result
  | "PointerArgs" => some pointerArgs
  | "WholeCall" => some wholeCall
  | _ => none

/-- Reads which values of a call are tainted. -/
def ofJson? (j : Json) : Option TaintedOperands :=
  match choice? j with
  | some ("Arg", some value) => (nat64? value).map arg
  | some ("ArgsFrom", some value) => (nat64? value).map argsFrom
  | _ => named? ofName? j

end TaintedOperands

namespace InputRecord

/-- Writes an input record. -/
def toJson (r : InputRecord) : Json :=
  .obj [
    ("value", r.value.toJson),
    ("program", r.program.toJson),
    ("is_network", .bool r.isNetwork),
    ("instruction_name", .str r.instruction),
    ("kind", r.kind.toJson)]

/-- Reads an input record. -/
def ofJson? (j : Json) : Option InputRecord := do
  let r ← record? ["value", "program", "is_network", "instruction_name", "kind"] false j
  return {
    value := ← r.required "value" Value.ofJson?
    program := ← r.required "program" Program.ofJson?
    isNetwork := ← r.required "is_network" bool?
    instruction := ← r.required "instruction_name" str?
    kind := ← r.required "kind" PrimitiveKind.ofJson? }

end InputRecord

namespace AliasClass

/-- Writes an alias class. -/
def toJson (c : AliasClass) : Json :=
  .obj [
    ("key", .nat c.key),
    ("members", ofList Value.toJson c.members),
    ("points_to", ofList Value.toJson c.pointsTo)]

/-- Reads an alias class. -/
def ofJson? (j : Json) : Option AliasClass := do
  let r ← record? ["key", "members", "points_to"] false j
  return {
    key := ← r.required "key" nat32?
    members := ← r.required "members" (list? Value.ofJson?)
    pointsTo := ← r.required "points_to" (list? Value.ofJson?) }

end AliasClass

namespace MergeStats

/-- Writes the statistics of a merge. -/
def toJson (s : MergeStats) : Json :=
  .obj [
    ("input_ids", .nat s.inputIds),
    ("classes", .nat s.classes),
    ("passes", .nat s.passes),
    ("merges", .nat s.merges)]

/-- Reads the statistics of a merge. -/
def ofJson? (j : Json) : Option MergeStats := do
  let r ← record? ["input_ids", "classes", "passes", "merges"] false j
  return {
    inputIds := ← r.required "input_ids" nat64?
    classes := ← r.required "classes" nat64?
    passes := ← r.required "passes" nat64?
    merges := ← r.required "merges" nat64? }

end MergeStats

namespace LevelVertex

/-- Writes a vertex of a level graph. -/
def toJson : LevelVertex → Json
  | block id => tagged "Block" (.nat id)
  | call callee location => tagged "Call" (CallSite.toJson ⟨callee, location⟩)

/-- Reads a vertex of a level graph. -/
def ofJson? (j : Json) : Option LevelVertex :=
  match choice? j with
  | some ("Block", some value) => (nat32? value).map block
  | some ("Call", some value) => (CallSite.ofJson? value).map fun c => call c.callee c.location
  | _ => none

end LevelVertex

namespace RoutineLevels

/-- Writes the levels of a routine. -/
def toJson (l : RoutineLevels) : Json :=
  .obj [
    ("function", .str l.routine),
    ("levels", ofList (ofList LevelVertex.toJson) l.levels)]

/-- Reads the levels of a routine. -/
def ofJson? (j : Json) : Option RoutineLevels := do
  let r ← record? ["function", "levels"] false j
  return ⟨← r.required "function" str?, ← r.required "levels" (list? (list? LevelVertex.ofJson?))⟩

end RoutineLevels

/-! ## The report -/

namespace Category

/-- Writes a category. -/
def toJson (c : Category) : Json := .str c.text

/-- Reads a category. -/
def ofJson? : Json → Option Category := named? (findNamed all text)

end Category

namespace CategoryCounts

/-- Writes the counts of a program. -/
def toJson (c : CategoryCounts) : Json :=
  .obj [
    ("local", .nat c.localChecks),
    ("network", .nat c.networkChecks),
    ("cross", .nat c.crossChecks),
    ("false_positive", .nat c.falsePositives)]

/-- Reads the counts of a program. -/
def ofJson? (j : Json) : Option CategoryCounts := do
  let r ← record? ["local", "network", "cross", "false_positive"] false j
  return {
    localChecks := ← r.required "local" nat64?
    networkChecks := ← r.required "network" nat64?
    crossChecks := ← r.required "cross" nat64?
    falsePositives := ← r.required "false_positive" nat64? }

end CategoryCounts

namespace ReportedPath

/-- Writes a path. -/
def toJson (p : ReportedPath) : Json :=
  .obj [("category", p.category.toJson), ("labels", ofList .str p.labels)]

/-- Reads a path. -/
def ofJson? (j : Json) : Option ReportedPath := do
  let r ← record? ["category", "labels"] false j
  return ⟨← r.required "category" Category.ofJson?, ← r.required "labels" (list? str?)⟩

end ReportedPath

namespace ProgramReport

/-- Writes the report on a program. -/
def toJson (r : ProgramReport) : Json :=
  .obj [
    ("program", r.program.toJson),
    ("array_count", .nat r.arrayCount),
    ("counts", r.counts.toJson),
    ("paths", ofList ReportedPath.toJson r.paths)]

/-- Reads the report on a program. -/
def ofJson? (j : Json) : Option ProgramReport := do
  let r ← record? ["program", "array_count", "counts", "paths"] false j
  return {
    program := ← r.required "program" Program.ofJson?
    arrayCount := ← r.required "array_count" nat64?
    counts := ← r.required "counts" CategoryCounts.ofJson?
    paths := ← r.required "paths" (list? ReportedPath.ofJson?) }

end ProgramReport

namespace AnalysisReport

/-- Writes a report. -/
def toJson (r : AnalysisReport) : Json :=
  .obj [("programs", ofList ProgramReport.toJson r.programs), ("graph", r.graph.toJson)]

/-- Reads a report. -/
def ofJson? (j : Json) : Option AnalysisReport := do
  let r ← record? ["programs", "graph"] false j
  return ⟨← r.required "programs" (list? ProgramReport.ofJson?),
    ← r.required "graph" GraphStats.ofJson?⟩

/-- The text of a report. -/
def render (r : AnalysisReport) : String := r.toJson.pretty

/-- Reads the text of a report. -/
def ofText? (text : String) : Option AnalysisReport := (Json.ofText? text).bind ofJson?

end AnalysisReport

end PeerTaint
