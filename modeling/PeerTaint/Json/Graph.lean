import PeerTaint.Graph.Stats
import PeerTaint.Json.Program

/-!
Nodes and statistics of a graph as JSON.
-/

namespace PeerTaint

open Json

namespace EdgeKind

/-- All kinds of edges, in order. -/
def all : List EdgeKind := [data, control]

/-- Name of a kind of edge in JSON. -/
def tag : EdgeKind → String
  | data => "Data"
  | control => "Control"

/-- Writes a kind of edge. -/
def toJson (k : EdgeKind) : Json := .str k.tag

/-- Reads a kind of edge. -/
def ofJson? : Json → Option EdgeKind := named? (findNamed all tag)

end EdgeKind

namespace Origin

/-- Both origins, in order. -/
def all : List Origin := [.local, .network]

/-- Writes an origin. -/
def toJson (o : Origin) : Json := .str o.text

/-- Reads an origin. -/
def ofJson? : Json → Option Origin := named? (findNamed all text)

end Origin

namespace CallInfo

/-- Writes the call behind a node. -/
def toJson (c : CallInfo) : Json :=
  .obj [
    ("target", ofOption .str c.target),
    ("args", ofList (ofOption .nat) c.args),
    ("result", ofOption Value.toJson c.result)]

/-- Reads the call behind a node. -/
def ofJson? (j : Json) : Option CallInfo := do
  let r ← record? ["target", "args", "result"] false j
  return {
    target := ← r.optional "target" str?
    args := ← r.required "args" (list? (option? nat32?))
    result := ← r.optional "result" Value.ofJson? }

end CallInfo

namespace NodeCategory

/-- Name of a category in JSON. -/
def tag : NodeCategory → String
  | op => "Op"
  | call => "Call"
  | var => "Var"
  | mem => "Mem"
  | netRead => "NetRead"
  | netWrite => "NetWrite"
  | input => "Input"

/-- The category with a given name. -/
def ofTag? : String → Option NodeCategory := findNamed all tag

/-- Reads a category. -/
def ofJson? : Json → Option NodeCategory := named? ofTag?

end NodeCategory

namespace NodeKind

/-- Writes what a node stands for. -/
def toJson : NodeKind → Json
  | op opcode value =>
    tagged "Op" (.obj [("opcode", opcode.toJson), ("value", ofOption Value.toJson value)])
  | call info => tagged "Call" info.toJson
  | var value => tagged "Var" (.obj [("value", value.toJson)])
  | mem key => tagged "Mem" (.obj [("key", .nat key)])
  | netRead info => tagged "NetRead" info.toJson
  | netWrite info => tagged "NetWrite" info.toJson
  | input value origin name =>
    tagged "Input"
      (.obj [("value", value.toJson), ("origin", origin.toJson), ("name", .str name)])

/-- Reads what a node of a category stands for. -/
def ofPayload? (j : Json) : NodeCategory → Option NodeKind
  | .op => do
    let r ← record? ["opcode", "value"] false j
    return op (← r.required "opcode" Opcode.ofJson?) (← r.optional "value" Value.ofJson?)
  | .call => (CallInfo.ofJson? j).map call
  | .var => do
    let r ← record? ["value"] false j
    return var (← r.required "value" Value.ofJson?)
  | .mem => do
    let r ← record? ["key"] false j
    return mem (← r.required "key" nat32?)
  | .netRead => (CallInfo.ofJson? j).map netRead
  | .netWrite => (CallInfo.ofJson? j).map netWrite
  | .input => do
    let r ← record? ["value", "origin", "name"] false j
    return input (← r.required "value" Value.ofJson?) (← r.required "origin" Origin.ofJson?)
      (← r.required "name" str?)

/-- Reads what a node stands for. -/
def ofJson? (j : Json) : Option NodeKind :=
  match choice? j with
  | some (name, some payload) => (NodeCategory.ofTag? name).bind (ofPayload? payload)
  | _ => none

end NodeKind

/-- Reads a handle that is the key of a member: a number below the capacity of a graph, in its only
decimal form. -/
def handleKey? (key : String) : Option NodeId :=
  match Decimal.read? key.toList with
  | some n => if n < nodeCapacity ∧ decimal n = key then some n else none
  | none => none

namespace Node

/-- Writes the nodes that a node is joined with. -/
def adjacencyJson (m : SortedMap NodeId EdgeKind) : Json := ofMap decimal EdgeKind.toJson m

/-- Writes a node. -/
def toJson (n : Node) : Json :=
  .obj [
    ("id", .nat n.id),
    ("program", n.program.toJson),
    ("label", .str n.label),
    ("visible", .bool n.visible),
    ("count", .nat n.count),
    ("levels", ofSet .nat n.levels),
    ("location", ofOption Location.toJson n.location),
    ("net_dependent", .bool n.netDependent),
    ("kind", n.kind.toJson),
    ("successors", adjacencyJson n.successors),
    ("predecessors", adjacencyJson n.predecessors)]

/-- Reads a node. -/
def ofJson? (j : Json) : Option Node := do
  let r ← record? ["id", "program", "label", "visible", "count", "levels", "location",
    "net_dependent", "kind", "successors", "predecessors"] false j
  return {
    id := ← r.required "id" nat32?
    program := ← r.required "program" Program.ofJson?
    label := ← r.required "label" str?
    visible := ← r.required "visible" bool?
    count := ← r.required "count" nat32?
    levels := SortedSet.ofList (← r.required "levels" (list? nat32?))
    location := ← r.optional "location" Location.ofJson?
    netDependent := ← r.required "net_dependent" bool?
    kind := ← r.required "kind" NodeKind.ofJson?
    successors := ← r.required "successors" (map? handleKey? EdgeKind.ofJson?)
    predecessors := ← r.required "predecessors" (map? handleKey? EdgeKind.ofJson?) }

end Node

namespace GraphStats

/-- Writes statistics. -/
def toJson (s : GraphStats) : Json :=
  .obj [
    ("nodes", .nat s.nodes),
    ("edges", .nat s.edges),
    ("nodes_by_kind", ofMap NodeCategory.tag .nat s.nodesByKind),
    ("data_edges", .nat s.dataEdges),
    ("control_edges", .nat s.controlEdges),
    ("cross_program_edges", .nat s.crossProgramEdges),
    ("array_checks", s.arrayChecks.toJson .nat)]

/-- Reads statistics. -/
def ofJson? (j : Json) : Option GraphStats := do
  let r ← record? ["nodes", "edges", "nodes_by_kind", "data_edges", "control_edges",
    "cross_program_edges", "array_checks"] false j
  return {
    nodes := ← r.required "nodes" nat64?
    edges := ← r.required "edges" nat64?
    nodesByKind := ← r.required "nodes_by_kind" (map? NodeCategory.ofTag? nat64?)
    dataEdges := ← r.required "data_edges" nat64?
    controlEdges := ← r.required "control_edges" nat64?
    crossProgramEdges := ← r.required "cross_program_edges" nat64?
    arrayChecks := ← r.required "array_checks" (PerProgram.ofJson? nat64?) }

end GraphStats

end PeerTaint
