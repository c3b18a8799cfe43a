import PeerTaint.Config.Basic
import PeerTaint.Json.Shape

/-!
Configurations as JSON.

Inside a section, fields that are not given have their default values and unknown fields are
refused. The whole configuration needs all of its sections.
-/

namespace PeerTaint

open Json

namespace ProgramNaming

/-- Writes the prefixes of a program. -/
def toJson (n : ProgramNaming) : Json :=
  .obj [
    ("send_prefixes", ofList .str n.sendPrefixes),
    ("recv_prefixes", ofList .str n.recvPrefixes)]

/-- Reads the prefixes of a program. -/
def ofJson? (j : Json) : Option ProgramNaming := do
  let r ← record? ["send_prefixes", "recv_prefixes"] true j
  return {
    sendPrefixes := ← r.required "send_prefixes" (list? str?)
    recvPrefixes := ← r.required "recv_prefixes" (list? str?) }

end ProgramNaming

namespace Naming

/-- Writes a naming convention. -/
def toJson (n : Naming) : Json :=
  .obj [
    ("program2_prefix", .str n.secondPrefix),
    ("program1", n.first.toJson),
    ("program2", n.second.toJson),
    ("receive_callback", .str n.receiveCallback),
    ("sensor_update", .str n.sensorUpdate),
    ("message_post", .str n.messagePost)]

/-- Reads a naming convention. -/
def ofJson? (j : Json) : Option Naming := do
  let r ← record? ["program2_prefix", "program1", "program2", "receive_callback", "sensor_update",
    "message_post"] true j
  let standard : Naming := {}
  return {
    secondPrefix := ← r.withDefault "program2_prefix" str? standard.secondPrefix
    first := ← r.withDefault "program1" ProgramNaming.ofJson? standard.first
    second := ← r.withDefault "program2" ProgramNaming.ofJson? standard.second
    receiveCallback := ← r.withDefault "receive_callback" str? standard.receiveCallback
    sensorUpdate := ← r.withDefault "sensor_update" str? standard.sensorUpdate
    messagePost := ← r.withDefault "message_post" str? standard.messagePost }

end Naming

namespace GraphConfig

/-- Writes the graph section. -/
def toJson (c : GraphConfig) : Json :=
  .obj [("include_control_flow", .bool c.includeControlFlow), ("splice_calls", .bool c.spliceCalls)]

/-- Reads the graph section. -/
def ofJson? (j : Json) : Option GraphConfig := do
  let r ← record? ["include_control_flow", "splice_calls"] true j
  let standard : GraphConfig := {}
  return {
    includeControlFlow := ← r.withDefault "include_control_flow" bool? standard.includeControlFlow
    spliceCalls := ← r.withDefault "splice_calls" bool? standard.spliceCalls }

end GraphConfig

namespace InputConfig

/-- Writes the input section. -/
def toJson (c : InputConfig) : Json :=
  .obj [
    ("entry_points", ofList .str c.entryPoints),
    ("argv_index", .nat c.argvIndex),
    ("message_post_buffer", .str c.messagePostBuffer),
    ("network_tag", .str c.networkTag)]

/-- Reads the input section. -/
def ofJson? (j : Json) : Option InputConfig := do
  let r ← record? ["entry_points", "argv_index", "message_post_buffer", "network_tag"] true j
  let standard : InputConfig := {}
  return {
    entryPoints := ← r.withDefault "entry_points" (list? str?) standard.entryPoints
    argvIndex := ← r.withDefault "argv_index" nat64? standard.argvIndex
    messagePostBuffer := ← r.withDefault "message_post_buffer" str? standard.messagePostBuffer
    networkTag := ← r.withDefault "network_tag" str? standard.networkTag }

end InputConfig

namespace ReachabilityConfig

/-- Writes the section on the report. -/
def toJson (c : ReachabilityConfig) : Json :=
  .obj [("retain_paths", .bool c.retainPaths), ("max_paths", .nat c.maxPaths)]

/-- Reads the section on the report. -/
def ofJson? (j : Json) : Option ReachabilityConfig := do
  let r ← record? ["retain_paths", "max_paths"] true j
  let standard : ReachabilityConfig := {}
  return {
    retainPaths := ← r.withDefault "retain_paths" bool? standard.retainPaths
    maxPaths := ← r.withDefault "max_paths" nat64? standard.maxPaths }

end ReachabilityConfig

namespace EngineConfig

/-- Writes a configuration. -/
def toJson (c : EngineConfig) : Json :=
  .obj [
    ("naming", c.naming.toJson),
    ("graph", c.graph.toJson),
    ("inputs", c.inputs.toJson),
    ("reachability", c.reachability.toJson)]

/-- Reads a configuration. -/
def ofJson? (j : Json) : Option EngineConfig := do
  let r ← record? ["naming", "graph", "inputs", "reachability"] false j
  return {
    naming := ← r.required "naming" Naming.ofJson?
    graph := ← r.required "graph" GraphConfig.ofJson?
    inputs := ← r.required "inputs" InputConfig.ofJson?
    reachability := ← r.required "reachability" ReachabilityConfig.ofJson? }

/-- Reads the sections that an object gives; the others have their default values. -/
def ofSections? (j : Json) : Option EngineConfig := do
  let standard : EngineConfig := {}
  let part {α : Type} (name : String) (item : Json → Option α) (default : α) : Option α :=
    match j.member? name with
    | some value => item value
    | none => some default
  return {
    naming := ← part "naming" Naming.ofJson? standard.naming
    graph := ← part "graph" GraphConfig.ofJson? standard.graph
    inputs := ← part "inputs" InputConfig.ofJson? standard.inputs
    reachability := ← part "reachability" ReachabilityConfig.ofJson? standard.reachability }

end EngineConfig

end PeerTaint
