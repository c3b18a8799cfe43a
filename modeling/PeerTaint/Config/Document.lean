import PeerTaint.Bounds
import PeerTaint.Config.Validate
import PeerTaint.Yaml.Write

/-!
Configuration documents.

A document gives the version of the format and any of the sections. What is not given has its
default value, unknown fields are refused, and a configuration is accepted only if it passes the
checks.
-/

namespace PeerTaint

open Yaml

/-! ## Reading -/

namespace ProgramNaming

/-- Reads the prefixes of a program, which have to be given. -/
def ofNode? (n : Yaml.Node) : Decode ProgramNaming := do
  let fields ← n.fields? ["send_prefixes", "recv_prefixes"]
  return {
    sendPrefixes := ← required fields "send_prefixes" (·.list? (·.text?))
    recvPrefixes := ← required fields "recv_prefixes" (·.list? (·.text?)) }

end ProgramNaming

namespace Naming

/-- Reads a naming convention. -/
def ofNode? (n : Yaml.Node) : Decode Naming := do
  let fields ← n.fields? ["program2_prefix", "program1", "program2", "receive_callback",
    "sensor_update", "message_post"]
  let standard : Naming := {}
  return {
    secondPrefix := ← withDefault fields "program2_prefix" (·.text?) standard.secondPrefix
    first := ← withDefault fields "program1" ProgramNaming.ofNode? standard.first
    second := ← withDefault fields "program2" ProgramNaming.ofNode? standard.second
    receiveCallback := ← withDefault fields "receive_callback" (·.text?) standard.receiveCallback
    sensorUpdate := ← withDefault fields "sensor_update" (·.text?) standard.sensorUpdate
    messagePost := ← withDefault fields "message_post" (·.text?) standard.messagePost }

end Naming

namespace GraphConfig

/-- Reads the graph section. -/
def ofNode? (n : Yaml.Node) : Decode GraphConfig := do
  let fields ← n.fields? ["include_control_flow", "splice_calls"]
  let standard : GraphConfig := {}
  return {
    includeControlFlow :=
      ← withDefault fields "include_control_flow" (·.bool?) standard.includeControlFlow
    spliceCalls := ← withDefault fields "splice_calls" (·.bool?) standard.spliceCalls }

end GraphConfig

namespace InputConfig

/-- Reads the input section. -/
def ofNode? (n : Yaml.Node) : Decode InputConfig := do
  let fields ← n.fields? ["entry_points", "argv_index", "message_post_buffer", "network_tag"]
  let standard : InputConfig := {}
  return {
    entryPoints := ← withDefault fields "entry_points" (·.list? (·.text?)) standard.entryPoints
    argvIndex := ← withDefault fields "argv_index" (·.below? bound64) standard.argvIndex
    messagePostBuffer :=
      ← withDefault fields "message_post_buffer" (·.text?) standard.messagePostBuffer
    networkTag := ← withDefault fields "network_tag" (·.text?) standard.networkTag }

end InputConfig

namespace ReachabilityConfig

/-- Reads the section on the report. -/
def ofNode? (n : Yaml.Node) : Decode ReachabilityConfig := do
  let fields ← n.fields? ["retain_paths", "max_paths"]
  let standard : ReachabilityConfig := {}
  return {
    retainPaths := ← withDefault fields "retain_paths" (·.bool?) standard.retainPaths
    maxPaths := ← withDefault fields "max_paths" (·.below? bound64) standard.maxPaths }

end ReachabilityConfig

/-- A configuration document. -/
structure ConfigDocument where
  version : Option Nat := none
  naming : Option Naming := none
  graph : Option GraphConfig := none
  inputs : Option InputConfig := none
  reachability : Option ReachabilityConfig := none
  deriving DecidableEq

namespace ConfigDocument

/-- Reads a document. -/
def ofNode? (n : Yaml.Node) : Decode ConfigDocument := do
  let fields ← n.fields? ["version", "naming", "graph", "inputs", "reachability"]
  return {
    version := ← optional fields "version" (·.below? bound32)
    naming := ← optional fields "naming" Naming.ofNode?
    graph := ← optional fields "graph" GraphConfig.ofNode?
    inputs := ← optional fields "inputs" InputConfig.ofNode?
    reachability := ← optional fields "reachability" ReachabilityConfig.ofNode? }

/-- The configuration of a document. Its version has to be the supported one. -/
def config (d : ConfigDocument) : Except ConfigError EngineConfig :=
  match d.version with
  | none => .error .missingVersion
  | some version =>
    if version ≠ formatVersion then .error (.unsupportedVersion version)
    else
      .ok {
        naming := d.naming.getD {}
        graph := d.graph.getD {}
        inputs := d.inputs.getD {}
        reachability := d.reachability.getD {} }

end ConfigDocument

namespace EngineConfig

/-- Reads a configuration document. -/
def ofText (text : String) : Except ConfigError EngineConfig :=
  match (Yaml.read? text).bind fun d => ConfigDocument.ofNode? d.root d.anchors with
  | none => .error .malformed
  | some document => do
    let config ← document.config
    config.validate
    return config

/-- Reads the configuration document in a file, if the file has a text. -/
def ofFile (text : Option String) : Except ConfigError EngineConfig :=
  match text with
  | some text => ofText text
  | none => .error .unreadable

end EngineConfig

/-! ## Writing -/

/-- Writes a truth value. -/
def boolTree (b : Bool) : Tree := .word (if b then "true" else "false")

/-- Writes a number. -/
def natTree (n : Nat) : Tree := .word (decimal n)

/-- Writes the prefixes of a program. -/
def ProgramNaming.toTree (n : ProgramNaming) : Tree :=
  .map [("send_prefixes", .texts n.sendPrefixes), ("recv_prefixes", .texts n.recvPrefixes)]

/-- Writes a naming convention. -/
def Naming.toTree (n : Naming) : Tree :=
  .map [
    ("program2_prefix", .text n.secondPrefix),
    ("program1", n.first.toTree),
    ("program2", n.second.toTree),
    ("receive_callback", .text n.receiveCallback),
    ("sensor_update", .text n.sensorUpdate),
    ("message_post", .text n.messagePost)]

/-- Writes the graph section. -/
def GraphConfig.toTree (c : GraphConfig) : Tree :=
  .map [
    ("include_control_flow", boolTree c.includeControlFlow),
    ("splice_calls", boolTree c.spliceCalls)]

/-- Writes the input section. -/
def InputConfig.toTree (c : InputConfig) : Tree :=
  .map [
    ("entry_points", .texts c.entryPoints),
    ("argv_index", natTree c.argvIndex),
    ("message_post_buffer", .text c.messagePostBuffer),
    ("network_tag", .text c.networkTag)]

/-- Writes the section on the report. -/
def ReachabilityConfig.toTree (c : ReachabilityConfig) : Tree :=
  .map [("retain_paths", boolTree c.retainPaths), ("max_paths", natTree c.maxPaths)]

/-- The document of a configuration, with all sections. -/
def EngineConfig.render (c : EngineConfig) : String :=
  Yaml.render [
    ("version", natTree formatVersion),
    ("naming", c.naming.toTree),
    ("graph", c.graph.toTree),
    ("inputs", c.inputs.toTree),
    ("reachability", c.reachability.toTree)]

end PeerTaint
