import PeerTaint.Program.Basic

/-!
Configuration of the analysis.

The naming convention says which program a symbol belongs to and which calls are network primitives;
the other sections say how the graph is built, what counts as input, and what the report keeps.
Default values are those of the fields.
-/

namespace PeerTaint

/-- Whether a text starts with another one. -/
def startsWith (text start : String) : Bool := start.toList.isPrefixOf text.toList

/-- How the network primitives of one program begin. -/
structure ProgramNaming where
  sendPrefixes : List String
  recvPrefixes : List String
  deriving DecidableEq

namespace ProgramNaming

/-- The direction of a call, by the beginning of its name. Sending is tried first. -/
def direction? (n : ProgramNaming) (callee : String) : Option Direction :=
  if n.sendPrefixes.any (startsWith callee) then some .send
  else if n.recvPrefixes.any (startsWith callee) then some .recv
  else none

/-- All prefixes, those for sending first. -/
def prefixes (n : ProgramNaming) : List String := n.sendPrefixes ++ n.recvPrefixes

end ProgramNaming

/-- The naming convention of a pair of programs. The last three fields are patterns. -/
structure Naming where
  /-- How the symbols of the second program begin. -/
  secondPrefix : String := "P2_"
  first : ProgramNaming := ⟨["send"], ["recv"]⟩
  second : ProgramNaming := ⟨["SEND", "P2_send"], ["RECV", "P2_recv"]⟩
  /-- Routines whose first parameter is filled by the network. -/
  receiveCallback : String := "(recv_callback|_recv_cb)$"
  /-- Calls that read a sensor. -/
  sensorUpdate : String := "sensor_update"
  /-- Calls that post a message. -/
  messagePost : String := "(post_message|PostMessage)"
  deriving DecidableEq

namespace Naming

/-- The network primitives of a program. -/
def ofProgram (n : Naming) : Program → ProgramNaming
  | .first => n.first
  | .second => n.second

/-- The direction of a call in a program. -/
def direction? (n : Naming) (p : Program) (callee : String) : Option Direction :=
  (n.ofProgram p).direction? callee

/-- The program that a symbol belongs to. An empty prefix marks nothing. -/
def programOf (n : Naming) (symbol : String) : Program :=
  if n.secondPrefix ≠ "" ∧ startsWith symbol n.secondPrefix then .second else .first

end Naming

/-- How the graph is built. -/
structure GraphConfig where
  /-- Whether the operations that end blocks become nodes. -/
  includeControlFlow : Bool := false
  /-- Whether calls of known routines are replaced by the flow through them. -/
  spliceCalls : Bool := false
  deriving DecidableEq

/-- What counts as input. -/
structure InputConfig where
  /-- Names of routines that start a program. -/
  entryPoints : List String := ["main"]
  /-- Which parameter of an entry point holds the command line. -/
  argvIndex : Nat := 1
  /-- The buffer that message payloads are read from. -/
  messagePostBuffer : String := "msg_buf"
  /-- What marks the name of a receive wrapper. -/
  networkTag : String := "__netrecv_"
  deriving DecidableEq

/-- What the report keeps. -/
structure ReachabilityConfig where
  retainPaths : Bool := true
  maxPaths : Nat := 1000
  deriving DecidableEq

/-- The whole configuration. -/
structure EngineConfig where
  naming : Naming := {}
  graph : GraphConfig := {}
  inputs : InputConfig := {}
  reachability : ReachabilityConfig := {}
  deriving DecidableEq

end PeerTaint
