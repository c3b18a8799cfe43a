import PeerTaint.Config.Error
import PeerTaint.Pattern.Match
import PeerTaint.Pattern.Read

/-!
When a configuration is accepted.

The sections are checked in a fixed order, and the first fault found is the one reported: the naming
convention, then the inputs, then the report. The graph section has nothing to check.
-/

namespace PeerTaint

/-- A naming convention's patterns, read. -/
structure CompiledNaming where
  receiveCallback : Pattern
  sensorUpdate : Pattern
  messagePost : Pattern

namespace Naming

/-- Reads one of the patterns. -/
def compilePattern (which : PatternField) (text : String) : Except ConfigError Pattern :=
  match Pattern.ofText? text with
  | some p => .ok p
  | none => .error (.badPattern which)

/-- Reads the patterns, in order. -/
def compile (n : Naming) : Except ConfigError CompiledNaming := do
  return {
    receiveCallback := ← compilePattern .receiveCallback n.receiveCallback
    sensorUpdate := ← compilePattern .sensorUpdate n.sensorUpdate
    messagePost := ← compilePattern .messagePost n.messagePost }

/-- Whether every prefix of a program says something. -/
def checkPrefixes (n : Naming) (p : Program) : Except ConfigError Unit :=
  if (n.ofProgram p).prefixes.contains "" then .error (.emptyPrefix p) else .ok ()

/-- Checks the prefixes of both programs, then the patterns. -/
def validate (n : Naming) : Except ConfigError Unit := do
  n.checkPrefixes .first
  n.checkPrefixes .second
  discard n.compile

end Naming

namespace InputConfig

/-- Checks the tag, then the buffer, then the position of the command line. -/
def validate (c : InputConfig) : Except ConfigError Unit :=
  if c.networkTag = "" then .error .emptyNetworkTag
  else if c.messagePostBuffer = "" then .error .emptyMessageBuffer
  else if c.argvIndex > maxArgvIndex then .error (.argvIndexOutOfRange c.argvIndex)
  else .ok ()

end InputConfig

namespace ReachabilityConfig

/-- Checks the number of retained paths. -/
def validate (c : ReachabilityConfig) : Except ConfigError Unit :=
  if c.maxPaths = 0 ∨ c.maxPaths > maxRetainedPaths then .error (.maxPathsOutOfRange c.maxPaths)
  else .ok ()

end ReachabilityConfig

namespace EngineConfig

/-- Checks all sections. -/
def validate (c : EngineConfig) : Except ConfigError Unit := do
  c.naming.validate
  c.inputs.validate
  c.reachability.validate

end EngineConfig

end PeerTaint
