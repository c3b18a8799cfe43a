import PeerTaint.Bounds
import PeerTaint.Config.Validate

/-!
Input primitives: the calls through which data enters a program, and what they taint.

A callee is matched in a fixed order: receive wrappers, which carry a tag and the position of the
filled argument in their name; receive primitives of the naming convention; sensor updates; message
posts; and a table of standard library calls.
-/

namespace PeerTaint

/-- The kinds of input. -/
inductive PrimitiveKind where
  | formattedRead
  | rawByteRead
  | lineRead
  | environment
  | sensorUpdate
  | messagePost
  | networkReceive
  | receiveCallback
  | commandLine
  deriving DecidableEq

namespace PrimitiveKind

/-- All kinds, in order. -/
def all : List PrimitiveKind :=
  [formattedRead, rawByteRead, lineRead, environment, sensorUpdate, messagePost, networkReceive,
    receiveCallback, commandLine]

/-- Name of a kind. -/
def text : PrimitiveKind → String
  | formattedRead => "formatted_read"
  | rawByteRead => "raw_byte_read"
  | lineRead => "line_read"
  | environment => "environment"
  | sensorUpdate => "sensor_update"
  | messagePost => "message_post"
  | networkReceive => "network_receive"
  | receiveCallback => "receive_callback"
  | commandLine => "command_line"

end PrimitiveKind

/-- Which values of a call are tainted. -/
inductive TaintedOperands where
  /-- The result. -/
  | result
  | arg (index : Nat)
  | argsFrom (index : Nat)
  | pointerArgs
  /-- The result, or all arguments of a call without one. -/
  | wholeCall
  deriving DecidableEq

/-- What a callee is recognised as. -/
structure PrimitiveMatch where
  kind : PrimitiveKind
  tainted : TaintedOperands
  isNetwork : Bool
  deriving DecidableEq

/-- Recognises the input primitives among the callees of a program. -/
abbrev PrimitiveMatcher := Program → String → Option PrimitiveMatch

/-- The standard library calls that read input. -/
def libraryInput? : String → Option (PrimitiveKind × TaintedOperands)
  | "scanf" | "__isoc99_scanf" | "vscanf" => some (.formattedRead, .argsFrom 1)
  | "fscanf" | "__isoc99_fscanf" | "sscanf" | "__isoc99_sscanf" =>
    some (.formattedRead, .argsFrom 2)
  | "read" | "pread" => some (.rawByteRead, .arg 1)
  | "fread" => some (.rawByteRead, .arg 0)
  | "fgets" | "gets" | "getline" | "getdelim" => some (.lineRead, .arg 0)
  | "fgetc" | "getc" | "_IO_getc" | "getchar" => some (.lineRead, .result)
  | "getenv" | "secure_getenv" => some (.environment, .result)
  | "getcwd" | "gethostname" => some (.environment, .arg 0)
  | "readlink" => some (.environment, .arg 1)
  | _ => none

/-- What follows the first occurrence of `tag` in a text. -/
def afterFirst? (tag : List Char) : List Char → Option (List Char)
  | [] => if tag.isEmpty then some [] else none
  | c :: cs =>
    if tag.isPrefixOf (c :: cs) then some ((c :: cs).drop tag.length) else afterFirst? tag cs

/-- The argument that a receive wrapper names behind its tag. Without a number, or with one that is
too large for a position, the whole call is meant. -/
def wrapperOperands (afterTag : List Char) : TaintedOperands :=
  match Decimal.read? (afterTag.takeWhile Decimal.isDigit) with
  | some n => if n < bound64 then .arg n else .wholeCall
  | none => .wholeCall

/-- Recognises receive wrappers by their tag. -/
def matchWrapper (tag callee : String) : Option PrimitiveMatch :=
  if tag = "" then none
  else
    (afterFirst? tag.toList callee.toList).map fun rest =>
      ⟨.networkReceive, wrapperOperands rest, true⟩

/-- The matcher of a configuration. -/
def standardMatcher (naming : Naming) (compiled : CompiledNaming) (tag : String) :
    PrimitiveMatcher := fun p callee =>
  match matchWrapper tag callee with
  | some hit => some hit
  | none =>
    if naming.direction? p callee = some .recv then some ⟨.networkReceive, .pointerArgs, true⟩
    else if compiled.sensorUpdate.occursIn callee then some ⟨.sensorUpdate, .pointerArgs, false⟩
    else if compiled.messagePost.occursIn callee then some ⟨.messagePost, .pointerArgs, false⟩
    else (libraryInput? callee).map fun (kind, tainted) => ⟨kind, tainted, false⟩

end PeerTaint
