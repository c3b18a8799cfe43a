import PeerTaint.Config.Basic

/-!
What can be wrong with a configuration.
-/

namespace PeerTaint

/-- The patterns of a naming convention. -/
inductive PatternField where
  | receiveCallback
  | sensorUpdate
  | messagePost
  deriving DecidableEq

/-- The name of a pattern's field. -/
def PatternField.field : PatternField → String
  | receiveCallback => "naming.receive_callback"
  | sensorUpdate => "naming.sensor_update"
  | messagePost => "naming.message_post"

/-- Largest accepted position of the command line among the parameters of an entry point. -/
def maxArgvIndex : Nat := 16

/-- Largest accepted number of retained paths. -/
def maxRetainedPaths : Nat := 100000

/-- The version of the configuration format. -/
def formatVersion : Nat := 1

/-- Why a configuration is refused. -/
inductive ConfigError where
  | argvIndexOutOfRange (value : Nat)
  | maxPathsOutOfRange (value : Nat)
  | emptyPrefix (p : Program)
  | emptyNetworkTag
  | emptyMessageBuffer
  | missingVersion
  | unsupportedVersion (found : Nat)
  | badPattern (which : PatternField)
  /-- The text is not a configuration document. -/
  | malformed
  /-- There is no text to read. -/
  | unreadable
  deriving DecidableEq

namespace ConfigError

/-- Text of a number that is out of its range. -/
def outOfRange (field : String) (value min max : Nat) (hint : String) : String :=
  "Invalid range for field '" ++ field ++ "': " ++ decimal value ++ " not in " ++ decimal min ++
    "..=" ++ decimal max ++ ". " ++ hint

/-- Text of a field that is empty. -/
def mustNotBeEmpty (field hint : String) : String :=
  "Field '" ++ field ++ "' must not be empty. " ++ hint

/-- The text of a refusal. -/
def message : ConfigError → String
  | argvIndexOutOfRange value =>
    outOfRange "inputs.argv_index" value 0 maxArgvIndex
      "argv is normally the second entry-point parameter"
  | maxPathsOutOfRange value =>
    outOfRange "reachability.max_paths" value 1 maxRetainedPaths
      "Number of retained paths must be reasonable"
  | emptyPrefix p =>
    mustNotBeEmpty ("naming.program" ++ decimal p.number)
      "An empty prefix would classify every call as a network primitive"
  | emptyNetworkTag =>
    mustNotBeEmpty "inputs.network_tag" "Network wrappers cannot be told apart without a tag"
  | emptyMessageBuffer =>
    mustNotBeEmpty "inputs.message_post_buffer"
      "Name the buffer message-post payloads are read from"
  | missingVersion =>
    "Missing 'version' field in configuration file. " ++
      "Add 'version: 1' to the top of your YAML file."
  | unsupportedVersion found =>
    "Unsupported configuration version " ++ decimal found ++ ". Supported versions: " ++
      decimal formatVersion
  | badPattern which => "Invalid pattern for '" ++ which.field ++ "'"
  | malformed => "YAML parsing error"
  | unreadable => "IO error"

end ConfigError

end PeerTaint
