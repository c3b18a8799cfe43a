import PeerTaint.Build.Splice
import PeerTaint.Inputs.Classify
import PeerTaint.Reachability.Report

/-!
The whole analysis of a pair of programs.

The inputs of both programs are found, the graph is built with the calls to known routines spliced
if that is wanted, the inputs are attached, and the report is made.
-/

namespace PeerTaint

/-- Why an analysis fails. -/
inductive AnalysisError where
  | config (error : ConfigError)
  | build (fault : BuildFault)
  | count (error : CountMismatch)
  deriving DecidableEq

/-- The text of a failure. -/
def AnalysisError.message : AnalysisError → String
  | config e => "Configuration error: " ++ e.message
  | build (.graph e) => "Graph error: " ++ e.message
  | build fault => fault.message
  | count e => "Reachability error: " ++ e.message

/-- What an analysis produces. -/
structure AnalysisOutcome where
  graph : Graph
  inputs : InputSets
  report : AnalysisReport
  deriving DecidableEq

/-- An analysis under an accepted configuration. -/
structure Analysis where
  config : EngineConfig
  deriving DecidableEq

namespace Analysis

/-- An analysis under a configuration, which has to be accepted. -/
def ofConfig (config : EngineConfig) : Except AnalysisError Analysis :=
  match config.validate with
  | .ok () => .ok ⟨config⟩
  | .error e => .error (.config e)

/-- Builds the graph with the inputs attached. -/
def build (a : Analysis) (context : BuildContext) (inputs : InputSets) : Build Unit := do
  discard context.buildAll
  if a.config.graph.spliceCalls then discard context.spliceKnownCalls
  discard (context.addInputs inputs)

/-- What a builder consults when a pair of programs is analysed. -/
def context (a : Analysis) (programs : ProgramPair) (oracle : AliasOracle) : BuildContext where
  programs := programs
  oracle := oracle
  naming := a.config.naming
  config := a.config.graph
  levels := (Correlator.ofRoutines a.config.naming programs.routines).nodeLevels

/-- Makes the report on a built graph. -/
def report (a : Analysis) (g : Graph) (inputs : InputSets) : Except AnalysisError AnalysisReport :=
  match g.report a.config.reachability inputs with
  | .ok r => .ok r
  | .error e => .error (.count e)

/-- Analyses a pair of programs. -/
def run (a : Analysis) (programs : ProgramPair) (oracle : AliasOracle) :
    Except AnalysisError AnalysisOutcome :=
  match InputClassifier.ofConfig a.config.naming a.config.inputs with
  | .error e => .error (.config e)
  | .ok classifier =>
    let inputs := classifier.classifyAll programs
    match (a.build (a.context programs oracle) inputs).run {} with
    | .error fault => .error (.build fault)
    | .ok (_, s) => do return ⟨s.graph, inputs, ← a.report s.graph inputs⟩

end Analysis

end PeerTaint
