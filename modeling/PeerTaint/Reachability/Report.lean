import PeerTaint.Graph.Stats
import PeerTaint.Inputs.Sets
import PeerTaint.Reachability.Count

/-!
The report on a built graph.

For each program three passes are made. The first two start at the program's own inputs, local ones
and then those from the network, and share their visited nodes, so that the second counts only what
the first does not. The third starts at all inputs of the peer and counts memory outside of the
peer. What only the second pass counts cannot be due to the peer: it is the estimate of false
positives.
-/

namespace PeerTaint

/-- The passes of a report. -/
inductive Category where
  | local
  | network
  | cross
  deriving DecidableEq

namespace Category

/-- All categories, in order. -/
def all : List Category := [.local, .network, .cross]

/-- Name of a category. -/
def text : Category → String
  | .local => "local"
  | .network => "network"
  | .cross => "cross"

end Category

/-- The counts of a program. -/
structure CategoryCounts where
  localChecks : Nat
  networkChecks : Nat
  crossChecks : Nat
  falsePositives : Nat
  deriving DecidableEq

namespace CategoryCounts

/-- The count of a category. -/
def get (c : CategoryCounts) : Category → Nat
  | .local => c.localChecks
  | .network => c.networkChecks
  | .cross => c.crossChecks

end CategoryCounts

/-- A way from an input to memory, by the labels on it. -/
structure ReportedPath where
  category : Category
  labels : List String
  deriving DecidableEq

/-- The report on a program. -/
structure ProgramReport where
  program : Program
  /-- Number of accesses to the memory of the program. -/
  arrayCount : Nat
  counts : CategoryCounts
  paths : List ReportedPath
  deriving DecidableEq

namespace ProgramReport

/-- The paths of a category. -/
def pathsOf (r : ProgramReport) (c : Category) : List ReportedPath :=
  r.paths.filter (·.category = c)

end ProgramReport

/-- The report on both programs. -/
structure AnalysisReport where
  programs : List ProgramReport
  graph : GraphStats
  deriving DecidableEq

namespace AnalysisReport

/-- The report on a program. -/
def program? (r : AnalysisReport) (p : Program) : Option ProgramReport :=
  r.programs.find? (·.program = p)

end AnalysisReport

/-- The passes of a program disagree: more is due to the peer than came from the network. -/
structure CountMismatch where
  program : Program
  network : Nat
  cross : Nat
  deriving DecidableEq

/-- The text of a disagreement. -/
def CountMismatch.message (e : CountMismatch) : String :=
  "false-positive estimate for " ++ e.program.text ++ " would be negative (network " ++
    decimal e.network ++ ", cross " ++ decimal e.cross ++ ")"

namespace Graph

/-- The input nodes of a program's records in a scope. -/
def sources (g : Graph) (inputs : InputSets) (p : Program) (scope : InputScope) : List NodeId :=
  (inputs.records p scope).filterMap fun r => g.findInput r.value r.origin

/-- The paths that a pass retained. -/
def reportedPaths (g : Graph) (category : Category) (found : BoundChecks) : List ReportedPath :=
  found.paths.map fun path => ⟨category, g.labels path⟩

/-- The report on one program, and the paths remembered on the way. -/
def programReport (g : Graph) (c : ReachabilityConfig) (inputs : InputSets) (memo : PathMemo)
    (p : Program) : Except CountMismatch (ProgramReport × PathMemo) :=
  let first := g.countChecks c memo .empty none (g.sources inputs p .local)
  let second := g.countChecks c first.memo first.visited none (g.sources inputs p .network)
  let third := g.countChecks c second.memo .empty (some p.peer) (g.sources inputs p.peer .all)
  let shared := second.found.counted.elems.filter fun n => decide (n ∈ third.found.counted)
  let attributable := g.totalCount shared
  if second.found.count < attributable then .error ⟨p, second.found.count, attributable⟩
  else
    .ok
      ({ program := p
         arrayCount := g.arrayCount p
         counts :=
          { localChecks := first.found.count
            networkChecks := second.found.count
            crossChecks := third.found.count
            falsePositives := second.found.count - attributable }
         paths :=
          g.reportedPaths .local first.found ++ g.reportedPaths .network second.found ++
            g.reportedPaths .cross third.found },
        third.memo)

/-- The report on both programs. -/
def report (g : Graph) (c : ReachabilityConfig) (inputs : InputSets) :
    Except CountMismatch AnalysisReport := do
  let (first, memo) ← g.programReport c inputs {} .first
  let (second, _) ← g.programReport c inputs memo .second
  return ⟨[first, second], g.stats⟩

end Graph

end PeerTaint
