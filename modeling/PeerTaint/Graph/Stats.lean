import PeerTaint.Graph.Store

/-!
Statistics of a dependency graph.
-/

namespace PeerTaint

/-- Sizes of a graph. -/
structure GraphStats where
  nodes : Nat
  edges : Nat
  nodesByKind : SortedMap NodeCategory Nat
  dataEdges : Nat
  controlEdges : Nat
  crossProgramEdges : Nat
  /-- Accesses to memory, which are the bound checks that a program would need. -/
  arrayChecks : PerProgram Nat
  deriving DecidableEq

namespace Graph

/-- Number of accesses to the memory of a program. -/
def arrayCount (g : Graph) (p : Program) : Nat := Node.accesses (g.memNodesOf p)

/-- All edges: the node where an edge starts, the handle where it ends, and its kind. -/
def edgeList (g : Graph) : List (Node × NodeId × EdgeKind) :=
  g.nodes.flatMap fun n => n.successors.entries.map fun e => (n, e)

/-- Counts one node of a category. -/
def tally (counts : SortedMap NodeCategory Nat) (c : NodeCategory) : SortedMap NodeCategory Nat :=
  counts.insert c ((counts.get? c).getD 0 + 1)

/-- The statistics of a graph. -/
def stats (g : Graph) : GraphStats where
  nodes := g.live
  edges := g.edges
  nodesByKind := (g.nodes.map (·.category)).foldl tally .empty
  dataEdges := g.edgeList.countP fun (_, _, kind) => kind = .data
  controlEdges := g.edgeList.countP fun (_, _, kind) => kind = .control
  crossProgramEdges := g.edgeList.countP fun (n, s, _) =>
    (g.node? s).any fun m => decide (m.program ≠ n.program)
  arrayChecks := ⟨g.arrayCount .first, g.arrayCount .second⟩

end Graph

end PeerTaint
