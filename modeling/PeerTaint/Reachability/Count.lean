import PeerTaint.Config.Basic
import PeerTaint.Graph.Path

/-!
Counting the bound checks that inputs can influence.

A pass starts at some sources and counts the memory nodes that depend on them, each with its number
of accesses. Sources and counted nodes go into a set of visited nodes, and whatever is in it is
passed over. Passes that share the set therefore count no node twice.
-/

namespace PeerTaint

/-- What a pass found. -/
structure BoundChecks where
  /-- Number of accesses to the counted nodes. -/
  count : Nat := 0
  /-- Ways from a source to a counted node. -/
  paths : List (List NodeId) := []
  counted : SortedSet NodeId := .empty
  deriving DecidableEq

namespace BoundChecks

/-- Whether nothing was counted. -/
def isEmpty (b : BoundChecks) : Bool := b.counted.isEmpty

end BoundChecks

/-- A pass under way. -/
structure CountingPass where
  memo : PathMemo := {}
  visited : SortedSet NodeId := .empty
  found : BoundChecks := {}
  deriving DecidableEq

namespace Graph

/-- Whether a node can be counted: memory, outside of a program if one is given. -/
def countable (outside : Option Program) (node : Node) : Bool :=
  node.isMem && decide (some node.program ≠ outside)

/-- Keeps the way from a source to a node, if ways are wanted and there is room for one more. -/
def retainPath (g : Graph) (c : ReachabilityConfig) (source : NodeId) (s : CountingPass)
    (node : Node) : CountingPass :=
  if 0 < node.count ∧ c.retainPaths = true ∧ s.found.paths.length < c.maxPaths then
    let (path, memo) := g.findPath s.memo source node.id
    { s with memo := memo, found := { s.found with paths := s.found.paths ++ path.toList } }
  else s

/-- Counts a node that depends on a source. -/
def countNode (g : Graph) (c : ReachabilityConfig) (outside : Option Program) (source : NodeId)
    (s : CountingPass) (n : NodeId) : CountingPass :=
  match g.node? n with
  | none => s
  | some node =>
    if countable outside node = false ∨ n ∈ s.visited then s
    else
      g.retainPath c source
        { s with
          visited := s.visited.insert n
          found := { s.found with
            count := s.found.count + node.count
            counted := s.found.counted.insert n } }
        node

/-- Counts everything that depends on a source. -/
def countSource (g : Graph) (c : ReachabilityConfig) (outside : Option Program) (s : CountingPass)
    (source : NodeId) : CountingPass :=
  if g.isLive source = false ∨ source ∈ s.visited then s
  else
    (g.forward source).elems.foldl (g.countNode c outside source)
      { s with visited := s.visited.insert source }

/-- A pass from some sources. With a program given, only memory outside of it counts. -/
def countChecks (g : Graph) (c : ReachabilityConfig) (memo : PathMemo) (visited : SortedSet NodeId)
    (outside : Option Program) (sources : List NodeId) : CountingPass :=
  sources.foldl (g.countSource c outside) { memo := memo, visited := visited }

/-- The labels of the live nodes of a path. -/
def labels (g : Graph) (path : List NodeId) : List String :=
  (path.filterMap g.node?).map (·.label)

/-- The number of accesses to nodes, those listed twice counted twice. -/
def totalCount (g : Graph) (ns : List NodeId) : Nat := Node.accesses (ns.filterMap g.node?)

/-- The nearest source of each of several nodes. -/
def nearestSources (g : Graph) (sinks : List NodeId) (sources : SortedSet NodeId)
    (skipMem : Bool) : List (NodeId × Option (NodeId × Nat)) :=
  sinks.map fun sink => (sink, g.shortestDependency sink sources skipMem)

end Graph

end PeerTaint
