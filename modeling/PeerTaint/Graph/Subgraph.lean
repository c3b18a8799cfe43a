import PeerTaint.Graph.Search

/-!
The part of a graph that lies between two nodes, as a graph of its own.
-/

namespace PeerTaint

/-- A graph extracted from another one. -/
structure Subgraph where
  graph : Graph := .empty
  /-- The handles in the source graph, listed by local handle. -/
  origin : List NodeId := []
  deriving DecidableEq

namespace Subgraph

/-- The local handle of a node of the source graph. -/
def local? (s : Subgraph) (source : NodeId) : Option NodeId := s.origin.idxOf? source

end Subgraph

namespace Graph

/-- Adds copies of some nodes of `g`, without edges. -/
def copyNodes (g : Graph) (ns : List NodeId) : Except GraphError Graph :=
  ns.foldlM (fun copy n =>
    match g.node? n with
    | some node => (copy.insertDetached node).map (·.2)
    | none => .ok copy) empty

/-- The edges of `g` between some of its nodes, between their positions in the list. -/
def edgesWithin (g : Graph) (ns : List NodeId) : List (NodeId × NodeId × EdgeKind) :=
  ns.zipIdx.flatMap fun (n, a) =>
    match g.node? n with
    | some node => node.successors.entries.filterMap fun (s, kind) =>
        (ns.idxOf? s).map fun b => (a, b, kind)
    | none => []

/-- The subgraph of everything that depends on `src` and on which `dst` depends. -/
def subgraph (g : Graph) (src dst : NodeId) : Except GraphError Subgraph := do
  let between := g.backward dst
  let keep := (g.forward src).elems.filter (decide <| · ∈ between)
  let copy ← g.copyNodes keep
  return {
    graph := (g.edgesWithin keep).foldl (fun copy (a, b, kind) => (copy.connect a b kind).2) copy
    origin := keep }

end Graph

end PeerTaint
