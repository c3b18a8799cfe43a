import PeerTaint.Exploration
import PeerTaint.Graph.Store

/-!
Searching a dependency graph.

Depth-first searches put newly discovered handles in front of their agenda, breadth-first searches
behind it; in both, neighbours come in ascending order.
-/

namespace PeerTaint

namespace Graph

/-! ## Depth first -/

/-- The handles that a depth-first search looks at, in that order. -/
def explore (next : NodeId → List NodeId) : List NodeId → List NodeId → List NodeId
  | [], _ => []
  | n :: agenda, unseen =>
    n :: explore next (discovered (next n) unseen ++ agenda) (undiscovered (next n) unseen)
termination_by agenda unseen => agenda.length + unseen.length
decreasing_by
  have := length_discovered_add (next n) unseen
  simp only [List.length_append, List.length_cons]
  omega

/-- The live handles other than `n`. -/
def others (g : Graph) (n : NodeId) : List NodeId := g.handles.filter fun m => decide (m ≠ n)

/-- Everything that a live node leads to along `next`, itself included. -/
def reach (g : Graph) (next : NodeId → List NodeId) (start : NodeId) : SortedSet NodeId :=
  if g.isLive start then .ofList (explore next [start] (g.others start)) else .empty

/-- Everything that depends on a node, itself included. -/
def forward (g : Graph) (start : NodeId) : SortedSet NodeId := g.reach g.successors start

/-- Everything that a node depends on, itself included. -/
def backward (g : Graph) (start : NodeId) : SortedSet NodeId := g.reach g.predecessors start

/-- A depth-first search for `stop`: whether it was met, and what was still unseen then. -/
def seek (next : NodeId → List NodeId) (stop : NodeId) :
    List NodeId → List NodeId → Bool × List NodeId
  | [], unseen => (false, unseen)
  | n :: agenda, unseen =>
    if n = stop then (true, unseen)
    else seek next stop (discovered (next n) unseen ++ agenda) (undiscovered (next n) unseen)
termination_by agenda unseen => agenda.length + unseen.length
decreasing_by
  have := length_discovered_add (next n) unseen
  simp only [List.length_append, List.length_cons]
  omega

/-- Whether `stop` depends on `start`, and the nodes seen until that was known. -/
def forwardUntil (g : Graph) (start stop : NodeId) : Bool × SortedSet NodeId :=
  if g.isLive start then
    let (found, unseen) := seek g.successors stop [start] (g.others start)
    (found, .ofList (g.handles.filter fun n => !unseen.contains n))
  else (false, .empty)

/-! ## Breadth first -/

/-- A handle met by a breadth-first search against the edges, with the way from it to the sink. -/
abbrev Trail := List NodeId

/-- Whether a search that skips memory leaves a node out. -/
def isSkipped (g : Graph) (skipMem : Bool) (n : NodeId) : Bool :=
  skipMem && (g.node? n).any (·.isMem)

/-- The nearest source behind the agenda, with its distance. -/
def nearest (g : Graph) (sources : SortedSet NodeId) (skipMem : Bool) :
    List (NodeId × Nat) → List NodeId → Option (NodeId × Nat)
  | [], _ => none
  | (n, distance) :: agenda, unseen =>
    if n ∈ sources then some (n, distance)
    else
      let new := (discovered (g.predecessors n) unseen).filter (!g.isSkipped skipMem ·)
      nearest g sources skipMem (agenda ++ new.map (·, distance + 1))
        (undiscovered (g.predecessors n) unseen)
termination_by agenda unseen => agenda.length + unseen.length
decreasing_by
  have h₁ := length_discovered_add (g.predecessors n) unseen
  have h₂ := List.length_filter_le (!g.isSkipped skipMem ·) (discovered (g.predecessors n) unseen)
  simp only [List.length_append, List.length_cons, List.length_map]
  omega

/-- The nearest source that the sink depends on, with its distance. -/
def shortestDependency (g : Graph) (sink : NodeId) (sources : SortedSet NodeId) (skipMem : Bool) :
    Option (NodeId × Nat) :=
  if g.isLive sink then g.nearest sources skipMem [(sink, 0)] (g.others sink) else none

/-- The sources that a sink depends on, each with a path to the sink, and whether the network takes
part. -/
structure Dependencies where
  paths : SortedMap NodeId (List NodeId) := .empty
  netDependency : Bool := false
  deriving DecidableEq

/-- Whether a node receives from the network in program `p`. -/
def isNetRead (g : Graph) (p : Program) (n : NodeId) : Bool := (g.node? n).any (·.isNetReadOf p)

/-- Adds a met node to the answer if it is a source. A path with a network read makes the answer
network dependent, unless network reads are barriers anyway. -/
def Dependencies.meet (g : Graph) (sources : SortedSet NodeId) (skipNet : Bool) (p : Program)
    (path : Trail) (n : NodeId) (d : Dependencies) : Dependencies :=
  if n ∈ sources then
    { paths := d.paths.insert n path
      netDependency := d.netDependency || (!skipNet && path.any (g.isNetRead p)) }
  else d

/-- Continues a search for all sources. Each entry of the agenda is a handle with the path from it
to the sink. With `skipNet`, the network reads of `p` other than the sink are barriers. -/
def collect (g : Graph) (sink : NodeId) (sources : SortedSet NodeId) (skipMem skipNet : Bool)
    (p : Program) : List (NodeId × Trail) → List NodeId → Dependencies → Dependencies
  | [], _, d => d
  | (n, path) :: agenda, unseen, d =>
    if n ≠ sink ∧ skipNet ∧ g.isNetRead p n then
      collect g sink sources skipMem skipNet p agenda unseen { d with netDependency := true }
    else
      let new := (discovered (g.predecessors n) unseen).filter (!g.isSkipped skipMem ·)
      collect g sink sources skipMem skipNet p (agenda ++ new.map fun m => (m, m :: path))
        (undiscovered (g.predecessors n) unseen) (d.meet g sources skipNet p path n)
termination_by agenda unseen => agenda.length + unseen.length
decreasing_by
  · simp
  · have h₁ := length_discovered_add (g.predecessors n) unseen
    have h₂ := List.length_filter_le (!g.isSkipped skipMem ·) (discovered (g.predecessors n) unseen)
    simp only [List.length_append, List.length_cons, List.length_map]
    omega

/-- All sources that a sink depends on. -/
def everyDependency (g : Graph) (sink : NodeId) (sources : SortedSet NodeId)
    (skipMem skipNet : Bool) (p : Program) : Dependencies :=
  if g.isLive sink then
    g.collect sink sources skipMem skipNet p [(sink, [sink])] (g.others sink) {}
  else {}

end Graph

end PeerTaint
