import PeerTaint.Alias.Partition
import PeerTaint.Graph.Store
import PeerTaint.Levels.Correlator
import PeerTaint.Program.Pair

/-!
Building a graph: what a builder consults, what it remembers, and how it can fail.

A builder works on one graph. It remembers which operations it has visited, and with which node, so
that an operation is expanded once. Its steps are those of `Build`. What is put together from them can be
run in any monad that has these steps and is told which operations are expanded (`Journal`); `Build`
itself takes no notice.
-/

namespace PeerTaint

/-- What a builder consults. -/
structure BuildContext where
  programs : ProgramPair
  oracle : AliasOracle
  naming : Naming
  config : GraphConfig
  levels : LevelLookup

/-- The graph under construction and the operations visited so far. -/
structure BuildState where
  graph : Graph := .empty
  visited : SortedMap Nat (Option NodeId) := .empty
  deriving DecidableEq

/-- Why building stops. -/
inductive BuildFault where
  | graph (error : GraphError)
  /-- The oracle puts a value into a class that does not list it. -/
  | inconsistentOracle (value : Value) (key : AliasKey)
  /-- The destination of a store is defined by the store itself. -/
  | endlessStore
  deriving DecidableEq

/-- The text of a fault. -/
def BuildFault.message : BuildFault → String
  | graph e => e.message
  | inconsistentOracle v k =>
    "alias oracle placed " ++ v.text ++ " in " ++ aliasText k ++ " but that set does not list it"
  | endlessStore => "the destination of a store is defined by the store itself"

/-- A step of a builder. -/
abbrev Build := StateT BuildState (Except BuildFault)

/-- A monad that is told which operations are expanded. -/
class Journal (m : Type → Type) where
  /-- Notes an operation, before its operands are resolved. -/
  enter : Operation → m Unit

/-- Where nothing else is said, a builder runs without a journal. -/
@[default_instance]
instance : Journal Build := ⟨fun _ => pure ()⟩

namespace Build

/-- The graph as it is. -/
def graph : Build Graph := do return (← get).graph

/-- Changes the graph. -/
def update (f : Graph → Graph) : Build Unit :=
  modify fun s => { s with graph := f s.graph }

/-- Changes the graph by an operation that can be refused. -/
def attempt {α : Type} (f : Graph → Except GraphError (α × Graph)) : Build α := do
  let s ← get
  match f s.graph with
  | .ok (a, g) =>
    set { s with graph := g }
    return a
  | .error e => throw (.graph e)

/-- Joins two nodes and says whether the edge is new. -/
def connect (a b : NodeId) (kind : EdgeKind) : Build Bool := do
  let (new, g) := (← graph).connect a b kind
  update fun _ => g
  return new

/-- Lets data flow from one node to another. -/
def flow (a b : NodeId) : Build Unit := discard (connect a b .data)

/-- Remembers the node of an operation that has a number. -/
def remember (op : Operation) (n : Option NodeId) : Build Unit :=
  match op.id with
  | some id => modify fun s => { s with visited := s.visited.insert id n }
  | none => pure ()

/-- The node of an operation that was visited before. -/
def visited? (op : Operation) : Build (Option (Option NodeId)) := do
  let s ← get
  return op.id.bind s.visited.get?

/-- Gives a node a location, unless it has one. -/
def locate (n : NodeId) (loc : Option Location) : Build Unit :=
  update fun g => g.modifyNode n fun node => { node with location := node.location.or loc }

/-- Whether a node is a set of memory cells. -/
def isMem (n : NodeId) : Build Bool := do return ((← graph).node? n).any (·.isMem)

end Build

end PeerTaint
