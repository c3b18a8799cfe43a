import PeerTaint.Graph.Node

/-!
The dependency graph.

Nodes live in slots; a handle is a slot's index and is never reused, so a handle whose slot is empty
is stale. Besides the nodes the graph keeps indices from values, alias keys, inputs and network
directions to nodes, the number of live nodes and of edges, and a generation that grows whenever
what can be reached from where may have changed.

An edge is written on both of its ends. It never joins a node to itself, and its kind can only
change from control to data.
-/

namespace PeerTaint

/-- A dependency graph. -/
structure Graph where
  slots : Array (Option Node) := #[]
  valueNodes : SortedMap Value NodeId := .empty
  memNodes : SortedMap (Program × AliasKey) NodeId := .empty
  /-- Pointer values that were folded into the node of their alias set. -/
  memValues : SortedMap Value NodeId := .empty
  netReads : PerProgram (List NodeId) := .both []
  netWrites : PerProgram (List NodeId) := .both []
  inputNodes : SortedMap (Value × Origin) NodeId := .empty
  live : Nat := 0
  edges : Nat := 0
  generation : Nat := 0
  deriving DecidableEq

namespace Graph

/-- The graph without nodes. -/
def empty : Graph := {}

/-! ## Looking up -/

/-- The node of a live handle. -/
def node? (g : Graph) (n : NodeId) : Option Node := g.slots[n]?.join

/-- Whether a handle is live. -/
def isLive (g : Graph) (n : NodeId) : Bool := (g.node? n).isSome

/-- The node of a handle, which has to be live. -/
def getNode (g : Graph) (n : NodeId) : Except GraphError Node :=
  match g.node? n with
  | some node => .ok node
  | none => .error (.staleNode n)

/-- The live nodes, by handle. -/
def nodes (g : Graph) : List Node := g.slots.toList.filterMap id

/-- The live handles, ascending. -/
def handles (g : Graph) : List NodeId := (List.range g.slots.size).filter g.isLive

/-- The node that a value of a program resolves to. -/
def findNode (g : Graph) (v : Value) (p : Program) : Option NodeId :=
  if v.program = p then (g.memValues.get? v).or (g.valueNodes.get? v) else none

/-- The node of an alias set in a program. -/
def findMem (g : Graph) (p : Program) (k : AliasKey) : Option NodeId := g.memNodes.get? (p, k)

/-- The node of an input. -/
def findInput (g : Graph) (v : Value) (o : Origin) : Option NodeId := g.inputNodes.get? (v, o)

/-- The network nodes of a program in one direction, by handle. -/
def netNodes (g : Graph) (p : Program) : Direction → List NodeId
  | .recv => g.netReads.get p
  | .send => g.netWrites.get p

/-- The nodes that depend on a node, ascending. -/
def successors (g : Graph) (n : NodeId) : List NodeId :=
  match g.node? n with
  | some node => node.successors.keys
  | none => []

/-- The nodes that a node depends on, ascending. -/
def predecessors (g : Graph) (n : NodeId) : List NodeId :=
  match g.node? n with
  | some node => node.predecessors.keys
  | none => []

/-- The kind of the edge between two nodes. -/
def edgeKind? (g : Graph) (a b : NodeId) : Option EdgeKind :=
  (g.node? a).bind fun node => node.successors.get? b

/-- Whether there is an edge between two nodes. -/
def hasEdge (g : Graph) (a b : NodeId) : Bool := (g.edgeKind? a b).isSome

/-- The memory nodes of a program, by handle. -/
def memNodesOf (g : Graph) (p : Program) : List Node :=
  g.nodes.filter fun n => decide (n.program = p) && n.isMem

/-! ## Changing nodes -/

/-- Changes the node of a live handle. -/
def modifyNode (g : Graph) (n : NodeId) (f : Node → Node) : Graph :=
  { g with slots := g.slots.modify n (·.map f) }

/-- Enters a network node in the index of its program and direction. -/
def indexNet (g : Graph) (p : Program) (kind : NodeKind) (n : NodeId) : Graph :=
  match kind.direction? with
  | some .recv => { g with netReads := g.netReads.modify p (· ++ [n]) }
  | some .send => { g with netWrites := g.netWrites.modify p (· ++ [n]) }
  | none => g

/-- Puts a node into the next slot. -/
def pushNode (g : Graph) (node : Node) : Graph :=
  { g with slots := g.slots.push (some node), live := g.live + 1 }

/-- Adds a node without edges. -/
def addNode (g : Graph) (p : Program) (kind : NodeKind) (label : String) :
    Except GraphError (NodeId × Graph) := do
  let n ← nodeIdOfSlot g.slots.size
  return (n, (g.indexNet p kind n).pushNode { id := n, program := p, label, kind })

/-- The node of an alias set in a program, added when it is missing. -/
def memNode (g : Graph) (p : Program) (k : AliasKey) (label : String) :
    Except GraphError (NodeId × Graph) :=
  match g.findMem p k with
  | some n => .ok (n, g)
  | none => do
    let (n, g) ← g.addNode p (.mem k) label
    return (n, { g with memNodes := g.memNodes.insert (p, k) n })

/-- The label of the node of an input. -/
def inputLabel (o : Origin) (name : String) : String := "input:" ++ o.label ++ ":" ++ name

/-- The node of an input, added when it is missing. -/
def inputNode (g : Graph) (v : Value) (o : Origin) (name : String) :
    Except GraphError (NodeId × Graph) :=
  match g.findInput v o with
  | some n => .ok (n, g)
  | none => do
    let (n, g) ← g.addNode v.program (.input v o name) (inputLabel o name)
    return (n, { g with inputNodes := g.inputNodes.insert (v, o) n })

/-- Lets a value resolve to a node. -/
def bindValue (g : Graph) (v : Value) (n : NodeId) : Graph :=
  { g with valueNodes := g.valueNodes.insert v n }

/-- Lets a pointer value resolve to the node of its alias set. -/
def bindMemValue (g : Graph) (v : Value) (n : NodeId) : Graph :=
  { g with memValues := g.memValues.insert v n }

/-- Counts one access to a node. The count has no upper bound; a stored one has to stay below `bound32`. -/
def recordAccess (g : Graph) (n : NodeId) : Graph :=
  g.modifyNode n fun node => { node with count := node.count + 1 }

/-! ## Changing edges -/

/-- Writes an edge on both of its ends. -/
def setEdge (g : Graph) (a b : NodeId) (kind : EdgeKind) : Graph :=
  (g.modifyNode a fun node => { node with successors := node.successors.insert b kind }).modifyNode b
    fun node => { node with predecessors := node.predecessors.insert a kind }

/-- Joins two live, different nodes. The answer is whether the edge is new; an edge that exists
keeps its kind, except that data replaces control. -/
def connect (g : Graph) (a b : NodeId) (kind : EdgeKind) : Bool × Graph :=
  if a = b ∨ ¬ g.isLive a ∨ ¬ g.isLive b then (false, g)
  else
    match g.edgeKind? a b, kind with
    | some .control, .data => (false, g.setEdge a b .data)
    | some _, _ => (false, g)
    | none, _ =>
      let g := g.setEdge a b kind
      (true, { g with edges := g.edges + 1, generation := g.generation + 1 })

/-- Takes a node out, with its edges and everything that resolves to it. The answer is the node as
it was. -/
def removeNode (g : Graph) (n : NodeId) : Except GraphError (Node × Graph) :=
  match g.node? n with
  | none => .error (.staleNode n)
  | some node =>
    let g := { g with slots := g.slots.modify n fun _ => none }
    let g := node.successors.keys.foldl
      (fun g s => g.modifyNode s fun m => { m with predecessors := m.predecessors.erase n }) g
    let g := node.predecessors.keys.foldl
      (fun g s => g.modifyNode s fun m => { m with successors := m.successors.erase n }) g
    let others := fun m : NodeId => decide (m ≠ n)
    .ok (node, { g with
      valueNodes := g.valueNodes.filterValues others
      memValues := g.memValues.filterValues others
      memNodes := g.memNodes.filterValues others
      inputNodes := g.inputNodes.filterValues others
      netReads := g.netReads.map (·.filter others)
      netWrites := g.netWrites.map (·.filter others)
      edges := g.edges - (node.successors.size + node.predecessors.size)
      live := g.live - 1
      generation := g.generation + 1 })

/-- Adds a copy of a node of another graph, without its edges, and lets what the node stands for
resolve to the copy. -/
def insertDetached (g : Graph) (node : Node) : Except GraphError (NodeId × Graph) := do
  let n ← nodeIdOfSlot g.slots.size
  let g := match node.kind with
    | .mem k => { g with memNodes := g.memNodes.insert (node.program, k) n }
    | .input v o _ => { g with inputNodes := g.inputNodes.insert (v, o) n }
    | kind =>
      let g := g.indexNet node.program kind n
      match kind.value? with
      | some v => g.bindValue v n
      | none => g
  return (n, g.pushNode (node.detached n))

end Graph

end PeerTaint
