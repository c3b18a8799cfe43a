import PeerTaint.Bounds
import PeerTaint.Order.SortedMap
import PeerTaint.Order.SortedSet
import PeerTaint.Program.Operation

/-!
Nodes of a dependency graph.

A node stands for an operation, a call, a value, a set of memory cells that may alias, a network
transfer or a source of input. It carries its own adjacency: the nodes that depend on it and the
nodes it depends on, each with the kind of the edge.
-/

namespace PeerTaint

/-- A handle of a node: its slot in the graph, never given to a second node. Handles stay below
`nodeCapacity`. -/
abbrev NodeId := Nat

/-- A handle of a set of memory cells that may alias. Keys count classes, and are taken to stay below
`bound32`. -/
abbrev AliasKey := Nat

/-- Network steps at which a transfer may happen. A level is at most the number of vertices of a level
graph, and taken to stay below `bound32`. -/
abbrev LevelSet := SortedSet Nat

/-- Display text of a handle, such as `n5`. -/
def nodeText (n : NodeId) : String := "n" ++ decimal n

/-- Display text of an alias key, such as `alias#3`. -/
def aliasText (k : AliasKey) : String := "alias#" ++ decimal k

/-- What an edge carries. -/
inductive EdgeKind where
  | data
  | control
  deriving DecidableEq

/-- Name of an edge kind. -/
def EdgeKind.text : EdgeKind → String
  | data => "DATA"
  | control => "CONTROL"

/-- Where an input comes from. -/
inductive Origin where
  | local
  | network
  deriving DecidableEq

namespace Origin

/-- Name of an origin. -/
def text : Origin → String
  | .local => "local"
  | .network => "network"

/-- Name of an origin in the labels of input nodes. -/
def label : Origin → String
  | .local => "local"
  | .network => "net"

/-- Position of an origin in their order. -/
def rank : Origin → Nat
  | .local => 0
  | .network => 1

theorem rank_injective {o o' : Origin} (h : o.rank = o'.rank) : o = o' := by
  cases o <;> cases o' <;> first | rfl | cases h

instance : Key Origin := Key.ofInjective rank rank_injective

end Origin

/-- A call as a node remembers it: the target, the node of each argument, the value it defines. -/
structure CallInfo where
  target : Option String
  args : List (Option NodeId)
  result : Option Value
  deriving DecidableEq

/-- What a node stands for. -/
inductive NodeKind where
  | op (opcode : Opcode) (value : Option Value)
  | call (info : CallInfo)
  | var (value : Value)
  | mem (key : AliasKey)
  | netRead (info : CallInfo)
  | netWrite (info : CallInfo)
  | input (value : Value) (origin : Origin) (name : String)
  deriving DecidableEq

/-- The sorts of nodes that statistics tell apart. -/
inductive NodeCategory where
  | op
  | call
  | var
  | mem
  | netRead
  | netWrite
  | input
  deriving DecidableEq

namespace NodeCategory

/-- All categories, in order. -/
def all : List NodeCategory := [op, call, var, mem, netRead, netWrite, input]

/-- Name of a category. -/
def text : NodeCategory → String
  | op => "op"
  | call => "call"
  | var => "var"
  | mem => "mem"
  | netRead => "net_read"
  | netWrite => "net_write"
  | input => "input"

/-- Position of a category in their order. -/
def rank : NodeCategory → Nat
  | op => 0
  | call => 1
  | var => 2
  | mem => 3
  | netRead => 4
  | netWrite => 5
  | input => 6

theorem rank_injective {c d : NodeCategory} (h : c.rank = d.rank) : c = d := by
  cases c <;> cases d <;> first | rfl | cases h

instance : Key NodeCategory := Key.ofInjective rank rank_injective

end NodeCategory

namespace NodeKind

/-- The category of a kind. -/
def category : NodeKind → NodeCategory
  | op .. => .op
  | call _ => .call
  | var _ => .var
  | mem _ => .mem
  | netRead _ => .netRead
  | netWrite _ => .netWrite
  | input .. => .input

/-- The call behind a call or network node. -/
def callInfo? : NodeKind → Option CallInfo
  | call info | netRead info | netWrite info => some info
  | _ => none

/-- Changes the call behind a call or network node. -/
def mapCallInfo (f : CallInfo → CallInfo) : NodeKind → NodeKind
  | call info => call (f info)
  | netRead info => netRead (f info)
  | netWrite info => netWrite (f info)
  | kind => kind

/-- The direction of a network node. -/
def direction? : NodeKind → Option Direction
  | netRead _ => some .recv
  | netWrite _ => some .send
  | _ => none

/-- The value that a node stands for. -/
def value? : NodeKind → Option Value
  | op _ value => value
  | call info | netRead info | netWrite info => info.result
  | var value | input value _ _ => some value
  | mem _ => none

/-- Whether the node is a set of memory cells. -/
def isMem : NodeKind → Bool
  | mem _ => true
  | _ => false

/-- Whether the node receives from the network. -/
def isNetRead : NodeKind → Bool
  | netRead _ => true
  | _ => false

end NodeKind

/-- A node with its adjacency. -/
structure Node where
  id : NodeId
  program : Program
  label : String
  visible : Bool := true
  /-- Number of recorded accesses, taken to stay below `bound32`. -/
  count : Nat := 0
  levels : LevelSet := .empty
  location : Option Location := none
  /-- Whether the node holds data received from the network. -/
  netDependent : Bool := false
  kind : NodeKind
  successors : SortedMap NodeId EdgeKind := .empty
  predecessors : SortedMap NodeId EdgeKind := .empty
  deriving DecidableEq

namespace Node

/-- The category of a node. -/
def category (n : Node) : NodeCategory := n.kind.category

/-- Whether the node is a set of memory cells. -/
def isMem (n : Node) : Bool := n.kind.isMem

/-- Whether the node receives from the network in a given program. -/
def isNetReadOf (n : Node) (p : Program) : Bool := decide (n.program = p) && n.kind.isNetRead

/-- Number of accesses to some nodes. -/
def accesses : List Node → Nat
  | [] => 0
  | n :: ns => n.count + accesses ns

/-- The node under another handle, without its edges. -/
def detached (n : Node) (id : NodeId) : Node :=
  { n with id := id, successors := .empty, predecessors := .empty }

end Node

/-- Why an operation on a graph is refused. -/
inductive GraphError where
  | staleNode (node : NodeId)
  | notACall (node : NodeId)
  | capacityExceeded (slots : Nat)
  deriving DecidableEq

/-- The text of a refusal. -/
def GraphError.message : GraphError → String
  | staleNode n => "stale node handle " ++ nodeText n
  | notACall n => "node " ++ nodeText n ++ " is not a call site"
  | capacityExceeded k => "node arena is full at " ++ decimal k ++ " slots"

/-- Number of handles that a graph can give out. -/
def nodeCapacity : Nat := bound32

/-- The handle of a slot, while there are handles left. -/
def nodeIdOfSlot (slot : Nat) : Except GraphError NodeId :=
  if slot < nodeCapacity then .ok slot else .error (.capacityExceeded slot)

end PeerTaint
