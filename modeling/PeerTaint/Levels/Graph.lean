import PeerTaint.Config.Basic
import PeerTaint.Levels.Layers
import PeerTaint.Order.SortedMap
import PeerTaint.Program.Routine

/-!
The level graph of a routine: its blocks and its network calls of one direction.

Within a block the calls of the wanted direction form a chain that starts at the block; the end of
the chain leads to the blocks that may run next. When a block id is used twice, the last block with
it is meant wherever the id is mentioned.
-/

namespace PeerTaint

/-- A vertex of a level graph. -/
inductive LevelVertex where
  | block (id : Nat)
  | call (callee : String) (location : Option Location)
  deriving DecidableEq

/-- Whether a vertex is a call. -/
def LevelVertex.isCall : LevelVertex → Bool
  | block _ => false
  | call .. => true

/-- A level graph. Vertices are named by their position. -/
structure LevelGraph where
  vertices : List LevelVertex
  edges : SortedSet (Nat × Nat) := .empty
  firstBlock : Option Nat
  deriving DecidableEq

namespace LevelGraph

/-- The vertex of each block id. -/
def heads (blocks : List Block) : SortedMap Nat Nat :=
  .ofList (blocks.zipIdx.map fun (b, i) => (b.id, i))

/-- Adds the calls of a block, and the edges that leave them. -/
def addBlock (heads : SortedMap Nat Nat) (wanted : CallSite → Bool) (g : LevelGraph) (b : Block) :
    LevelGraph :=
  match heads.get? b.id with
  | none => g
  | some head =>
    let calls := b.calls.filter wanted
    let stops := (List.range calls.length).map (g.vertices.length + ·)
    let chain := (head :: stops).zip stops
    let tail := stops.getLast?.getD head
    let exits := (b.successors.filterMap heads.get?).map (tail, ·)
    { g with
      vertices := g.vertices ++ calls.map fun c => .call c.callee c.location
      edges := (chain ++ exits).foldl .insert g.edges }

/-- The level graph of a routine for one direction. -/
def ofRoutine (naming : Naming) (d : Direction) (r : Routine) : LevelGraph :=
  let blocks := r.layout
  let heads := heads blocks
  blocks.foldl (addBlock heads fun c => naming.direction? r.program c.callee = some d)
    { vertices := blocks.map fun b => .block b.id
      firstBlock := blocks.head?.bind fun b => heads.get? b.id }

/-- Number of calls. -/
def callCount (g : LevelGraph) : Nat := g.vertices.countP (·.isCall)

/-- The vertices that a vertex leads to, ascending. -/
def next (g : LevelGraph) (v : Nat) : List Nat :=
  (g.edges.elems.filter (·.1 = v)).map (·.2)

/-- Whether nothing but the vertex itself leads to it. -/
def isEntry (g : LevelGraph) (v : Nat) : Bool := g.edges.elems.all fun e => e.2 = v → e.1 = v

/-- The vertices where levels start: those that nothing else leads to, or else the first block. -/
def entries (g : LevelGraph) : List Nat :=
  let free := (List.range g.vertices.length).filter g.isEntry
  if free.isEmpty then g.firstBlock.toList else free

/-- The vertices by level. -/
def levels (g : LevelGraph) : List (List Nat) := layers g.vertices.length g.next g.entries

end LevelGraph

end PeerTaint
