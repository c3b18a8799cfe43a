import PeerTaint.Graph.Search

/-!
Paths between nodes, with a memory of earlier answers.

`PathMemo` keeps, for one generation of a graph, which node leads to which by what path, and which
does not. A search for a path looks the question up, stops early where the rest of the way is known,
and leaves out nodes that are known to lead nowhere. Every answer is then written down for all nodes
that it settles.
-/

namespace PeerTaint

/-- Remembered answers to path searches, for one generation of a graph. -/
structure PathMemo where
  generation : Option Nat := none
  entries : SortedMap (NodeId × NodeId) (Option (List NodeId)) := .empty
  hits : Nat := 0
  misses : Nat := 0
  deriving DecidableEq

namespace PathMemo

/-- Forgets the answers of another generation. -/
def sync (memo : PathMemo) (generation : Nat) : PathMemo :=
  if memo.generation = some generation then memo
  else { memo with generation := some generation, entries := .empty }

/-- The remembered answer for a start and a stop. -/
def peek (memo : PathMemo) (start stop : NodeId) : Option (Option (List NodeId)) :=
  memo.entries.get? (start, stop)

/-- Writes an answer down. -/
def record (memo : PathMemo) (start stop : NodeId) (path : Option (List NodeId)) : PathMemo :=
  { memo with entries := memo.entries.insert (start, stop) path }

/-- Forgets all answers; the tallies stay. -/
def clear (memo : PathMemo) : PathMemo := { memo with generation := none, entries := .empty }

/-- Number of remembered answers. -/
def size (memo : PathMemo) : Nat := memo.entries.size

/-- Writes down that none of some nodes leads to `stop`. -/
def recordNone (memo : PathMemo) (stop : NodeId) (ns : List NodeId) : PathMemo :=
  ns.foldl (fun memo n => memo.record n stop none) memo

/-- Writes down a path to `stop` for each node on it. -/
def recordPath (memo : PathMemo) (stop : NodeId) : List NodeId → PathMemo
  | [] => memo
  | n :: path => recordPath (memo.record n stop (some (n :: path))) stop path

end PathMemo

namespace Graph

/-- How a search for a path ends. -/
inductive PathSearch where
  /-- A path from the start to the stop. -/
  | found (path : List NodeId)
  /-- No path; the handles that the search did not see. -/
  | exhausted (unseen : List NodeId)

/-- A depth-first search for a path from `start` to `stop`. Each entry of the agenda is a handle
with the nodes that led to it, nearest first. -/
def seekPath (g : Graph) (memo : PathMemo) (start stop : NodeId) :
    List (NodeId × List NodeId) → List NodeId → PathSearch
  | [], unseen => .exhausted unseen
  | (n, way) :: agenda, unseen =>
    if n = stop then .found (way.reverse ++ [stop])
    else
      match (if n = start then none else memo.peek n stop) with
      | some (some rest) => .found (way.reverse ++ rest)
      | some none => seekPath g memo start stop agenda unseen
      | none =>
        seekPath g memo start stop
          ((discovered (g.successors n) unseen).map (·, n :: way) ++ agenda)
          (undiscovered (g.successors n) unseen)
termination_by agenda unseen => agenda.length + unseen.length
decreasing_by
  · simp
  · have := length_discovered_add (g.successors n) unseen
    simp only [List.length_append, List.length_cons, List.length_map]
    omega

/-- A path from `start` to `stop` along the edges, and the memory with what was learnt. -/
def findPath (g : Graph) (memo : PathMemo) (start stop : NodeId) :
    Option (List NodeId) × PathMemo :=
  let memo := memo.sync g.generation
  match memo.peek start stop with
  | some answer => (answer, { memo with hits := memo.hits + 1 })
  | none =>
    let memo := { memo with misses := memo.misses + 1 }
    if ¬ g.isLive start ∨ ¬ g.isLive stop then (none, memo)
    else if start = stop then (some [start], memo.record start stop (some [start]))
    else
      match g.seekPath memo start stop [(start, [])] (g.others start) with
      | .found path => (some path, memo.recordPath stop path)
      | .exhausted unseen =>
        (none, memo.recordNone stop (g.handles.filter fun n => !unseen.contains n))

end Graph

end PeerTaint
