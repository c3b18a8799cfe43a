import PeerTaint.Graph.Node
import PeerTaint.Levels.Graph
import PeerTaint.Program.Pair

/-!
Network levels of both programs.

For each program and direction, the correlator keeps the levels of every routine that has network
calls of that direction, and for each source location the levels at which such a call stands. A send
and a receive of the other program belong together when they share a level.
-/

namespace PeerTaint

/-- The levels of one routine. -/
structure RoutineLevels where
  routine : String
  levels : List (List LevelVertex)
  deriving DecidableEq

/-- The levels of one program in one direction. -/
structure LevelStructure where
  routines : List RoutineLevels := []
  index : SortedMap Location LevelSet := .empty
  deriving DecidableEq

namespace LevelStructure

/-- Notes the level of a vertex, if it is a call with a known location. -/
def note (depth : Nat) (index : SortedMap Location LevelSet) :
    LevelVertex → SortedMap Location LevelSet
  | .call _ (some loc) => index.insert loc (((index.get? loc).getD .empty).insert depth)
  | _ => index

/-- Adds the levels of a routine. -/
def add (s : LevelStructure) (routine : String) (levels : List (List LevelVertex)) :
    LevelStructure :=
  { routines := s.routines ++ [⟨routine, levels⟩]
    index := levels.zipIdx.foldl (fun index (level, depth) => level.foldl (note depth) index)
      s.index }

end LevelStructure

/-- How the graph learns at which levels a network call stands. -/
abbrev LevelLookup := Program → Direction → Location → LevelSet

/-- The network levels of both programs. -/
structure Correlator where
  structures : SortedMap (Program × Direction) LevelStructure := .empty
  deriving DecidableEq

namespace Correlator

/-- Adds a routine in one direction. Without calls of that direction it adds nothing. -/
def addDirection (naming : Naming) (r : Routine) (c : Correlator) (d : Direction) : Correlator :=
  let g := LevelGraph.ofRoutine naming d r
  if g.callCount = 0 then c
  else
    let levels := g.levels.map fun level => level.filterMap (g.vertices[·]?)
    let old := (c.structures.get? (r.program, d)).getD {}
    ⟨c.structures.insert (r.program, d) (old.add r.name levels)⟩

/-- Adds a routine in both directions. -/
def addRoutine (naming : Naming) (c : Correlator) (r : Routine) : Correlator :=
  Direction.all.foldl (addDirection naming r) c

/-- The network levels of some routines. -/
def ofRoutines (naming : Naming) (rs : List Routine) : Correlator :=
  rs.foldl (addRoutine naming) {}

/-- What is known about a program in one direction. -/
def structure? (c : Correlator) (p : Program) (d : Direction) : Option LevelStructure :=
  c.structures.get? (p, d)

/-- The levels of the network calls at a location. -/
def nodeLevels (c : Correlator) : LevelLookup := fun p d loc =>
  ((c.structure? p d).bind fun s => s.index.get? loc).getD .empty

end Correlator

/-- Whether a send and a receive at given levels belong together. -/
def levelsCorrelate (write read : LevelSet) : Bool := write.meets read

end PeerTaint
