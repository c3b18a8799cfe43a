import PeerTaint.Exploration
import PeerTaint.Order.SortedSet

/-!
Distance layers of a directed graph: the entries, then what they lead to, then what that leads to,
and so on, each vertex in the first layer that meets it. The layers end before an empty one, and
before one that would be repeated.
-/

namespace PeerTaint

/-- The vertices that some vertices lead to. -/
def neighboursOf (next : Nat → List Nat) (vs : List Nat) : List Nat := vs.flatMap next

/-- The layers from `current` on, below the layers `above`, among the vertices that are not placed
yet. -/
def layersFrom (next : Nat → List Nat) (above : List (List Nat)) (current unplaced : List Nat) :
    List (List Nat) :=
  if current.isEmpty || above.contains current then []
  else
    current :: layersFrom next (current :: above) (discovered (neighboursOf next current) unplaced)
      (undiscovered (neighboursOf next current) unplaced)
termination_by current.length + unplaced.length
decreasing_by
  have := length_discovered_add (neighboursOf next current) unplaced
  have : current.length ≠ 0 := fun h => by simp_all
  omega

/-- The distance layers of the graph with vertices `0, …, n - 1` from some entries, each ascending.
-/
def layers (n : Nat) (next : Nat → List Nat) (entries : List Nat) : List (List Nat) :=
  layersFrom next [] (SortedSet.ofList entries).elems
    ((List.range n).filter fun v => !entries.contains v)

end PeerTaint
