/-!
Exploring a finite graph whose vertices are numbers.

An exploration keeps an agenda of vertices to look at and the list of vertices that it has not seen
yet. Looking at a vertex moves its unseen neighbours from that list to the agenda, so the two lists
together get shorter with every vertex that is looked at (`length_discovered_add`), and the
exploration ends.
-/

namespace PeerTaint

/-- The unseen vertices that a look at some neighbours adds to the agenda. -/
def discovered (neighbours unseen : List Nat) : List Nat :=
  unseen.filter (neighbours.contains ·)

/-- The unseen vertices that a look at some neighbours leaves. -/
def undiscovered (neighbours unseen : List Nat) : List Nat :=
  unseen.filter fun n => !neighbours.contains n

theorem length_discovered_add (neighbours unseen : List Nat) :
    (discovered neighbours unseen).length + (undiscovered neighbours unseen).length
      = unseen.length := by
  rw [discovered, undiscovered, ← List.countP_eq_length_filter, ← List.countP_eq_length_filter,
    List.length_eq_countP_add_countP (neighbours.contains ·)]
  simp

end PeerTaint
