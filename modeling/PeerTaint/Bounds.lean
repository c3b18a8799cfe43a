/-!
Bounds of numbers that are stored in a given number of bits.

The numbers of values and operations, alias keys, levels and counts of accesses are kept in 32 bits where
they are stored. Here they are natural numbers, and nothing wraps around: what is said of them carries over
as long as they stay below `bound32`. Handles of nodes are the exception, since a graph refuses to give out
more of them than fit.
-/

namespace PeerTaint

/-- Numbers below this bound fit into 32 bits. -/
def bound32 : Nat := 4294967296

/-- Numbers below this bound fit into 64 bits. -/
def bound64 : Nat := 18446744073709551616

/-- Numbers below this bound fit into 128 bits. -/
def bound128 : Nat := bound64 * bound64

end PeerTaint
