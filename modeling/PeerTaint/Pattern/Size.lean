import PeerTaint.Pattern.Basic
import PeerTaint.Text.Utf8

/-!
The size of compiled patterns.

A pattern is compiled into an automaton that reads the bytes of a text, and into a second one that
reads them backwards. Each state takes 32 bytes of memory, and more by the number of its
transitions. A repetition is as many copies as its bounds say, so that a short pattern may have a
large automaton; patterns whose automaton is too large are not accepted. Nothing is built here: a
tally counts the states, in the order in which they would be built.
-/

namespace PeerTaint.Pattern

/-- The order in which an automaton reads bytes. -/
inductive Reading where
  | forward
  | backward
  deriving DecidableEq

/-- What has been built: the number of states, and the memory that their transitions take. -/
structure Tally where
  states : Nat := 0
  transitions : Nat := 0

namespace Tally

/-- The memory of all states. -/
def memory (t : Tally) : Nat := 32 * t.states + t.transitions

/-- The most memory that an automaton may take. -/
def limit : Nat := 10 * 1024 * 1024

/-- Whether an automaton is too large. -/
def isFull (t : Tally) : Bool := decide (limit < t.memory)

/-- Adds states with a single transition, or none. -/
def add (t : Tally) (n : Nat) : Tally := { t with states := t.states + n }

/-- Adds a state with transitions to choose from by the next byte. -/
def addSwitch (t : Tally) (n : Nat) : Tally :=
  { states := t.states + 1, transitions := t.transitions + 8 * n }

/-- Adds a state that goes on with several others. -/
def addFork (t : Tally) (n : Nat) : Tally :=
  { states := t.states + 1, transitions := t.transitions + 4 * n }

/-- Adds copies of the same states, as long as there is room. -/
def copies (build : Tally → Tally) : Nat → Tally → Tally
  | 0, t => t
  | n + 1, t => if t.isFull then t else copies build n (build t)

end Tally

/-! ## Sets of characters -/

/-- A sequence of ranges of bytes. -/
abbrev ByteSeq := List (Nat × Nat)

/-- Where to cut a range of code points whose bytes are not all combinations of ranges of bytes: at
the last code point of each length, and within a length at multiples of the powers of 64. -/
def cut? (low high : Nat) : Option Nat :=
  match [0x7F, 0x7FF, 0xFFFF].find? fun last => decide (low ≤ last) && decide (last < high) with
  | some last => some last
  | none =>
    if high ≤ 0x7F then none
    else
      [0x40, 0x1000, 0x40000].findSome? fun m =>
        if low / m = high / m then none
        else if low % m ≠ 0 then some (low / m * m + m - 1)
        else if high % m ≠ m - 1 then some (high / m * m - 1)
        else none

/-- Cuts a range of code points into ranges whose bytes are all combinations of ranges of bytes. -/
def pieces (low high : Nat) : List (Nat × Nat) :=
  match cut? low high with
  | some k => if _h : low ≤ k ∧ k < high then pieces low k ++ pieces (k + 1) high else [(low, high)]
  | none => [(low, high)]
termination_by high - low

/-- The sequences of bytes of the characters of a set. -/
def byteSeqs (s : CharSet) : List ByteSeq :=
  (s.ranges.flatMap fun r => pieces r.1 r.2).map fun r => (Utf8.bytes r.1).zip (Utf8.bytes r.2)

/-- Groups the rests of sequences that follow one another and begin alike. -/
def groupHeads : List ByteSeq → List ((Nat × Nat) × List ByteSeq)
  | [] => []
  | [] :: seqs => groupHeads seqs
  | (r :: rest) :: seqs =>
    match groupHeads seqs with
    | (r', rests) :: groups =>
      if r = r' then (r, rest :: rests) :: groups else (r, [rest]) :: (r', rests) :: groups
    | [] => [(r, [rest])]

/-- The states that read sequences of at most `n` bytes, each given by what it reads. -/
def states : Nat → List ByteSeq → List (List ByteSeq)
  | 0, _ => []
  | n + 1, seqs =>
    if seqs.all (·.isEmpty) then []
    else seqs :: (groupHeads seqs).flatMap fun g => states n g.2

/-- Adds the states that read one of several sequences of bytes. States that read the same are
shared. -/
def addSeqs (seqs : List ByteSeq) (t : Tally) : Tally :=
  (states 4 seqs).eraseDups.foldl (fun t seqs => t.addSwitch (groupHeads seqs).length) (t.add 1)

/-- A state that reads backwards: the state that it goes on with, the bytes that it reads, and its
own number. -/
structure BackState where
  next : Nat
  low : Nat
  high : Nat
  number : Nat

/-- Backward states that are remembered, to be shared. There is a limited number of places, and a
state takes the place of the one before it. -/
abbrev BackStates := Array (Option BackState)

namespace BackStates

/-- The number of places. -/
def places : Nat := 1000

/-- A step in computing a place. -/
def mix (h : UInt64) (n : Nat) : UInt64 := (h ^^^ UInt64.ofNat n) * 1099511628211

/-- The place of a state. -/
def place (next low high : Nat) : Nat :=
  (mix (mix (mix 14695981039346656037 next) low) high).toNat % places

/-- No states. -/
def empty : BackStates := Array.replicate places none

/-- The number of a state that is remembered. -/
def find? (bs : BackStates) (next low high : Nat) : Option Nat :=
  match bs[place next low high]? with
  | some (some b) =>
    if b.next = next ∧ b.low = low ∧ b.high = high then some b.number else none
  | _ => none

/-- Remembers a state. -/
def insert (bs : BackStates) (b : BackState) : BackStates :=
  bs.setIfInBounds (place b.next b.low b.high) (some b)

end BackStates

/-- Adds the states that read a sequence of bytes backwards, from the state that comes after it. -/
def addBackSeq : ByteSeq → Nat → BackStates × Tally → BackStates × Tally
  | [], _, built => built
  | r :: rest, next, (known, t) =>
    match known.find? next r.1 r.2 with
    | some number => addBackSeq rest number (known, t)
    | none => addBackSeq rest t.states (known.insert ⟨next, r.1, r.2, t.states⟩, t.add 1)

/-- Adds the states that read one of several sequences of bytes backwards. States that go on with
the same state and read the same bytes are shared while they are remembered. -/
def addBackSeqs (seqs : List ByteSeq) (t : Tally) : Tally :=
  let t := (t.addFork seqs.length).add 1
  (seqs.foldl (fun built seq => addBackSeq seq (t.states - 1) built) (BackStates.empty, t)).2

/-- Adds the states that read one character of a set. -/
def addSet (reading : Reading) (s : CharSet) (t : Tally) : Tally :=
  if s.isAscii then (t.add 1).addSwitch s.ranges.length
  else
    match reading with
    | .forward => addSeqs (byteSeqs s) t
    | .backward => addBackSeqs (byteSeqs s) t

/-! ## Alternatives that are all literals -/

/-- The literals that meet at a state, split at those that end there, last first. -/
structure Chunks where
  closed : List (List (List Nat)) := []
  active : List (List Nat) := []

/-- Adds a literal. One that ends where another has ended, before any goes on, makes no difference.
-/
def Chunks.add (c : Chunks) (literal : List Nat) : Chunks :=
  if !literal.isEmpty then { c with active := literal :: c.active }
  else if c.active.isEmpty && !c.closed.isEmpty && c.closed.all (·.isEmpty) then c
  else { closed := c.active :: c.closed }

/-- Splits literals at those that are empty. -/
def chunks (literals : List (List Nat)) : List (List (List Nat)) :=
  let c := literals.foldl Chunks.add {}
  (c.active :: c.closed).map List.reverse

/-- Adds the states that read one of several literals of at most `n` bytes. -/
def addLiterals : Nat → List (List Nat) → Tally → Tally
  | 0, _, t => t
  | n + 1, literals, t =>
    if literals.all (·.isEmpty) then t
    else
      let chunks := chunks literals
      let heads := chunks.map fun chunk => (chunk.filterMap (·.head?)).eraseDups
      let below := (chunks.zip heads).flatMap fun (chunk, bytes) => bytes.map fun b =>
        chunk.filterMap fun l => if l.head? = some b then some l.tail else none
      let switches := heads.filter (!·.isEmpty)
      let t := below.foldl (fun t literals => addLiterals n literals t) t
      let t := switches.foldl (fun t bytes =>
        if bytes.length = 1 then t.add 1 else t.addSwitch bytes.length) t
      t.addFork (switches.length + (chunks.length - 1))

/-- The bytes of a literal in the order in which they are read. -/
def literalBytes (reading : Reading) (cs : List Char) : List Nat :=
  let bytes := cs.flatMap fun c => Utf8.bytes c.toNat
  match reading with
  | .forward => bytes
  | .backward => bytes.reverse

/-- The characters that a pattern is. -/
def literal? : Pattern → Option (List Char)
  | literal cs => some cs
  | _ => none

/-! ## Patterns -/

/-- Adds copies of states, one after the other; instead of none there is a state that reads nothing.
-/
def addCopies (build : Tally → Tally) (n : Nat) (t : Tally) : Tally :=
  if n = 0 then t.add 1 else t.copies build n

/-- Adds a repetition of states. Those that always read something need no way around. -/
def addRep (build : Tally → Tally) (readsAlways : Bool) (min : Nat) (max : Option Nat) (t : Tally) :
    Tally :=
  match min, max with
  | 0, some 1 => (build (t.addFork 2)).add 1
  | 0, none =>
    if readsAlways then build (t.addFork 2) else (((build t).addFork 2).addFork 2).add 1
  | n, none => (t.copies build n).addFork 2
  | m, some n =>
    if m = n then addCopies build n t
    else ((addCopies build m t).add 1).copies (fun t => build (t.addFork 2)) (n - m)

mutual

/-- Adds the states of a pattern. -/
def addStates (reading : Reading) : Pattern → Tally → Tally
  | empty, t | look _, t => t.add 1
  | literal cs, t => t.add (literalBytes reading cs).length
  | oneOf s, t => addSet reading s t
  | rep p min max, t => addRep (p.addStates reading) (p.minLength?.any (0 < ·)) min max t
  | group p, t =>
    match reading with
    | .forward => (p.addStates reading (t.add 1)).add 1
    | .backward => p.addStates reading t
  | concat ps, t =>
    match reading with
    | .forward => addForward ps t
    | .backward => addBackward ps t
  | alt ps, t =>
    match ps.mapM literal? with
    | some literals =>
      let literals := literals.map (literalBytes reading)
      addLiterals (literals.foldl (fun n l => Nat.max n l.length) 0 + 1) literals (t.add 1)
    | none => addBranches reading 0 ps t

/-- Adds the states of patterns that follow one another. -/
def addForward : List Pattern → Tally → Tally
  | [], t => t
  | p :: ps, t => if t.isFull then t else addForward ps (p.addStates .forward t)

/-- Adds the states of patterns that follow one another, last first. -/
def addBackward : List Pattern → Tally → Tally
  | [], t => t
  | p :: ps, t =>
    let t := addBackward ps t
    if t.isFull then t else p.addStates .backward t

/-- Adds the states of alternatives, of which `n` have been added before. The states that join them
come after the first two. -/
def addBranches (reading : Reading) (n : Nat) : List Pattern → Tally → Tally
  | [], t => { t with transitions := t.transitions + 4 * n }
  | p :: ps, t =>
    if t.isFull then t
    else
      let t := p.addStates reading t
      addBranches reading (n + 1) ps (if n = 1 then t.add 2 else t)

end

/-- The automaton of a pattern: states that skip what comes before a match, those of the pattern,
and those that mark the match. -/
def automaton (reading : Reading) (p : Pattern) : Tally :=
  let isAnchored := match reading with
    | .forward => p.isAtStart
    | .backward => p.isAtEnd
  let start : Tally := {}
  let skip := if isAnchored then start.add 1 else ((start.addFork 2).add 1).addSwitch 1
  ((group p).addStates reading skip).add 1

/-- Whether the automata of a pattern are small enough. -/
def fits (p : Pattern) : Bool := !(p.automaton .backward).isFull && !(p.automaton .forward).isFull

end PeerTaint.Pattern
