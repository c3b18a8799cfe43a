import PeerTaint.Pattern.Basic
import PeerTaint.Unicode.Property

/-!
When a text contains a match of a pattern.

The places of a text are counted from 0, before the first character, to its length, after the last
one. A set of places is a number, whose binary digit `i` says whether place `i` is in the set. A
pattern on a text becomes a route: `Route.ends` gives the places where a match may end that began at
one of a set of places. So a pattern is followed from all places of a text at once.
-/

namespace PeerTaint

/-- A place in a text: the characters on either side. -/
structure Place where
  before : Option Char
  after : Option Char

/-- The characters that count as parts of words. -/
def wordSet (isAscii : Bool) : CharSet :=
  if isAscii then ⟨[(48, 57), (65, 90), (95, 95), (97, 122)]⟩ else Unicode.wordChars

/-- Whether a neighbouring character is part of a word. -/
def isWordSide (isAscii : Bool) (c : Option Char) : Bool := c.any (wordSet isAscii).has

/-- Whether an assertion holds at a place. -/
def Assertion.holds (a : Assertion) (here : Place) : Bool :=
  match a with
  | startText => here.before.isNone
  | endText => here.after.isNone
  | startLine => here.before.isNone || here.before = some '\n'
  | endLine => here.after.isNone || here.after = some '\n'
  | startLineCr =>
    here.before.isNone || here.before = some '\n' ||
      (here.before = some '\r' && here.after ≠ some '\n')
  | endLineCr =>
    here.after.isNone || here.after = some '\r' ||
      (here.after = some '\n' && here.before ≠ some '\r')
  | boundary ascii => isWordSide ascii here.before != isWordSide ascii here.after
  | notBoundary ascii => isWordSide ascii here.before == isWordSide ascii here.after
  | wordStart ascii => !isWordSide ascii here.before && isWordSide ascii here.after
  | wordEnd ascii => isWordSide ascii here.before && !isWordSide ascii here.after
  | wordStartHalf ascii => !isWordSide ascii here.before
  | wordEndHalf ascii => !isWordSide ascii here.after

/-- A set of places. -/
abbrev Places := Nat

namespace Places

/-- The set of the places at which a list of truth values has a true one. -/
def ofBools (bs : List Bool) : Places := bs.foldr (fun b n => 2 * n + b.toNat) 0

/-- All places below a bound. -/
def below (n : Nat) : Places := (1 <<< n) - 1

end Places

/-- A text, with the places at which each of its characters stands. -/
structure IndexedText where
  places : List Place
  standing : List (Char × Places)

namespace IndexedText

/-- The places of a text. -/
def placesFrom (before : Option Char) : List Char → List Place
  | [] => [⟨before, none⟩]
  | c :: cs => ⟨before, some c⟩ :: placesFrom (some c) cs

/-- Adds a place to those at which a character stands. -/
def addPlace (c : Char) (i : Nat) : List (Char × Places) → List (Char × Places)
  | [] => [(c, 1 <<< i)]
  | (d, ps) :: rest =>
    if c = d then (d, ps ||| (1 <<< i)) :: rest else (d, ps) :: addPlace c i rest

/-- The places at which each character stands, from place `i` on. -/
def standingFrom (i : Nat) (known : List (Char × Places)) : List Char → List (Char × Places)
  | [] => known
  | c :: cs => standingFrom (i + 1) (addPlace c i known) cs

/-- Finds where the characters of a text stand. -/
def ofText (text : String) : IndexedText :=
  { places := placesFrom none text.toList, standing := standingFrom 0 [] text.toList }

/-- The places before a given character. -/
def beforeChar (t : IndexedText) (c : Char) : Places := (t.standing.lookup c).getD 0

/-- The places before a character of a set. -/
def beforeSet (t : IndexedText) (s : CharSet) : Places :=
  t.standing.foldl (fun n e => if s.has e.1 then n ||| e.2 else n) 0

/-- The places at which an assertion holds. -/
def holding (t : IndexedText) (a : Assertion) : Places := .ofBools (t.places.map a.holds)

end IndexedText

/-- A pattern on a text. -/
inductive Route where
  /-- Stays at one of some places. -/
  | stay (ps : Places)
  /-- Goes over one character from one of some places. -/
  | step (ps : Places)
  /-- One route after the other. -/
  | all (rs : List Route)
  /-- One of several routes. -/
  | any (rs : List Route)
  /-- At least `min` and at most `max` times the same route. -/
  | many (r : Route) (min : Nat) (max : Option Nat)

namespace Route

/-- Applies a step a number of times, as long as there is a place left. -/
def iterate (f : Places → Places) : Nat → Places → Places
  | 0, s => s
  | n + 1, s => if s = 0 then 0 else iterate f n (f s)

/-- Adds what a step leads to, at most a number of times, as long as there is something new. -/
def gather (f : Places → Places) : Nat → Places → Places
  | 0, s => s
  | n + 1, s =>
    let t := s ||| f s
    if t = s then s else gather f n t

mutual

/-- Where a route may end that began at one of the places `s`, in a text with `n` places. -/
def ends (n : Nat) : Route → Places → Places
  | stay ps, s => s &&& ps
  | step ps, s => (s &&& ps) <<< 1
  | all rs, s => endsAll n rs s
  | any rs, s => endsAny n rs s
  | many r min max, s =>
    gather (r.ends n) ((max.map (· - min)).getD n) (iterate (r.ends n) min s)

/-- Where routes may end that follow one another. -/
def endsAll (n : Nat) : List Route → Places → Places
  | [], s => s
  | r :: rs, s => endsAll n rs (r.ends n s)

/-- Where one of several routes may end. -/
def endsAny (n : Nat) : List Route → Places → Places
  | [], _ => 0
  | r :: rs, s => r.ends n s ||| endsAny n rs s

end

end Route

namespace Pattern

mutual

/-- The route of a pattern on a text. -/
def route (t : IndexedText) : Pattern → Route
  | empty => .all []
  | literal cs => .all (cs.map fun c => .step (t.beforeChar c))
  | oneOf s => .step (t.beforeSet s)
  | look a => .stay (t.holding a)
  | rep p min max => .many (p.route t) min max
  | group p => p.route t
  | concat ps => .all (routes t ps)
  | alt ps => .any (routes t ps)

/-- The routes of several patterns on a text. -/
def routes (t : IndexedText) : List Pattern → List Route
  | [] => []
  | p :: ps => p.route t :: routes t ps

end

/-- Whether some part of a text matches the pattern. -/
def occursIn (p : Pattern) (text : String) : Bool :=
  let t := IndexedText.ofText text
  let n := t.places.length
  (p.route t).ends n (Places.below n) != 0

end Pattern

end PeerTaint
