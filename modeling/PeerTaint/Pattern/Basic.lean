import PeerTaint.Text.CharSet

/-!
Patterns over texts.

A pattern is built by functions that put it in a simpler form where they can: literals that follow
one another are one literal, alternatives that are all single characters are one set, a repetition
of what matches nothing but the empty text is at most one of it, and parts that all alternatives
begin with come before them.
-/

namespace PeerTaint

/-- A condition on a place in a text. Word conditions count the letters of ASCII alone, or those of
all scripts. -/
inductive Assertion where
  | startText
  | endText
  | startLine
  | endLine
  /-- Lines that end with a carriage return, a line feed, or one after the other. -/
  | startLineCr
  | endLineCr
  | boundary (isAscii : Bool)
  | notBoundary (isAscii : Bool)
  | wordStart (isAscii : Bool)
  | wordEnd (isAscii : Bool)
  | wordStartHalf (isAscii : Bool)
  | wordEndHalf (isAscii : Bool)
  deriving DecidableEq

/-- A pattern. -/
inductive Pattern where
  /-- Matches the empty text. -/
  | empty
  /-- Characters, one after the other. -/
  | literal (cs : List Char)
  | oneOf (s : CharSet)
  | look (a : Assertion)
  /-- At least `min` and at most `max` times the same pattern, one after the other. -/
  | rep (p : Pattern) (min : Nat) (max : Option Nat)
  /-- A group whose match can be told from the rest. -/
  | group (p : Pattern)
  /-- Patterns, one after the other. -/
  | concat (ps : List Pattern)
  /-- One of several patterns. -/
  | alt (ps : List Pattern)

namespace Pattern

/-! ## Lengths -/

mutual

/-- The fewest bytes of a match, where there can be one. -/
def minLength? : Pattern → Option Nat
  | empty | look _ => some 0
  | literal cs => some (cs.foldl (fun n c => n + c.utf8Size) 0)
  | oneOf s => s.ranges.head?.map fun r => (Char.ofNat r.1).utf8Size
  | rep p min _ => p.minLength?.map (min * ·)
  | group p => p.minLength?
  | concat ps => minLengths ps
  | alt ps => minLengthOf ps

/-- The fewest bytes of patterns that follow one another. -/
def minLengths : List Pattern → Option Nat
  | [] => some 0
  | p :: ps => do return (← p.minLength?) + (← minLengths ps)

/-- The fewest bytes of one of several patterns. -/
def minLengthOf : List Pattern → Option Nat
  | [] => none
  | [p] => p.minLength?
  | p :: ps => do return Nat.min (← p.minLength?) (← minLengthOf ps)

end

mutual

/-- Whether a match can be nothing but the empty text. -/
def isZeroWidth : Pattern → Bool
  | empty | look _ => true
  | literal _ | oneOf _ => false
  | rep p _ max => max.isSome && p.isZeroWidth
  | group p => p.isZeroWidth
  | concat ps | alt ps => areZeroWidth ps

/-- Whether the matches of several patterns can be nothing but the empty text. -/
def areZeroWidth : List Pattern → Bool
  | [] => true
  | p :: ps => p.isZeroWidth && areZeroWidth ps

end

/-! ## Equality -/

mutual

/-- Whether two patterns are the same. The matches of two groups can be told from each other, so no
two groups are the same. -/
def isSame : Pattern → Pattern → Bool
  | empty, empty => true
  | literal cs, literal ds => cs == ds
  | oneOf s, oneOf t => s == t
  | look a, look b => a == b
  | rep p m n, rep q k l => m == k && n == l && p.isSame q
  | concat ps, concat qs => areSame ps qs
  | alt ps, alt qs => areSame ps qs
  | _, _ => false

/-- Whether two lists of patterns are the same. -/
def areSame : List Pattern → List Pattern → Bool
  | [], [] => true
  | p :: ps, q :: qs => p.isSame q && areSame ps qs
  | _, _ => false

end

/-! ## Building patterns -/

/-- The pattern of one character of a set. -/
def ofSet (s : CharSet) : Pattern :=
  match s.only? with
  | some c => literal [c]
  | none => oneOf s

/-- A repetition. -/
def repeated (p : Pattern) (min : Nat) (max : Option Nat) : Pattern :=
  let (min, max) :=
    if p.isZeroWidth then (Nat.min min 1, some (Nat.min (max.getD 1) 1)) else (min, max)
  if max = some 0 then empty
  else if min = 1 ∧ max = some 1 then p
  else rep p min max

/-- The parts of a pattern that follow one another. -/
def parts : Pattern → List Pattern
  | empty => []
  | concat ps => ps
  | p => [p]

/-- Puts a part before others. Literals that meet are joined. -/
def consPart : Pattern → List Pattern → List Pattern
  | literal cs, literal ds :: ps => literal (cs ++ ds) :: ps
  | p, ps => p :: ps

/-- Patterns, one after the other. -/
def sequence (ps : List Pattern) : Pattern :=
  match (ps.flatMap parts).foldr consPart [] with
  | [] => empty
  | [p] => p
  | ps => concat ps

/-- The alternatives of a pattern. -/
def branches : Pattern → List Pattern
  | alt ps => ps
  | p => [p]

/-- The character that a pattern is. -/
def singleChar? : Pattern → Option Char
  | literal [c] => some c
  | _ => none

/-- The set that a pattern is. -/
def set? : Pattern → Option CharSet
  | oneOf s => some s
  | _ => none

/-- The parts of a pattern that has several. -/
def parts? : Pattern → Option (List Pattern)
  | concat ps => some ps
  | _ => none

/-- The parts that two lists begin with. -/
def commonParts : List Pattern → List Pattern → List Pattern
  | p :: ps, q :: qs => if p.isSame q then p :: commonParts ps qs else []
  | _, _ => []

/-- The parts that all lists begin with. -/
def sharedParts : List (List Pattern) → List Pattern
  | [] => []
  | ps :: rest => rest.foldl commonParts ps

/-- One of several patterns, as a set where all of them are characters or all of them are sets. -/
def choice (ps : List Pattern) : Pattern :=
  match ps.flatMap branches with
  | [] => oneOf .none
  | [p] => p
  | ps =>
    match ps.mapM singleChar?, ps.mapM set? with
    | some cs, _ => ofSet (.ofRanges (cs.map fun c => (c.toNat, c.toNat)))
    | _, some ss => ofSet (.unions ss)
    | none, none => alt ps

/-- One of several patterns. What all of them begin with comes first. -/
def anyOf (ps : List Pattern) : Pattern :=
  match choice ps with
  | alt qs =>
    match qs.mapM parts? with
    | none => alt qs
    | some lists =>
      match (sharedParts lists).length with
      | 0 => alt qs
      | n =>
        let rests := lists.map fun l => sequence (l.drop n)
        sequence ((lists.head?.getD []).take n ++ [choice rests])
  | p => p

/-! ## Anchors -/

mutual

/-- Whether every match begins at the beginning of the text. -/
def isAtStart : Pattern → Bool
  | look .startText => true
  | rep p min _ => min != 0 && p.isAtStart
  | group p => p.isAtStart
  | concat ps => areAtStart ps
  | alt ps => allAtStart ps
  | _ => false

/-- Whether every match of patterns that follow one another begins at the beginning of the text. -/
def areAtStart : List Pattern → Bool
  | [] => false
  | p :: ps => p.isAtStart || (p.isZeroWidth && areAtStart ps)

/-- Whether every match of each pattern begins at the beginning of the text. -/
def allAtStart : List Pattern → Bool
  | [] => true
  | p :: ps => p.isAtStart && allAtStart ps

end

mutual

/-- Whether every match ends at the end of the text. -/
def isAtEnd : Pattern → Bool
  | look .endText => true
  | rep p min _ => min != 0 && p.isAtEnd
  | group p => p.isAtEnd
  | concat ps => areAtEnd ps
  | alt ps => allAtEnd ps
  | _ => false

/-- Whether every match of patterns that follow one another ends at the end of the text. -/
def areAtEnd : List Pattern → Bool
  | [] => false
  | p :: ps => areAtEnd ps || (areZeroWidth ps && p.isAtEnd)

/-- Whether every match of each pattern ends at the end of the text. -/
def allAtEnd : List Pattern → Bool
  | [] => true
  | p :: ps => p.isAtEnd && allAtEnd ps

end

end Pattern

end PeerTaint
