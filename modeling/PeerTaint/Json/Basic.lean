import PeerTaint.Text.Decimal

/-!
JSON values.

Members of an object are kept in order and with repetitions, because what a repeated member means
depends on who reads it. Natural numbers are kept exactly, at any size.
-/

namespace PeerTaint

/-- A JSON value. -/
inductive Json where
  | null
  | bool (b : Bool)
  | nat (n : Nat)
  /-- A number that is not written as a natural number. -/
  | number (literal : String)
  | str (s : String)
  | arr (items : List Json)
  | obj (members : List (String × Json))
  /-- A text that is no sequence of characters, or an object with such a text among its keys. It can
  be passed over but not used. -/
  | garbled

namespace Json

/-- The value of the last member of an object with a given key. -/
def lastMember? (members : List (String × Json)) (key : String) : Option Json :=
  (members.findRev? (·.1 = key)).map (·.2)

/-- The member of an object with a given key; of several, the last. -/
def member? (key : String) : Json → Option Json
  | obj members => lastMember? members key
  | _ => none

/-- Keeps the last of several members with one key, at the place of the first. -/
def lastOnly : List (String × Json) → List (String × Json)
  | [] => []
  | (key, value) :: members =>
    (key, (lastMember? members key).getD value) :: (lastOnly members).filter (·.1 ≠ key)

mutual

/-- The value in which no object has two members with one key: the last one counts. -/
def merged : Json → Json
  | arr items => arr (mergedItems items)
  | obj members => obj (lastOnly (mergedMembers members))
  | value => value

/-- Merges the items of an array. -/
def mergedItems : List Json → List Json
  | [] => []
  | value :: values => value.merged :: mergedItems values

/-- Merges the values of the members of an object. -/
def mergedMembers : List (String × Json) → List (String × Json)
  | [] => []
  | (key, value) :: members => (key, value.merged) :: mergedMembers members

end

end Json

end PeerTaint
