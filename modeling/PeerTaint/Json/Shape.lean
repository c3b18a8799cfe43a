import PeerTaint.Bounds
import PeerTaint.Json.Basic
import PeerTaint.Order.SortedMap
import PeerTaint.Order.SortedSet

/-!
The shapes in which data is written as JSON.

A record is an object with a member for each field, in order. It is also read from an array that
lists the fields. Members with other names are passed over, or refused where the record is strict,
and a field given twice is refused. A choice is written as its name, or as an object with the name
as its only key if it carries data.
-/

namespace PeerTaint

namespace Json

/-! ## Numbers, texts and collections -/

/-- Reads a natural number below a bound. -/
def below? (bound : Nat) : Json → Option Nat
  | nat n => if n < bound then some n else none
  | _ => none

/-- Reads a number of 32 bits. -/
def nat32? : Json → Option Nat := below? bound32

/-- Reads a number of 64 bits. -/
def nat64? : Json → Option Nat := below? bound64

/-- Reads a truth value. -/
def bool? : Json → Option Bool
  | bool b => some b
  | _ => none

/-- Reads a text. -/
def str? : Json → Option String
  | str s => some s
  | _ => none

/-- Reads an array. -/
def list? {α : Type} (item : Json → Option α) : Json → Option (List α)
  | arr items => items.mapM item
  | _ => none

/-- Reads an array of two items. -/
def pair? {α : Type} (item : Json → Option α) : Json → Option (α × α)
  | arr [a, b] => do return (← item a, ← item b)
  | _ => none

/-- Reads a value that may be absent. -/
def option? {α : Type} (item : Json → Option α) : Json → Option (Option α)
  | null => some none
  | value => (item value).map some

/-- Reads an object with keys of one kind. Of several members with one key the last counts. -/
def map? {κ α : Type} [Key κ] [DecidableEq κ] (key : String → Option κ) (item : Json → Option α) :
    Json → Option (SortedMap κ α)
  | obj members =>
    (members.mapM fun (k, v) => do return (← key k, ← item v)).map SortedMap.ofList
  | _ => none

/-- Writes a value that may be absent. -/
def ofOption {α : Type} (item : α → Json) : Option α → Json
  | none => null
  | some a => item a

/-- Writes a list. -/
def ofList {α : Type} (item : α → Json) (as : List α) : Json := arr (as.map item)

/-- Writes a set in ascending order. -/
def ofSet {κ : Type} [Key κ] (item : κ → Json) (s : SortedSet κ) : Json := ofList item s.elems

/-- Writes a map in ascending order of its keys. -/
def ofMap {κ α : Type} [Key κ] (key : κ → String) (item : α → Json) (m : SortedMap κ α) : Json :=
  obj (m.entries.map fun (k, v) => (key k, item v))

/-! ## Records -/

/-- The fields of a record as they were found. -/
structure Record where
  fields : List (String × Json)
  /-- Whether the fields were listed without their names. -/
  positional : Bool

/-- Whether no name occurs twice. -/
def noneTwice (names : List String) : Bool := decide names.Nodup

/-- Reads a record with given field names. -/
def record? (names : List String) (strict : Bool) : Json → Option Record
  | arr items => if items.length ≤ names.length then some ⟨names.zip items, true⟩ else none
  | obj members =>
    let known := members.filter fun (key, _) => names.contains key
    if noneTwice (known.map (·.1)) && (!strict || known.length = members.length) then
      some ⟨known, false⟩
    else none
  | _ => none

namespace Record

/-- The value of a field. -/
def value? (r : Record) (name : String) : Option Json :=
  (r.fields.find? (·.1 = name)).map (·.2)

/-- Reads a field that has to be given. -/
def required {α : Type} (r : Record) (name : String) (item : Json → Option α) : Option α :=
  (r.value? name).bind item

/-- Reads a field with a value for when it is not given. -/
def withDefault {α : Type} (r : Record) (name : String) (item : Json → Option α) (default : α) :
    Option α :=
  match r.value? name with
  | some value => item value
  | none => some default

/-- Reads a field that may be absent. Among listed fields it has to be given all the same. -/
def optional {α : Type} (r : Record) (name : String) (item : Json → Option α) : Option (Option α) :=
  match r.value? name with
  | some value => option? item value
  | none => if r.positional then none else some none

end Record

/-! ## Choices -/

/-- Reads the name of a choice and what it carries. -/
def choice? : Json → Option (String × Option Json)
  | str name => some (name, none)
  | obj [(name, value)] => some (name, some value)
  | _ => none

/-- Reads a choice that carries nothing, by its name. -/
def named? {α : Type} (ofName : String → Option α) (value : Json) : Option α :=
  match choice? value with
  | some (name, none) | some (name, some null) => ofName name
  | _ => none

/-- Finds the value with a given name. -/
def findNamed {α : Type} (all : List α) (text : α → String) (name : String) : Option α :=
  all.find? (text · = name)

/-- Writes a choice that carries data. -/
def tagged (name : String) (value : Json) : Json := obj [(name, value)]

end Json

end PeerTaint
