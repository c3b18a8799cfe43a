import PeerTaint.Bounds
import PeerTaint.Text.Decimal
import PeerTaint.Yaml.Node

/-!
What plain scalars stand for.

A plain scalar can stand for nothing, a truth value or a number; other scalars are texts, except
that a literal block with the tag of truth values or numbers is read like a plain scalar. A number
may have a sign and be written in base two, eight, ten or sixteen, and in base ten it does not start
with a needless zero.
-/

namespace PeerTaint

namespace Yaml

/-- Spellings of nothing. -/
def isNullText (s : String) : Bool := s = "null" || s = "Null" || s = "NULL" || s = "~"

/-- The truth value that a text stands for. -/
def boolOfText? (s : String) : Option Bool :=
  if s = "true" ∨ s = "True" ∨ s = "TRUE" then some true
  else if s = "false" ∨ s = "False" ∨ s = "FALSE" then some false
  else none

/-! ## Whole numbers -/

/-- Reads digits of a base up to sixteen. -/
def natOfDigits? (base : Nat) (cs : List Char) : Option Nat :=
  if cs.isEmpty then none
  else
    cs.foldl (fun n? c => do
      let n ← n?
      let d ← hexValue? c
      if d < base then some (n * base + d) else none) (some 0)

/-- The base that the first characters of a number ask for, and the digits after them. -/
def baseAndDigits : List Char → Nat × List Char
  | '0' :: 'x' :: cs => (16, cs)
  | '0' :: 'o' :: cs => (8, cs)
  | '0' :: 'b' :: cs => (2, cs)
  | cs => (10, cs)

/-- Whether a text has digits after a needless zero, and nothing else. -/
def hasNeedlessZero : List Char → Bool
  | '0' :: c :: cs => (c :: cs).all Decimal.isDigit
  | _ => false

/-- Reads a number without sign. -/
def unsigned? (cs : List Char) : Option Nat :=
  let (base, digits) := baseAndDigits cs
  if hasNeedlessZero cs then none else natOfDigits? base digits

/-- The characters after a plus sign, if there is one. -/
def withoutPlus : List Char → List Char
  | '+' :: cs => cs
  | cs => cs

/-- Reads a number that is not negative. -/
def natOfText? (s : String) : Option Nat := unsigned? (withoutPlus s.toList)

/-! ## Numbers with a fraction -/

/-- The digits of a number in scientific form: the digits without the point, and how far the point
has to move to the left. -/
structure Scientific where
  digits : List Char
  places : Int

/-- Reads an exponent. -/
def exponent? : List Char → Option Int
  | [] => some 0
  | c :: cs =>
    if c = 'e' ∨ c = 'E' then
      let (negative, digits) := match cs with
        | '-' :: ds => (true, ds)
        | '+' :: ds => (false, ds)
        | ds => (false, ds)
      if digits.isEmpty || !digits.all Decimal.isDigit then none
      else
        let n : Int := Decimal.value digits
        some (if negative then -n else n)
    else none

/-- Reads a number in scientific form. Digits stand in front of the point or after it. -/
def scientific? (cs : List Char) : Option Scientific :=
  let whole := cs.takeWhile Decimal.isDigit
  let rest := cs.dropWhile Decimal.isDigit
  let (fraction, rest) := match rest with
    | '.' :: rest => (rest.takeWhile Decimal.isDigit, rest.dropWhile Decimal.isDigit)
    | rest => ([], rest)
  if whole.isEmpty && fraction.isEmpty then none
  else (exponent? rest).map fun e => ⟨whole ++ fraction, fraction.length - e⟩

/-- The numbers from here on are too large for double precision. -/
def doubleLimit : Nat := Nat.pow 2 1024 - Nat.pow 2 970

/-- Whether a number fits into double precision. Numbers below one and those with a large exponent
are told by the number of their digits alone. -/
def Scientific.isFinite (s : Scientific) : Bool :=
  let n := Decimal.value s.digits
  if n = 0 then true
  else if (s.digits.length : Int) ≤ s.places then true
  else if 0 ≤ s.places then n < doubleLimit * Nat.pow 10 s.places.toNat
  else if 400 < -s.places then false
  else n * Nat.pow 10 (-s.places).toNat < doubleLimit

/-- The characters after a sign, if there is one. -/
def withoutSign : List Char → List Char
  | '+' :: cs | '-' :: cs => cs
  | cs => cs

/-- Whether a text is a number in decimal or scientific form, or stands for infinity or for no
number. -/
def isFloatText (s : String) : Bool :=
  [".inf", ".Inf", ".INF", "+.inf", "+.Inf", "+.INF", "-.inf", "-.Inf", "-.INF", ".nan", ".NaN",
    ".NAN"].contains s ||
    (scientific? (withoutSign s.toList)).any (·.isFinite)

/-- Whether a text is a whole number, of at most 128 bits where it is not written in base ten. -/
def isIntegerText (s : String) : Bool :=
  match s.toList with
  | '-' :: cs => (unsigned? cs).any fun n => decide (2 * n ≤ bound128)
  | cs => (unsigned? (withoutPlus cs)).any fun n => decide (n < bound128)

/-- Whether a plain scalar with this text could be taken for something else than a text. -/
def isAmbiguous (s : String) : Bool :=
  s = "" || isNullText s || (boolOfText? s).isSome || isIntegerText s || isFloatText s ||
    hasNeedlessZero (withoutSign s.toList)

/-! ## Reading values -/

/-- Reading a value from a node of a document with anchors. -/
abbrev Decode := ReaderT Anchors Option

namespace Node

/-- The tag of nothing. -/
def nullTag : String := "tag:yaml.org,2002:null"

/-- The tag of truth values. -/
def boolTag : String := "tag:yaml.org,2002:bool"

/-- The tag of numbers. -/
def intTag : String := "tag:yaml.org,2002:int"

/-- The node itself, or the one that it refers to. -/
def target : Node → Decode Node
  | reference number => do (← read).node? number
  | n => return n

/-- Reads a text: any scalar. -/
def text? (n : Node) : Decode String := do
  match ← n.target with
  | scalar text _ _ => return text
  | _ => failure

/-- Reads the text of a plain scalar, or of a literal block with a given tag. -/
def word? (wanted : String) (n : Node) : Decode String := do
  match ← n.target with
  | scalar text .plain _ => return text
  | scalar text .literal tag => if tag = some wanted then return text else failure
  | _ => failure

/-- Reads a truth value. -/
def bool? (n : Node) : Decode Bool := do boolOfText? (← n.word? boolTag)

/-- Reads a natural number below a bound. -/
def below? (bound : Nat) (n : Node) : Decode Nat := do
  (natOfText? (← n.word? intTag)).filter (· < bound)

/-- Reads a sequence. Where nothing stands the sequence is empty. -/
def list? {α : Type} (item : Node → Decode α) (n : Node) : Decode (List α) := do
  match ← n.target with
  | seq items => items.mapM item
  | scalar "" .plain _ => return []
  | _ => failure

/-- Reads a value that may be absent. -/
def option? {α : Type} (item : Node → Decode α) (n : Node) : Decode (Option α) := do
  match ← n.target with
  | scalar text .plain none =>
    if text = "" || isNullText text then return none else some <$> item n
  | scalar text .plain (some tag) =>
    if tag = nullTag then if isNullText text then return none else failure else some <$> item n
  | _ => some <$> item n

/-- Reads the fields of a mapping with given names. Where nothing stands there are no fields. No
field may be given twice. -/
def fields? (names : List String) (n : Node) : Decode (List (String × Node)) := do
  match ← n.target with
  | map entries =>
    let fields ← entries.mapM fun (key, value) => do return (← key.text?, value)
    let keys := fields.map (·.1)
    if keys.all names.contains && decide keys.Nodup then return fields else failure
  | scalar "" .plain _ => return []
  | _ => failure

end Node

/-- Reads a field that has to be given. -/
def required {α : Type} (fields : List (String × Node)) (name : String) (item : Node → Decode α) :
    Decode α :=
  match fields.lookup name with
  | some n => item n
  | none => failure

/-- Reads a field with a value for when it is not given. -/
def withDefault {α : Type} (fields : List (String × Node)) (name : String) (item : Node → Decode α)
    (default : α) : Decode α :=
  match fields.lookup name with
  | some n => item n
  | none => return default

/-- Reads a field that may be absent. -/
def optional {α : Type} (fields : List (String × Node)) (name : String) (item : Node → Decode α) :
    Decode (Option α) :=
  match fields.lookup name with
  | some n => n.option? item
  | none => return none

end Yaml

end PeerTaint
