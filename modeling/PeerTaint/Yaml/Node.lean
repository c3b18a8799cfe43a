import PeerTaint.Yaml.Token

/-!
YAML documents.

A document is a tree of scalars, sequences and mappings. In place of a node a reference may stand to
one with an anchor. It refers by number: an anchor gets as its number how many names of anchors were
known before it, and a reference means the number that the name has at that point. An anchor whose
name was known before gets a number that another one may get again; of several anchors with one
number the last one counts, wherever the reference stands.
-/

namespace PeerTaint

namespace Yaml

/-- A node of a document. -/
inductive Node where
  | scalar (text : String) (style : Style) (tag : Option String)
  | seq (items : List Node)
  | map (entries : List (Node × Node))
  | reference (number : Nat)

/-- The node of a place where nothing stands. -/
def Node.empty : Node := .scalar "" .plain none

/-! ## Anchors -/

/-- The anchors of a document. -/
structure Anchors where
  /-- The numbers of the names, the latest first. -/
  numbers : List (String × Nat) := []
  /-- How many names are known. -/
  known : Nat := 0
  /-- How many anchors there are. -/
  count : Nat := 0
  /-- Which anchor has a number, the latest first. -/
  holders : List (Nat × Nat) := []
  /-- The nodes of the anchors. -/
  nodes : List (Nat × Node) := []

namespace Anchors

/-- Declares an anchor. Its node is not known yet. -/
def declare (a : Anchors) (name : String) : Anchors :=
  { a with
    numbers := (name, a.known) :: a.numbers
    known := if (a.numbers.lookup name).isSome then a.known else a.known + 1
    count := a.count + 1
    holders := (a.known, a.count) :: a.holders }

/-- Gives an anchor its node. -/
def assign (a : Anchors) (anchor : Nat) (node : Node) : Anchors :=
  { a with nodes := (anchor, node) :: a.nodes }

/-- The node with a number. -/
def node? (a : Anchors) (number : Nat) : Option Node :=
  (a.holders.lookup number).bind fun anchor => a.nodes.lookup anchor

end Anchors

/-- A document. -/
structure Document where
  root : Node
  anchors : Anchors

/-! ## Reading tokens -/

/-- The tokens that are left, the anchors seen so far, and the meanings of tag handles. -/
structure ReadState where
  tokens : List Token
  anchors : Anchors := {}
  handles : List (String × String) := []

/-- A step in reading nodes. -/
abbrev Reader := StateT ReadState Option

namespace Reader

/-- The next token. -/
def peek : Reader (Option Token) := do return (← get).tokens.head?

/-- Passes a token. -/
def skip : Reader Unit := modify fun s => { s with tokens := s.tokens.tail }

/-- Passes a token if it is next, and says whether it was. -/
def accept (t : Token) : Reader Bool := do
  if (← peek) = some t then
    skip
    return true
  else return false

/-- Passes a token, which has to be next. -/
def expect (t : Token) : Reader Unit := do
  unless ← accept t do failure

/-! ## Properties -/

/-- What stands in front of a node. -/
structure Properties where
  anchor : Option String := none
  tag : Option String := none

/-- The tag that a handle and a suffix stand for. -/
def resolveTag (handle suffix : String) : Reader String := do
  if handle = "" then return suffix
  else
    match (← get).handles.find? (·.1 = handle) with
    | some (_, meaning) => return meaning ++ suffix
    | none => failure

/-- Reads an anchor, if there is one. -/
def anchor? : Reader (Option String) := do
  match ← peek with
  | some (.anchor name) =>
    skip
    return some name
  | _ => return none

/-- Reads a tag, if there is one. -/
def tag? : Reader (Option String) := do
  match ← peek with
  | some (.tag handle suffix) =>
    skip
    return some (← resolveTag handle suffix)
  | _ => return none

/-- Reads an anchor and a tag, in either order. -/
def properties : Reader Properties := do
  match ← anchor? with
  | some name => return ⟨some name, ← tag?⟩
  | none =>
    match ← tag? with
    | some tag => return ⟨← anchor?, some tag⟩
    | none => return {}

/-- Reads a node after its properties, and lets its anchor stand for it. -/
def anchored (p : Properties) (content : Reader Node) : Reader Node := do
  match p.anchor with
  | none => content
  | some name =>
    let anchor := (← get).anchors.count
    modify fun s => { s with anchors := s.anchors.declare name }
    let node ← content
    modify fun s => { s with anchors := s.anchors.assign anchor node }
    return node

/-! ## Nodes -/

/-- Reads a node, unless one of some tokens shows that nothing stands here. -/
def orEmpty (stops : List Token) (node : Reader Node) : Reader Node := do
  match ← peek with
  | some t => if stops.contains t then return .empty else node
  | none => node

/-- Reads the value of a mapping's entry, if there is one. -/
def valueOrEmpty (stops : List Token) (node : Reader Node) : Reader Node := do
  if ← accept .value then orEmpty stops node else return .empty

mutual

/-- Reads a node. Block collections can stand in block context, and after a key also a sequence that
is not indented. -/
def node : Nat → Bool → Bool → Reader Node
  | 0, _, _ => failure
  | fuel + 1, block, afterKey => do
    match ← peek with
    | some (.reference name) =>
      skip
      match (← get).anchors.numbers.lookup name with
      | some number => return .reference number
      | none => failure
    | _ =>
      let p ← properties
      anchored p (content fuel block afterKey p)

/-- Reads a node after its properties. The tag `!` says nothing about a scalar. -/
def content : Nat → Bool → Bool → Properties → Reader Node
  | 0, _, _, _ => failure
  | fuel + 1, block, afterKey, p => do
    match ← peek with
    | some (.scalar text style) =>
      skip
      return .scalar text style (p.tag.filter (· ≠ "!"))
    | some .flowSequenceStart =>
      skip
      return .seq (← flowItems fuel true)
    | some .flowMappingStart =>
      skip
      return .map (← flowEntries fuel true)
    | some .blockEntry => if afterKey then return .seq (← plainItems fuel) else lone p
    | some .blockSequenceStart =>
      if block then
        skip
        return .seq (← blockItems fuel)
      else lone p
    | some .blockMappingStart =>
      if block then
        skip
        return .map (← blockEntries fuel)
      else lone p
    | _ => lone p

/-- The node of properties that stand alone. -/
def lone (p : Properties) : Reader Node :=
  if p.anchor.isSome || p.tag.isSome then return .scalar "" .plain p.tag else failure

/-- Reads the items of an indented sequence. -/
def blockItems : Nat → Reader (List Node)
  | 0 => failure
  | fuel + 1 => do
    if ← accept .blockEntry then
      let item ← orEmpty [.blockEntry, .blockEnd] (node fuel true false)
      return item :: (← blockItems fuel)
    else
      expect .blockEnd
      return []

/-- Reads the items of a sequence that stands at the column of its key. -/
def plainItems : Nat → Reader (List Node)
  | 0 => failure
  | fuel + 1 => do
    if ← accept .blockEntry then
      let item ← orEmpty [.blockEntry, .key, .value, .blockEnd] (node fuel true false)
      return item :: (← plainItems fuel)
    else return []

/-- Reads the entries of an indented mapping. -/
def blockEntries : Nat → Reader (List (Node × Node))
  | 0 => failure
  | fuel + 1 => do
    if ← accept .key then
      let stops := [.key, .value, .blockEnd]
      let key ← orEmpty stops (node fuel true true)
      let value ← valueOrEmpty stops (node fuel true true)
      return (key, value) :: (← blockEntries fuel)
    else
      expect .blockEnd
      return []

/-- Reads the items of a flow sequence. An item may be a single entry of a mapping. -/
def flowItems : Nat → Bool → Reader (List Node)
  | 0, _ => failure
  | fuel + 1, first => do
    if ← accept .flowSequenceEnd then return []
    unless first do expect .flowEntry
    if ← accept .flowSequenceEnd then return []
    let item ←
      if ← accept .key then
        let key ← orEmpty [.value, .flowEntry, .flowSequenceEnd] (node fuel false false)
        let value ← valueOrEmpty [.flowEntry, .flowSequenceEnd] (node fuel false false)
        pure (.map [(key, value)])
      else node fuel false false
    return item :: (← flowItems fuel false)

/-- Reads the entries of a flow mapping. -/
def flowEntries : Nat → Bool → Reader (List (Node × Node))
  | 0, _ => failure
  | fuel + 1, first => do
    if ← accept .flowMappingEnd then return []
    unless first do expect .flowEntry
    if ← accept .flowMappingEnd then return []
    let entry ←
      if ← accept .key then
        let key ← orEmpty [.value, .flowEntry, .flowMappingEnd] (node fuel false false)
        let value ← valueOrEmpty [.flowEntry, .flowMappingEnd] (node fuel false false)
        pure (key, value)
      else
        pure (← node fuel false false, .empty)
    return entry :: (← flowEntries fuel false)

end

/-! ## Documents -/

/-- Notes a directive: a version, of which there may be one, or a tag handle. -/
def directives : Nat → Bool → Reader Bool
  | 0, _ => failure
  | fuel + 1, versionSeen => do
    match ← peek with
    | some (.version major minor) =>
      if versionSeen || major ≠ 1 || (minor ≠ 1 && minor ≠ 2) then failure
      skip
      directives fuel true
    | some (.handle name meaning) =>
      if (← get).handles.any (·.1 = name) then failure
      skip
      modify fun s => { s with handles := s.handles ++ [(name, meaning)] }
      discard (directives fuel versionSeen)
      return true
    | _ => return versionSeen

/-- The tag handles that need no declaration. -/
def standardHandles : List (String × String) := [("!", "!"), ("!!", "tag:yaml.org,2002:")]

/-- Passes any number of document ends. -/
def documentEnds : Nat → Reader Unit
  | 0 => pure ()
  | fuel + 1 => do if ← accept .documentEnd then documentEnds fuel

/-- Whether nothing stands between a document's start and its end. -/
def documentIsEmpty : Option Token → Bool
  | none | some .documentStart | some .documentEnd | some (.version ..) | some (.handle ..) => true
  | _ => false

/-- Reads the only document of a text. -/
def document (fuel : Nat) : Reader Node := do
  if (← peek).isNone then return .empty
  let declared ← directives fuel false
  modify fun s => { s with handles := s.handles ++ standardHandles }
  let root ←
    if ← accept .documentStart then
      if documentIsEmpty (← peek) then pure .empty else node fuel true false
    else if declared then failure
    else node fuel true false
  documentEnds fuel
  if (← peek).isSome then failure
  return root

end Reader

/-- Reads a text that holds at most one document. -/
def read? (text : String) : Option Document := do
  let tokens ← tokens? text
  let (root, s) ← (Reader.document (2 * tokens.length + 4)).run { tokens := tokens }
  return { root, anchors := s.anchors }

end Yaml

end PeerTaint
