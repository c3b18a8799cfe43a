import PeerTaint.Build.Basic

/-!
Expanding operations into nodes.

An operation gets a node, and each of its operands flows into it. An operand resolves to the node it
already has; else, for a pointer with an alias class, to the node of that class; else to the node of
the operation that defines it; else to a node of its own. A store has no node: it resolves to its
destination, and the stored value flows there. Calls that send or receive become network nodes,
which are linked at once with the opposite calls of the other program at common levels.

Resolving an operand expands the operation that defines it, which resolves operands in turn. The
steps here take the resolver as an argument, and `valueNode` closes the circle with a bound on the
nesting.
-/

namespace PeerTaint

/-- Links a network node with the opposite network nodes of the other program whose levels meet its
own. A node without levels is left alone. -/
def Graph.correlate (g : Graph) (n : NodeId) (p : Program) (d : Direction) (levels : LevelSet) :
    Graph :=
  if levels.isEmpty then g
  else
    let g := g.modifyNode n fun node => { node with levels := levels }
    (g.netNodes p.peer d.opposite).foldl
      (fun g other =>
        match g.node? other with
        | none => g
        | some node =>
          match d with
          | .send => if levelsCorrelate levels node.levels then (g.connect n other .data).2 else g
          | .recv => if levelsCorrelate node.levels levels then (g.connect other n .data).2 else g)
      g

/-- Finds the node of a value in a program. -/
abbrev Resolver (m : Type → Type := Build) := Program → Value → m (Option NodeId)

namespace BuildContext

variable {m : Type → Type} [Monad m] [MonadLiftT Build m]

/-- The alias class of a value: only pointers that are not constants have one. -/
def aliasKey? (c : BuildContext) (v : Value) : Option AliasKey :=
  match c.programs.info? v with
  | some info => if info.isPointer && !info.kind.isConstant then c.oracle.key? v else none
  | none => none

/-- The alias class of the result of an operation. -/
def pointerResult? (c : BuildContext) (op : Operation) : Option (Value × AliasKey) :=
  op.result.bind fun v => (c.aliasKey? v).map fun k => (v, k)

/-- The label of the node of an alias class, when a value is the first to need it. -/
def memLabel (c : BuildContext) (v : Value) (k : AliasKey) : String :=
  match c.programs.info? v with
  | some info => "mem:" ++ info.storageName
  | none => "mem:" ++ aliasText k

/-- The label of the node of an operation: the callee, or the opcode with the name of the result. -/
def operationLabel (c : BuildContext) (op : Operation) : String :=
  match op.callee with
  | some callee => callee
  | none =>
    match op.result.bind c.programs.info? with
    | some info => op.opcode.text ++ ":" ++ info.name
    | none => op.opcode.text

/-- The node of a value's alias class. The class has to list the value. -/
def memNodeFor (c : BuildContext) (p : Program) (v : Value) (k : AliasKey) : Build NodeId := do
  unless ((c.oracle.members? k).any (·.contains v)) do throw (.inconsistentOracle v k)
  let n ← Build.attempt (·.memNode p k (c.memLabel v k))
  Build.update (·.bindMemValue v n)
  return n

/-! ## Expanding one operation -/

/-- Lets an operand flow into a node. The operand of a load is an access to memory. -/
def linkOperand (resolve : Resolver m) (p : Program) (n : NodeId) (isRead : Bool) (v : Value) :
    m Unit := do
  match ← resolve p v with
  | none => pure ()
  | some src =>
    if isRead && (← Build.isMem src) then Build.update (·.recordAccess src)
    Build.flow src n

/-- Expands a store: the stored value flows into the destination. -/
def addStore (resolve : Resolver m) (p : Program) (op : Operation) : m (Option NodeId) := do
  match op.operands with
  | value :: destination :: _ =>
    match ← resolve p destination with
    | none =>
      Build.remember op none
      return none
    | some dst =>
      Build.remember op (some dst)
      Build.update (·.recordAccess dst)
      Build.locate dst op.location
      linkOperand resolve p dst false value
      return some dst
  | _ =>
    Build.remember op none
    return none

/-- Links an operation with its operands. -/
def linkOperands (resolve : Resolver m) (p : Program) (op : Operation) (n : NodeId) : m Unit :=
  match op.operands with
  | [] => pure ()
  | v :: vs => do
    linkOperand resolve p n (op.opcode = .load) v
    vs.forM (linkOperand resolve p n false)

/-- The node of an operation that is neither a store nor a call: the node of its result's alias
class, or a new one. -/
def operationNode (c : BuildContext) (p : Program) (op : Operation) : Build NodeId := do
  match c.pointerResult? op with
  | some (v, k) => c.memNodeFor p v k
  | none =>
    let n ← Build.attempt (·.addNode p (.op op.opcode op.result) (c.operationLabel op))
    match op.result with
    | some v => Build.update (·.bindValue v n)
    | none => pure ()
    return n

/-- Expands an operation that is neither a store nor a call. -/
def addPlain (c : BuildContext) (resolve : Resolver m) (p : Program) (op : Operation) :
    m NodeId := do
  let n ← c.operationNode p op
  Build.remember op (some n)
  Build.locate n op.location
  linkOperands resolve p op n
  return n

/-- What a call is, by its direction on the network. -/
def callKind (info : CallInfo) : Option Direction → NodeKind
  | some .send => .netWrite info
  | some .recv => .netRead info
  | none => .call info

/-- Lets an argument flow into a call; received data flows into the memory it is received in. -/
def linkArgument (resolve : Resolver m) (p : Program) (n : NodeId) (d : Option Direction) (v : Value) :
    m (Option NodeId) := do
  match ← resolve p v with
  | none => return none
  | some arg =>
    if d = some .recv && (← Build.isMem arg) then
      Build.flow n arg
      Build.update (·.recordAccess arg)
      Build.update (·.modifyNode arg fun node => { node with netDependent := true })
    else
      Build.flow arg n
    return some arg

/-- The new node of a call. A result without an alias class resolves to it. -/
def callNode (c : BuildContext) (p : Program) (op : Operation) (d : Option Direction) :
    Build NodeId := do
  let info : CallInfo := { target := op.callee, args := [], result := op.result }
  let n ← Build.attempt (·.addNode p (callKind info d) (c.operationLabel op))
  Build.locate n op.location
  match op.result, c.pointerResult? op with
  | some v, none => Build.update (·.bindValue v n)
  | _, _ => pure ()
  return n

/-- The levels of a call on the network. -/
def callLevels (c : BuildContext) (p : Program) (op : Operation) (d : Direction) : LevelSet :=
  match op.location with
  | some loc => c.levels p d loc
  | none => .empty

/-- The direction of a call on the network. -/
def callDirection? (c : BuildContext) (p : Program) (op : Operation) : Option Direction :=
  op.callee.bind (c.naming.direction? p)

/-- A network node of a call is linked with the opposite calls of the other program. -/
def linkedByLevel (c : BuildContext) (p : Program) (op : Operation) (n : NodeId) (d : Option Direction)
    (g : Graph) : Graph :=
  match d with
  | some d => g.correlate n p d (c.callLevels p op d)
  | none => g

/-- A call node whose arguments are known. -/
def withArgs (args : List (Option NodeId)) (d : Option Direction) (x : Node) : Node :=
  { x with
    kind := x.kind.mapCallInfo ({ · with args := args })
    netDependent := x.netDependent || d = some .recv }

/-- Links a call with its arguments. -/
def linkArguments (resolve : Resolver m) (p : Program) (op : Operation) (n : NodeId)
    (d : Option Direction) : m Unit := do
  let args ← op.operands.mapM (linkArgument resolve p n d)
  Build.update (·.modifyNode n (withArgs args d))

/-- Lets a call flow into the memory that its result points to. -/
def linkResult (c : BuildContext) (p : Program) (op : Operation) (n : NodeId) : Build Unit :=
  match c.pointerResult? op with
  | some (v, k) => do
    let mem ← c.memNodeFor p v k
    Build.flow n mem
  | none => pure ()

/-- Expands a call. -/
def addCall (c : BuildContext) (resolve : Resolver m) (p : Program) (op : Operation) :
    m NodeId := do
  let d := c.callDirection? p op
  let n ← c.callNode p op d
  Build.remember op (some n)
  Build.update (c.linkedByLevel p op n d)
  linkArguments resolve p op n d
  c.linkResult p op n
  return n

section Journal

variable [Journal m]

/-- Expands an operation, unless it was visited or its result has a node. Terminators count only
when control flow is wanted. -/
def expand (c : BuildContext) (resolve : Resolver m) (p : Program) (op : Operation) :
    m (Option NodeId) := do
  match ← Build.visited? op with
  | some n => return n
  | none =>
    match op.result.bind ((← Build.graph).findNode · p) with
    | some n =>
      Build.remember op (some n)
      return some n
    | none =>
      if op.opcode.isTerminator && !c.config.includeControlFlow then
        Build.remember op none
        return none
      else
        Journal.enter op
        match op.opcode with
        | .store => addStore resolve p op
        | .call => some <$> c.addCall resolve p op
        | _ => some <$> c.addPlain resolve p op

/-! ## Resolving values -/

/-- The node of a value, expanding at most `depth` operations inside each other. -/
def resolve (c : BuildContext) : Nat → Resolver m
  | 0, _, _ => (throw .endlessStore : Build (Option NodeId))
  | depth + 1, p, v => do
    if v.program ≠ p then return none
    match (← Build.graph).findNode v p with
    | some n => return some n
    | none =>
      match c.aliasKey? v with
      | some k => some <$> (c.memNodeFor p v k : m NodeId)
      | none =>
        match c.programs.definition? v with
        | some op =>
          let n ← c.expand (c.resolve depth) p op
          return ((← Build.graph).findNode v p).or n
        | none =>
          match c.programs.info? v with
          | some info =>
            let n ← Build.attempt (·.addNode p (.var v) info.name)
            Build.update (·.bindValue v n)
            return some n
          | none => return none

/-- How deep operations can stand inside each other. Within the operations that stand on top of each
other every one but a store is remembered, and a store that stands twice has another kind between.
-/
def nesting (c : BuildContext) : Nat :=
  let n := c.programs.operations.length + 1
  n * n + 1

/-- The node of a value of a program. There is none for values of the other program, and for values
about which nothing is known. -/
def valueNode (c : BuildContext) : Resolver m := c.resolve c.nesting

/-- Expands an operation of a program and, through its operands, everything it depends on. -/
def addOperation (c : BuildContext) (p : Program) (op : Operation) : m (Option NodeId) :=
  c.expand c.valueNode p op

/-- Expands operations in order. The answer is how many of them have a node. -/
def addOperations (c : BuildContext) (p : Program) : List Operation → m Nat
  | [] => return 0
  | op :: ops => do
    let n ← c.addOperation p op
    let rest ← c.addOperations p ops
    return (if n.isSome then 1 else 0) + rest

/-- Expands the operations of a routine. -/
def addRoutine (c : BuildContext) (r : Routine) : m Nat := c.addOperations r.program r.operations

/-- Expands routines in order. -/
def addRoutines (c : BuildContext) : List Routine → m Nat
  | [] => return 0
  | r :: rs => do
    let n ← c.addRoutine r
    let rest ← c.addRoutines rs
    return n + rest

/-- Expands all routines of both programs. -/
def buildAll (c : BuildContext) : m Nat := c.addRoutines c.programs.routines

end Journal

end BuildContext

end PeerTaint
