import PeerTaint.Build.Expand
import PeerTaint.Inputs.Sets

/-!
What is added to an expanded graph: single edges, the sources of input, and the bodies of routines
in place of calls to them.
-/

namespace PeerTaint

namespace BuildContext

variable {m : Type → Type} [Monad m] [MonadLiftT Build m] [Journal m]

/-- Joins the nodes of two values. The answer is whether the edge is new. -/
def connectValues (c : BuildContext) (p : Program) (a b : Value) (kind : EdgeKind) : m Bool := do
  let src ← c.valueNode p a
  let dst ← c.valueNode p b
  match src, dst with
  | some src, some dst => Build.connect src dst kind
  | _, _ => return false

/-! ## Inputs -/

/-- Lets an input flow into the value it taints. The answer is whether the input got a new node. -/
def addInput (c : BuildContext) (r : InputRecord) : m Bool := do
  match ← c.valueNode r.program r.value with
  | none => return false
  | some target =>
    let new := ((← Build.graph).findInput r.value r.origin).isNone
    let n ← Build.attempt (·.inputNode r.value r.origin r.instruction)
    Build.flow n target
    return new

/-- Adds inputs in order. The answer is the number of new nodes. -/
def addRecords (c : BuildContext) : List InputRecord → m Nat
  | [] => return 0
  | r :: rs => do
    let new ← c.addInput r
    let rest ← c.addRecords rs
    return (if new then 1 else 0) + rest

/-- Adds all inputs. -/
def addInputs (c : BuildContext) (inputs : InputSets) : m Nat := c.addRecords inputs.toList

/-! ## Splicing -/

/-- Lets the arguments of a call flow into the parameters of the routine. -/
def linkParams (c : BuildContext) (p : Program) : List (Option NodeId × Value) → m Unit
  | [] => pure ()
  | (none, _) :: rest => c.linkParams p rest
  | (some actual, formal) :: rest => do
    match ← c.valueNode p formal with
    | some n => Build.flow actual n
    | none => pure ()
    c.linkParams p rest

/-- Lets the values that a routine returns flow to where the result of the call flowed. -/
def linkReturned (c : BuildContext) (p : Program) (users : List NodeId) : List Value → m Unit
  | [] => pure ()
  | v :: vs => do
    match ← c.valueNode p v with
    | some n => (users.forM (Build.flow n) : Build Unit)
    | none => pure ()
    c.linkReturned p users vs

/-- Removes a node. Operations that were visited with it are then visited without a node. -/
def retire (n : NodeId) : Build Unit := do
  discard (Build.attempt (·.removeNode n))
  modify fun s =>
    { s with visited := s.visited.mapValues fun m => if m = some n then none else m }

/-- Replaces a call by the routine it calls. -/
def spliceCall (c : BuildContext) (n : NodeId) (callee : Routine) : m Unit := do
  let g ← Build.graph
  let node ← Build.attempt fun g => (·, g) <$> g.getNode n
  match node.kind with
  | .call info =>
    let users := g.successors n
    c.linkParams callee.program (info.args.zip callee.params)
    c.linkReturned callee.program users callee.returned
    retire n
  | _ => (throw (.graph (.notACall n)) : Build Unit)

/-- The calls whose target is a routine of the same program, with that routine. -/
def knownCalls (c : BuildContext) (g : Graph) : List (NodeId × Routine) :=
  g.nodes.filterMap fun node =>
    match node.kind with
    | .call info =>
      (info.target.bind (c.programs.routine? · node.program)).map fun r => (node.id, r)
    | _ => none

/-- Splices every call whose target is a routine of the same program. The answer is their number. -/
def spliceKnownCalls (c : BuildContext) : m Nat := do
  let calls := c.knownCalls (← Build.graph)
  calls.forM fun (n, r) => c.spliceCall n r
  return calls.length

end BuildContext

end PeerTaint
