import PeerTaint.Inputs.Sets
import PeerTaint.Program.Pair

/-!
Finding the inputs of the programs.

Input enters through the command line of an entry point, through the first parameter of a receive
callback, and through the values that a matched call taints. Values of the other program are left
out, and a message post only counts for the configured buffer.
-/

namespace PeerTaint

/-- What is needed to find inputs. -/
structure InputClassifier where
  matcher : PrimitiveMatcher
  receiveCallback : Pattern
  config : InputConfig

namespace InputClassifier

/-- A classifier with a given matcher. -/
def withMatcher (matcher : PrimitiveMatcher) (naming : Naming) (config : InputConfig) :
    Except ConfigError InputClassifier := do
  return ⟨matcher, (← naming.compile).receiveCallback, config⟩

/-- The classifier of a configuration. -/
def ofConfig (naming : Naming) (config : InputConfig) : Except ConfigError InputClassifier := do
  let compiled ← naming.compile
  withMatcher (standardMatcher naming compiled config.networkTag) naming config

/-- The result of a call, or all arguments of a call without one. -/
def wholeCall (op : Operation) : List Value :=
  match op.result with
  | some v => [v]
  | none => op.operands

/-- The values of a call that an operand rule taints. A position without an argument means the whole
call. -/
def taintedValues (m : ProgramPair) (op : Operation) : TaintedOperands → List Value
  | .result => op.result.toList
  | .arg i =>
    match op.operands[i]? with
    | some v => [v]
    | none => wholeCall op
  | .argsFrom i => op.operands.drop i
  | .pointerArgs => op.operands.filter m.isPointer
  | .wholeCall => wholeCall op

/-- Whether a value stands for the configured message buffer. -/
def isMessageBuffer (c : InputClassifier) (m : ProgramPair) (v : Value) : Bool :=
  (m.info? v).any fun info => info.storageName = c.config.messagePostBuffer

/-- The record of the command line, if the routine starts a program. -/
def commandLine (c : InputClassifier) (r : Routine) : List InputRecord :=
  if r.isEntryPoint || c.config.entryPoints.contains r.name then
    (r.params[c.config.argvIndex]?).toList.map fun v => .ofValue v false r.name .commandLine
  else []

/-- The record of the payload, if the routine is a receive callback. -/
def callbackPayload (c : InputClassifier) (m : ProgramPair) (r : Routine) : List InputRecord :=
  if c.receiveCallback.occursIn r.name then
    (r.params.head?.filter m.isPointer).toList.map fun v =>
      .ofValue v true r.name .receiveCallback
  else []

/-- The records of one operation of a program. -/
def ofOperation (c : InputClassifier) (m : ProgramPair) (p : Program) (op : Operation) :
    List InputRecord :=
  match op.callee with
  | none => []
  | some callee =>
    match c.matcher p callee with
    | none => []
    | some hit =>
      let kept := (taintedValues m op hit.tainted).filter fun v =>
        decide (v.program = p) && (decide (hit.kind ≠ .messagePost) || c.isMessageBuffer m v)
      kept.map fun v => .ofValue v hit.isNetwork callee hit.kind

/-- The records of a routine. -/
def ofRoutine (c : InputClassifier) (m : ProgramPair) (r : Routine) : List InputRecord :=
  c.commandLine r ++ c.callbackPayload m r ++ r.operations.flatMap (c.ofOperation m r.program)

/-- The inputs of one program. -/
def classify (c : InputClassifier) (m : ProgramPair) (p : Program) : InputSets :=
  InputSets.empty.insertAll ((m.routines.filter (·.program = p)).flatMap (c.ofRoutine m))

/-- The inputs of both programs. -/
def classifyAll (c : InputClassifier) (m : ProgramPair) : InputSets :=
  Program.all.foldl (fun s p => s.extend (c.classify m p)) .empty

end InputClassifier

end PeerTaint
