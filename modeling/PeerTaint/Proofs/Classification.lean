import PeerTaint.Proofs.Records

/-!
What is classified as input.

`Source` says, without any order, through what input comes into a value of a program: the command line of an
entry point, the payload of a receive callback, or a call that taints the value by its operand rule (`Taints`).
Classifying a program finds exactly these values. What it keeps of a value depends on the order of routines and
operations, but which values it finds does not.
-/

namespace PeerTaint

/-! ## Operand rules -/

/-- A call taints a value by an operand rule. A single argument that the call does not have stands for the whole
call, and the whole call for its result or else for all its arguments. -/
inductive Taints (m : ProgramPair) (op : Operation) : TaintedOperands → Value → Prop
  | result {v : Value} : op.result = some v → Taints m op .result v
  | arg {i : Nat} {v : Value} : op.operands[i]? = some v → Taints m op (.arg i) v
  | missing {i : Nat} {v : Value} : op.operands.length ≤ i → Taints m op .wholeCall v → Taints m op (.arg i) v
  | argsFrom {i j : Nat} {v : Value} : i ≤ j → op.operands[j]? = some v → Taints m op (.argsFrom i) v
  | pointerArg {v : Value} {info : ValueInfo} :
      v ∈ op.operands → m.info? v = some info → info.isPointer = true → Taints m op .pointerArgs v
  | wholeResult {v : Value} : op.result = some v → Taints m op .wholeCall v
  | wholeArgs {v : Value} : op.result = none → v ∈ op.operands → Taints m op .wholeCall v

theorem ProgramPair.isPointer_iff {m : ProgramPair} {v : Value} :
    m.isPointer v = true ↔ ∃ info, m.info? v = some info ∧ info.isPointer = true := by
  rw [isPointer, Option.any_eq_true]

namespace InputClassifier

variable {k : InputClassifier} {m m' : ProgramPair} {p q : Program} {f g : Routine} {op : Operation} {v : Value}
  {r : InputRecord} {scope : InputScope}

theorem taints_of_mem_wholeCall (hv : v ∈ wholeCall op) : Taints m op .wholeCall v := by
  unfold wholeCall at hv
  split at hv
  · next w h => exact .wholeResult (by rw [h, List.mem_singleton.1 hv])
  · next h => exact .wholeArgs h hv

theorem taints_of_mem {rule : TaintedOperands} (hv : v ∈ taintedValues m op rule) : Taints m op rule v := by
  cases rule with
  | result => exact .result (Option.mem_toList.1 hv)
  | arg i =>
    rw [taintedValues] at hv
    split at hv
    · next w h => exact .arg (by rw [h, List.mem_singleton.1 hv])
    · next h => exact .missing (List.getElem?_eq_none_iff.1 h) (taints_of_mem_wholeCall hv)
  | argsFrom i =>
    rw [taintedValues] at hv
    obtain ⟨j, hj⟩ := List.mem_iff_getElem?.1 hv
    rw [List.getElem?_drop] at hj
    exact .argsFrom (Nat.le_add_right i j) hj
  | pointerArgs =>
    obtain ⟨hv, pointer⟩ := List.mem_filter.1 hv
    obtain ⟨info, known, pointer⟩ := ProgramPair.isPointer_iff.1 pointer
    exact .pointerArg hv known pointer
  | wholeCall => exact taints_of_mem_wholeCall hv

theorem mem_of_taints {rule : TaintedOperands} (h : Taints m op rule v) : v ∈ taintedValues m op rule := by
  induction h with
  | result h => exact Option.mem_toList.2 h
  | arg h => simp [taintedValues, h]
  | missing long _ ih =>
    rw [taintedValues, List.getElem?_eq_none_iff.2 long]
    exact ih
  | @argsFrom i j v le h =>
    rw [taintedValues]
    refine List.mem_iff_getElem?.2 ⟨j - i, ?_⟩
    rw [List.getElem?_drop, Nat.add_sub_cancel' le, h]
  | pointerArg hv known pointer =>
    exact List.mem_filter.2 ⟨hv, ProgramPair.isPointer_iff.2 ⟨_, known, pointer⟩⟩
  | wholeResult h => simp [taintedValues, wholeCall, h]
  | wholeArgs h hv => simpa [taintedValues, wholeCall, h] using hv

/-! ## The records of a routine -/

theorem mem_commandLine_iff : r ∈ k.commandLine f ↔
    (f.isEntryPoint = true ∨ f.name ∈ k.config.entryPoints) ∧
      ∃ v, f.params[k.config.argvIndex]? = some v ∧ r = .ofValue v false f.name .commandLine := by
  have starts : (f.isEntryPoint || k.config.entryPoints.contains f.name) = true ↔
      f.isEntryPoint = true ∨ f.name ∈ k.config.entryPoints := by
    rw [Bool.or_eq_true, List.contains_iff_mem]
  rw [commandLine, ← starts]
  constructor
  · intro hr
    split at hr
    · next entry =>
      obtain ⟨v, hv, rfl⟩ := List.mem_map.1 hr
      exact ⟨entry, v, Option.mem_toList.1 hv, rfl⟩
    · cases hr
  · rintro ⟨entry, v, hv, rfl⟩
    rw [if_pos entry]
    exact List.mem_map.2 ⟨v, Option.mem_toList.2 hv, rfl⟩

theorem mem_callbackPayload_iff : r ∈ k.callbackPayload m f ↔
    k.receiveCallback.occursIn f.name = true ∧
      ∃ v info, f.params.head? = some v ∧ m.info? v = some info ∧ info.isPointer = true ∧
        r = .ofValue v true f.name .receiveCallback := by
  rw [callbackPayload]
  constructor
  · intro hr
    split at hr
    · next named =>
      obtain ⟨v, hv, rfl⟩ := List.mem_map.1 hr
      obtain ⟨first, pointer⟩ := Option.filter_eq_some_iff.1 (Option.mem_toList.1 hv)
      obtain ⟨info, known, pointer⟩ := ProgramPair.isPointer_iff.1 pointer
      exact ⟨named, v, info, first, known, pointer, rfl⟩
    · cases hr
  · rintro ⟨named, v, info, first, known, pointer, rfl⟩
    rw [if_pos named]
    have kept := Option.filter_eq_some_iff.2 ⟨first, ProgramPair.isPointer_iff.2 ⟨info, known, pointer⟩⟩
    exact List.mem_map.2 ⟨v, Option.mem_toList.2 kept, rfl⟩

/-- The value may be a payload of the kind: a message that is posted has to be in the configured buffer. -/
def Admits (config : InputConfig) (m : ProgramPair) (kind : PrimitiveKind) (v : Value) : Prop :=
  kind = .messagePost → ∃ info, m.info? v = some info ∧ info.storageName = config.messagePostBuffer

theorem admits_iff {kind : PrimitiveKind} :
    (decide (kind ≠ .messagePost) || k.isMessageBuffer m v) = true ↔ Admits k.config m kind v := by
  rw [Bool.or_eq_true, decide_eq_true_eq, isMessageBuffer, Option.any_eq_true, Admits, ne_eq, ← imp_iff_not_or]
  simp only [decide_eq_true_eq]

theorem callee_eq_some_iff {callee : String} :
    op.callee = some callee ↔ op.opcode = .call ∧ op.target = some callee := by
  unfold Operation.callee
  split <;> simp [*]

theorem mem_ofOperation_iff : r ∈ k.ofOperation m p op ↔
    ∃ callee hit v, op.callee = some callee ∧ k.matcher p callee = some hit ∧ Taints m op hit.tainted v ∧
      v.program = p ∧ Admits k.config m hit.kind v ∧ r = .ofValue v hit.isNetwork callee hit.kind := by
  unfold ofOperation
  constructor
  · intro hr
    split at hr
    · cases hr
    · next callee hc =>
      split at hr
      · cases hr
      · next hit hm =>
        obtain ⟨v, hv, rfl⟩ := List.mem_map.1 hr
        obtain ⟨tainted, kept⟩ := List.mem_filter.1 hv
        rw [Bool.and_eq_true, decide_eq_true_eq, admits_iff] at kept
        exact ⟨callee, hit, v, hc, hm, taints_of_mem tainted, kept.1, kept.2, rfl⟩
  · rintro ⟨callee, hit, v, hc, hm, taints, home, admits, rfl⟩
    rw [hc]
    dsimp only
    rw [hm]
    refine List.mem_map.2 ⟨v, List.mem_filter.2 ⟨mem_of_taints taints, ?_⟩, rfl⟩
    rw [Bool.and_eq_true, decide_eq_true_eq, admits_iff]
    exact ⟨home, admits⟩

theorem mem_ofRoutine_iff : r ∈ k.ofRoutine m f ↔
    r ∈ k.commandLine f ∨ r ∈ k.callbackPayload m f ∨ ∃ op ∈ f.operations, r ∈ k.ofOperation m f.program op := by
  rw [ofRoutine, List.mem_append, List.mem_append, List.mem_flatMap, or_assoc]

/-- A set has a value exactly when some routine of the program gives a record for it. -/
theorem contains_classify_iff : (k.classify m p).contains q scope v = true ↔
    ∃ f ∈ m.routines, f.program = p ∧ ∃ r ∈ k.ofRoutine m f, InputSets.files q scope v r = true := by
  rw [InputSets.contains, SortedMap.contains, classify, InputSets.Collected.empty.get?_insertAll, InputSets.get_empty,
    SortedMap.get?_empty, Option.none_or, List.find?_isSome]
  simp only [List.mem_flatMap, List.mem_filter, decide_eq_true_eq]
  constructor
  · rintro ⟨r, ⟨f, ⟨hf, hp⟩, hr⟩, filed⟩
    exact ⟨f, hf, hp, r, hr, filed⟩
  · rintro ⟨f, hf, hp, r, hr, filed⟩
    exact ⟨r, ⟨f, ⟨hf, hp⟩, hr⟩, filed⟩

end InputClassifier

/-! ## Sources -/

open InputClassifier (Admits)

/-- Input comes into a value of a program, from the network or not. -/
inductive Source (matcher : PrimitiveMatcher) (naming : Naming) (config : InputConfig) (m : ProgramPair)
    (p : Program) : Bool → Value → Prop
  /-- The parameter of an entry point that holds the command line. -/
  | commandLine {f : Routine} {v : Value} : f ∈ m.routines → f.program = p →
      f.isEntryPoint = true ∨ f.name ∈ config.entryPoints → f.params[config.argvIndex]? = some v →
      Source matcher naming config m p false v
  /-- The first parameter of a receive callback, if it is a pointer. -/
  | callback {f : Routine} {v : Value} {info : ValueInfo} {pattern : Pattern} : f ∈ m.routines → f.program = p →
      Pattern.ofText? naming.receiveCallback = some pattern → pattern.occursIn f.name = true →
      f.params.head? = some v → m.info? v = some info → info.isPointer = true →
      Source matcher naming config m p true v
  /-- A value of the program that a matched call taints. -/
  | call {f : Routine} {op : Operation} {callee : String} {hit : PrimitiveMatch} {v : Value} :
      f ∈ m.routines → f.program = p → op ∈ f.operations → op.opcode = .call → op.target = some callee →
      matcher p callee = some hit → Taints m op hit.tainted v → v.program = p → Admits config m hit.kind v →
      Source matcher naming config m p hit.isNetwork v

theorem Naming.compilePattern_eq_ok {which : PatternField} {text : String} {pattern : Pattern}
    (h : compilePattern which text = .ok pattern) : Pattern.ofText? text = some pattern := by
  unfold compilePattern at h
  split at h
  · next found => rw [found, Except.ok.inj h]
  · cases h

theorem Naming.compile_eq_ok {n : Naming} {compiled : CompiledNaming} (h : n.compile = .ok compiled) :
    Pattern.ofText? n.receiveCallback = some compiled.receiveCallback := by
  unfold compile at h
  obtain ⟨callback, read, h⟩ := exists_of_bind_eq_ok h
  obtain ⟨sensor, -, h⟩ := exists_of_bind_eq_ok h
  obtain ⟨post, -, h⟩ := exists_of_bind_eq_ok h
  cases h
  exact compilePattern_eq_ok read

namespace InputClassifier

variable {matcher : PrimitiveMatcher} {naming : Naming} {config : InputConfig} {k : InputClassifier}
  {m m' : ProgramPair} {p q : Program} {v : Value} {isNetwork : Bool} {scope : InputScope}

theorem withMatcher_eq_ok (made : withMatcher matcher naming config = .ok k) :
    k.matcher = matcher ∧ k.config = config ∧ Pattern.ofText? naming.receiveCallback = some k.receiveCallback := by
  unfold withMatcher at made
  obtain ⟨compiled, read, made⟩ := exists_of_bind_eq_ok made
  cases made
  exact ⟨rfl, rfl, Naming.compile_eq_ok read⟩

theorem exists_record_iff_source (made : withMatcher matcher naming config = .ok k) :
    (∃ f ∈ m.routines, f.program = p ∧ ∃ r ∈ k.ofRoutine m f, r.value = v ∧ r.isNetwork = isNetwork) ↔
      Source matcher naming config m p isNetwork v := by
  obtain ⟨rfl, rfl, compiled⟩ := withMatcher_eq_ok made
  constructor
  · rintro ⟨f, hf, hp, r, hr, rfl, rfl⟩
    rcases mem_ofRoutine_iff.1 hr with hr | hr | ⟨op, hop, hr⟩
    · obtain ⟨entry, v, hv, rfl⟩ := mem_commandLine_iff.1 hr
      exact .commandLine hf hp entry hv
    · obtain ⟨named, v, info, first, known, pointer, rfl⟩ := mem_callbackPayload_iff.1 hr
      exact .callback hf hp compiled named first known pointer
    · obtain ⟨callee, hit, v, hc, hm, taints, home, admits, rfl⟩ := mem_ofOperation_iff.1 hr
      obtain ⟨call, target⟩ := callee_eq_some_iff.1 hc
      rw [hp] at hm home
      exact .call hf hp hop call target hm taints home admits
  · intro source
    induction source with
    | @commandLine f v hf hp entry hv =>
      exact ⟨f, hf, hp, _, mem_ofRoutine_iff.2 (.inl (mem_commandLine_iff.2 ⟨entry, v, hv, rfl⟩)), rfl, rfl⟩
    | @callback f v info pattern hf hp reads named first known pointer =>
      cases compiled.symm.trans reads
      have hr := mem_callbackPayload_iff.2 ⟨named, v, info, first, known, pointer, rfl⟩
      exact ⟨f, hf, hp, _, mem_ofRoutine_iff.2 (.inr (.inl hr)), rfl, rfl⟩
    | @call f op callee hit v hf hp hop call target hm taints home admits =>
      have hc := callee_eq_some_iff.2 ⟨call, target⟩
      rw [← hp] at hm home
      have hr := mem_ofOperation_iff.2 ⟨callee, hit, v, hc, hm, taints, home, admits, rfl⟩
      exact ⟨f, hf, hp, _, mem_ofRoutine_iff.2 (.inr (.inr ⟨op, hop, hr⟩)), rfl, rfl⟩

end InputClassifier

/-! ## The order of routines and operations -/

/-- Two routines differ in the order of their operations only. The numbers of operations follow their order, so
these may differ too, and so may the blocks. -/
structure Routine.Rearranged (f g : Routine) : Prop where
  name : g.name = f.name
  program : g.program = f.program
  params : g.params = f.params
  isEntryPoint : g.isEntryPoint = f.isEntryPoint
  operations : (g.operations.map Operation.unnumbered).Perm (f.operations.map Operation.unnumbered)

instance (f g : Routine) : Decidable (f.Rearranged g) :=
  decidable_of_iff (g.name = f.name ∧ g.program = f.program ∧ g.params = f.params ∧
      g.isEntryPoint = f.isEntryPoint ∧
      (g.operations.map Operation.unnumbered).Perm (f.operations.map Operation.unnumbered))
    ⟨fun ⟨a, b, c, d, e⟩ => ⟨a, b, c, d, e⟩, fun ⟨a, b, c, d, e⟩ => ⟨a, b, c, d, e⟩⟩

/-- Two pairs of programs differ in the order of their routines and operations only. -/
structure ProgramPair.Rearranged (m m' : ProgramPair) : Prop where
  info : ∀ v, m'.info? v = m.info? v
  routines : ∃ pairs : List (Routine × Routine), m.routines.Perm (pairs.map (·.1)) ∧
    m'.routines.Perm (pairs.map (·.2)) ∧ ∀ e ∈ pairs, e.1.Rearranged e.2

namespace InputClassifier

variable {k : InputClassifier} {m m' : ProgramPair} {p q : Program} {f g : Routine} {v : Value} {r : InputRecord}
  {scope : InputScope}

theorem ofOperation_unnumbered (op : Operation) : k.ofOperation m p op.unnumbered = k.ofOperation m p op := rfl

section Info

variable (info : ∀ v, m'.info? v = m.info? v)
include info

theorem isPointer_congr : m'.isPointer = m.isPointer := by
  funext v
  rw [ProgramPair.isPointer, info, ProgramPair.isPointer]

theorem ofOperation_congr (op : Operation) : k.ofOperation m' p op = k.ofOperation m p op := by
  have tainted : taintedValues m' op = taintedValues m op := by
    funext rule
    cases rule <;> simp only [taintedValues, isPointer_congr info]
  have buffer : k.isMessageBuffer m' = k.isMessageBuffer m := by
    funext v
    rw [isMessageBuffer, info, isMessageBuffer]
  rw [ofOperation, tainted, buffer, ofOperation]

theorem ofRoutine_congr : k.ofRoutine m' f = k.ofRoutine m f := by
  have operations : k.ofOperation m' f.program = k.ofOperation m f.program := funext (ofOperation_congr info)
  rw [ofRoutine, callbackPayload, isPointer_congr info, operations, ofRoutine, callbackPayload]

end Info

theorem mem_ofRoutine_rearranged (h : f.Rearranged g) : r ∈ k.ofRoutine m g ↔ r ∈ k.ofRoutine m f := by
  have command : k.commandLine g = k.commandLine f := by
    rw [commandLine, h.name, h.isEntryPoint, h.params, commandLine]
  have payload : k.callbackPayload m g = k.callbackPayload m f := by
    rw [callbackPayload, h.name, h.params, callbackPayload]
  have unnumbered : ∀ ops : List Operation, (∃ op ∈ ops, r ∈ k.ofOperation m f.program op) ↔
      ∃ op ∈ ops.map Operation.unnumbered, r ∈ k.ofOperation m f.program op := by
    intro ops
    simp only [List.mem_map, exists_exists_and_eq_and, ofOperation_unnumbered]
  rw [mem_ofRoutine_iff, mem_ofRoutine_iff, command, payload, h.program, unnumbered, unnumbered f.operations]
  simp only [h.operations.mem_iff]

/-- Which values are found does not depend on the order. -/
theorem contains_classify_rearranged (h : m.Rearranged m') :
    (k.classify m' p).contains q scope v = (k.classify m p).contains q scope v := by
  obtain ⟨info, pairs, left, right, rearranged⟩ := h
  rw [Bool.eq_iff_iff, contains_classify_iff, contains_classify_iff]
  simp only [left.mem_iff, right.mem_iff, ofRoutine_congr info]
  constructor
  · rintro ⟨_, hg, hp, r, hr, filed⟩
    obtain ⟨e, he, rfl⟩ := List.mem_map.1 hg
    have same := rearranged e he
    exact ⟨e.1, List.mem_map_of_mem he, same.program ▸ hp, r, (mem_ofRoutine_rearranged same).1 hr, filed⟩
  · rintro ⟨_, hf, hp, r, hr, filed⟩
    obtain ⟨e, he, rfl⟩ := List.mem_map.1 hf
    have same := rearranged e he
    exact ⟨e.2, List.mem_map_of_mem he, same.program ▸ hp, r, (mem_ofRoutine_rearranged same).2 hr, filed⟩

/-! ## Classifying finds the sources -/

section Home

variable (home : ∀ f ∈ m.routines, ∀ v ∈ f.params, v.program = f.program)
include home

/-- Everything that is found is a value of the program. -/
theorem program_of_contains (h : (k.classify m p).contains q scope v = true) : q = p ∧ v.program = p := by
  obtain ⟨f, hf, rfl, r, hr, filed⟩ := contains_classify_iff.1 h
  obtain ⟨rfl, rfl, -⟩ := InputSets.files_iff.1 filed
  have own := program_of_mem_ofRoutine_home (home f hf) hr
  exact ⟨own, (program_of_mem_ofRoutine hr).symm.trans own⟩

theorem contains_classify_origin_iff (isNetwork : Bool) :
    (k.classify m p).contains p (if isNetwork then .network else .local) v = true ↔
      ∃ f ∈ m.routines, f.program = p ∧ ∃ r ∈ k.ofRoutine m f, r.value = v ∧ r.isNetwork = isNetwork := by
  have scopes : ∀ r : InputRecord, InputSets.files p (if isNetwork then .network else .local) v r = true ↔
      r.program = p ∧ r.value = v ∧ r.isNetwork = isNetwork := by
    intro r
    rw [InputSets.files_iff, InputSets.scopeOf]
    cases isNetwork <;> cases r.isNetwork <;> simp
  rw [contains_classify_iff]
  simp only [scopes]
  constructor
  · rintro ⟨f, hf, hp, r, hr, -, found⟩
    exact ⟨f, hf, hp, r, hr, found⟩
  · rintro ⟨f, hf, hp, r, hr, found⟩
    exact ⟨f, hf, hp, r, hr, (program_of_mem_ofRoutine_home (home f hf) hr).trans hp, found⟩

end Home

/-- If parameters belong to the programs of their routines, classifying a program finds exactly the values that
input comes into: in the network set those of network sources, in the local set those of local ones. Nothing of
the other program is in any set. The order of routines and operations does not matter for what is found. -/
theorem classify_finds_sources (matcher : PrimitiveMatcher) (naming : Naming) (config : InputConfig)
    (k : InputClassifier) (made : withMatcher matcher naming config = .ok k) (m : ProgramPair)
    (home : ∀ f ∈ m.routines, ∀ v ∈ f.params, v.program = f.program) (p : Program) :
    (∀ v, (k.classify m p).contains p .network v = true ↔ Source matcher naming config m p true v) ∧
      (∀ v, (k.classify m p).contains p .local v = true ↔ Source matcher naming config m p false v) ∧
      (∀ q scope v, (k.classify m p).contains q scope v = true → q = p ∧ v.program = p) ∧
      ∀ m', m.Rearranged m' → ∀ q scope v,
        (k.classify m' p).contains q scope v = (k.classify m p).contains q scope v := by
  refine ⟨fun v => ?_, fun v => ?_, fun q scope v => program_of_contains home,
    fun m' rearranged q scope v => contains_classify_rearranged rearranged⟩
  · rw [← exists_record_iff_source made]
    exact contains_classify_origin_iff home true
  · rw [← exists_record_iff_source made]
    exact contains_classify_origin_iff home false

/-- `post` posts messages, and `fill` names an argument that calls may not have. -/
def mailing : PrimitiveMatcher := fun _ callee =>
  if callee = "post" then some ⟨.messagePost, .pointerArgs, false⟩
  else if callee = "fill" then some ⟨.networkReceive, .arg 5, true⟩
  else none

/-- The values of both programs of `postbox`. -/
def postboxValues : List (Program × ValueInfo) :=
  [(.first, .argument "argc" false), (.first, .argument "argv" true), (.first, .argument "data" true),
    (.first, .pointer "msg_buf"), (.first, .pointer "note"), (.second, .pointer "msg_buf")]

/-- A message with three parts, one of them from the other program, is posted before `note` is filled. -/
def postbox : ProgramPair := .ofRoutines postboxValues
  [{ name := "main", program := .first, params := [⟨.first, 0⟩, ⟨.first, 1⟩], operations :=
      [{ opcode := .call, operands := [⟨.first, 3⟩, ⟨.first, 4⟩, ⟨.second, 0⟩], target := some "post" },
        { opcode := .call, operands := [⟨.first, 4⟩], target := some "fill" }] },
    { name := "on_recv_callback", program := .first, params := [⟨.first, 2⟩] }]

/-- The routines and the operations of `postbox` in the opposite order. -/
def postboxReversed : ProgramPair := .ofRoutines postboxValues
  [{ name := "on_recv_callback", program := .first, params := [⟨.first, 2⟩] },
    { name := "main", program := .first, params := [⟨.first, 0⟩, ⟨.first, 1⟩], operations :=
      [{ opcode := .call, operands := [⟨.first, 4⟩], target := some "fill" },
        { opcode := .call, operands := [⟨.first, 3⟩, ⟨.first, 4⟩, ⟨.second, 0⟩], target := some "post" }] }]

theorem rearranged_postbox : postbox.Rearranged postboxReversed where
  info v := by
    have values : postboxReversed.values = postbox.values := by decide +kernel
    rw [ProgramPair.info?, values, ProgramPair.info?]
  routines := ⟨postbox.routines.zip postboxReversed.routines.reverse, by decide +kernel, by decide +kernel,
    by decide +kernel⟩

/-- Of the message only `msg_buf` is an input, and `note` is one because the call that fills it has no sixth
argument and no result. In the opposite order the same is found. -/
theorem classify_finds_sources_postbox :
    (∀ f ∈ postbox.routines, ∀ v ∈ f.params, v.program = f.program) ∧ postbox.Rearranged postboxReversed ∧
      ∃ k, withMatcher mailing {} {} = .ok k ∧
        Source mailing {} {} postbox .first false ⟨.first, 3⟩ ∧
        ¬ Source mailing {} {} postbox .first false ⟨.first, 4⟩ ∧
        Source mailing {} {} postbox .first true ⟨.first, 4⟩ ∧
        (k.classify postboxReversed .first).contains .first .network ⟨.first, 4⟩ = true := by
  have home : ∀ f ∈ postbox.routines, ∀ v ∈ f.params, v.program = f.program := by decide +kernel
  have found : (withMatcher mailing {} {}).map (fun k =>
      ((k.classify postbox .first).contains .first .local ⟨.first, 3⟩,
        (k.classify postbox .first).contains .first .local ⟨.first, 4⟩,
        (k.classify postbox .first).contains .first .network ⟨.first, 4⟩)) = .ok (true, false, true) := by
    decide +kernel
  obtain ⟨k, made, found⟩ := exists_of_map_eq_ok found
  simp only [Prod.mk.injEq] at found
  obtain ⟨posted, other, filled⟩ := found
  obtain ⟨network, localSources, -, order⟩ := classify_finds_sources mailing {} {} k made postbox home .first
  refine ⟨home, rearranged_postbox, k, made, (localSources _).1 posted, fun source => ?_, (network _).1 filled, ?_⟩
  · rw [(localSources _).2 source] at other
    cases other
  · rw [order _ rearranged_postbox]
    exact filled

end InputClassifier

end PeerTaint
