import PeerTaint.Proofs.Accounting
import PeerTaint.Proofs.Counts
import PeerTaint.Proofs.Partitions

/-!
Analyses end with a report.

An accepted configuration has patterns that can be read, so the inputs are found. Building goes by events,
and stops only when all handles are given out: registered operations never stand inside each other for
ever, calls are there when their turn to be spliced comes, and a partition lists every value in the class
that it puts it into. The counts of a well-formed graph always add up, so the report is made. Since handles
are accounted for, there have to be very many operations, values and inputs before they run out.
-/

namespace PeerTaint

/-! ## Partitions agree with themselves -/

namespace AliasPartition

/-- The class that a value is put into lists it. -/
theorem Coherent.lists {part : AliasPartition} (h : Coherent part) {v : Value} {k : AliasKey}
    (hk : part.oracle.key? v = some k) : (part.oracle.members? k).any (·.contains v) = true := by
  obtain ⟨c, hc, hv⟩ := (h.index v k).1 hk
  simp [oracle, hc, hv]

end AliasPartition

namespace BuildContext

open Build

variable {c : BuildContext}

theorem key?_of_aliasKey? {v : Value} {k : AliasKey} (h : c.aliasKey? v = some k) :
    c.oracle.key? v = some k := by
  unfold aliasKey? at h
  split at h
  · split at h
    · exact h
    · cases h
  · cases h

/-! ## Building stops only when handles run out -/

/-- Registered operations do not stand inside each other for ever, and the oracle agrees with itself. -/
theorem Halts.full {M : Mandate} {s : BuildState} {f : BuildFault} (tame : c.Tame)
    (consistent : ∀ v k, c.oracle.key? v = some k → (c.oracle.members? k).any (·.contains v) = true)
    (halts : c.Halts M c.Tame s f) :
    ∃ s', c.Events M s s' ∧ nodeCapacity ≤ s'.graph.slots.size ∧
      f = .graph (.capacityExceeded s'.graph.slots.size) := by
  cases f with
  | graph e =>
    obtain ⟨s', events, full, rfl⟩ := halts
    exact ⟨s', events, full, rfl⟩
  | inconsistentOracle v k =>
    obtain ⟨hk, unlisted⟩ := halts
    rw [consistent v k (key?_of_aliasKey? hk)] at unlisted
    cases unlisted
  | endlessStore => exact absurd tame halts

section Assemble

variable (cat : c.programs.Catalogued)
include cat

theorem acts_assemble (splice : Bool) (inputs : InputSets) {s : BuildState} (wf : s.graph.WellFormed) :
    c.Acts (c.mandate inputs) c.Tame (c.assemble splice inputs) s := by
  have closed : ∀ v op, c.programs.definition? v = some op → (c.mandate inputs).expands v.program op :=
    fun v op hop => (cat.definition v op hop).2
  have listed : ∀ r ∈ c.programs.routines, ∀ op ∈ r.operations, (c.mandate inputs).expands r.program op :=
    fun r hr op hop => ⟨r.program, List.mem_flatMap.2 ⟨r, hr, List.mem_map.2 ⟨op, hop, rfl⟩⟩⟩
  have entered : ∀ s', c.Acts (c.mandate inputs) c.Tame (discard (c.addInputs inputs)) s' := fun s' =>
    .map _ (proceeds_addRecords closed trivial fun r hr => ⟨r, hr, rfl, rfl⟩).acts
  unfold assemble
  refine .bind (.map _ (proceeds_addRoutines closed listed).acts) fun _ s₁ e₁ => ?_
  cases splice with
  | false => exact entered s₁
  | true =>
    exact .bind (.map _ (acts_spliceKnownCalls closed trivial (e₁.wellFormed wf))) fun _ s₂ _ => entered s₂

/-- Why assembling a graph can stop. -/
theorem assemble_fault (silent : ∀ e ∈ c.programs.stream, e.2.opcode = .store → e.2.result = none)
    (consistent : ∀ v k, c.oracle.key? v = some k → (c.oracle.members? k).any (·.contains v) = true)
    {splice : Bool} {inputs : InputSets} {f : BuildFault}
    (failed : (c.assemble splice inputs).run {} = .error f) :
    f = .graph (.capacityExceeded nodeCapacity) ∧ nodeCapacity ≤ c.programs.demand inputs := by
  obtain ⟨s, events, full, rfl⟩ := Halts.full ⟨cat, silent⟩ consistent
    ((acts_assemble cat splice inputs (s := {}) Graph.wellFormed_empty).fault failed)
  have small : s.graph.slots.size ≤ nodeCapacity := events.size_le Graph.wellFormed_empty (Nat.zero_le _)
  have size : s.graph.slots.size = nodeCapacity := by omega
  rw [← size]
  exact ⟨rfl, size_le_demand cat events⟩

end Assemble

end BuildContext

/-! ## Inputs are found and reports are made -/

/-- What is accepted has patterns that can be read. -/
theorem EngineConfig.exists_compile {config : EngineConfig} (valid : config.validate = .ok ()) :
    ∃ compiled, config.naming.compile = .ok compiled := by
  cases hc : config.naming.compile with
  | ok compiled => exact ⟨compiled, rfl⟩
  | error e =>
    have refused : ∀ u, config.naming.validate ≠ .ok u := by
      intro u
      unfold Naming.validate
      cases config.naming.checkPrefixes .first with
      | error e => simp [bind, Except.bind]
      | ok _ =>
        cases config.naming.checkPrefixes .second with
        | error e => simp [bind, Except.bind]
        | ok _ => simp [hc, discard, Functor.discard, Functor.mapConst, bind, Except.bind, Except.map]
    unfold EngineConfig.validate at valid
    cases hn : config.naming.validate with
    | error e => simp [hn, bind, Except.bind] at valid
    | ok u => exact absurd hn (refused u)

namespace Analysis

theorem exists_classifier {config : EngineConfig} {a : Analysis} (accepted : ofConfig config = .ok a) :
    ∃ k, InputClassifier.ofConfig a.config.naming a.config.inputs = .ok k := by
  unfold ofConfig at accepted
  split at accepted
  · next valid =>
    cases accepted
    obtain ⟨compiled, hc⟩ := EngineConfig.exists_compile valid
    exact ⟨_, by simp only [InputClassifier.ofConfig, InputClassifier.withMatcher, hc]; rfl⟩
  · cases accepted

theorem exists_report {g : Graph} (wf : g.WellFormed) (a : Analysis) (inputs : InputSets) :
    ∃ report, a.report g inputs = .ok report := by
  obtain ⟨report, made, -⟩ := Graph.report_eq_ok wf a inputs
  exact ⟨report, made⟩

section Run

variable {a : Analysis} {m : ProgramPair} {oracle : AliasOracle} {k : InputClassifier}
  (classifier : InputClassifier.ofConfig a.config.naming a.config.inputs = .ok k)
include classifier

theorem run_of_fault {f : BuildFault} (failed : ((a.context m oracle).assemble a.config.graph.spliceCalls
    (k.classifyAll m)).run {} = .error f) : a.run m oracle = .error (.build f) := by
  change (a.build (a.context m oracle) (k.classifyAll m)).run {} = .error f at failed
  simp only [run, classifier, failed]

theorem run_of_report {u : Unit} {s : BuildState} {report : AnalysisReport}
    (assembled : ((a.context m oracle).assemble a.config.graph.spliceCalls (k.classifyAll m)).run {} =
      .ok (u, s)) (made : a.report s.graph (k.classifyAll m) = .ok report) :
    a.run m oracle = .ok ⟨s.graph, k.classifyAll m, report⟩ := by
  change (a.build (a.context m oracle) (k.classifyAll m)).run {} = .ok (u, s) at assembled
  simp only [run, classifier, assembled, made]
  rfl

end Run

/-- Under an accepted configuration, registered programs whose stores define nothing are analysed up to the
report, whichever way the alias classes were made. The one thing that can go wrong is that all handles are
given out, and then the programs need that many. -/
theorem run_ok_unless_full {config : EngineConfig} {a : Analysis} (accepted : ofConfig config = .ok a)
    {m : ProgramPair} (registered : m.Registered)
    (silent : ∀ e ∈ m.stream, e.2.opcode = .store → e.2.result = none)
    {part : AliasPartition} (built : part.Built) :
    ∃ k, InputClassifier.ofConfig a.config.naming a.config.inputs = .ok k ∧
      ((∃ outcome, a.run m part.oracle = .ok outcome) ∨
        a.run m part.oracle = .error (.build (.graph (.capacityExceeded nodeCapacity))) ∧
          nodeCapacity ≤ m.demand (k.classifyAll m)) := by
  have cat : (a.context m part.oracle).programs.Catalogued := registered.catalogued
  obtain ⟨k, classifier⟩ := exists_classifier accepted
  refine ⟨k, classifier, ?_⟩
  cases assembled : ((a.context m part.oracle).assemble a.config.graph.spliceCalls (k.classifyAll m)).run {} with
  | error fault =>
    obtain ⟨rfl, demand⟩ := BuildContext.assemble_fault cat silent
      (fun v k => built.coherent.lists) assembled
    exact .inr ⟨run_of_fault classifier assembled, demand⟩
  | ok r =>
    have events := (BuildContext.acts_assemble cat _ _ Graph.wellFormed_empty).run assembled
    obtain ⟨report, made⟩ := exists_report (events.wellFormed Graph.wellFormed_empty) a (k.classifyAll m)
    exact .inl ⟨_, run_of_report classifier assembled made⟩

/-- A configuration under which calls are spliced. -/
def spliceConfig : EngineConfig := { graph := { spliceCalls := true } }

/-- `descend` calls itself with what it computes from its parameter. The command line goes through it twice,
once by way of `buf`. -/
def descent : ProgramPair := .ofRoutines
  [(.first, .argument "argc" false), (.first, .argument "argv" true), (.first, .scalar "x"),
    (.first, .pointer "buf"), (.first, .scalar "y"), (.first, .scalar "z"), (.first, .argument "n" false),
    (.first, .scalar "m"), (.first, .scalar "r")]
  [{ name := "main", program := .first, params := [⟨.first, 0⟩, ⟨.first, 1⟩], operations :=
      [{ opcode := .call, operands := [⟨.first, 1⟩], target := some "descend", result := some ⟨.first, 2⟩ },
        { opcode := .store, operands := [⟨.first, 2⟩, ⟨.first, 3⟩] },
        { opcode := .load, operands := [⟨.first, 3⟩], result := some ⟨.first, 4⟩ },
        { opcode := .call, operands := [⟨.first, 4⟩], target := some "descend",
          result := some ⟨.first, 5⟩ }] },
    { name := "descend", program := .first, params := [⟨.first, 6⟩], operations :=
      [{ opcode := .binary, operands := [⟨.first, 6⟩], result := some ⟨.first, 7⟩ },
        { opcode := .call, operands := [⟨.first, 7⟩], target := some "descend", result := some ⟨.first, 8⟩ },
        { opcode := .ret, operands := [⟨.first, 8⟩] }] }]

/-- Splicing the calls to a routine that calls itself ends. -/
theorem run_ok_descent : ofConfig spliceConfig = .ok ⟨spliceConfig⟩ ∧ descent.Registered ∧
    (∀ e ∈ descent.stream, e.2.opcode = .store → e.2.result = none) ∧
    ∃ outcome, run ⟨spliceConfig⟩ descent
      (AliasPartition.ofLists [[⟨.first, 1⟩, ⟨.first, 3⟩]]).oracle = .ok outcome := by
  have accepted : ofConfig spliceConfig = .ok ⟨spliceConfig⟩ := by decide +kernel
  have registered : descent.Registered := ProgramPair.registered_ofRoutines ..
  have silent : ∀ e ∈ descent.stream, e.2.opcode = .store → e.2.result = none := by decide +kernel
  have small : (InputClassifier.ofConfig spliceConfig.naming spliceConfig.inputs).map
      (fun k => descent.demand (k.classifyAll descent)) = .ok 26 := by decide +kernel
  refine ⟨accepted, registered, silent, ?_⟩
  obtain ⟨k, classifier, completes⟩ := run_ok_unless_full accepted registered silent (.ofLists _)
  rw [classifier] at small
  have demand : descent.demand (k.classifyAll descent) = 26 := Except.ok.inj small
  refine completes.resolve_right fun full => ?_
  rw [demand] at full
  exact absurd full.2 (by decide)

end Analysis

end PeerTaint
