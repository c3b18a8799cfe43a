import PeerTaint.Analysis
import PeerTaint.Proofs.Splicing

/-!
Where inputs end up.

Inputs are attached last, when all operations were visited and calls may have been spliced. An input
whose value can still be resolved gets a node with an edge to the node of the value. The only values
about which something is known and that cannot be resolved are the results of calls that were spliced:
inputs through them leave no trace.
-/

namespace PeerTaint

/-! ## Records are kept with the program of their value -/

namespace InputSets

theorem mem_toList_iff {s : InputSets} {r : InputRecord} :
    r ∈ s.toList ↔ ∃ p, r ∈ (s.localSets.get p).values ∨ r ∈ (s.networkSets.get p).values := by
  have all : ∀ p : Program, p ∈ Program.all := fun p => by cases p <;> decide
  simp [toList, recordsOf, records, InputSets.get, all]

theorem mem_values_insert {m : RecordSet} {r r' : InputRecord} (h : r' ∈ (m.insert r.value r).values) :
    r' ∈ m.values ∨ r' = r := by
  obtain ⟨e, he, rfl⟩ := List.mem_map.1 h
  rcases SortedMap.mem_place he with rfl | he
  · exact Or.inr rfl
  · exact Or.inl (List.mem_map_of_mem he)

theorem mem_toList_insert {s : InputSets} {r r' : InputRecord} (h : r' ∈ (s.insert r).2.toList) :
    r' ∈ s.toList ∨ r' = r := by
  have added : ∀ {sets : PerProgram RecordSet} {p}, r' ∈ ((sets.modify r.program
      (·.insert r.value r)).get p).values → r' ∈ (sets.get p).values ∨ r' = r := by
    intro sets p h
    rw [PerProgram.get_modify] at h
    split at h
    · exact mem_values_insert h
    · exact Or.inl h
  unfold insert at h
  split at h
  · exact Or.inl h
  · obtain ⟨p, h⟩ := mem_toList_iff.1 h
    rw [mem_toList_iff]
    dsimp only at h
    split at h <;> rcases h with h | h
    · exact Or.inl ⟨p, Or.inl h⟩
    · exact (added h).imp_left fun h => ⟨p, Or.inr h⟩
    · exact (added h).imp_left fun h => ⟨p, Or.inl h⟩
    · exact Or.inl ⟨p, Or.inr h⟩

theorem mem_toList_insertAll {s : InputSets} {rs : List InputRecord} {r : InputRecord}
    (h : r ∈ (s.insertAll rs).toList) : r ∈ s.toList ∨ r ∈ rs := by
  induction rs generalizing s with
  | nil => exact Or.inl h
  | cons r' rs ih =>
    rcases ih h with h | h
    · rcases mem_toList_insert h with h | rfl
      · exact Or.inl h
      · exact Or.inr List.mem_cons_self
    · exact Or.inr (List.mem_cons_of_mem r' h)

end InputSets

theorem InputClassifier.program_of_mem_ofRoutine {k : InputClassifier} {m : ProgramPair} {f : Routine}
    {r : InputRecord} (h : r ∈ k.ofRoutine m f) : r.program = r.value.program := by
  have ofValue : ∀ {vs : List Value} {net name kind},
      r ∈ vs.map (fun v => InputRecord.ofValue v net name kind) → r.program = r.value.program := by
    intro vs net name kind h
    obtain ⟨v, -, rfl⟩ := List.mem_map.1 h
    rfl
  rw [ofRoutine, List.mem_append, List.mem_append, List.mem_flatMap] at h
  rcases h with (h | h) | ⟨op, -, h⟩
  · unfold commandLine at h
    split at h
    · exact ofValue h
    · cases h
  · unfold callbackPayload at h
    split at h
    · exact ofValue h
    · cases h
  · unfold ofOperation at h
    split at h
    · cases h
    · split at h
      · cases h
      · exact ofValue h

theorem InputClassifier.program_of_mem_classifyAll {k : InputClassifier} {m : ProgramPair} {r : InputRecord}
    (h : r ∈ (k.classifyAll m).toList) : r.program = r.value.program := by
  have none : r ∉ InputSets.empty.toList := by
    rw [InputSets.mem_toList_iff]
    rintro ⟨p, h⟩
    cases p <;> rcases h with h | h <;> cases h
  have classified : ∀ p, r ∈ (k.classify m p).toList → r.program = r.value.program := by
    intro p h
    rcases InputSets.mem_toList_insertAll h with h | h
    · exact absurd h none
    · obtain ⟨f, -, h⟩ := List.mem_flatMap.1 h
      exact program_of_mem_ofRoutine h
  change r ∈ ((InputSets.empty.extend (k.classify m .first)).extend (k.classify m .second)).toList at h
  rcases InputSets.mem_toList_insertAll h with h | h
  · rcases InputSets.mem_toList_insertAll h with h | h
    · exact absurd h none
    · exact classified _ h
  · exact classified _ h

/-! ## Attaching inputs in a finished build -/

namespace Graph

/-- The input of a record flows into the node of its value. -/
def Attached (g : Graph) (r : InputRecord) : Prop :=
  ∃ i t, g.findInput r.value r.origin = some i ∧ g.edgeKind? i t = some .data ∧
    g.findNode r.value r.program = some t

/-- Inputs are there only for values that stand for a node. -/
def Rooted (g : Graph) : Prop :=
  ∀ v o i, g.findInput v o = some i → (g.findNode v v.program).isSome = true

/-- An input is never what a value stands for. -/
theorem WellFormed.findInput_ne_findNode {g : Graph} (wf : g.WellFormed) {v w : Value} {o : Origin}
    {p : Program} {i n : NodeId} (hi : g.findInput v o = some i) (hn : g.findNode w p = some n) : i ≠ n := by
  rintro rfl
  obtain ⟨q, name, role⟩ := wf.input v o i hi
  cases BuildContext.program_of_findNode hn
  rw [findNode, if_pos rfl] at hn
  rcases Option.or_eq_some_iff.1 hn with hm | ⟨-, hv⟩
  · obtain ⟨q', k, role'⟩ := wf.memValue w i hm
    cases role.symm.trans role'
  · obtain ⟨q', kind, role', defines⟩ := wf.value w i hv
    cases role.symm.trans role'
    exact defines.2 rfl

section Input

variable {g g' : Graph} {v : Value} {o : Origin} {name : String} {n : NodeId}
  (hg : g.inputNode v o name = .ok (n, g'))
include hg

theorem findNode_inputNode (w : Value) (p : Program) : g'.findNode w p = g.findNode w p := by
  rcases inputNode_eq_ok hg with ⟨-, rfl⟩ | ⟨-, -, label, rfl⟩
  · rfl
  · obtain ⟨_, _, _, _, he⟩ := place_eq g (g.fresh v.program (.input v o name) label)
    rw [he]
    rfl

theorem edgeKind?_inputNode (a b : NodeId) : g'.edgeKind? a b = g.edgeKind? a b := by
  rcases inputNode_eq_ok hg with ⟨-, rfl⟩ | ⟨-, -, label, rfl⟩
  · rfl
  · exact edgeKind?_place rfl a b

theorem findInput_inputNode_iff {w : Value} {o' : Origin} {m : NodeId} : g'.findInput w o' = some m ↔
    g.findInput w o' = some m ∨ (w = v ∧ o' = o) ∧ n = m := by
  have found := findInput_inputNode hg
  rcases inputNode_eq_ok hg with ⟨-, rfl⟩ | ⟨free, -, label, rfl⟩
  · refine ⟨Or.inl, ?_⟩
    rintro (h | ⟨⟨rfl, rfl⟩, rfl⟩)
    · exact h
    · exact found
  · simp only [findInput, SortedMap.get?_insert, Prod.mk.injEq]
    split
    · next he =>
      rw [he.1, he.2]
      simp [show g.inputNodes.get? (v, o) = none from free]
    · next he => simp [he]

theorem Attached.inputNode {r : InputRecord} (h : g.Attached r) : g'.Attached r := by
  obtain ⟨i, t, hi, edge, ht⟩ := h
  refine ⟨i, t, (findInput_inputNode_iff hg).2 (Or.inl hi), ?_, ?_⟩
  · rw [edgeKind?_inputNode hg, edge]
  · rw [findNode_inputNode hg, ht]

theorem Rooted.inputNode (h : g.Rooted) (bound : (g.findNode v v.program).isSome = true) : g'.Rooted := by
  intro w o' m hm
  rw [findNode_inputNode hg]
  rcases (findInput_inputNode_iff hg).1 hm with hm | ⟨⟨rfl, rfl⟩, -⟩
  · exact h w o' m hm
  · exact bound

end Input

end Graph

namespace BuildContext

open Build

variable {c : BuildContext} {s s' : BuildState} {r : InputRecord}

section Steps

variable (cat : c.programs.Catalogued) (inv : c.Grounded s) (steps : c.Steps s s')
include cat inv steps

theorem Steps.attached (h : s.graph.Attached r) : s'.graph.Attached r := by
  obtain ⟨i, t, hi, edge, ht⟩ := h
  refine ⟨i, t, ?_, steps.grows.extension.data i t edge, steps.findNode cat inv ht⟩
  rwa [Graph.findInput, steps.inputNodes]

theorem Steps.rooted (h : s.graph.Rooted) : s'.graph.Rooted := by
  intro v o i hi
  rw [Graph.findInput, steps.inputNodes] at hi
  obtain ⟨n, hn⟩ := Option.isSome_iff_exists.1 (h v o i hi)
  exact Option.isSome_iff_exists.2 ⟨n, steps.findNode cat inv hn⟩

end Steps

section Attach

variable (cat : c.programs.Catalogued) (homed : c.programs.Homed) (silent : c.programs.Silent)
include cat homed silent

/-- A record is attached, or its value cannot be resolved. -/
def Entered (c : BuildContext) (s : BuildState) (r : InputRecord) : Prop :=
  s.graph.Attached r ∨ s.graph.findNode r.value r.program = none ∧ ¬ c.Fetchable r.value

theorem wp_addInput_entered (fin : c.Finished s) (rooted : s.graph.Rooted)
    (home : r.program = r.value.program) :
    wp (c.addInput r) (fun _ s' => c.Moves s s' ∧ s'.graph.Rooted ∧ c.Entered s' r ∧
      ∀ r', s.graph.Attached r' → s'.graph.Attached r') (fun _ => True) s := by
  simp only [addInput, monadLift_self]
  rw [wp_bind]
  refine wp.weaken (wp_valueNode_finished cat homed silent fin) ?_ fun _ _ => trivial
  rintro t s₁ ⟨fetched, ht, fetches⟩
  have inv₁ := fetched.steps.grounded cat fin.toGrounded
  have rooted₁ := Steps.rooted cat fin.toGrounded fetched.steps rooted
  cases t with
  | none =>
    refine ⟨fetched.steps.moves, rooted₁, Or.inr ⟨ht.symm, fun fetchable => ?_⟩, fun r' h =>
      Steps.attached cat fin.toGrounded fetched.steps h⟩
    cases fetches home.symm fetchable
  | some t =>
    have live := inv₁.lives_findNode ht.symm
    dsimp only
    rw [wp_bind, wp_graph, wp_bind]
    refine wp_attempt (fun i g hg => ?_) fun _ _ => trivial
    have made : c.Moves s₁ { s₁ with graph := g } := moves_inputNode hg
    have inv₂ := made.grounded cat inv₁
    have found := Graph.findInput_inputNode hg
    have source : g.Lives r.program i := home ▸ inv₂.input r.value r.origin i found
    have target : g.Lives r.program t := live.grows (Graph.Grows.inputNode hg)
    have bound : g.findNode r.value r.program = some t :=
      (Graph.findNode_inputNode hg _ _).trans ht.symm
    have flow : c.Step ⟨g, s₁.visited⟩ ⟨(g.connect i t .data).2, s₁.visited⟩ :=
      .flow source.given target.given
    have rooted₂ : g.Rooted := rooted₁.inputNode hg (by rw [← home, ← ht]; rfl)
    have apart : i ≠ t := inv₂.wf.findInput_ne_findNode found bound
    rw [wp_bind, wp_flow, wp_pure]
    refine ⟨(fetched.steps.moves.trans made).tail (.step flow), Steps.rooted cat inv₂ (.single flow) rooted₂,
      Or.inl ⟨i, t, ?_, ?_, Steps.findNode cat (.single flow) inv₂ bound⟩, fun r' h => ?_⟩
    · rw [Graph.findInput, Graph.inputNodes_connect]
      exact found
    · rw [Graph.edgeKind?_flow, if_pos ⟨rfl, rfl, apart, source.isLive, target.isLive⟩]
    · exact Steps.attached cat inv₂ (.single flow)
        ((Steps.attached cat fin.toGrounded fetched.steps h).inputNode hg)

theorem wp_addInputs_entered (fin : c.Finished s) (rooted : s.graph.Rooted) {inputs : InputSets}
    (home : ∀ r ∈ inputs.toList, r.program = r.value.program) :
    wp (c.addInputs inputs) (fun _ s' => c.Moves s s' ∧ s'.graph.Rooted ∧
      ∀ r ∈ inputs.toList, c.Entered s' r) (fun _ => True) s := by
  unfold addInputs
  generalize inputs.toList = rs at home ⊢
  suffices wp (c.addRecords rs) (fun _ s' => (c.Moves s s' ∧ s'.graph.Rooted ∧
      ∀ r', s.graph.Attached r' → s'.graph.Attached r') ∧ ∀ r ∈ rs, c.Entered s' r) (fun _ => True) s from
    this.mono fun _ s' h => ⟨h.1.1, h.1.2.1, h.2⟩
  induction rs generalizing s with
  | nil => exact ⟨⟨.refl, rooted, fun _ h => h⟩, by simp⟩
  | cons r rs ih =>
    rw [addRecords, wp_bind]
    refine (wp_addInput_entered cat homed silent fin rooted (home r List.mem_cons_self)).mono ?_
    rintro _ s₁ ⟨first, rooted₁, entered, kept⟩
    have fin₁ := first.finished cat fin
    rw [wp_bind]
    refine (ih fin₁ rooted₁ fun r hr => home r (List.mem_cons_of_mem _ hr)).mono ?_
    rintro _ s₂ ⟨⟨rest, rooted₂, kept'⟩, all⟩
    refine ⟨⟨first.trans rest, rooted₂, fun r' h => kept' r' (kept r' h)⟩, fun r' hr' => ?_⟩
    rcases List.mem_cons.1 hr' with rfl | hr'
    · rcases entered with h | ⟨none, stuck⟩
      · exact Or.inl (kept' _ h)
      · refine Or.inr ⟨Option.eq_none_iff_forall_ne_some.2 fun n hn => ?_, stuck⟩
        rcases Moves.findNode_back cat rest fin₁ hn with hn | fetchable
        · rw [none] at hn
          cases hn
        · exact stuck fetchable
    · exact all r' hr'

end Attach

/-! ## What was spliced cannot be resolved -/

/-- The calls that are spliced, if that is wanted. -/
def splicedCalls (c : BuildContext) (splice : Bool) (g : Graph) : List (NodeId × Routine) :=
  if splice then c.knownCalls g else []

/-- The value stands for a call that is spliced. -/
def Replaced (c : BuildContext) (splice : Bool) (g : Graph) (v : Value) : Prop :=
  ∃ e ∈ c.splicedCalls splice g, g.findNode v v.program = some e.1

/-- Every stage of a whole build. -/
structure Stages (c : BuildContext) (splice : Bool) (built spliced s : BuildState) : Prop where
  finished : c.Finished built
  settled : c.Settled built
  splices : c.Splices (c.splicedCalls splice built.graph) built spliced
  moves : c.Moves spliced s
  grows : spliced.graph.Grows s.graph

section Assemble

variable (cat : c.programs.Catalogued) (homed : c.programs.Homed) (silent : c.programs.Silent)
include cat

/-- What stands for a call that is spliced stands for nothing at the end. -/
theorem Stages.findNode_replaced {splice : Bool} {built spliced : BuildState} {v : Value}
    (h : c.Stages splice built spliced s) (replaced : c.Replaced splice built.graph v) :
    s.graph.findNode v v.program = none := by
  obtain ⟨e, he, hv⟩ := replaced
  have call : Calls built.graph e := by
    unfold splicedCalls at he
    split at he
    · exact calls_of_mem_knownCalls h.finished.wf.toLinked he
    · cases he
  have moves := h.splices.moves.trans h.moves
  refine Option.eq_none_iff_forall_ne_some.2 fun n hn => ?_
  rcases Moves.findNode_back cat moves h.finished hn with hn' | fetchable
  · -- the node is the call, which is not there any more
    rw [hv] at hn'
    cases hn'
    have live := ((Moves.grounded cat moves h.finished.toGrounded).lives_findNode hn).isLive
    have dead : spliced.graph.isLive e.1 = false := by
      rw [← Bool.not_eq_true, h.splices.isLive call.1.lt]
      exact fun alive => alive.2 (List.mem_map_of_mem he)
    have inv₁ := Moves.grounded cat h.splices.moves h.finished.toGrounded
    have stale := (Graph.Changes.evolves inv₁.wf h.moves.changes).stale e.1
      (call.1.lt.trans_le h.splices.conserves.size_le) dead
    rw [live] at stale
    cases stale
  · exact call.ne_fetchable h.finished.toGrounded fetchable hv rfl

include homed silent

/-- A known value that does not stand for a call that is spliced can be resolved. -/
theorem Stages.findNode_kept {splice : Bool} {built spliced : BuildState} {v : Value}
    (h : c.Stages splice built spliced s) (known : (c.programs.info? v).isSome = true)
    (kept : ¬ c.Replaced splice built.graph v) (stuck : ¬ c.Fetchable v) :
    (s.graph.findNode v v.program).isSome = true := by
  obtain ⟨unaliased, defined⟩ := not_or.1 stuck
  have scalar : c.aliasKey? v = none := Option.not_isSome_iff_eq_none.1 unaliased
  cases hop : c.programs.definition? v with
  | none => exact absurd ⟨hop, known⟩ defined
  | some op =>
    obtain ⟨he, hv⟩ := cat.mem_of_definition? homed hop
    obtain ⟨x, hx, -⟩ := h.finished.visited _ he
    obtain ⟨some_x, bound⟩ := h.settled _ he x hx v (binds_of_silent silent he hv scalar)
    obtain ⟨n, rfl⟩ := Option.isSome_iff_exists.1 some_x
    have found : built.graph.findNode v v.program = some n :=
      (h.finished.byClass.findNode_of_none scalar).trans bound.symm
    have lives := h.finished.lives_findNode found
    have alive : spliced.graph.isLive n = true :=
      h.splices.isLive_of_ne lives fun e he same => kept ⟨e, he, same ▸ found⟩
    have still : s.graph.isLive n = true := h.grows.extension.isLive alive
    exact Option.isSome_iff_exists.2 ⟨n,
      Moves.findNode cat (h.splices.moves.trans h.moves) h.finished.toGrounded found still⟩

theorem wp_assemble_stages (splice : Bool) {inputs : InputSets}
    (home : ∀ r ∈ inputs.toList, r.program = r.value.program) :
    wp (c.assemble splice inputs) (fun _ s => ∃ count built spliced,
      c.buildAll.run {} = .ok (count, built) ∧ c.Stages splice built spliced s ∧ s.graph.Rooted ∧
      ∀ r ∈ inputs.toList, c.Entered s r) (fun _ => True) {} := by
  unfold assemble
  rw [wp_bind, wp_discard]
  refine (wp_buildAll_finished cat homed).of_run ?_
  rintro count built run ⟨finished, settled, -, empty⟩
  -- the stages that are left, once the calls are spliced
  have attach : ∀ spliced, c.Splices (c.splicedCalls splice built.graph) built spliced →
      wp (discard (c.addInputs inputs)) (fun _ s => ∃ count built spliced,
        c.buildAll.run {} = .ok (count, built) ∧ c.Stages splice built spliced s ∧ s.graph.Rooted ∧
        ∀ r ∈ inputs.toList, c.Entered s r) (fun _ => True) spliced := by
    intro spliced splices
    have none : spliced.graph.Rooted := by
      intro v o i hi
      have hi := splices.input hi
      rw [Graph.findInput, empty] at hi
      cases hi
    rw [wp_discard]
    have after := Moves.finished cat splices.moves finished
    refine (wp_addInputs_entered cat homed silent after none home).of_run ?_
    rintro _ s hrun ⟨moves, rooted, entered⟩
    exact ⟨count, built, spliced, run, ⟨finished, settled, splices, moves, (c.along_addInputs inputs).run hrun⟩,
      rooted, entered⟩
  cases splice with
  | false => exact attach built (.nil built)
  | true =>
    change wp (discard c.spliceKnownCalls >>= fun _ => discard (c.addInputs inputs)) _ _ built
    rw [wp_bind, wp_discard]
    simp only [spliceKnownCalls, monadLift_self]
    rw [wp_bind, wp_graph, wp_bind]
    refine wp.weaken (wp_spliceAll_splices cat homed silent finished
      (fun e he => calls_of_mem_knownCalls finished.wf.toLinked he)
      ((c.knownCalls_ascending finished.wf.toLinked).imp Nat.ne_of_lt)) (fun _ spliced splices => ?_)
      fun _ _ => trivial
    exact attach spliced splices

end Assemble

end BuildContext

namespace Analysis

theorem run_eq_ok {a : Analysis} {m : ProgramPair} {oracle : AliasOracle} {outcome : AnalysisOutcome}
    (ran : a.run m oracle = .ok outcome) : ∃ (k : InputClassifier) (s : BuildState),
      outcome.inputs = k.classifyAll m ∧ outcome.graph = s.graph ∧
      ((a.context m oracle).assemble a.config.graph.spliceCalls outcome.inputs).run {} = .ok ((), s) := by
  unfold run at ran
  split at ran
  · cases ran
  · next k _ =>
    dsimp only at ran
    split at ran
    · cases ran
    · next s built =>
      cases hr : a.report s.graph (k.classifyAll m) with
      | error e =>
        rw [hr] at ran
        cases ran
      | ok report =>
        rw [hr] at ran
        cases ran
        exact ⟨k, s, rfl, rfl, built⟩

/-- Of the inputs with a known value, an analysis attaches all but those whose value stands for a call
that is spliced. An attached input has a data edge to the node of its value; of the others there is no
trace in the graph. -/
theorem run_attaches_inputs (a : Analysis) (m : ProgramPair) (registered : m.Registered) (homed : m.Homed)
    (silent : m.Silent) (oracle : AliasOracle) (outcome : AnalysisOutcome)
    (ran : a.run m oracle = .ok outcome) :
    ∃ count built, (a.context m oracle).buildAll.run {} = .ok (count, built) ∧
      ∀ r ∈ outcome.inputs.toList, (m.info? r.value).isSome = true →
        (¬ (a.context m oracle).Replaced a.config.graph.spliceCalls built.graph r.value →
          ∃ i t x, outcome.graph.findInput r.value r.origin = some i ∧
            outcome.graph.edgeKind? i t = some .data ∧
            outcome.graph.findNode r.value r.program = some t ∧
            outcome.graph.node? t = some x ∧ x.program = r.program) ∧
        ((a.context m oracle).Replaced a.config.graph.spliceCalls built.graph r.value →
          outcome.graph.findInput r.value r.origin = none) := by
  have cat := registered.catalogued
  obtain ⟨k, s, inputs, graph, run⟩ := run_eq_ok ran
  have home : ∀ r ∈ outcome.inputs.toList, r.program = r.value.program := by
    rw [inputs]
    exact fun r => InputClassifier.program_of_mem_classifyAll
  obtain ⟨count, built, spliced, first, stages, rooted, entered⟩ :=
    (BuildContext.wp_assemble_stages cat homed silent a.config.graph.spliceCalls home).run run
  have inv := BuildContext.Moves.grounded cat (stages.splices.moves.trans stages.moves)
    stages.finished.toGrounded
  rw [graph]
  refine ⟨count, built, first, fun r hr known => ⟨fun kept => ?_, fun replaced => ?_⟩⟩
  · rcases entered r hr with ⟨i, t, hi, edge, ht⟩ | ⟨none, stuck⟩
    · obtain ⟨kind, role⟩ := inv.lives_findNode ht
      obtain ⟨x, hx, hp, -⟩ := Graph.role?_eq_some_iff.1 role
      exact ⟨i, t, x, hi, edge, ht, hx, hp⟩
    · have found := stages.findNode_kept cat homed silent known kept stuck
      rw [← home r hr, none] at found
      cases found
  · refine Option.eq_none_iff_forall_ne_some.2 fun i hi => ?_
    have found := rooted r.value r.origin i hi
    rw [stages.findNode_replaced cat replaced] at found
    cases found

/-- The program has its own `getenv`, which `main` calls besides taking a command line. -/
def wrapped : ProgramPair := .ofRoutines
  [(.first, .argument "argc" false), (.first, .argument "argv" false), (.first, .scalar "x"),
    (.first, .scalar "y"), (.first, .scalar "v")]
  [{ name := "main", program := .first, params := [⟨.first, 0⟩, ⟨.first, 1⟩], operations :=
      [{ opcode := .call, operands := [], target := some "getenv", result := some ⟨.first, 2⟩ },
        { opcode := .binary, operands := [⟨.first, 2⟩], result := some ⟨.first, 3⟩ }] },
    { name := "getenv", program := .first, operations := [{ opcode := .ret, operands := [⟨.first, 4⟩] }] }]

/-- An analysis that splices calls. -/
def splicing : Analysis := ⟨{ graph := { spliceCalls := true } }⟩

/-- The command line is attached, and what `getenv` returns is not. -/
theorem run_attaches_inputs_wrapped : wrapped.Registered ∧ wrapped.Homed ∧ wrapped.Silent ∧
    ∃ outcome, splicing.run wrapped (AliasPartition.ofLists []).oracle = .ok outcome ∧
      (∃ i t x, outcome.graph.findInput ⟨.first, 1⟩ .local = some i ∧
        outcome.graph.edgeKind? i t = some .data ∧
        outcome.graph.findNode ⟨.first, 1⟩ .first = some t ∧
        outcome.graph.node? t = some x ∧ x.program = .first) ∧
      outcome.graph.findInput ⟨.first, 2⟩ .local = none := by
  have registered : wrapped.Registered := ProgramPair.registered_ofRoutines ..
  have homed : wrapped.Homed := by decide +kernel
  have silent : wrapped.Silent := by decide +kernel
  have inputs : (splicing.run wrapped (AliasPartition.ofLists []).oracle).map (·.inputs.toList) =
      .ok [.ofValue ⟨.first, 1⟩ false "main" .commandLine,
        .ofValue ⟨.first, 2⟩ false "getenv" .environment] := by decide +kernel
  have calls : (((splicing.context wrapped (AliasPartition.ofLists []).oracle).buildAll : Build Nat).run {}).map
      (fun r => (((splicing.context wrapped (AliasPartition.ofLists []).oracle).splicedCalls true
        r.2.graph).map (·.1), [⟨.first, 1⟩, ⟨.first, 2⟩].map (r.2.graph.findNode · .first))) =
      .ok ([0], [none, some 0]) := by decide +kernel
  obtain ⟨outcome, ran, inputs⟩ := exists_of_map_eq_ok inputs
  obtain ⟨count, built, first, attached⟩ := run_attaches_inputs splicing wrapped registered homed silent _
    outcome ran
  rw [first] at calls
  simp only [Except.map, Except.ok.injEq, Prod.mk.injEq, List.map_cons, List.map_nil, List.cons.injEq,
    and_true] at calls
  obtain ⟨handles, line, call⟩ := calls
  have records := fun r (hr : r ∈ outcome.inputs.toList) => attached r hr
  rw [inputs] at records
  refine ⟨registered, homed, silent, outcome, ran, ?_, ?_⟩
  · refine (records _ List.mem_cons_self (by decide +kernel)).1 ?_
    rintro ⟨e, -, he⟩
    cases line.symm.trans he
  · refine (records _ (List.mem_cons_of_mem _ List.mem_cons_self) (by decide +kernel)).2 ?_
    obtain ⟨e, he, hn⟩ := List.mem_map.1 (handles ▸ List.mem_singleton_self 0)
    exact ⟨e, he, call.trans (congrArg some hn.symm)⟩

/-- The programs are as they should be, and still an input with a known value is found and has no node. -/
theorem input_lost_wrapped : wrapped.Homed ∧ wrapped.Silent ∧
    ∃ outcome, splicing.run wrapped (AliasPartition.ofLists []).oracle = .ok outcome ∧
      ∃ r ∈ outcome.inputs.toList, (wrapped.info? r.value).isSome = true ∧
        outcome.graph.findInput r.value r.origin = none := by
  have lost : (splicing.run wrapped (AliasPartition.ofLists []).oracle).map (fun o =>
      o.inputs.toList.any fun r => (wrapped.info? r.value).isSome &&
        (o.graph.findInput r.value r.origin).isNone) = .ok true := by decide +kernel
  obtain ⟨outcome, ran, lost⟩ := exists_of_map_eq_ok lost
  simp only [List.any_eq_true, Bool.and_eq_true, Option.isNone_iff_eq_none] at lost
  exact ⟨by decide +kernel, by decide +kernel, outcome, ran, lost⟩

end Analysis

end PeerTaint
