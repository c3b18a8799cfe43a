import PeerTaint.Proofs.Counts
import PeerTaint.Proofs.Records
import PeerTaint.Proofs.Repetition

/-!
Where inputs lead.

Inputs are entered when everything else is built. From then on an input leads into the node of its value and
nowhere else (`Drained`), whichever of the value's inputs it is. So the one record that a value has in the set
of all leads to the memory that its local and its network record lead to together, and nothing is missed when
a report counts by that set.
-/

namespace PeerTaint

namespace BuildContext

open Build

variable {c : BuildContext} {M : Mandate} {s s' : BuildState}

/-! ## Building without inputs -/

/-- Inputs are found that were there, or that the builder may enter. -/
theorem Event.findInput (e : c.Event M s s') (wf : s.graph.WellFormed) {v : Value} {o : Origin} {i : NodeId}
    (hi : s'.graph.findInput v o = some i) : s.graph.findInput v o = some i ∨ M.enters v o := by
  unfold Graph.findInput at hi ⊢
  cases e with
  | touch idle =>
    rw [idle.same.input] at hi
    exact .inl hi
  | memory due pointer made =>
    rcases Graph.memNode_eq_ok made with ⟨-, rfl⟩ | ⟨-, -, rfl⟩
    · exact .inl hi
    · exact .inl ((congrArg (·.get? (v, o)) (Graph.inputNodes_place ..)).symm.trans hi)
  | @operation p op label n g g' due new free opcode own made idle =>
    have bound : (bindResult (c.boundResult? op) n g').inputNodes = g'.inputNodes := by
      unfold bindResult
      split <;> rfl
    obtain ⟨-, rfl⟩ := Graph.addNode_eq_ok made
    rw [BuildState.graph_note, bound, idle.same.input, Graph.inputNodes_place] at hi
    exact .inl hi
  | «variable» scalar undefined known free made =>
    obtain ⟨-, rfl⟩ := Graph.addNode_eq_ok made
    exact .inl ((congrArg (·.get? (v, o)) (Graph.inputNodes_place ..)).symm.trans hi)
  | note =>
    rw [BuildState.graph_note] at hi
    exact .inl hi
  | input due made =>
    rcases (Graph.findInput_inputNode_iff made).1 hi with old | ⟨⟨rfl, rfl⟩, -⟩
    · exact .inl old
    · exact .inr due
  | retire due call removed =>
    rw [(Graph.removed_of_removeNode wf.toLinked removed).2.input] at hi
    exact .inl (get?_filterValues_otherThan.1 hi).1

/-- No input was entered yet. -/
def Dry (s : BuildState) : Prop := ∀ v o, s.graph.findInput v o = none

/-- A builder that enters no input. -/
def Mandate.shut : Mandate := ⟨fun _ _ => True, fun _ _ => False, True⟩

theorem Events.dry (e : c.Events .shut s s') (wf : s.graph.WellFormed) (h : Dry s) : Dry s' := by
  induction e with
  | refl => exact h
  | tail before step ih =>
    intro v o
    refine Option.eq_none_iff_forall_ne_some.2 fun i hi => ?_
    rcases step.findInput (Events.wellFormed before wf) hi with old | entered
    · rw [ih v o] at old
      cases old
    · exact entered

/-! ## Entering inputs -/

/-- Inputs lead into the nodes of their values. -/
def Drained (c : BuildContext) (s : BuildState) : Prop :=
  ∀ v o i b, s.graph.findInput v o = some i → s.graph.Edge i b → c.Rests s v.program v (some b)

theorem Dry.drained (h : Dry s) : c.Drained s := by
  intro v o i b hi
  rw [h v o] at hi
  cases hi

theorem Rests.unique {p : Program} {v : Value} {t t' : Option NodeId} (h : c.Rests s p v t)
    (h' : c.Rests s p v t') : t = t' := by
  have same : Except.ok (t, s) = Except.ok (t', s) := h.stays.symm.trans h'.stays
  cases same
  rfl

theorem Drained.obtains (h : c.Drained s) {v : Value} {p : Program} {t : Option NodeId}
    (obtains : c.Obtains s v p t s') : c.Drained s' := by
  intro w o i b hi edge
  rw [Graph.findInput, obtains.inputNodes] at hi
  rw [Graph.Edge, Graph.hasEdge, obtains.edgeKind?] at edge
  exact (h w o i b hi edge).settles obtains.settles

/-- A new input leads nowhere. -/
theorem Drained.inputNode (h : c.Drained s) {v : Value} {o : Origin} {name : String} {n : NodeId} {g : Graph}
    (made : s.graph.inputNode v o name = .ok (n, g)) : c.Drained { s with graph := g } := by
  intro w o' i b hi edge
  rw [Graph.Edge, Graph.hasEdge, Graph.edgeKind?_inputNode made] at edge
  have settles : c.Settles .univ s { s with graph := g } := settles_inputNode made
  rcases (Graph.findInput_inputNode_iff made).1 hi with old | ⟨⟨rfl, rfl⟩, rfl⟩
  · exact (h w o' i b old edge).settles settles
  · rcases Graph.inputNode_eq_ok made with ⟨old, -⟩ | ⟨-, rfl, -⟩
    · exact (h w o' _ b old edge).settles settles
    · rw [Graph.edgeKind?, Graph.node?_of_size_le le_rfl] at edge
      cases edge

theorem Drained.flow (h : c.Drained s) (wf : s.graph.WellFormed) {v : Value} {o : Origin} {i n : NodeId}
    (found : s.graph.findInput v o = some i) (rests : c.Rests s v.program v (some n)) :
    c.Drained { s with graph := (s.graph.connect i n .data).2 } := by
  have settles : c.Settles .univ s { s with graph := (s.graph.connect i n .data).2 } :=
    settles_idle (Graph.Idles.connect s.graph i n .data)
  intro w o' j b hj edge
  rw [Graph.findInput, Graph.inputNodes_connect] at hj
  rw [Graph.Edge, Graph.hasEdge, Graph.edgeKind?_flow] at edge
  split at edge
  · next drawn =>
    obtain ⟨rfl, rfl, -⟩ := drawn
    -- an input node stands for one value only
    obtain ⟨p, name, role⟩ := wf.input v o j found
    obtain ⟨q, name', role'⟩ := wf.input w o' j hj
    cases role.symm.trans role'
    exact rests.settles settles
  · exact (h w o' j b hj edge).settles settles

theorem wp_addInput_drained (cat : c.programs.Catalogued) (expanded : c.Expanded s) (h : c.Drained s)
    {r : InputRecord} (home : r.program = r.value.program) :
    wp (c.addInput r) (fun _ s' => c.Drained s') (fun _ => True) s := by
  simp only [addInput, monadLift_self]
  rw [wp_bind]
  refine (wp_valueNode_obtains fun op defined => ?_).mono fun t s₁ obtains => ?_
  · obtain ⟨-, q, listed⟩ := cat.definition _ op defined
    exact expanded.visited _ listed
  have h₁ := h.obtains obtains
  cases t with
  | none => exact h₁
  | some n =>
    rw [wp_bind, wp_graph, wp_bind]
    refine wp_attempt (fun i g made => ?_) fun _ _ => trivial
    have entered : c.Settles .univ s₁ { s₁ with graph := g } := settles_inputNode made
    have rests : c.Rests { s₁ with graph := g } r.value.program r.value (some n) :=
      (home ▸ obtains.rests).settles entered
    have wf := (entered.expanded (obtains.settles.expanded expanded)).wf
    rw [wp_bind, wp_flow, wp_pure]
    exact (h₁.inputNode made).flow wf (Graph.findInput_inputNode made) rests

theorem wp_addRecords_drained (cat : c.programs.Catalogued) (expanded : c.Expanded s) (h : c.Drained s)
    {rs : List InputRecord} (home : ∀ r ∈ rs, r.program = r.value.program) :
    wp (c.addRecords rs) (fun _ s' => c.Drained s') (fun _ => True) s := by
  induction rs generalizing s with
  | nil => exact h
  | cons r rs ih =>
    obtain ⟨first, rest⟩ := List.forall_mem_cons.1 home
    rw [addRecords, wp_bind]
    refine ((wp_addInput_fed cat expanded r).and (wp_addInput_drained cat expanded h first)).mono ?_
    rintro _ s₁ ⟨⟨settles, -⟩, h₁⟩
    rw [wp_bind]
    exact (ih (settles.expanded expanded) h₁ rest).mono fun _ _ h₂ => h₂

section Assemble

variable (cat : c.programs.Catalogued) {inputs : InputSets}
  (home : ∀ r ∈ inputs.toList, r.program = r.value.program)
include cat home

/-- Every input was entered, and leads into the node of its value. -/
structure Supplied (c : BuildContext) (inputs : InputSets) (s : BuildState) : Prop extends c.Expanded s where
  fed : ∀ r ∈ inputs.toList, c.Fed s r
  drained : c.Drained s

theorem wp_addInputs_supplied (expanded : c.Expanded s) (dry : Dry s) :
    wp (discard (c.addInputs inputs)) (fun _ s' => c.Supplied inputs s') (fun _ => True) s := by
  rw [wp_discard]
  refine ((wp_addRecords_fed cat expanded _).and (wp_addRecords_drained cat expanded dry.drained home)).mono ?_
  rintro _ s₁ ⟨⟨settles, fed⟩, drained⟩
  exact ⟨settles.expanded expanded, fed, drained⟩

theorem wp_assemble_supplied (splice : Bool) :
    wp (c.assemble splice inputs) (fun _ s => c.Supplied inputs s) (fun _ => True) {} := by
  have shut : ∀ v op, c.programs.definition? v = some op → Mandate.shut.expands v.program op :=
    fun _ _ _ => trivial
  have all : c.Proceeds .shut c.Tame c.buildAll {} := proceeds_addRoutines shut fun _ _ _ _ => trivial
  unfold assemble
  rw [wp_bind, wp_discard]
  refine ((wp_buildAll_expanded cat).and all).mono ?_
  rintro _ s₁ ⟨⟨expanded, -⟩, progress⟩
  have dry : Dry s₁ := progress.events.dry Graph.wellFormed_empty fun _ _ => rfl
  cases splice with
  | false => exact wp_addInputs_supplied cat home expanded dry
  | true =>
    have calls : c.Acts .shut c.Tame c.spliceKnownCalls s₁ := acts_spliceKnownCalls shut trivial expanded.wf
    change wp (discard c.spliceKnownCalls >>= _) _ _ s₁
    rw [wp_bind, wp_discard]
    refine ((wp_spliceKnownCalls_expanded cat expanded).and calls).mono ?_
    rintro _ s₂ ⟨expanded₂, events⟩
    exact wp_addInputs_supplied cat home expanded₂ (events.dry expanded.wf dry)

end Assemble

/-! ## What inputs reach -/

section Reach

variable {inputs : InputSets} (h : c.Supplied inputs s) (collected : inputs.Collected)
  (home : ∀ r ∈ inputs.toList, r.program = r.value.program)

include h home in
/-- What one input of a value leads to, each of its inputs leads to, the input itself apart. -/
theorem Supplied.reaches {r r' : InputRecord} (hr : r' ∈ inputs.toList) (same : r'.value = r.value)
    {a n : NodeId} (ha : s.graph.findInput r.value r.origin = some a) (reaches : s.graph.Reaches a n)
    (other : a ≠ n) : ∃ a', s.graph.findInput r'.value r'.origin = some a' ∧ s.graph.Reaches a' n := by
  obtain rfl | ⟨b, edge, path⟩ := Relation.ReflTransGen.cases_head reaches.2
  · exact absurd rfl other
  have rests := h.drained _ _ _ _ ha edge
  obtain ⟨t, rests', fed⟩ := h.fed r' hr
  rw [home r' hr, same] at rests'
  obtain ⟨a', ha', flows⟩ := fed b (rests'.unique rests)
  obtain ⟨p, name, role⟩ := h.wf.input _ _ _ ha'
  have live : s.graph.isLive a' = true := by
    rw [Graph.isLive_eq_isSome_role?, role]
    rfl
  refine ⟨a', ha', live, ?_⟩
  by_cases here : a' = b
  · exact here ▸ path
  · exact .head (Graph.hasEdge_iff.2 ⟨_, flows here⟩) path

include h collected home in
/-- The set of all leads to the memory that the local and the network records lead to. -/
theorem Supplied.memoryFrom_all (p : Program) : s.graph.memoryFrom inputs p .all =
    s.graph.memoryFrom inputs p .local ∪ s.graph.memoryFrom inputs p .network := by
  have transfer : ∀ {scope n}, n ∈ s.graph.memoryFrom inputs p scope → n ∈ s.graph.memoryFrom inputs p .all := by
    rintro scope n ⟨⟨x, hx, mem⟩, r, hr, a, ha, reaches⟩
    obtain ⟨r', hr'⟩ := Option.isSome_iff_exists.1
      (collected.covered p scope r.value (by rw [collected.mem_records_iff.1 hr]; rfl))
    obtain ⟨-, same, -⟩ := InputSets.files_iff.1 (collected.files hr')
    have listed : r' ∈ inputs.toList := by
      rw [InputSets.mem_toList_iff]
      refine ⟨p, ?_⟩
      change r' ∈ inputs.records p .local ∨ r' ∈ inputs.records p .network
      rw [collected.mem_records_iff, collected.mem_records_iff, same]
      exact collected.get?_all_cases hr'
    have source := Graph.isSource_of_mem_sources inputs p scope h.wf.toIndexed
      ((Graph.mem_sources_iff inputs p scope).2 ⟨r, hr, ha⟩)
    have other : a ≠ n := by
      rintro rfl
      rw [source x hx] at mem
      cases mem
    obtain ⟨a', ha', reaches'⟩ := h.reaches home listed same ha reaches other
    refine ⟨⟨x, hx, mem⟩, r', ?_, a', ha', reaches'⟩
    rw [collected.mem_records_iff, same]
    exact hr'
  refine Set.Subset.antisymm ?_ (Set.union_subset (fun n hn => transfer hn) fun n hn => transfer hn)
  rintro n ⟨mem, r, hr, a, ha, reaches⟩
  rcases collected.get?_all_cases (collected.mem_records_iff.1 hr) with own | own
  · exact .inl ⟨mem, r, collected.mem_records_iff.2 own, a, ha, reaches⟩
  · exact .inr ⟨mem, r, collected.mem_records_iff.2 own, a, ha, reaches⟩

end Reach

end BuildContext

namespace Graph

/-- A pass over the local and the network inputs of the peer counts what is reached from either. -/
theorem count_countChecks_peer {g : Graph} (wf : g.WellFormed) (c : ReachabilityConfig) (memo : PathMemo)
    (inputs : InputSets) (p : Program) :
    (g.countChecks c memo .empty (some p.peer)
        (g.sources inputs p.peer .local ++ g.sources inputs p.peer .network)).found.count
      = g.weight ((g.memoryFrom inputs p.peer .local ∪ g.memoryFrom inputs p.peer .network) ∩ g.nodesOf p) := by
  have sources : ∀ a ∈ g.sources inputs p.peer .local ++ g.sources inputs p.peer .network, g.IsSource a := by
    intro a ha
    rcases List.mem_append.1 ha with ha | ha
    · exact isSource_of_mem_sources inputs p.peer .local wf.toIndexed ha
    · exact isSource_of_mem_sources inputs p.peer .network wf.toIndexed ha
  have closed : ∀ m, m ∈ (SortedSet.empty : SortedSet NodeId) → g.IsSource m →
      ∀ n ∈ g.targets (some p.peer) m, n ∈ (SortedSet.empty : SortedSet NodeId) :=
    fun m hm => absurd hm SortedSet.not_mem_empty
  have tallied := tallied_countChecks (c := c) wf.toLinked memo closed sources
  rw [tallied.count]
  congr 1
  ext n
  have counted := tallied.counted n
  rw [Set.union_inter_distrib_right, ← targets_sources_outside, ← targets_sources_outside]
  simpa [or_and_right, exists_or] using counted

end Graph

namespace Analysis

theorem report_of_run {a : Analysis} {m : ProgramPair} {oracle : AliasOracle} {outcome : AnalysisOutcome}
    (ran : a.run m oracle = .ok outcome) : a.report outcome.graph outcome.inputs = .ok outcome.report := by
  unfold run at ran
  split at ran
  · cases ran
  · next k _ =>
    dsimp only at ran
    split at ran
    · cases ran
    · next s built =>
      cases hr : a.report s.graph (k.classifyAll m) with
      | error e =>
        rw [hr] at ran
        cases ran
      | ok report =>
        rw [hr] at ran
        cases ran
        exact hr

/-- What a program's inputs lead to by the set of all is what its local and its network inputs lead to. So the
accesses of a program that are counted for the inputs of its peer are those that a pass over all inputs of the
peer counts, local and network alike. -/
theorem run_counts_all_inputs (a : Analysis) (m : ProgramPair) (registered : m.Registered)
    (oracle : AliasOracle) (outcome : AnalysisOutcome) (ran : a.run m oracle = .ok outcome) (p : Program) :
    outcome.graph.memoryFrom outcome.inputs p.peer .all =
        outcome.graph.memoryFrom outcome.inputs p.peer .local ∪
          outcome.graph.memoryFrom outcome.inputs p.peer .network ∧
      ∃ pr, outcome.report.program? p = some pr ∧
        pr.counts.crossChecks = outcome.graph.weight
          ((outcome.graph.memoryFrom outcome.inputs p.peer .local ∪
            outcome.graph.memoryFrom outcome.inputs p.peer .network) ∩ outcome.graph.nodesOf p) ∧
        ∀ c memo, pr.counts.crossChecks = (outcome.graph.countChecks c memo .empty (some p.peer)
          (outcome.graph.sources outcome.inputs p.peer .local ++
            outcome.graph.sources outcome.inputs p.peer .network)).found.count := by
  obtain ⟨k, s, inputs, graph, run⟩ := run_eq_ok ran
  have collected : outcome.inputs.Collected := by
    rw [inputs]
    exact InputClassifier.collected_classifyAll k m
  have home : ∀ r ∈ outcome.inputs.toList, r.program = r.value.program := by
    rw [inputs]
    exact fun r => InputClassifier.program_of_mem_classifyAll
  have supplied := (BuildContext.wp_assemble_supplied registered.catalogued home _).run run
  have all := supplied.memoryFrom_all collected home p.peer
  obtain ⟨report, made, counts⟩ := Graph.report_eq_ok supplied.wf a outcome.inputs
  rw [← graph] at all made counts
  cases (report_of_run ran).symm.trans made
  obtain ⟨pr, hpr, counts⟩ := counts p
  have weight := counts.crossChecks
  rw [all] at weight
  refine ⟨all, pr, hpr, weight, fun c memo => ?_⟩
  rw [weight, Graph.count_countChecks_peer (graph ▸ supplied.wf)]

/-- The first program receives into `buf`, reads a line into it and sends what it then loads. The second
program loads what it received. -/
def relay : ProgramPair := .ofRoutines
  [(.first, .pointer "buf"), (.first, .scalar "x"), (.second, .pointer "data"), (.second, .scalar "y")]
  [{ name := "main", program := .first, operations :=
      [{ opcode := .call, operands := [⟨.first, 0⟩], target := some "recv", location := some ⟨"a.c", 3⟩ },
        { opcode := .call, operands := [⟨.first, 0⟩], target := some "fgets" },
        { opcode := .load, operands := [⟨.first, 0⟩], result := some ⟨.first, 1⟩ },
        { opcode := .call, operands := [⟨.first, 1⟩], target := some "send", location := some ⟨"a.c", 6⟩ }] },
    { name := "main", program := .second, operations :=
      [{ opcode := .call, operands := [⟨.second, 0⟩], target := some "RECV", location := some ⟨"b.c", 2⟩ },
        { opcode := .load, operands := [⟨.second, 0⟩], result := some ⟨.second, 1⟩ }] }]

/-- The local input of `buf` is the node `8` and its network input the node `9`. The set of all knows the first
one only, and with it both accesses of the second program to `data` are counted. -/
theorem run_counts_all_inputs_relay : relay.Registered ∧ ∃ outcome,
    run ⟨{}⟩ relay (AliasPartition.ofLists [[⟨.first, 0⟩], [⟨.second, 0⟩]]).oracle = .ok outcome ∧
      outcome.graph.sources outcome.inputs .first .all = [8] ∧
      outcome.graph.sources outcome.inputs .first .local ++ outcome.graph.sources outcome.inputs .first .network
        = [8, 9] ∧
      ∃ pr, outcome.report.program? .second = some pr ∧ pr.counts.crossChecks = 2 ∧
        2 = (outcome.graph.countChecks {} {} .empty (some .first) [8, 9]).found.count := by
  have registered : relay.Registered := ProgramPair.registered_ofRoutines ..
  have found : (run ⟨{}⟩ relay (AliasPartition.ofLists [[⟨.first, 0⟩], [⟨.second, 0⟩]]).oracle).map
      (fun outcome => (outcome.graph.sources outcome.inputs .first .all,
        outcome.graph.sources outcome.inputs .first .local ++ outcome.graph.sources outcome.inputs .first .network,
        (outcome.report.program? .second).map (·.counts.crossChecks))) = .ok ([8], [8, 9], some 2) := by
    decide +kernel
  obtain ⟨outcome, ran, found⟩ := exists_of_map_eq_ok found
  simp only [Prod.mk.injEq] at found
  obtain ⟨all, either, count⟩ := found
  obtain ⟨-, pr, hpr, -, pass⟩ := run_counts_all_inputs ⟨{}⟩ relay registered _ outcome ran .second
  have two : pr.counts.crossChecks = 2 := by
    rw [hpr] at count
    exact Option.some.inj count
  have again := pass {} {}
  rw [two] at again
  exact ⟨registered, outcome, ran, all, either, pr, hpr, two, either ▸ again⟩

end Analysis

end PeerTaint
