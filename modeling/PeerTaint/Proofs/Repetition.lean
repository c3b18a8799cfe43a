import PeerTaint.Proofs.Fetching
import PeerTaint.Proofs.Identity

/-!
Building again.

A builder that has visited every operation has nothing left to expand: operations answer with the node that
they were visited with. Resolving a value may still give it a node, once; after that it answers the same
without a change (`Rests`), and an input that flows into the value has nothing to add either (`Fed`).
So whatever was built once is not built again.
-/

namespace PeerTaint

namespace Build

variable {α β : Type} {s : BuildState}

/-- From `s`, the step answers `a` and changes nothing. -/
def Stays (x : Build α) (a : α) (s : BuildState) : Prop := x.run s = .ok (a, s)

theorem stays_iff_wp {x : Build α} {a : α} :
    Stays x a s ↔ wp x (fun b s' => b = a ∧ s' = s) (fun _ => False) s := by
  constructor
  · intro h
    rw [Stays] at h
    simp [wp, h]
  · intro h
    obtain ⟨b, s', run, rfl, rfl⟩ := h.exists_run
    exact run

theorem Stays.bind {x : Build α} {f : α → Build β} {a : α} {b : β} (hx : Stays x a s) (hf : Stays (f a) b s) :
    Stays (x >>= f) b s := by
  rw [Stays, StateT.run_bind, hx]
  exact hf

theorem Stays.pure (a : α) : Stays (Pure.pure a) a s := rfl

/-- Data that flows already does not flow again. -/
theorem stays_flow {a b : NodeId} (h : s.graph.Flows a b) : Stays (flow a b) () s := by
  have same : s.graph.connect a b .data = (false, s.graph) := by
    rcases Graph.connect_cases s.graph a b .data with ⟨he, -⟩ | ⟨hne, -, -, ⟨edge, -⟩ | ⟨edge, -⟩⟩
    · exact he
    · rw [h hne] at edge
      cases edge
    · rw [h hne] at edge
      cases edge
  rw [stays_iff_wp, wp_flow, same]
  exact ⟨rfl, rfl⟩

end Build

/-- How many of the operations were visited with a node. -/
def BuildState.tally (s : BuildState) (es : List (Program × Operation)) : Nat :=
  es.countP fun e => (s.noted? e.2).join.isSome

theorem BuildState.tally_congr {s s' : BuildState} (h : s'.visited = s.visited)
    (es : List (Program × Operation)) : s'.tally es = s.tally es := by
  simp only [tally, noted?, h]

namespace BuildContext

open Build

/-! ## Visited operations -/

section Stream

variable {c : BuildContext} {s : BuildState}

theorem stays_addOperation {p : Program} {op : Operation} {x : Option NodeId} (hx : s.noted? op = some x) :
    Stays (c.addOperation p op) x s :=
  stays_iff_wp.2 ((wp_expand_of_noted? hx).2 ⟨rfl, rfl⟩)

/-- Visited operations are counted again, and nothing else happens. -/
theorem stays_addStream {es : List (Program × Operation)} (seen : ∀ e ∈ es, (s.noted? e.2).isSome = true) :
    Stays (c.addStream es) (s.tally es) s := by
  induction es with
  | nil => exact .pure 0
  | cons e es ih =>
    obtain ⟨x, hx⟩ := Option.isSome_iff_exists.1 (seen e List.mem_cons_self)
    have rest := ih fun e' he' => seen e' (List.mem_cons_of_mem e he')
    have tally : s.tally (e :: es) = (if x.isSome = true then 1 else 0) + s.tally es := by
      rw [BuildState.tally, List.countP_cons, hx, Option.join_some, Nat.add_comm]
      rfl
    rw [tally]
    exact (stays_addOperation hx).bind (rest.bind (.pure _))

/-- Expanding counts the operations that are visited with a node at the end. -/
theorem wp_addStream_tally (cat : c.programs.Catalogued) {es : List (Program × Operation)}
    (listed : ∀ e ∈ es, e ∈ c.programs.stream) : wp (c.addStream es)
      (fun n s' => c.Progress .any s s' ∧ (∀ e ∈ es, (s'.noted? e.2).isSome = true) ∧ n = s'.tally es)
      (fun _ => True) s := by
  induction es generalizing s with
  | nil => exact ⟨.refl c _ s, by simp, rfl⟩
  | cons e es ih =>
    rw [addStream, wp_bind]
    refine (wp_addOperation_progress (M := .any) (fun _ _ _ => trivial) e.1 trivial).weaken ?_
      fun _ _ => trivial
    rintro x s₁ ⟨e₁, notes⟩
    rw [wp_bind]
    refine (ih fun e' he' => listed e' (List.mem_cons_of_mem e he')).mono ?_
    rintro n s₂ ⟨e₂, seen, count⟩
    have noted : s₂.noted? e.2 = some x := noted?_of_notes cat (listed e List.mem_cons_self) (e₂.noted notes)
    refine ⟨e₁.trans e₂, List.forall_mem_cons.2 ⟨by rw [noted]; rfl, seen⟩, ?_⟩
    rw [BuildState.tally, List.countP_cons, noted, Option.join_some, Nat.add_comm, count]
    rfl

end Stream

/-! ## Live handles -/

/-- Operations are visited with live nodes. -/
def Alive (s : BuildState) : Prop := ∀ i n, s.visited.get? i = some (some n) → s.graph.isLive n = true

/-- Operations that were visited with a node which is removed have none from then on. -/
theorem Alive.retire {s : BuildState} {m : NodeId} {x : Node} {g : Graph} (h : Alive s)
    (wf : s.graph.WellFormed) (removed : s.graph.removeNode m = .ok (x, g)) :
    Alive ⟨g, s.visited.mapValues fun n => if n = some m then none else n⟩ := by
  intro i n hn
  obtain ⟨y, hy, same⟩ := Option.map_eq_some_iff.1 (SortedMap.get?_mapValues.symm.trans hn)
  obtain ⟨-, r⟩ := Graph.removed_of_removeNode wf.toLinked removed
  split at same
  · cases same
  · next other =>
    subst same
    have live := h i n hy
    rw [Graph.isLive_eq_isSome_role?] at live ⊢
    rw [r.role?, if_neg fun gone => other (congrArg some gone)]
    exact live

section Alive

variable {c : BuildContext} {M : Mandate} {s s' : BuildState} (cat : c.programs.Catalogued)
include cat

theorem Answers.isLive {p : Program} {v : Value} {n : NodeId} (h : c.Answers s p v n) (wf : s.graph.WellFormed)
    (alive : Alive s) : s.graph.isLive n = true := by
  obtain found | ⟨-, -, op, hop, noted⟩ := h
  · exact wf.isLive_findNode found
  · obtain ⟨-, q, listed⟩ := cat.definition v op hop
    obtain ⟨i, -, hi⟩ := cat.id _ listed
    exact alive i n (noted i hi)

theorem Marks.isLive {p : Program} {op : Operation} {n : NodeId} (h : c.Marks s p op (some n))
    (wf : s.graph.WellFormed) (alive : Alive s) : s.graph.isLive n = true := by
  cases h with
  | found result node => exact wf.isLive_findNode node
  | memory result mem =>
    rw [Graph.isLive_eq_isSome_role?, wf.mem _ _ _ mem]
    rfl
  | stored opcode operands target => exact target.isLive cat wf alive

/-- What an operation is visited with is live. -/
theorem Event.alive (e : c.Event M s s') (wf : s.graph.WellFormed) (h : Alive s) : Alive s' := by
  rcases e.grows_or_retires with grows | ⟨-, m, x, g, removed, rfl⟩
  · intro i n hn
    -- the operation was visited with the node before, or the node is a new one or was there before
    have stays : s.graph.isLive n = true → s'.graph.isLive n = true := grows.extension.isLive
    cases e with
    | touch | memory | «variable» | input => exact stays (h i n hn)
    | @operation p op label m g g' due new free opcode own made idle edge =>
      by_cases hi : op.id = some i
      · cases hn.symm.trans (notes_note _ op (some m) i hi)
        obtain ⟨rfl, rfl⟩ := Graph.addNode_eq_ok made
        rw [BuildState.graph_note, Graph.isLive_eq_isSome_role?, role?_bindResult, idle.role,
          Graph.role?_place_fresh]
        rfl
      · rw [get?_note hi] at hn
        exact stays (h i n hn)
    | @note p op x due new mark =>
      by_cases hi : op.id = some i
      · cases hn.symm.trans (notes_note s op x i hi)
        exact stays (mark.isLive cat wf h)
      · rw [get?_note hi] at hn
        exact stays (h i n hn)
    | retire due call removed => exact h.retire wf removed i n hn
  · exact h.retire wf removed

theorem Events.alive (e : c.Events M s s') (wf : s.graph.WellFormed) (h : Alive s) : Alive s' := by
  induction e with
  | refl => exact h
  | tail before step ih => exact step.alive cat (Events.wellFormed before wf) ih

end Alive

/-! ## Values and inputs after the operations -/

/-- Every operation was visited, and nothing that was visited with a node has lost it. -/
structure Expanded (c : BuildContext) (s : BuildState) : Prop where
  wf : s.graph.WellFormed
  visited : ∀ e ∈ c.programs.stream, (s.noted? e.2).isSome = true
  alive : Alive s

/-- The value that an input taints rests, and the input flows into the node that it resolves to. -/
def Fed (c : BuildContext) (s : BuildState) (r : InputRecord) : Prop :=
  ∃ t, c.Rests s r.program r.value t ∧
    ∀ n, t = some n → ∃ i, s.graph.findInput r.value r.origin = some i ∧ s.graph.Flows i n

section Inputs

variable {c : BuildContext} {N : Set Value} {s s' : BuildState} {p : Program} {v : Value}

theorem settles_inputNode {o : Origin} {name : String} {n : NodeId} {g : Graph}
    (made : s.graph.inputNode v o name = .ok (n, g)) : c.Settles N s { s with graph := g } where
  visited := rfl
  grows := Graph.Grows.inputNode made
  findNode w p _ hm := (Graph.findNode_inputNode made w p).trans hm
  unbound w p _ := Graph.findNode_inputNode made w p
  pointer w _ _ _ hm := .inl ((Graph.findNode_inputNode made w w.program).symm.trans hm)
  input _ _ _ hm := (Graph.findInput_inputNode_iff made).2 (.inl hm)

theorem Rests.stays {t : Option NodeId} (h : c.Rests s p v t) : Stays (c.valueNode p v) t s := by
  rw [stays_iff_wp]
  simp only [valueNode, nesting, BuildContext.resolve, monadLift_self]
  cases h with
  | foreign other =>
    rw [if_pos other]
    exact ⟨rfl, rfl⟩
  | found bound =>
    rw [if_neg (not_not.2 (program_of_findNode bound)), wp_bind, wp_graph, bound]
    exact ⟨rfl, rfl⟩
  | defined home free scalar defined noted =>
    rw [if_neg (not_not.2 home), wp_bind, wp_graph, free, scalar, defined]
    dsimp only
    rw [wp_bind, wp_expand_of_noted? noted, wp_bind, wp_graph, free]
    exact ⟨rfl, rfl⟩
  | unknown home free scalar undefined unknown =>
    rw [if_neg (not_not.2 home), wp_bind, wp_graph, free, scalar, undefined, unknown]
    exact ⟨rfl, rfl⟩

theorem Settles.expanded (e : c.Settles N s s') (h : c.Expanded s) : c.Expanded s' where
  wf := e.grows.changes.wellFormed h.wf
  visited := by
    simp only [BuildState.noted?, e.visited]
    exact h.visited
  alive i n hn := e.grows.extension.isLive (h.alive i n (e.visited ▸ hn))

theorem Rests.isLive {n : NodeId} (h : c.Rests s p v (some n)) (expanded : c.Expanded s) :
    s.graph.isLive n = true := by
  cases h with
  | found bound => exact expanded.wf.isLive_findNode bound
  | defined home free scalar defined noted =>
    obtain ⟨i, -, hi⟩ := Option.bind_eq_some_iff.1 noted
    exact expanded.alive i n hi

theorem Fed.settles {r : InputRecord} (h : c.Fed s r) (e : c.Settles N s s') : c.Fed s' r := by
  obtain ⟨t, rests, fed⟩ := h
  refine ⟨t, rests.settles e, fun n hn => ?_⟩
  obtain ⟨i, hi, flows⟩ := fed n hn
  exact ⟨i, e.input _ _ i hi, fun hne => e.grows.extension.data i n (flows hne)⟩

/-- There is nothing to do for an input that was entered. -/
theorem Fed.stays {r : InputRecord} (h : c.Fed s r) : Stays (c.addInput r) false s := by
  obtain ⟨t, rests, fed⟩ := h
  refine rests.stays.bind ?_
  cases t with
  | none => exact .pure false
  | some n =>
    obtain ⟨i, hi, flows⟩ := fed n rfl
    have made : s.graph.inputNode r.value r.origin r.instruction = .ok (i, s.graph) := by
      rw [Graph.inputNode, hi]
    have attempt : Stays (Build.attempt (·.inputNode r.value r.origin r.instruction)) i s := by
      rw [stays_iff_wp]
      refine wp_attempt (fun j g hg => ?_) fun e he => ?_
      · cases made.symm.trans hg
        exact ⟨rfl, rfl⟩
      · cases made.symm.trans he
    have new : (s.graph.findInput r.value r.origin).isNone = false := by rw [hi]; rfl
    have graph : Stays Build.graph s.graph s := rfl
    refine graph.bind (attempt.bind ((stays_flow flows).bind ?_))
    rw [new]
    exact .pure false

/-- An input is entered once. -/
theorem wp_addInput_fed (cat : c.programs.Catalogued) (expanded : c.Expanded s) (r : InputRecord) :
    wp (c.addInput r) (fun _ s' => c.Settles .univ s s' ∧ c.Fed s' r) (fun _ => True) s := by
  simp only [addInput, monadLift_self]
  rw [wp_bind]
  refine (wp_valueNode_rests fun op defined => ?_).mono ?_
  · obtain ⟨-, q, listed⟩ := cat.definition _ op defined
    exact expanded.visited _ listed
  rintro t s₁ ⟨settles, -, rests⟩
  have e₁ : c.Settles .univ s s₁ := settles.mono (Set.subset_univ _)
  cases t with
  | none => exact ⟨e₁, none, rests, by simp⟩
  | some n =>
    rw [wp_bind, wp_graph, wp_bind]
    refine wp_attempt (fun i g made => ?_) fun _ _ => trivial
    have entered : c.Settles .univ s₁ { s₁ with graph := g } := settles_inputNode made
    have flow : c.Settles .univ { s₁ with graph := g } { s₁ with graph := (g.connect i n .data).2 } :=
      settles_idle (Graph.Idles.connect g i n .data)
    have found : g.findInput r.value r.origin = some i := Graph.findInput_inputNode made
    rw [wp_bind, wp_flow, wp_pure]
    refine ⟨e₁.trans (entered.trans flow), some n, (rests.settles entered).settles flow, fun m hm => ?_⟩
    cases hm
    refine ⟨i, flow.input _ _ i found, fun hne => ?_⟩
    have expanded' := (e₁.trans entered).expanded expanded
    have source : g.isLive i = true := by
      obtain ⟨p, name, role⟩ := expanded'.wf.input _ _ _ found
      rw [Graph.isLive_eq_isSome_role?, role]
      rfl
    rw [Graph.edgeKind?_flow, if_pos ⟨rfl, rfl, hne, source, (rests.settles entered).isLive expanded'⟩]

theorem wp_addRecords_fed (cat : c.programs.Catalogued) (expanded : c.Expanded s) (rs : List InputRecord) :
    wp (c.addRecords rs) (fun _ s' => c.Settles .univ s s' ∧ ∀ r ∈ rs, c.Fed s' r) (fun _ => True) s := by
  induction rs generalizing s with
  | nil => exact ⟨.refl c _ s, by simp⟩
  | cons r rs ih =>
    rw [addRecords, wp_bind]
    refine (wp_addInput_fed cat expanded r).mono ?_
    rintro _ s₁ ⟨e₁, fed⟩
    rw [wp_bind]
    refine (ih (e₁.expanded expanded)).mono ?_
    rintro _ s₂ ⟨e₂, rest⟩
    exact ⟨e₁.trans e₂, List.forall_mem_cons.2 ⟨fed.settles e₂, rest⟩⟩

theorem stays_addRecords {rs : List InputRecord} (fed : ∀ r ∈ rs, c.Fed s r) : Stays (c.addRecords rs) 0 s := by
  induction rs with
  | nil => exact .pure 0
  | cons r rs ih =>
    obtain ⟨first, rest⟩ := List.forall_mem_cons.1 fed
    exact first.stays.bind ((ih rest).bind (.pure 0))

end Inputs

/-! ## The whole build -/

/-- Attaches inputs, if there are some. -/
def attach (c : BuildContext) : Option InputSets → Build Unit
  | some sets => discard (c.addInputs sets)
  | none => pure ()

/-- What follows the expansion of all routines: the known calls are spliced if that is wanted, and inputs
are attached. -/
def finish (c : BuildContext) (splice : Bool) (inputs : Option InputSets) : Build Unit := do
  if splice then discard c.spliceKnownCalls
  c.attach inputs

section Whole

variable {c : BuildContext} {s : BuildState} (cat : c.programs.Catalogued)
include cat

theorem wp_buildAll_expanded : wp c.buildAll
    (fun n s => c.Expanded s ∧ n = s.tally c.programs.stream) (fun _ => True) {} := by
  rw [buildAll_eq]
  refine (wp_addStream_tally cat fun _ he => he).mono fun n s ⟨progress, visited, count⟩ =>
    ⟨⟨?_, visited, ?_⟩, count⟩
  · exact progress.events.wellFormed Graph.wellFormed_empty
  · exact progress.events.alive cat Graph.wellFormed_empty fun _ _ hn => by cases hn

theorem Events.expanded {M : Mandate} {s' : BuildState} (e : c.Events M s s') (h : c.Expanded s) : c.Expanded s' :=
  ⟨e.wellFormed h.wf, fun op hop => e.isSome_noted? op.2 (h.visited op hop), e.alive cat h.wf h.alive⟩

theorem wp_spliceKnownCalls_expanded (expanded : c.Expanded s) :
    wp c.spliceKnownCalls (fun _ s' => c.Expanded s') (fun _ => True) s := by
  have acts : c.Acts .any c.Tame c.spliceKnownCalls s :=
    acts_spliceKnownCalls (fun _ _ _ => trivial) trivial expanded.wf
  exact acts.weaken (fun _ s' events => Events.expanded cat events expanded) fun _ _ => trivial

theorem wp_attach_fed (expanded : c.Expanded s) (inputs : Option InputSets) : wp (c.attach inputs)
    (fun _ s' => c.Settles .univ s s' ∧ ∀ sets, inputs = some sets → ∀ r ∈ sets.toList, c.Fed s' r)
    (fun _ => True) s := by
  cases inputs with
  | none => exact ⟨.refl c _ s, nofun⟩
  | some sets =>
    refine wp_discard.2 ((wp_addRecords_fed cat expanded sets.toList).mono fun _ s' ⟨e, fed⟩ => ⟨e, ?_⟩)
    rintro _ ⟨⟩
    exact fed

theorem wp_finish (expanded : c.Expanded s) (splice : Bool) (inputs : Option InputSets) :
    wp (c.finish splice inputs) (fun _ s' => c.Expanded s' ∧ (splice = false → s'.visited = s.visited) ∧
      ∀ sets, inputs = some sets → ∀ r ∈ sets.toList, c.Fed s' r) (fun _ => True) s := by
  cases splice with
  | false =>
    exact (wp_attach_fed cat expanded inputs).mono fun _ s' ⟨e, fed⟩ =>
      ⟨e.expanded expanded, fun _ => e.visited, fed⟩
  | true =>
    change wp (discard c.spliceKnownCalls >>= _) _ _ s
    rw [wp_bind, wp_discard]
    refine (wp_spliceKnownCalls_expanded cat expanded).mono fun _ s₁ expanded₁ => ?_
    exact (wp_attach_fed cat expanded₁ inputs).mono fun _ s' ⟨e, fed⟩ => ⟨e.expanded expanded₁, nofun, fed⟩

end Whole

/-- What was built once is not built again. After all routines, with or without splices and inputs, further
routines, operations and inputs of the same kind leave everything as it is. -/
theorem build_idempotent (c : BuildContext) (registered : c.programs.Registered) (count : Nat)
    (s₀ : BuildState) (built : c.buildAll.run {} = .ok (count, s₀)) (splice : Bool)
    (inputs : Option InputSets) (s : BuildState) (finished : (c.finish splice inputs).run s₀ = .ok ((), s)) :
    (∃ again, c.buildAll.run s = .ok (again, s) ∧ (splice = false → again = count)) ∧
      (∀ r ∈ c.programs.routines, ∃ n, (c.addRoutine r).run s = .ok (n, s)) ∧
      (∀ e ∈ c.programs.stream, ∀ p, ∃ x, (c.addOperation p e.2).run s = .ok (x, s)) ∧
      ∀ sets, inputs = some sets → (c.addInputs sets).run s = .ok (0, s) := by
  have cat := registered.catalogued
  obtain ⟨expanded₀, rfl⟩ := (wp_buildAll_expanded cat).run built
  obtain ⟨expanded, unspliced, fed⟩ := (wp_finish cat expanded₀ splice inputs).run finished
  refine ⟨⟨s.tally c.programs.stream, ?_, fun h => ?_⟩, fun r hr => ?_, fun e he p => ?_, fun sets h => ?_⟩
  · rw [buildAll_eq]
    exact stays_addStream expanded.visited
  · exact BuildState.tally_congr (unspliced h) _
  · rw [addRoutine, addOperations_eq]
    refine ⟨_, stays_addStream fun e he => expanded.visited e ?_⟩
    exact List.mem_flatMap.2 ⟨r, hr, he⟩
  · obtain ⟨x, hx⟩ := Option.isSome_iff_exists.1 (expanded.visited e he)
    exact ⟨x, stays_addOperation hx⟩
  · exact stays_addRecords (fed sets h)

/-- Inputs into a pointer of `fanout`, into the result of its call, and into a value that none of its
operations knows. -/
def fanoutInputs : InputSets := InputSets.empty.insertAll
  [.ofValue ⟨.first, 0⟩ true "recv" .networkReceive, .ofValue ⟨.first, 3⟩ false "read" .rawByteRead,
    .ofValue ⟨.first, 6⟩ false "getenv" .environment]

/-- The splice takes out the call, so that its result has no node for the input. The others get theirs, and
the value that no operation knows gets a node of its own. Nothing of this is done again. -/
theorem build_idempotent_fanout : fanout.programs.Registered ∧ ∃ s₀ s,
    fanout.buildAll.run {} = .ok (4, s₀) ∧ (fanout.finish true (some fanoutInputs)).run s₀ = .ok ((), s) ∧
    fanoutInputs.toList.map (fun r => (s.graph.findInput r.value r.origin).isSome) = [false, true, true] ∧
    (∃ again, fanout.buildAll.run s = .ok (again, s)) ∧ (fanout.addInputs fanoutInputs).run s = .ok (0, s) := by
  have registered : fanout.programs.Registered := ProgramPair.registered_ofRoutines ..
  have outcome : (((fanout.buildAll : Build Nat).run {}).bind fun r =>
      ((fanout.finish true (some fanoutInputs)).run r.2).map fun r' =>
        (r.1, fanoutInputs.toList.map fun r => (r'.2.graph.findInput r.value r.origin).isSome)) =
      .ok (4, [false, true, true]) := by decide +kernel
  cases built : fanout.buildAll.run {} with
  | error f =>
    rw [built] at outcome
    cases outcome
  | ok r =>
    rw [built] at outcome
    obtain ⟨r', finished, outcome⟩ := exists_of_map_eq_ok outcome
    obtain ⟨count, found⟩ := Prod.mk.inj outcome
    obtain ⟨⟨again, rebuilt, -⟩, -, -, entered⟩ :=
      build_idempotent fanout registered r.1 r.2 built true (some fanoutInputs) r'.2 finished
    exact ⟨registered, r.2, r'.2, by rw [← count], finished, found, ⟨again, rebuilt⟩, entered _ rfl⟩

end BuildContext

end PeerTaint
