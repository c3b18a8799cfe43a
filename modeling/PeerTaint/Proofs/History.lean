import PeerTaint.Proofs.BuildSteps

/-!
Every graph that can arise.

A graph arises from the empty one by a list of mutations: operations of the store and requests to a
builder, whatever the builder consults and remembers. The main result says that the parts of every
such graph agree, that its statistics add up, and that no handle is ever given to a second node.
-/

namespace PeerTaint

/-- What a builder can be asked for. -/
inductive BuildRequest where
  | operation (p : Program) (op : Operation)
  | value (p : Program) (v : Value)
  | connectValues (p : Program) (a b : Value) (kind : EdgeKind)
  | inputs (sets : InputSets)
  | routine (r : Routine)
  | all
  | spliceCall (n : NodeId) (callee : Routine)
  | spliceKnownCalls

/-- Carries a request out. -/
def BuildRequest.run {m : Type → Type} [Monad m] [MonadLiftT Build m] [Journal m] (c : BuildContext) :
    BuildRequest → m Unit
  | operation p op => discard (c.addOperation p op)
  | value p v => discard (c.valueNode p v)
  | connectValues p a b kind => discard (c.connectValues p a b kind)
  | inputs sets => discard (c.addInputs sets)
  | routine r => discard (c.addRoutine r)
  | all => discard c.buildAll
  | spliceCall n callee => c.spliceCall n callee
  | spliceKnownCalls => discard c.spliceKnownCalls

/-- A change of a graph. A builder may have visited any operations before. -/
inductive Mutation where
  | addNode (p : Program) (kind : NodeKind) (label : String)
  | memNode (p : Program) (k : AliasKey) (label : String)
  | inputNode (v : Value) (o : Origin) (name : String)
  | recordAccess (n : NodeId)
  | connect (a b : NodeId) (kind : EdgeKind)
  | removeNode (n : NodeId)
  | insertDetached (node : Node)
  | build (c : BuildContext) (visited : SortedMap Nat (Option NodeId)) (request : BuildRequest)

namespace Mutation

/-- The graph after an operation; one that is refused leaves the graph as it is. Operations of the store are
refused before they change anything. A request to a builder can stop half-way, since there are no handles left or
the oracle contradicts itself; it is taken back whole, with the nodes that it made before. -/
def accepted {ε α : Type} (g : Graph) : Except ε (α × Graph) → Graph
  | .ok (_, g') => g'
  | .error _ => g

/-- The graph after a mutation, where a refused one is taken back (`accepted`). -/
def apply (g : Graph) : Mutation → Graph
  | addNode p kind label => accepted g (g.addNode p kind label)
  | memNode p k label => accepted g (g.memNode p k label)
  | inputNode v o name => accepted g (g.inputNode v o name)
  | recordAccess n => g.recordAccess n
  | connect a b kind => (g.connect a b kind).2
  | removeNode n => accepted g (g.removeNode n)
  | insertDetached node => accepted g (g.insertDetached node)
  | build c visited request =>
    accepted g (((request.run c : Build Unit).run { graph := g, visited := visited }).map fun r => ((), r.2.graph))

/-- The handle that a mutation answers with. -/
def handle? (g : Graph) : Mutation → Option NodeId
  | addNode p kind label => (g.addNode p kind label).toOption.map (·.1)
  | memNode p k label => (g.memNode p k label).toOption.map (·.1)
  | inputNode v o name => (g.inputNode v o name).toOption.map (·.1)
  | insertDetached node => (g.insertDetached node).toOption.map (·.1)
  | recordAccess _ | connect .. | removeNode _ | build .. => none

end Mutation

namespace Graph

/-- The graph that mutations make out of another one. -/
def through (g : Graph) (ms : List Mutation) : Graph := ms.foldl Mutation.apply g

/-- The graph that arises by mutations. -/
def after (ms : List Mutation) : Graph := empty.through ms

theorem after_append (ms ms' : List Mutation) : after (ms ++ ms') = (after ms).through ms' :=
  List.foldl_append

/-! ## Mutations are changes -/

theorem changes_accepted {ε α : Type} {g : Graph} {r : Except ε (α × Graph)}
    (h : ∀ a g', r = .ok (a, g') → Changes g g') : Changes g (Mutation.accepted g r) := by
  cases r with
  | ok r => exact h r.1 r.2 rfl
  | error e => exact .refl

theorem along_request (c : BuildContext) (request : BuildRequest) :
    Build.Along Change (request.run c) := by
  have grow : ∀ {α : Type} {x : Build α}, Build.Along Growth x → Build.Along Change (discard x) :=
    fun h => .map _ (h.mono fun _ _ => .grow)
  cases request with
  | operation p op => exact grow (c.along_addOperation p op)
  | value p v => exact grow (c.along_valueNode p v)
  | connectValues p a b kind => exact grow (c.along_connectValues p a b kind)
  | inputs sets => exact grow (c.along_addInputs sets)
  | routine r => exact grow (c.along_addOperations r.program r.operations)
  | all => exact grow c.along_buildAll
  | spliceCall n callee => exact c.along_spliceCall n callee
  | spliceKnownCalls => exact .map _ c.along_spliceKnownCalls

theorem changes_apply (g : Graph) (m : Mutation) : Changes g (m.apply g) := by
  cases m with
  | addNode p kind label => exact changes_accepted fun n g' h => (Grows.addNode h).changes
  | memNode p k label => exact changes_accepted fun n g' h => (Grows.memNode h).1.changes
  | inputNode v o name => exact changes_accepted fun n g' h => (Grows.inputNode h).changes
  | recordAccess n => exact .single (.grow (.modify n (by exact ⟨fun _ => rfl, fun _ => rfl⟩)))
  | connect a b kind => exact .single (.grow (.connect a b kind))
  | removeNode n => exact changes_accepted fun x g' h => .single (.remove h)
  | insertDetached node => exact changes_accepted fun n g' h => (Changes.insertDetached h).2.2
  | build c visited request =>
    refine changes_accepted fun _ g' h => ?_
    cases hr : (request.run c).run { graph := g, visited := visited } with
    | error f => rw [hr] at h; cases h
    | ok r =>
      rw [hr] at h
      cases h
      exact (along_request c request).run hr

theorem changes_through (g : Graph) (ms : List Mutation) : Changes g (g.through ms) := by
  induction ms generalizing g with
  | nil => exact .refl
  | cons m ms ih => exact (changes_apply g m).trans (ih _)

theorem wellFormed_after (ms : List Mutation) : WellFormed (after ms) :=
  (changes_through empty ms).wellFormed wellFormed_empty

theorem evolves_after (ms ms' : List Mutation) : Evolves (after ms) (after (ms ++ ms')) := by
  rw [after_append]
  exact (changes_through _ ms').evolves (wellFormed_after ms)

/-! ## Handles -/

/-- A mutation answers with the handle of a live node, or with one that was never given out. Either
way the handle is live afterwards. -/
theorem handle?_eq_some {g : Graph} (wf : WellFormed g) {m : Mutation} {n : NodeId}
    (h : m.handle? g = some n) :
    (g.isLive n = true ∨ n = g.slots.size) ∧ (m.apply g).isLive n = true := by
  have given : ∀ {r : Except GraphError (NodeId × Graph)}, r.toOption.map (·.1) = some n →
      ∃ g', r = .ok (n, g') := by
    intro r hr
    cases r with
    | error e => cases hr
    | ok r => cases hr; exact ⟨r.2, rfl⟩
  have live : ∀ {g : Graph} {ρ}, g.role? n = some ρ → g.isLive n = true := by
    intro g ρ hρ
    rw [isLive_eq_isSome_role?, hρ]
    rfl
  have wf' := (changes_apply g m).wellFormed wf
  cases m with
  | addNode p kind label =>
    obtain ⟨g', hg⟩ := given h
    obtain ⟨rfl, rfl⟩ := addNode_eq_ok hg
    refine ⟨Or.inr rfl, ?_⟩
    simp only [Mutation.apply, hg, Mutation.accepted]
    exact live (role?_place_fresh g p kind label)
  | memNode p k label =>
    obtain ⟨g', hg⟩ := given h
    simp only [Mutation.apply, hg, Mutation.accepted] at wf' ⊢
    refine ⟨?_, live (wf'.mem p k n (Grows.memNode hg).2)⟩
    rcases memNode_eq_ok hg with ⟨hm, -⟩ | ⟨-, hn, -⟩
    · exact Or.inl (live (wf.mem p k n hm))
    · exact Or.inr hn
  | inputNode v o name =>
    obtain ⟨g', hg⟩ := given h
    simp only [Mutation.apply, hg, Mutation.accepted] at wf' ⊢
    rcases inputNode_eq_ok hg with ⟨hi, rfl⟩ | ⟨-, hn, label, rfl⟩
    · obtain ⟨p, name, hr⟩ := wf.input v o n hi
      exact ⟨Or.inl (live hr), live hr⟩
    · obtain ⟨p, name, hr⟩ := wf'.input v o n (by simp)
      exact ⟨Or.inr hn, live hr⟩
  | insertDetached node =>
    obtain ⟨g', hg⟩ := given h
    obtain ⟨hn, live, -⟩ := Changes.insertDetached hg
    simp only [Mutation.apply, hg, Mutation.accepted]
    exact ⟨Or.inr hn, live⟩
  | recordAccess | connect | removeNode | build => cases h

/-! ## Statistics -/

theorem length_edgeList (g : Graph) : g.edgeList.length = (g.nodes.map (·.successors.size)).sum := by
  unfold edgeList
  rw [List.length_flatMap]
  simp [SortedMap.size]

/-- Every edge carries data or control. -/
theorem dataEdges_add_controlEdges (g : Graph) :
    g.stats.dataEdges + g.stats.controlEdges = g.edgeList.length := by
  have control : (fun e : Node × NodeId × EdgeKind => decide (e.2.2 = .control))
      = fun e => decide ¬ (decide (e.2.2 = .data) = true) := by
    funext e
    cases e.2.2 <;> rfl
  change g.edgeList.countP (fun e => decide (e.2.2 = .data))
    + g.edgeList.countP (fun e => decide (e.2.2 = .control)) = _
  rw [control, ← List.length_eq_countP_add_countP]

theorem sum_foldl_tally (cs : List NodeCategory) (counts : SortedMap NodeCategory Nat) :
    (cs.foldl tally counts).values.sum = counts.values.sum + cs.length := by
  induction cs generalizing counts with
  | nil => rfl
  | cons c cs ih =>
    rw [List.foldl_cons, ih, tally, SortedMap.sum_values_insert_succ, List.length_cons]
    omega

theorem sum_nodesByKind (g : Graph) : g.stats.nodesByKind.values.sum = g.nodes.length := by
  change ((g.nodes.map (·.category)).foldl tally .empty).values.sum = _
  rw [sum_foldl_tally, List.length_map]
  exact Nat.zero_add _

/-! ## The parts of every graph agree -/

/-- The parts of a graph agree: slots, edges and counters (`Linked`) and indices (`Indexed`); edges
join different live nodes; the counters cover what a removal takes away, and the statistics add up.
A handle that was given out stays stale once it is, and stands for the same node otherwise; a mutation
answers with the handle of a live node or with one that was never given out. -/
theorem after_consistent (ms : List Mutation) :
    let g := after ms
    WellFormed g ∧
      (∀ a b, g.hasEdge a b = true → g.isLive a = true ∧ g.isLive b = true ∧ a ≠ b) ∧
      (∀ n x, g.node? n = some x → x.successors.size + x.predecessors.size ≤ g.edges ∧ 1 ≤ g.live) ∧
      g.stats.dataEdges + g.stats.controlEdges = g.edges ∧
      g.stats.nodesByKind.values.sum = g.stats.nodes ∧
      (∀ ms' n, n < g.slots.size →
        (g.isLive n = false → (after (ms ++ ms')).isLive n = false) ∧
        ∀ x x', g.node? n = some x → (after (ms ++ ms')).node? n = some x' →
          x'.program = x.program ∧ x'.kind.bare = x.kind.bare) ∧
      ∀ m n, Mutation.handle? g m = some n →
        (g.isLive n = true ∨ n = g.slots.size) ∧ (m.apply g).isLive n = true := by
  intro g
  have wf : WellFormed g := wellFormed_after ms
  refine ⟨wf, fun a b hab => ?_, fun n x hx => wf.counters_cover hx, ?_, ?_, fun ms' n hn => ⟨?_, ?_⟩,
    fun m n hm => handle?_eq_some wf hm⟩
  · obtain ⟨ha, hb⟩ := wf.isLive_of_hasEdge hab
    refine ⟨ha, hb, fun he => ?_⟩
    rw [he, hasEdge, wf.irrefl] at hab
    cases hab
  · rw [dataEdges_add_controlEdges, length_edgeList, wf.edges_eq]
  · rw [sum_nodesByKind]
    exact wf.live_eq.symm
  · exact (evolves_after ms ms').stale n hn
  · intro x x' hx hx'
    have role := (evolves_after ms ms').role n (x.program, x.kind.bare) (x'.program, x'.kind.bare)
      (role?_eq_some_iff.2 ⟨x, hx, rfl, rfl⟩) (role?_eq_some_iff.2 ⟨x', hx', rfl, rfl⟩)
    exact Prod.mk.inj role

end Graph

end PeerTaint
