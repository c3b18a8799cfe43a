import Mathlib.Algebra.Order.BigOperators.Group.Finset
import PeerTaint.Proofs.Passes

/-!
How large counts get.

At every moment a pass has counted each node of a set once (`Weighed`), and the set is one of memory that was
not visited when the pass began (`Counting`). So no count exceeds the accesses to all memory, and passes that
share their visited nodes do not exceed it together. With handles and accesses of 32 bits this total fits into
64 bits, and so does every sum on the way to it.
-/

namespace PeerTaint

namespace Graph

/-! ## Accesses to memory -/

/-- The number of accesses to memory, in both programs. -/
def memoryTotal (g : Graph) : Nat := Node.accesses (g.nodes.filter (·.isMem))

theorem accesses_filter_eq_weight (g : Graph) (P : Node → Bool) :
    Node.accesses (g.nodes.filter P) = g.weight {n | ∃ x, g.node? n = some x ∧ P x = true} := by
  have filtered : ∀ xs : List Node,
      Node.accesses (xs.filter P) = (xs.map fun x => if P x = true then x.count else 0).sum := by
    intro xs
    induction xs with
    | nil => rfl
    | cons x xs ih => cases hx : P x <;> simp [hx, ih, Node.accesses]
  rw [filtered, sum_nodes, weight]
  refine Finset.sum_congr rfl fun n _ => ?_
  cases hx : g.node? n with
  | none => simp [hx, Set.indicator]
  | some x => cases hp : P x <;> simp [accessesTo, hx, hp, Set.indicator]

theorem memoryTotal_eq_weight (g : Graph) : g.memoryTotal = g.weight {n | g.Countable none n} := by
  rw [memoryTotal, accesses_filter_eq_weight]
  simp only [Countable, countable]
  simp

theorem arrayCount_eq_weight (g : Graph) (p : Program) :
    g.arrayCount p = g.weight {n | g.Countable (some p.peer) n} := by
  have here : ∀ q : Program, q ≠ p.peer ↔ q = p := by
    intro q
    cases p <;> cases q <;> decide
  rw [arrayCount, memNodesOf, accesses_filter_eq_weight]
  congr 1
  ext n
  simp [Countable, countable, here, and_comm]

/-- Together the programs have all memory. -/
theorem arrayCount_add (g : Graph) : g.arrayCount .first + g.arrayCount .second = g.memoryTotal := by
  have first : {n | g.Countable none n} ∩ {n | g.Countable (some Program.first.peer) n} =
      {n | g.Countable (some Program.first.peer) n} :=
    Set.inter_eq_right.2 fun n hn => (countable_some_iff.1 hn).1
  have second : {n | g.Countable none n} \ {n | g.Countable (some Program.first.peer) n} =
      {n | g.Countable (some Program.second.peer) n} := by
    ext n
    simp only [Set.mem_sdiff, Set.mem_ofPred_eq, Countable, countable]
    cases g.node? n with
    | none => simp
    | some x => cases hp : x.program <;> simp [hp, Program.peer]
  have parts := g.weight_inter_add_diff {n | g.Countable none n} {n | g.Countable (some Program.first.peer) n}
  rw [first, second] at parts
  rw [memoryTotal_eq_weight, arrayCount_eq_weight, arrayCount_eq_weight, parts]

theorem weight_lt_bound64 {g : Graph} (slots : g.slots.size ≤ bound32) (small : ∀ x ∈ g.nodes, x.count < bound32)
    (S : Set NodeId) : g.weight S < bound64 := by
  have each : ∀ n, S.indicator g.accessesTo n ≤ bound32 - 1 := by
    intro n
    by_cases hn : n ∈ S
    · rw [Set.indicator_of_mem hn, accessesTo]
      cases hx : g.node? n with
      | none => exact Nat.zero_le _
      | some x => exact Nat.le_sub_one_of_lt (small x (mem_nodes_iff.2 ⟨n, hx⟩))
    · rw [Set.indicator_of_notMem hn]
      exact Nat.zero_le _
  calc g.weight S ≤ ∑ _n ∈ Finset.range g.slots.size, (bound32 - 1) := Finset.sum_le_sum fun n _ => each n
    _ = g.slots.size * (bound32 - 1) := by simp
    _ ≤ bound32 * (bound32 - 1) := Nat.mul_le_mul_right _ slots
    _ < bound64 := by decide

/-! ## The moments of a pass -/

/-- The states that a pass goes through: before each source, and at each node that the source leads to. -/
def moments (g : Graph) (c : ReachabilityConfig) (outside : Option Program) (s : CountingPass) :
    List NodeId → List CountingPass
  | [] => [s]
  | a :: sources =>
    (if g.isLive a = false ∨ a ∈ s.visited then [s]
      else s :: (g.forward a).elems.scanl (g.countNode c outside a) { s with visited := s.visited.insert a }) ++
      g.moments c outside (g.countSource c outside s a) sources

/-- A pass that began with the nodes of `V` visited has counted some of the nodes that it can count and that are
not in `V`, each of them once. -/
structure Counting (g : Graph) (outside : Option Program) (V : Set NodeId) (s : CountingPass) : Prop
    extends Weighed g s where
  countable : ∀ n, n ∈ s.found.counted → g.Countable outside n
  fresh : ∀ n, n ∈ s.found.counted → n ∉ V
  known : ∀ n ∈ V, n ∈ s.visited

section Counting

variable {g : Graph} {c : ReachabilityConfig} {outside : Option Program} {V : Set NodeId} {s : CountingPass}

theorem counting_start (g : Graph) (outside : Option Program) (memo : PathMemo) (visited : SortedSet NodeId) :
    Counting g outside {n | n ∈ visited} { memo := memo, visited := visited } where
  count := by
    have nothing : {n | n ∈ (SortedSet.empty : SortedSet NodeId)} = ∅ := by ext n; simp
    change 0 = g.weight {n | n ∈ (SortedSet.empty : SortedSet NodeId)}
    rw [nothing, weight_empty]
  visited n hn := absurd hn SortedSet.not_mem_empty
  countable n hn := absurd hn SortedSet.not_mem_empty
  fresh n hn := absurd hn SortedSet.not_mem_empty
  known n hn := hn

theorem Counting.mark (h : Counting g outside V s) (a : NodeId) :
    Counting g outside V { s with visited := s.visited.insert a } :=
  { h with
    visited := fun n hn => SortedSet.mem_insert.2 (.inr (h.visited n hn))
    known := fun n hn => SortedSet.mem_insert.2 (.inr (h.known n hn)) }

theorem Counting.countNode (h : Counting g outside V s) (a n : NodeId) :
    Counting g outside V (g.countNode c outside a s n) := by
  obtain ⟨weighed, visited, counted⟩ := h.toWeighed.countNode c outside a n
  refine { weighed with countable := fun m hm => ?_, fresh := fun m hm => ?_, known := fun m hm => ?_ }
  · exact ((counted m).1 hm).elim (h.countable m) fun new => new.2.1
  · exact ((counted m).1 hm).elim (h.fresh m) fun new old => new.2.2 (h.known m old)
  · exact (visited m).2 (.inl (h.known m hm))

theorem Counting.scan (h : Counting g outside V s) (a : NodeId) (ns : List NodeId) :
    ∀ s' ∈ ns.scanl (g.countNode c outside a) s, Counting g outside V s' := by
  induction ns generalizing s with
  | nil => simpa using h
  | cons n ns ih =>
    rw [List.scanl_cons]
    intro s' hs'
    rcases List.mem_cons.1 hs' with rfl | later
    · exact h
    · exact ih (h.countNode a n) s' later

theorem Counting.countSource (h : Counting g outside V s) (a : NodeId) :
    Counting g outside V (g.countSource c outside s a) := by
  unfold Graph.countSource
  split
  · exact h
  · exact List.foldlRecOn _ _ (h.mark a) fun _ h' n _ => h'.countNode a n

/-- At every moment of a pass. -/
theorem Counting.moments (h : Counting g outside V s) (sources : List NodeId) :
    ∀ s' ∈ g.moments c outside s sources, Counting g outside V s' := by
  induction sources generalizing s with
  | nil => simpa [Graph.moments] using h
  | cons a sources ih =>
    intro s' hs'
    rw [Graph.moments] at hs'
    rcases List.mem_append.1 hs' with here | later
    · split at here
      · rw [List.mem_singleton.1 here]
        exact h
      · rcases List.mem_cons.1 here with rfl | inside
        · exact h
        · exact (h.mark a).scan a _ s' inside
    · exact ih (h.countSource a) s' later

/-- The last moment of a pass is its result. -/
theorem foldl_countSource_mem_moments (sources : List NodeId) :
    sources.foldl (g.countSource c outside) s ∈ g.moments c outside s sources := by
  induction sources generalizing s with
  | nil => simp [Graph.moments]
  | cons a sources ih =>
    rw [List.foldl_cons, Graph.moments]
    exact List.mem_append_right _ ih

theorem Counting.countChecks (g : Graph) (c : ReachabilityConfig) (memo : PathMemo) (visited : SortedSet NodeId)
    (outside : Option Program) (sources : List NodeId) :
    Counting g outside {n | n ∈ visited} (g.countChecks c memo visited outside sources) :=
  (counting_start g outside memo visited).moments sources _ (foldl_countSource_mem_moments sources)

theorem Counting.count_le (h : Counting g outside V s) : s.found.count ≤ g.weight {n | g.Countable outside n} := by
  rw [h.count]
  exact g.weight_mono h.countable

theorem Counting.isMem (h : Counting g outside V s) {n : NodeId} (hn : n ∈ s.found.counted) :
    ∃ x, g.node? n = some x ∧ x.isMem = true := by
  obtain ⟨x, hx, hc⟩ := h.countable n hn
  exact ⟨x, hx, (Bool.and_eq_true _ _ ▸ hc).1⟩

end Counting

theorem totalCount_le {g : Graph} {outside : Option Program} {V : Set NodeId} {s : CountingPass}
    (h : Counting g outside V s) {ns : List NodeId} (distinct : ns.Nodup)
    (counted : ∀ n ∈ ns, n ∈ s.found.counted) : g.totalCount ns ≤ s.found.count := by
  rw [totalCount_eq_weight g distinct, h.count]
  exact g.weight_mono counted

theorem weight_add_of_disjoint (g : Graph) {S T : Set NodeId} (h : ∀ n ∈ T, n ∉ S) :
    g.weight S + g.weight T = g.weight (S ∪ T) := by
  have parts := g.weight_inter_add_diff (S ∪ T) S
  have rest : (S ∪ T) \ S = T := by
    ext n
    have := h n
    simp only [Set.mem_sdiff, Set.mem_union]
    tauto
  rwa [Set.inter_eq_right.2 Set.subset_union_left, rest] at parts

/-! ## The report -/

/-- The report on a program of any graph is made, and its counts are within the accesses to memory. -/
theorem programReport_within (g : Graph) (c : ReachabilityConfig) (inputs : InputSets) (memo : PathMemo)
    (p : Program) : ∃ r memo', g.programReport c inputs memo p = .ok (r, memo') ∧ r.program = p ∧
      r.arrayCount = g.arrayCount p ∧ r.counts.localChecks + r.counts.networkChecks ≤ g.memoryTotal ∧
      r.counts.crossChecks ≤ g.arrayCount p := by
  obtain ⟨first, h₁⟩ : ∃ s, s = g.countChecks c memo .empty none (g.sources inputs p .local) := ⟨_, rfl⟩
  obtain ⟨second, h₂⟩ : ∃ s, s = g.countChecks c first.memo first.visited none
    (g.sources inputs p .network) := ⟨_, rfl⟩
  obtain ⟨third, h₃⟩ : ∃ s, s = g.countChecks c second.memo .empty (some p.peer)
    (g.sources inputs p.peer .all) := ⟨_, rfl⟩
  have t₁ := h₁ ▸ Counting.countChecks g c memo .empty none (g.sources inputs p .local)
  have t₂ := h₂ ▸ Counting.countChecks g c first.memo first.visited none (g.sources inputs p .network)
  have t₃ := h₃ ▸ Counting.countChecks g c second.memo .empty (some p.peer) (g.sources inputs p.peer .all)
  have attributable := totalCount_le t₂ (second.found.counted.nodup_elems.filter fun n =>
    decide (n ∈ third.found.counted)) fun n hn => (List.mem_filter.1 hn).1
  simp only [programReport, ← h₁, ← h₂, ← h₃]
  rw [if_neg (Nat.not_lt.2 attributable)]
  refine ⟨_, _, rfl, rfl, rfl, ?_, ?_⟩
  · -- what the first pass counts was visited when the second began
    have apart : ∀ n ∈ {n | n ∈ second.found.counted}, n ∉ {n | n ∈ first.found.counted} :=
      fun n hn old => t₂.fresh n hn (t₁.visited n old)
    rw [t₁.count, t₂.count, g.weight_add_of_disjoint apart, memoryTotal_eq_weight]
    exact g.weight_mono (Set.union_subset t₁.countable t₂.countable)
  · rw [arrayCount_eq_weight]
    exact t₃.count_le

theorem accesses_append (xs ys : List Node) : Node.accesses (xs ++ ys) = Node.accesses xs + Node.accesses ys := by
  simp [Node.accesses_eq_sum]

/-- No count overflows. With handles and accesses of 32 bits the accesses to all memory fit into 64 bits, and
every sum that is ever formed is at most that: at every moment of a pass, whatever it starts at, each node of
memory was counted once at most; so it is for the total of counted nodes, in any order, and for the memory of
a program on the way through its nodes. The report on a graph is made; what both inputs of a program reach is
within the memory of both programs, and what the peer reaches within the memory of the program, of which the
statistics tell the same. -/
theorem counts_fit {g : Graph} (slots : g.slots.size ≤ bound32) (small : ∀ x ∈ g.nodes, x.count < bound32) :
    g.memoryTotal < bound64 ∧
    (∀ c memo visited outside sources,
      ∀ s ∈ g.moments c outside { memo := memo, visited := visited } sources,
        s.found.count = g.totalCount s.found.counted.elems ∧ s.found.count ≤ g.memoryTotal ∧
        (∀ n, n ∈ s.found.counted → n ∉ visited ∧ ∃ x, g.node? n = some x ∧ x.isMem = true) ∧
        ∀ ns, ns.Nodup → (∀ n ∈ ns, n ∈ s.found.counted) → g.totalCount ns ≤ g.memoryTotal) ∧
    (∀ c memo visited outside sources, g.countChecks c memo visited outside sources ∈
      g.moments c outside { memo := memo, visited := visited } sources) ∧
    (∀ p xs, xs <+: g.memNodesOf p → Node.accesses xs ≤ g.memoryTotal) ∧
    ∀ c inputs, ∃ r, g.report c inputs = .ok r ∧ r.graph = g.stats ∧ ∀ p, ∃ pr, r.program? p = some pr ∧
      pr.counts.localChecks + pr.counts.networkChecks ≤ g.arrayCount .first + g.arrayCount .second ∧
      pr.counts.crossChecks ≤ g.arrayCount p ∧ pr.arrayCount = g.arrayCount p ∧
      pr.arrayCount = r.graph.arrayChecks.get p := by
  refine ⟨?_, fun c memo visited outside sources s hs => ?_, fun c memo visited outside sources => ?_,
    fun p xs started => ?_, fun c inputs => ?_⟩
  · rw [memoryTotal_eq_weight]
    exact weight_lt_bound64 slots small _
  · have counting := (counting_start g outside memo visited).moments sources s hs
    have le : s.found.count ≤ g.memoryTotal := by
      rw [memoryTotal_eq_weight]
      refine counting.count_le.trans (g.weight_mono fun n hn => ?_)
      obtain ⟨x, hx, hc⟩ := hn
      exact ⟨x, hx, by simp_all [countable]⟩
    refine ⟨?_, le, fun n hn => ⟨counting.fresh n hn, counting.isMem hn⟩, fun ns distinct counted => ?_⟩
    · rw [totalCount_eq_weight g s.found.counted.nodup_elems]
      exact counting.count
    · exact (totalCount_le counting distinct counted).trans le
  · exact foldl_countSource_mem_moments sources
  · obtain ⟨ys, split⟩ := started
    have whole := g.arrayCount_add
    have part : Node.accesses xs ≤ g.arrayCount p := by
      rw [arrayCount, ← split, accesses_append]
      exact Nat.le_add_right _ _
    cases p <;> omega
  · obtain ⟨r₁, memo₁, h₁, hp₁, array₁, own₁, cross₁⟩ := g.programReport_within c inputs {} .first
    obtain ⟨r₂, memo₂, h₂, hp₂, array₂, own₂, cross₂⟩ := g.programReport_within c inputs memo₁ .second
    rw [arrayCount_add]
    refine ⟨⟨[r₁, r₂], g.stats⟩, ?_, rfl, fun p => ?_⟩
    · simp only [Graph.report, h₁, h₂, bind, Except.bind, pure, Except.pure]
    · cases p with
      | first => exact ⟨r₁, by simp [AnalysisReport.program?, hp₁], own₁, cross₁, array₁, array₁⟩
      | second => exact ⟨r₂, by simp [AnalysisReport.program?, hp₁, hp₂], own₂, cross₂, array₂, array₂⟩

/-- Two inputs that flow into memory of both programs, on which as many accesses are recorded as can be. -/
def laden : List Mutation :=
  [.inputNode ⟨.first, 0⟩ .local "getenv", .inputNode ⟨.first, 1⟩ .network "recv",
    .insertDetached { id := 0, program := .first, label := "m", kind := .mem 0, count := 4294967295 },
    .insertDetached { id := 0, program := .second, label := "m", kind := .mem 0, count := 4294967295 },
    .connect 0 2 .data, .connect 0 3 .data, .connect 1 2 .data, .connect 1 3 .data]

/-- A pass that meets the memory from three sources counts more than 32 bits hold, and no more than there is. -/
theorem counts_fit_laden :
    let g := after laden
    let s := g.countChecks {} {} .empty none [0, 1, 0]
    g.slots.size ≤ bound32 ∧ (∀ x ∈ g.nodes, x.count < bound32) ∧ bound32 ≤ s.found.count ∧
      s.found.count ≤ g.memoryTotal ∧ g.memoryTotal < bound64 := by
  intro g s
  have slots : g.slots.size ≤ bound32 := by decide +kernel
  have small : ∀ x ∈ g.nodes, x.count < bound32 := by decide +kernel
  obtain ⟨total, pass, last, -⟩ := counts_fit slots small
  exact ⟨slots, small, by decide +kernel, (pass {} {} .empty none [0, 1, 0] s (last {} {} .empty none [0, 1, 0])).2.1,
    total⟩

end Graph

end PeerTaint
