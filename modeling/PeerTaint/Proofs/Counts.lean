import Mathlib.Algebra.Group.Indicator
import Mathlib.Algebra.BigOperators.Group.Finset.Basic
import PeerTaint.Analysis
import PeerTaint.Proofs.History
import PeerTaint.Proofs.Reach

/-!
What the counts of a report are.

A pass looks at its sources one after the other, and passes over whatever it has visited. `Tallied`
says what a pass has done so far in terms of sets: it has counted the targets of its sources that
were not visited when it began. A source that is passed over hides nothing, because its targets were
visited with it. The report is then described by the sets of memory nodes that inputs lead to.
-/

namespace PeerTaint

namespace Graph

/-! ## Accesses to a set of nodes -/

/-- The number of accesses to a node. -/
def accessesTo (g : Graph) (n : NodeId) : Nat := (g.node? n).elim 0 (·.count)

/-- The number of accesses to the nodes of a set. -/
noncomputable def weight (g : Graph) (S : Set NodeId) : Nat :=
  ∑ n ∈ Finset.range g.slots.size, S.indicator g.accessesTo n

theorem weight_empty (g : Graph) : g.weight ∅ = 0 := by simp [weight]

theorem accessesTo_of_size_le {g : Graph} {n : NodeId} (h : g.slots.size ≤ n) : g.accessesTo n = 0 := by
  rw [accessesTo, node?_of_size_le h, Option.elim_none]

theorem weight_insert (g : Graph) {S : Set NodeId} {n : NodeId} (hn : n ∉ S) :
    g.weight (insert n S) = g.accessesTo n + g.weight S := by
  have single : ∑ m ∈ Finset.range g.slots.size, ({n} : Set NodeId).indicator g.accessesTo m
      = g.accessesTo n := by
    rw [Finset.sum_eq_single n]
    · exact Set.indicator_of_mem (Set.mem_singleton n) _
    · exact fun m _ hm => Set.indicator_of_notMem (mt Set.mem_singleton_iff.1 hm) _
    · intro hlt
      rw [Set.indicator_of_mem (Set.mem_singleton n)]
      exact accessesTo_of_size_le (by simpa using hlt)
  unfold weight
  rw [Set.insert_eq, Set.indicator_union_of_disjoint (Set.disjoint_singleton_left.2 hn),
    Finset.sum_add_distrib, single]

/-- A set weighs what its parts inside and outside of another set weigh. -/
theorem weight_inter_add_diff (g : Graph) (S T : Set NodeId) :
    g.weight (S ∩ T) + g.weight (S \ T) = g.weight S := by
  unfold weight
  rw [← Finset.sum_add_distrib]
  refine Finset.sum_congr rfl fun n _ => ?_
  by_cases hT : n ∈ T <;> by_cases hS : n ∈ S <;> simp [hS, hT]

theorem totalCount_eq_weight (g : Graph) {ns : List NodeId} (h : ns.Nodup) :
    g.totalCount ns = g.weight {n | n ∈ ns} := by
  induction ns with
  | nil => simp [totalCount, Node.accesses, weight]
  | cons n ns ih =>
    obtain ⟨hn, hns⟩ := List.nodup_cons.1 h
    have : {m | m ∈ n :: ns} = insert n {m | m ∈ ns} := by ext m; simp
    rw [this, weight_insert g hn, ← ih hns]
    unfold totalCount accessesTo
    cases hx : g.node? n with
    | none => rw [List.filterMap_cons_none hx, Option.elim_none, Nat.zero_add]
    | some x => rw [List.filterMap_cons_some hx]; rfl

/-! ## One pass -/

/-- The nodes that a pass counts. -/
def Countable (g : Graph) (outside : Option Program) (n : NodeId) : Prop :=
  ∃ x, g.node? n = some x ∧ countable outside x = true

/-- The nodes that a pass counts from a source, if it meets them there for the first time. -/
def targets (g : Graph) (outside : Option Program) (source : NodeId) : Set NodeId :=
  {n | g.Countable outside n ∧ g.Reaches source n}

/-- The handle belongs to no memory. -/
def IsSource (g : Graph) (n : NodeId) : Prop := ∀ x, g.node? n = some x → x.isMem = false

/-- The count of a pass belongs to the nodes it has counted, all of which are visited. -/
structure Weighed (g : Graph) (s : CountingPass) : Prop where
  count : s.found.count = g.weight {n | n ∈ s.found.counted}
  visited : ∀ n, n ∈ s.found.counted → n ∈ s.visited

section Pass

variable {g : Graph} {s : CountingPass}

theorem Countable.not_isSource {outside : Option Program} {n : NodeId} (h : g.Countable outside n) :
    ¬ g.IsSource n := by
  obtain ⟨x, hx, hc⟩ := h
  intro hs
  simp [countable, hs x hx] at hc

/-- Keeping a path changes neither what is visited nor what is counted. -/
theorem retainPath_found (g : Graph) (c : ReachabilityConfig) (source : NodeId) (s : CountingPass)
    (x : Node) :
    (g.retainPath c source s x).visited = s.visited ∧
      (g.retainPath c source s x).found.count = s.found.count ∧
      (g.retainPath c source s x).found.counted = s.found.counted := by
  unfold retainPath
  split <;> exact ⟨rfl, rfl, rfl⟩

/-- Looking at a node counts it, if it can be counted and was not visited. -/
theorem Weighed.countNode (h : Weighed g s) (c : ReachabilityConfig) (outside : Option Program)
    (source n : NodeId) :
    Weighed g (g.countNode c outside source s n) ∧
      (∀ m, m ∈ (g.countNode c outside source s n).visited ↔
        m ∈ s.visited ∨ (m = n ∧ g.Countable outside m)) ∧
      ∀ m, m ∈ (g.countNode c outside source s n).found.counted ↔
        m ∈ s.found.counted ∨ (m = n ∧ g.Countable outside m ∧ m ∉ s.visited) := by
  unfold Graph.countNode
  cases hx : g.node? n with
  | none =>
    have : ¬ g.Countable outside n := fun ⟨x, hx', _⟩ => by rw [hx] at hx'; cases hx'
    exact ⟨h, by grind, by grind⟩
  | some x =>
    have hc : g.Countable outside n ↔ countable outside x = true := by simp [Countable, hx]
    dsimp only
    split
    · next hskip =>
      have hskip : ¬ g.Countable outside n ∨ n ∈ s.visited := by rwa [hc, Bool.not_eq_true]
      exact ⟨h, by grind, by grind⟩
    · next hnew =>
      rw [not_or, Bool.not_eq_false, ← hc] at hnew
      obtain ⟨hcount, hvisited⟩ := hnew
      obtain ⟨visited, count, counted⟩ := retainPath_found g c source
        { s with
          visited := s.visited.insert n
          found := { s.found with
            count := s.found.count + x.count
            counted := s.found.counted.insert n } } x
      refine ⟨⟨?_, ?_⟩, ?_, ?_⟩
      · rw [count, counted]
        have fresh : n ∉ {m | m ∈ s.found.counted} := fun hn => hvisited (h.visited n hn)
        have split : {m | m ∈ s.found.counted.insert n} = insert n {m | m ∈ s.found.counted} := by
          ext m; simp
        rw [split, weight_insert g fresh, h.count, accessesTo, hx, Option.elim_some, Nat.add_comm]
      · intro m hm
        rw [counted, SortedSet.mem_insert] at hm
        rw [visited, SortedSet.mem_insert]
        exact hm.imp_right (h.visited m)
      · intro m
        rw [visited, SortedSet.mem_insert]
        grind
      · intro m
        rw [counted, SortedSet.mem_insert]
        grind

/-- Looking at several nodes counts those that can be counted and were not visited. -/
theorem Weighed.foldl_countNode (h : Weighed g s) (c : ReachabilityConfig) (outside : Option Program)
    (source : NodeId) (ns : List NodeId) :
    Weighed g (ns.foldl (g.countNode c outside source) s) ∧
      (∀ m, m ∈ (ns.foldl (g.countNode c outside source) s).visited ↔
        m ∈ s.visited ∨ (m ∈ ns ∧ g.Countable outside m)) ∧
      ∀ m, m ∈ (ns.foldl (g.countNode c outside source) s).found.counted ↔
        m ∈ s.found.counted ∨ (m ∈ ns ∧ g.Countable outside m ∧ m ∉ s.visited) := by
  induction ns generalizing s with
  | nil => exact ⟨h, by simp, by simp⟩
  | cons n ns ih =>
    obtain ⟨h₁, visited₁, counted₁⟩ := h.countNode c outside source n
    obtain ⟨h₂, visited₂, counted₂⟩ := ih h₁
    refine ⟨h₂, fun m => ?_, fun m => ?_⟩
    · rw [List.foldl_cons, visited₂, visited₁, List.mem_cons]
      tauto
    · rw [List.foldl_cons, counted₂, counted₁, visited₁, List.mem_cons]
      tauto

end Pass

/-! ## Passes over several sources -/

/-- A pass that began with the nodes of `V` visited has met the nodes of `T`. -/
structure Tallied (g : Graph) (outside : Option Program) (V T : Set NodeId) (s : CountingPass) : Prop
    extends Weighed g s where
  counted : ∀ n, n ∈ s.found.counted ↔ n ∈ T ∧ n ∉ V
  met : ∀ n, g.Countable outside n → (n ∈ s.visited ↔ n ∈ V ∨ n ∈ T)
  /-- A visited node that is no memory hides nothing. -/
  closed : ∀ m, m ∈ s.visited → g.IsSource m → ∀ n ∈ g.targets outside m, n ∈ s.visited

section Passes

variable {g : Graph} {c : ReachabilityConfig} {outside : Option Program} {V T : Set NodeId}
  {s : CountingPass}

/-- Targets that are known already add nothing. -/
theorem Tallied.known (h : Tallied g outside V T s) {S : Set NodeId} (known : ∀ n ∈ S, n ∈ V ∨ n ∈ T) :
    Tallied g outside V (T ∪ S) s := by
  refine { h with counted := fun n => ?_, met := fun n hn => ?_ }
  · rw [h.counted]
    constructor
    · rintro ⟨hT, hV⟩
      exact ⟨Or.inl hT, hV⟩
    · rintro ⟨hT | hS, hV⟩
      · exact ⟨hT, hV⟩
      · exact ⟨(known n hS).resolve_left hV, hV⟩
  · rw [h.met n hn]
    constructor
    · exact fun hm => hm.imp_right Or.inl
    · rintro (hV | hT | hS)
      · exact Or.inl hV
      · exact Or.inr hT
      · exact known n hS

/-- Whether it is passed over or not, a source adds its targets. -/
theorem Tallied.countSource (wf : Linked g) (h : Tallied g outside V T s) {source : NodeId}
    (hs : g.IsSource source) :
    Tallied g outside V (T ∪ g.targets outside source) (g.countSource c outside s source) := by
  unfold Graph.countSource
  split
  · next hskip =>
    -- a stale handle has no targets, and those of a visited source were visited with it
    refine h.known fun n hn => ?_
    rcases hskip with stale | seen
    · rw [hn.2.1] at stale; cases stale
    · exact (h.met n hn.1).1 (h.closed source seen hs n hn)
  · next hnew =>
    have begun : Weighed g { s with visited := s.visited.insert source } :=
      ⟨h.count, fun n hn => SortedSet.mem_insert.2 (Or.inr (h.visited n hn))⟩
    obtain ⟨weighed, visited, counted⟩ := begun.foldl_countNode c outside source
      (g.forward source).elems
    have targets : ∀ n, n ∈ (g.forward source).elems ∧ g.Countable outside n ↔
        n ∈ g.targets outside source := fun n => by
      rw [← SortedSet.mem_def, mem_forward_iff wf, and_comm]
      rfl
    have other : ∀ n, g.Countable outside n → n ≠ source := fun n hn he => hn.not_isSource (he ▸ hs)
    simp only [targets, SortedSet.mem_insert] at visited
    simp only [← and_assoc, targets, SortedSet.mem_insert, not_or] at counted
    refine { weighed with counted := fun n => ?_, met := fun n hn => ?_, closed := fun m hm hm' n hn => ?_ }
    · rw [counted, h.counted]
      constructor
      · rintro (⟨hT, hV⟩ | ⟨⟨ht, -⟩, hv⟩)
        · exact ⟨Or.inl hT, hV⟩
        · exact ⟨Or.inr ht, fun hV => hv ((h.met n ht.1).2 (Or.inl hV))⟩
      · rintro ⟨hT | ht, hV⟩
        · exact Or.inl ⟨hT, hV⟩
        · by_cases hT : n ∈ T
          · exact Or.inl ⟨hT, hV⟩
          · refine Or.inr ⟨⟨ht, other n ht.1⟩, fun hv => ?_⟩
            exact ((h.met n ht.1).1 hv).elim hV hT
    · rw [visited, h.met n hn, Set.mem_union, or_assoc]
      simp [other n hn, or_assoc]
    · rw [visited] at hm ⊢
      rcases hm with (rfl | hm) | hm
      · exact Or.inr hn
      · exact Or.inl (Or.inr (h.closed m hm hm' n hn))
      · exact absurd hm' hm.1.not_isSource

theorem Tallied.foldl_countSource (wf : Linked g) (h : Tallied g outside V T s) {sources : List NodeId}
    (hs : ∀ a ∈ sources, g.IsSource a) :
    Tallied g outside V (T ∪ {n | ∃ a ∈ sources, n ∈ g.targets outside a})
      (sources.foldl (g.countSource c outside) s) := by
  induction sources generalizing s T with
  | nil => simpa using h
  | cons a sources ih =>
    have first := h.countSource (c := c) wf (hs a List.mem_cons_self)
    have rest := ih first fun b hb => hs b (List.mem_cons_of_mem _ hb)
    have : T ∪ {n | ∃ b ∈ a :: sources, n ∈ g.targets outside b}
        = T ∪ g.targets outside a ∪ {n | ∃ b ∈ sources, n ∈ g.targets outside b} := by
      ext n
      simp [or_assoc]
    rw [this]
    exact rest

/-- A pass counts the targets of its sources that were not visited when it began. -/
theorem tallied_countChecks (wf : Linked g) (memo : PathMemo) {visited : SortedSet NodeId}
    (closed : ∀ m, m ∈ visited → g.IsSource m → ∀ n ∈ g.targets outside m, n ∈ visited)
    {sources : List NodeId} (hs : ∀ a ∈ sources, g.IsSource a) :
    Tallied g outside {n | n ∈ visited} {n | ∃ a ∈ sources, n ∈ g.targets outside a}
      (g.countChecks c memo visited outside sources) := by
  have nothing : {n | n ∈ (SortedSet.empty : SortedSet NodeId)} = ∅ := by ext n; simp
  have begun : Tallied g outside {n | n ∈ visited} ∅ { memo := memo, visited := visited } :=
    { count := by rw [nothing, weight_empty]
      visited := fun n hn => absurd hn SortedSet.not_mem_empty
      counted := fun n => ⟨fun hn => absurd hn SortedSet.not_mem_empty, fun hn => absurd hn.1 id⟩
      met := fun n _ => by simp
      closed := closed }
  have done := begun.foldl_countSource (c := c) wf hs
  rwa [Set.empty_union] at done

end Passes

/-! ## The report -/

/-- The memory that the inputs of a program in a scope lead to. -/
def memoryFrom (g : Graph) (inputs : InputSets) (p : Program) (scope : InputScope) : Set NodeId :=
  {n | (∃ x, g.node? n = some x ∧ x.isMem = true) ∧
    ∃ r ∈ inputs.records p scope, ∃ a, g.findInput r.value r.origin = some a ∧ g.Reaches a n}

/-- The nodes of a program. -/
def nodesOf (g : Graph) (p : Program) : Set NodeId := {n | ∃ x, g.node? n = some x ∧ x.program = p}

section Report

variable {g : Graph} (inputs : InputSets) (p : Program) (scope : InputScope)

theorem mem_sources_iff {a : NodeId} : a ∈ g.sources inputs p scope ↔
    ∃ r ∈ inputs.records p scope, g.findInput r.value r.origin = some a := List.mem_filterMap

theorem isSource_of_mem_sources (wf : Indexed g) {a : NodeId} (h : a ∈ g.sources inputs p scope) :
    g.IsSource a := by
  obtain ⟨r, -, hr⟩ := (mem_sources_iff inputs p scope).1 h
  obtain ⟨q, name, role⟩ := wf.input r.value r.origin a hr
  intro x hx
  obtain ⟨y, hy, -, hk⟩ := role?_eq_some_iff.1 role
  rw [hx] at hy
  cases hy
  rw [Node.isMem, NodeKind.bare_eq_input_iff.1 hk]
  rfl

theorem targets_sources :
    {n | ∃ a ∈ g.sources inputs p scope, n ∈ g.targets none a} = g.memoryFrom inputs p scope := by
  ext n
  simp only [Set.mem_ofPred_eq, mem_sources_iff, targets, memoryFrom, Countable, countable]
  constructor
  · rintro ⟨a, ⟨r, hr, ha⟩, ⟨x, hx, hc⟩, reach⟩
    exact ⟨⟨x, hx, by simpa using hc⟩, r, hr, a, ha, reach⟩
  · rintro ⟨⟨x, hx, hm⟩, r, hr, a, ha, reach⟩
    exact ⟨a, ⟨r, hr, ha⟩, ⟨x, hx, by simpa using hm⟩, reach⟩

theorem targets_sources_outside (q : Program) :
    {n | ∃ a ∈ g.sources inputs p scope, n ∈ g.targets (some q.peer) a}
      = g.memoryFrom inputs p scope ∩ g.nodesOf q := by
  have here : ∀ r : Program, r ≠ q.peer ↔ r = q := by
    intro r
    cases r <;> cases q <;> decide
  ext n
  simp only [Set.mem_ofPred_eq, mem_sources_iff, targets, memoryFrom, nodesOf, Countable, countable,
    Bool.and_eq_true, decide_eq_true_eq, ne_eq, Option.some.injEq, Set.mem_inter_iff]
  constructor
  · rintro ⟨a, ⟨r, hr, ha⟩, ⟨x, hx, hm, hq⟩, reach⟩
    exact ⟨⟨⟨x, hx, hm⟩, r, hr, a, ha, reach⟩, x, hx, (here _).1 hq⟩
  · rintro ⟨⟨⟨x, hx, hm⟩, r, hr, a, ha, reach⟩, y, hy, hq⟩
    cases hx.symm.trans hy
    exact ⟨a, ⟨r, hr, ha⟩, ⟨x, hx, hm, (here _).2 hq⟩, reach⟩

/-- The counts of a program as its set definitions have them. -/
structure CountsOf (g : Graph) (inputs : InputSets) (p : Program) (counts : CategoryCounts) : Prop where
  localChecks : counts.localChecks = g.weight (g.memoryFrom inputs p .local)
  networkChecks : counts.networkChecks
    = g.weight (g.memoryFrom inputs p .network \ g.memoryFrom inputs p .local)
  crossChecks : counts.crossChecks = g.weight (g.memoryFrom inputs p.peer .all ∩ g.nodesOf p)
  falsePositives : counts.falsePositives
    = g.weight ((g.memoryFrom inputs p .network \ g.memoryFrom inputs p .local)
        \ (g.memoryFrom inputs p.peer .all ∩ g.nodesOf p))

theorem Countable.of_mem_memoryFrom {n : NodeId} (h : n ∈ g.memoryFrom inputs p scope) :
    g.Countable none n := by
  obtain ⟨⟨x, hx, hm⟩, -⟩ := h
  exact ⟨x, hx, by simpa [countable] using hm⟩

/-- The report on one program is made, and its counts are what they are meant to be. -/
theorem programReport_eq_ok (wf : WellFormed g) (c : ReachabilityConfig) (memo : PathMemo) :
    ∃ r memo', g.programReport c inputs memo p = .ok (r, memo') ∧ r.program = p ∧
      CountsOf g inputs p r.counts := by
  have source : ∀ q scope, ∀ a ∈ g.sources inputs q scope, g.IsSource a :=
    fun q scope a => isSource_of_mem_sources inputs q scope wf.toIndexed
  have closed : ∀ outside m, m ∈ (SortedSet.empty : SortedSet NodeId) → g.IsSource m →
      ∀ n ∈ g.targets outside m, n ∈ (SortedSet.empty : SortedSet NodeId) :=
    fun _ m hm => absurd hm SortedSet.not_mem_empty
  obtain ⟨first, h₁⟩ : ∃ s, s = g.countChecks c memo .empty none (g.sources inputs p .local) := ⟨_, rfl⟩
  obtain ⟨second, h₂⟩ : ∃ s, s = g.countChecks c first.memo first.visited none
    (g.sources inputs p .network) := ⟨_, rfl⟩
  obtain ⟨third, h₃⟩ : ∃ s, s = g.countChecks c second.memo .empty (some p.peer)
    (g.sources inputs p.peer .all) := ⟨_, rfl⟩
  have t₁ := tallied_countChecks (c := c) wf.toLinked memo (closed none) (source p .local)
  rw [← h₁, targets_sources] at t₁
  have t₂ := tallied_countChecks (c := c) wf.toLinked first.memo t₁.closed (source p .network)
  rw [← h₂, targets_sources] at t₂
  have t₃ := tallied_countChecks (c := c) wf.toLinked second.memo (closed (some p.peer))
    (source p.peer .all)
  rw [← h₃, targets_sources_outside] at t₃
  have counted₁ : {n | n ∈ first.found.counted} = g.memoryFrom inputs p .local := by
    ext n
    exact (t₁.counted n).trans ⟨fun h => h.1, fun h => ⟨h, SortedSet.not_mem_empty⟩⟩
  have counted₂ : {n | n ∈ second.found.counted}
      = g.memoryFrom inputs p .network \ g.memoryFrom inputs p .local := by
    ext n
    refine (t₂.counted n).trans (and_congr_right fun h => not_congr ?_)
    refine (t₁.met n (.of_mem_memoryFrom inputs p .network h)).trans ?_
    exact or_iff_right SortedSet.not_mem_empty
  have counted₃ : {n | n ∈ third.found.counted} = g.memoryFrom inputs p.peer .all ∩ g.nodesOf p := by
    ext n
    exact (t₃.counted n).trans ⟨fun h => h.1, fun h => ⟨h, SortedSet.not_mem_empty⟩⟩
  have shared : g.totalCount (second.found.counted.elems.filter fun n => decide (n ∈ third.found.counted))
      = g.weight ({n | n ∈ second.found.counted} ∩ {n | n ∈ third.found.counted}) := by
    rw [totalCount_eq_weight g (second.found.counted.nodup_elems.filter _)]
    congr 1
    ext n
    simp [SortedSet.mem_def]
  have parts := g.weight_inter_add_diff {n | n ∈ second.found.counted} {n | n ∈ third.found.counted}
  rw [← shared, ← t₂.count] at parts
  simp only [programReport, ← h₁, ← h₂, ← h₃]
  rw [if_neg (by omega)]
  refine ⟨_, _, rfl, rfl, ?_, ?_, ?_, ?_⟩
  · rw [t₁.count, counted₁]
  · rw [t₂.count, counted₂]
  · rw [t₃.count, counted₃]
  · rw [← counted₂, ← counted₃]
    dsimp only
    omega

/-- The report on a graph is made, with the counts of both programs. -/
theorem report_eq_ok (wf : WellFormed g) (a : Analysis) (inputs : InputSets) :
    ∃ r, a.report g inputs = .ok r ∧ ∀ p, ∃ pr, r.program? p = some pr ∧ CountsOf g inputs p pr.counts := by
  obtain ⟨r₁, memo₁, h₁, hp₁, counts₁⟩ := programReport_eq_ok inputs .first wf a.config.reachability {}
  obtain ⟨r₂, memo₂, h₂, hp₂, counts₂⟩ := programReport_eq_ok inputs .second wf a.config.reachability memo₁
  refine ⟨⟨[r₁, r₂], g.stats⟩, ?_, fun p => ?_⟩
  · have made : g.report a.config.reachability inputs = .ok ⟨[r₁, r₂], g.stats⟩ := by
      simp only [Graph.report, h₁, h₂, bind, Except.bind, pure, Except.pure]
    rw [Analysis.report, made]
  · cases p with
    | first => exact ⟨r₁, by simp [AnalysisReport.program?, hp₁], counts₁⟩
    | second => exact ⟨r₂, by simp [AnalysisReport.program?, hp₁, hp₂], counts₂⟩

end Report

/-- The report on a graph is always made. Per program, its counts are the accesses to the memory that
the program's local inputs lead to; to what its network inputs lead to beyond that; to the memory of
the program that the inputs of the peer lead to; and to what of the second the third leaves. -/
theorem report_counts_reachable_memory (ms : List Mutation) (a : Analysis) (inputs : InputSets) :
    let g := after ms
    ∃ r, a.report g inputs = .ok r ∧ ∀ p, ∃ pr, r.program? p = some pr ∧
      CountsOf g inputs p pr.counts ∧ pr.counts.falsePositives ≤ pr.counts.networkChecks := by
  intro g
  obtain ⟨r, made, counts⟩ := report_eq_ok (wellFormed_after ms) a inputs
  refine ⟨r, made, fun p => ?_⟩
  obtain ⟨pr, hp, h⟩ := counts p
  refine ⟨pr, hp, h, ?_⟩
  rw [h.falsePositives, h.networkChecks]
  exact Nat.le.intro ((Nat.add_comm ..).trans (g.weight_inter_add_diff _ _))

end Graph

end PeerTaint
