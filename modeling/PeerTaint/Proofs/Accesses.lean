import PeerTaint.Proofs.Recording

/-!
Counting accesses to memory.

When no operation uses the result of a later one, resolving an operand never expands an operation. So each
operation is expanded in its own turn, and at the end the accesses of all operations were recorded, each once.
-/

namespace PeerTaint

/-- No operation uses the result of a later one. -/
def ProgramPair.Ordered (m : ProgramPair) : Prop :=
  m.stream.Pairwise fun e e' => ∀ v ∈ e.2.operands, e'.2.result ≠ some v

instance (m : ProgramPair) : Decidable m.Ordered :=
  inferInstanceAs (Decidable (m.stream.Pairwise fun e e' => ∀ v ∈ e.2.operands, e'.2.result ≠ some v))

theorem ProgramPair.Ordered.result_ne {m : ProgramPair} (h : m.Ordered)
    {before after : List (Program × Operation)} {e : Program × Operation} (hs : m.stream = before ++ e :: after) :
    ∀ e' ∈ after, ∀ v ∈ e.2.operands, e'.2.result ≠ some v := by
  rw [Ordered, hs] at h
  exact (List.pairwise_cons.1 (List.pairwise_append.1 h).2.1).1

namespace BuildContext

open Build

/-! ## The whole stream -/

/-- The operations so far were visited and no others. Results of other operations have no nodes, and exactly
the accesses of the operations so far were recorded. -/
structure Streamed (c : BuildContext) (before : List (Program × Operation)) (s : BuildState) : Prop where
  traced : c.Traced s
  noted : ∀ e ∈ c.programs.stream, (s.noted? e.2).isSome = true ↔ e ∈ before
  free : ∀ e ∈ c.programs.stream, e ∉ before → ∀ v, e.2.result = some v → s.graph.findNode v e.1 = none
  placed : ∀ e ∈ before, ∀ v ∈ c.accessed e.1 e.2, v.program = e.1 → (c.aliasKey? v).isSome = true →
    (s.graph.findNode v e.1).isSome = true
  counts : ∀ m, s.graph.memAccesses m = (before.map fun e => s.graph.hits e.1 (c.accessed e.1 e.2) m).sum

section Stream

variable {c : BuildContext} {s s' : BuildState} {before after : List (Program × Operation)}
  {e : Program × Operation}

theorem streamed_empty : c.Streamed [] {} where
  traced := traced_empty
  noted e _ := by cases h : e.2.id <;> simp [BuildState.noted?, h]
  free e _ _ v _ := by
    unfold Graph.findNode
    split <;> rfl
  placed := nofun
  counts m := rfl

section Progress

variable {M : Mandate} (home : ∀ p op v, M.expands p op → op.result = some v → v.program = p)
  (h : c.Progress M s s') (wf : s.graph.WellFormed) (distinct : c.Distinct s.graph) {p : Program}
include home h wf distinct

theorem Progress.findNode {v : Value} {n : NodeId} (hn : s.graph.findNode v p = some n) :
    s'.graph.findNode v p = some n :=
  h.events.findNode home wf distinct hn (h.grows.extension.isLive (wf.isLive_findNode hn))

/-- Pointers that have nodes stand for the same accesses later on. -/
theorem Progress.hits_eq {vs : List Value} (placed : ∀ v ∈ vs, v.program = p → (c.aliasKey? v).isSome = true →
      (s.graph.findNode v p).isSome = true) (m : NodeId) : s'.graph.hits p vs m = s.graph.hits p vs m := by
  refine Graph.hits_eq wf h.grows.extension
    (fun v hv m mem => ⟨fun hm => ?_, h.findNode home wf distinct⟩) m
  have pointer : (c.aliasKey? v).isSome = true := by
    by_contra scalar
    have identified := (h.events.distinct home wf distinct).identified (h.events.wellFormed wf)
    rw [identified.scalar v p m (fun k points => ?_) hm] at mem
    · cases mem
    · rw [aliasKey?_eq_some_iff.2 points] at scalar
      exact scalar rfl
  obtain ⟨n, hn⟩ := Option.isSome_iff_exists.1 (placed v hv (program_of_findNode hm) pointer)
  rw [hn, ← h.findNode home wf distinct hn, hm]

end Progress

section Turn

variable (orderly : c.programs.Orderly) (ordered : c.programs.Ordered) {p : Program} {op : Operation}
  (hs : c.programs.stream = before ++ (p, op) :: after)
include orderly ordered hs

/-- In its turn, an operation is performed. -/
theorem Streamed.performs (h : c.Streamed before s) :
    wp (c.addOperation p op) (fun _ s' => c.Performs p op s s') (fun _ => True) s := by
  have listed : (p, op) ∈ c.programs.stream := by simp [hs]
  have outside : (p, op) ∉ before := fun he =>
    orderly.toCatalogued.not_mem_sides hs (List.mem_append_left _ he)
  refine wp_addOperation_performs ⟨orderly.toCatalogued, orderly.store⟩ orderly.home listed h.traced ?_ ?_ ?_
  · rw [← Option.not_isSome_iff_eq_none, h.noted _ listed]
    exact outside
  · cases hv : op.result with
    | none => rfl
    | some v => exact h.free _ listed outside v hv
  · intro v hv op' defined
    obtain ⟨listed', result⟩ := orderly.mem_of_definition? defined
    rw [hs] at listed'
    rcases List.mem_append.1 listed' with earlier | later
    · exact .inl ((h.noted _ (hs ▸ listed')).2 earlier)
    · rcases List.mem_cons.1 later with same | later
      · exact .inr (congrArg Prod.snd same)
      · exact absurd result (ordered.result_ne hs _ later v hv)

theorem Streamed.turn (h : c.Streamed before s) :
    wp (c.addOperation p op) (fun _ s' => c.Streamed (before ++ [(p, op)]) s') (fun _ => True) s := by
  have cat := orderly.toCatalogued
  have listed : (p, op) ∈ c.programs.stream := by simp [hs]
  have home : ∀ p op v, c.strictly.expands p op → op.result = some v → v.program = p :=
    fun p op v due => orderly.home (p, op) due v
  have progress : wp (c.addOperation p op) _ _ s := wp_addOperation_progress (M := c.strictly)
    (fun v op hv => (orderly.mem_of_definition? hv).1) p listed
  refine ((h.performs orderly ordered hs).and progress).mono fun r s' ⟨performs, e, notes⟩ => ?_
  have traced : c.Traced s' := e.events.traced ⟨cat, orderly.store⟩ orderly.home h.traced
  have other : ∀ e' ∈ c.programs.stream, e' ≠ (p, op) → e'.2.id ≠ op.id := fun e' he' hne same =>
    hne (cat.eq_of_id he' listed same)
  refine ⟨traced, fun e' he' => ?_, fun e' he' outside v hv => ?_,
    fun e' he' v hv home' pointer => ?_, fun m => ?_⟩
  · by_cases same : e' = (p, op)
    · subst same
      simp [noted?_of_notes cat listed notes]
    · rw [performs.noted _ (other e' he' same), h.noted e' he']
      simp [same]
  · rw [List.mem_append, List.mem_singleton, not_or] at outside
    have later : e' ∈ after := by
      rw [hs] at he'
      simpa [outside] using he'
    have result : op.result ≠ some v := fun hv' => outside.2 (orderly.unique _ he' _ listed v hv hv')
    rw [performs.findNode v e'.1 (fun operand => ordered.result_ne hs e' later v operand hv) result]
    exact h.free e' he' outside.1 v hv
  · rcases List.mem_append.1 he' with earlier | now
    · obtain ⟨n, hn⟩ := Option.isSome_iff_exists.1 (h.placed e' earlier v hv home' pointer)
      rw [e.findNode home h.traced.wf h.traced.distinct hn]
      rfl
    · cases List.mem_singleton.1 now
      exact performs.placed v hv home' pointer
  · have same : before.map (fun e' => s'.graph.hits e'.1 (c.accessed e'.1 e'.2) m) =
        before.map fun e' => s.graph.hits e'.1 (c.accessed e'.1 e'.2) m :=
      List.map_congr_left fun e' he' => e.hits_eq home h.traced.wf h.traced.distinct (h.placed e' he') m
    rw [performs.counts, h.counts, List.map_append, List.sum_append, same]
    simp

end Turn

section Run

variable (orderly : c.programs.Orderly) (ordered : c.programs.Ordered)
include orderly ordered

theorem Streamed.run {rest : List (Program × Operation)} (h : c.Streamed before s)
    (hs : c.programs.stream = before ++ rest) :
    wp (c.addStream rest) (fun _ s' => c.Streamed c.programs.stream s') (fun _ => True) s := by
  induction rest generalizing before s with
  | nil =>
    rw [hs, List.append_nil]
    exact h
  | cons e rest ih =>
    rw [addStream, wp_bind]
    refine (h.turn orderly ordered hs).mono fun _ s₁ h₁ => ?_
    rw [wp_bind]
    exact ih h₁ (by simpa using hs)

theorem wp_buildAll_streamed :
    wp c.buildAll (fun _ s => c.Streamed c.programs.stream s) (fun _ => True) {} := by
  rw [buildAll_eq]
  exact streamed_empty.run orderly ordered rfl

end Run

end Stream

/-! ## Stores, loads and receives -/

section Statement

variable (c : BuildContext) (g : Graph) (T : Program → NodeId → Bool)

/-- The stores whose destination resolves to a node as in `T`. -/
def storesTo : Nat :=
  c.programs.stream.countP fun e =>
    e.2.opcode = .store && (e.2.operands[1]?.bind (g.findNode · e.1)).any (T e.1)

/-- The loads of what resolves to a node as in `T`. -/
def loadsFrom : Nat :=
  c.programs.stream.countP fun e =>
    e.2.opcode = .load && (e.2.operands[0]?.bind (g.findNode · e.1)).any (T e.1)

/-- The arguments of receives that resolve to a node as in `T`, call by call. -/
def receivesInto : Nat :=
  (c.programs.stream.map fun e =>
    if e.2.opcode = .call ∧ c.callDirection? e.1 e.2 = some .recv then
      e.2.operands.countP fun v => (g.findNode v e.1).any (T e.1)
    else 0).sum

/-- The accesses to the nodes as in `T`. -/
def accessesTo : Nat := c.storesTo g T + c.loadsFrom g T + c.receivesInto g T

theorem countP_toList (v : Option Value) (p : Program) :
    v.toList.countP (fun v => (g.findNode v p).any (T p)) =
      if (v.bind (g.findNode · p)).any (T p) = true then 1 else 0 := by
  cases v with
  | none => rfl
  | some v => simp [List.countP_cons]

theorem countP_accessed (e : Program × Operation) :
    (c.accessed e.1 e.2).countP (fun v => (g.findNode v e.1).any (T e.1)) =
      (if (e.2.opcode = .store && (e.2.operands[1]?.bind (g.findNode · e.1)).any (T e.1)) = true then 1 else 0) +
      (if (e.2.opcode = .load && (e.2.operands[0]?.bind (g.findNode · e.1)).any (T e.1)) = true then 1 else 0) +
      if e.2.opcode = .call ∧ c.callDirection? e.1 e.2 = some .recv then
        e.2.operands.countP fun v => (g.findNode v e.1).any (T e.1)
      else 0 := by
  unfold accessed
  split
  · next store => simp [store, countP_toList]
  · next load => simp [load, countP_toList]
  · next call =>
    by_cases recv : c.callDirection? e.1 e.2 = some .recv <;> simp [call, recv]
  · next store load call =>
    have other : e.2.opcode ≠ .store ∧ e.2.opcode ≠ .load ∧ e.2.opcode ≠ .call := ⟨store, load, call⟩
    simp [other]

theorem accessesTo_eq : c.accessesTo g T = (c.programs.stream.map fun e =>
    (c.accessed e.1 e.2).countP fun v => (g.findNode v e.1).any (T e.1)).sum := by
  unfold accessesTo storesTo loadsFrom receivesInto
  induction c.programs.stream with
  | nil => rfl
  | cons e es ih =>
    simp only [List.countP_cons, List.map_cons, List.sum_cons]
    rw [← ih, countP_accessed]
    omega

end Statement

section Exact

variable {c : BuildContext} {s : BuildState}

theorem hits_eq_countP {g : Graph} {m : NodeId} (mem : g.isMem m = true) (p : Program) (vs : List Value) :
    g.hits p vs m = vs.countP fun v => (g.findNode v p).any fun n => n = m := by
  rw [Graph.hits, if_pos mem]
  refine List.countP_congr fun v _ => ?_
  cases g.findNode v p <;> simp

theorem Streamed.count_eq (h : c.Streamed c.programs.stream s) {m : NodeId} {x : Node}
    (hx : s.graph.node? m = some x) (mem : x.isMem = true) :
    x.count = c.accessesTo s.graph fun _ n => n = m := by
  have isMem : s.graph.isMem m = true := by simp [Graph.isMem, hx, mem]
  have count : s.graph.memAccesses m = x.count := by simp [Graph.memAccesses, hx, mem]
  rw [← count, h.counts, accessesTo_eq]
  simp only [hits_eq_countP isMem]

/-- A value that resolves to memory resolves to memory of its program. -/
theorem Distinct.program_eq {g : Graph} (wf : g.WellFormed) (distinct : c.Distinct g) {v : Value} {q : Program}
    {n : NodeId} {x : Node} (found : g.findNode v q = some n) (hx : g.node? n = some x) (mem : x.isMem = true) :
    x.program = q := by
  have identified := distinct.identified wf
  by_cases points : ∃ k, c.Points v k
  · obtain ⟨k, points⟩ := points
    obtain ⟨y, hy, program, -⟩ := identified.pointer v q k n points found
    cases hx.symm.trans hy
    exact program.trans (program_of_findNode found)
  · have other := identified.scalar v q n (not_exists.1 points) found
    rw [Graph.isMem, hx, Option.any_some, mem] at other
    cases other

theorem mem_memNodesOf_iff {g : Graph} (wf : g.WellFormed) {p : Program} {n : NodeId} :
    n ∈ (g.memNodesOf p).map (·.id) ↔ ∃ x, g.node? n = some x ∧ x.program = p ∧ x.isMem = true := by
  constructor
  · intro h
    obtain ⟨x, hx, rfl⟩ := List.mem_map.1 h
    obtain ⟨hx, kind⟩ := List.mem_filter.1 hx
    obtain ⟨m, hm⟩ := Graph.mem_nodes_iff.1 hx
    rw [wf.id_eq m x hm]
    exact ⟨x, hm, by simpa using kind⟩
  · rintro ⟨x, hx, program, mem⟩
    refine List.mem_map.2 ⟨x, List.mem_filter.2 ⟨Graph.mem_nodes_iff.2 ⟨n, hx⟩, ?_⟩, wf.id_eq n x hx⟩
    simp [program, mem]

theorem sum_map_ite {α : Type} (xs : List α) (P : α → Prop) [DecidablePred P] :
    (xs.map fun x => if P x then 1 else 0).sum = xs.countP P := by
  induction xs with
  | nil => rfl
  | cons x xs ih => rw [List.map_cons, List.sum_cons, ih, List.countP_cons, Nat.add_comm]; simp

/-- A value resolves to at most one set of memory cells. -/
theorem Distinct.sum_hits_singleton {g : Graph} (wf : g.WellFormed) (distinct : c.Distinct g) (p q : Program)
    (v : Value) : ((g.memNodesOf p).map fun x => g.hits q [v] x.id).sum =
      if ((g.findNode v q).any fun n => q = p && g.isMem n) = true then 1 else 0 := by
  have single : (g.memNodesOf p).map (fun x => g.hits q [v] x.id) =
      (g.memNodesOf p).map fun x => if g.findNode v q = some x.id then 1 else 0 := by
    refine List.map_congr_left fun x hx => ?_
    obtain ⟨y, hy, -, mem⟩ := (mem_memNodesOf_iff wf).1 (List.mem_map_of_mem hx)
    have isMem : g.isMem x.id = true := by simp [Graph.isMem, hy, mem]
    rw [Graph.hits_singleton]
    simp [isMem]
  rw [single, sum_map_ite]
  cases found : g.findNode v q with
  | none => simp
  | some n =>
    have nodup : ((g.memNodesOf p).map (·.id)).Nodup :=
      List.pairwise_map.2 ((wf.toLinked.nodes_ascending.filter _).imp Nat.ne_of_lt)
    have count : (g.memNodesOf p).countP (fun x => some n = some x.id) =
        ((g.memNodesOf p).map (·.id)).count n := by
      rw [List.count, List.countP_map]
      refine List.countP_congr fun x _ => ?_
      simp only [Option.some.injEq, decide_eq_true_eq, Function.comp_apply, beq_iff_eq]
      exact eq_comm
    have here : n ∈ (g.memNodesOf p).map (·.id) ↔ q = p ∧ g.isMem n = true := by
      rw [mem_memNodesOf_iff wf, Graph.isMem]
      constructor
      · rintro ⟨x, hx, program, mem⟩
        rw [hx]
        exact ⟨(distinct.program_eq wf found hx mem).symm.trans program, mem⟩
      · rintro ⟨rfl, mem⟩
        obtain ⟨x, hx, mem⟩ := (Option.any_eq_true _ _).1 mem
        exact ⟨x, hx, distinct.program_eq wf found hx mem, mem⟩
    rw [count, nodup.count]
    simp [here]

theorem Distinct.sum_hits {g : Graph} (wf : g.WellFormed) (distinct : c.Distinct g) (p q : Program)
    (vs : List Value) : ((g.memNodesOf p).map fun x => g.hits q vs x.id).sum =
      vs.countP fun v => (g.findNode v q).any fun n => q = p && g.isMem n := by
  induction vs with
  | nil => simp
  | cons v vs ih =>
    have split : (fun x : Node => g.hits q (v :: vs) x.id) = fun x => g.hits q [v] x.id + g.hits q vs x.id :=
      funext fun x => g.hits_append q [v] vs x.id
    rw [split, List.sum_map_add, ih, distinct.sum_hits_singleton wf, List.countP_cons, Nat.add_comm]

theorem Streamed.arrayCount_eq (h : c.Streamed c.programs.stream s) (p : Program) :
    s.graph.arrayCount p = c.accessesTo s.graph fun q n => q = p && s.graph.isMem n := by
  have counts : (s.graph.memNodesOf p).map (·.count) = (s.graph.memNodesOf p).map fun x =>
      (c.programs.stream.map fun e => s.graph.hits e.1 (c.accessed e.1 e.2) x.id).sum := by
    refine List.map_congr_left fun x hx => ?_
    obtain ⟨hx, kind⟩ := List.mem_filter.1 hx
    obtain ⟨m, hm⟩ := Graph.mem_nodes_iff.1 hx
    have mem : x.isMem = true := (Bool.and_eq_true_iff.1 kind).2
    rw [h.traced.wf.id_eq m x hm, ← h.counts]
    simp [Graph.memAccesses, hm, mem]
  have swap := Multiset.sum_map_sum_map (s.graph.memNodesOf p : Multiset Node)
    (c.programs.stream : Multiset (Program × Operation))
    (f := fun x e => s.graph.hits e.1 (c.accessed e.1 e.2) x.id)
  simp only [Multiset.map_coe, Multiset.sum_coe] at swap
  rw [Graph.arrayCount, Node.accesses_eq_sum, counts, swap, accessesTo_eq]
  simp only [h.traced.distinct.sum_hits h.traced.wf]

end Exact

/-- Every access to memory is counted, and none is counted twice: by stores into it, loads of it, and
receives into it. So the count of a program is the number of its accesses to memory. -/
theorem counts_exact (c : BuildContext) (registered : c.programs.Registered)
    (single : c.programs.SingleAssignment) (ordered : c.programs.Ordered) (count : Nat) (s : BuildState)
    (built : c.buildAll.run {} = .ok (count, s)) :
    (∀ m x, s.graph.node? m = some x → x.isMem = true → x.count = c.accessesTo s.graph fun _ n => n = m) ∧
      ∀ p, s.graph.arrayCount p = c.accessesTo s.graph fun q n => q = p && s.graph.isMem n := by
  have streamed : c.Streamed c.programs.stream s :=
    (wp_buildAll_streamed ⟨registered.catalogued, single⟩ ordered).run built
  exact ⟨fun m x hx mem => streamed.count_eq hx mem, streamed.arrayCount_eq⟩

/-- The memory that `p` points to is the node `1`, with a store and a load. The second program receives
into its buffer. -/
theorem counts_exact_courier : courier.programs.Registered ∧ courier.programs.SingleAssignment ∧
    courier.programs.Ordered ∧ ∃ s, courier.buildAll.run {} = .ok (5, s) ∧
      (courier.storesTo s.graph fun _ n => n = 1) = 1 ∧ (courier.loadsFrom s.graph fun _ n => n = 1) = 1 ∧
      (∃ x, s.graph.node? 1 = some x ∧ x.count = 2 ∧ x.count = courier.accessesTo s.graph fun _ n => n = 1) ∧
      s.graph.arrayCount .second = 1 ∧
      s.graph.arrayCount .second = courier.accessesTo s.graph fun q n => q = .second && s.graph.isMem n := by
  have registered : courier.programs.Registered := ProgramPair.registered_ofRoutines ..
  have single : courier.programs.SingleAssignment := by decide +kernel
  have ordered : courier.programs.Ordered := by decide +kernel
  have outcome : ((courier.buildAll : Build Nat).run {}).map (fun r =>
      ([r.1, courier.storesTo r.2.graph fun _ n => n = 1, courier.loadsFrom r.2.graph fun _ n => n = 1,
        r.2.graph.arrayCount .second], (r.2.graph.node? 1).map fun x => (x.isMem, x.count))) =
      .ok ([5, 1, 1, 1], some (true, 2)) := by decide +kernel
  obtain ⟨r, hrun, outcome⟩ := exists_of_map_eq_ok outcome
  simp only [Prod.mk.injEq, List.cons.injEq, and_true, Option.map_eq_some_iff] at outcome
  obtain ⟨⟨count, stores, loads, second⟩, x, hx, mem, accesses⟩ := outcome
  obtain ⟨counts, arrays⟩ := counts_exact courier registered single ordered r.1 r.2 hrun
  exact ⟨registered, single, ordered, r.2, hrun.trans (by rw [← count]), stores, loads,
    ⟨x, hx, accesses, counts 1 x hx mem⟩, second, arrays .second⟩

end BuildContext

end PeerTaint
