import PeerTaint.Proofs.BreadthFirst

/-!
What a sink depends on.

Both searches against the edges look where one breadth-first search from the sink looks (`visits`): the search for
all sources reports what is met on the way, and the search for the nearest source stops at the first one. A node
that memory or the network bars is left out of that search, or looked at and not passed.

`Upstream` and `Allowed` say which walks to the sink count. What is looked at ends such a walk, on a shortest one.
-/

namespace PeerTaint

namespace Graph

/-! ## Walks that count -/

/-- A walk from `n` to the sink. If memory is skipped, no node on it but the sink is memory. -/
structure Upstream (g : Graph) (skipMem : Bool) (sink n : NodeId) (path : List NodeId) : Prop
    extends g.Walk n sink path where
  mem : skipMem = true → ∀ k ∈ path.dropLast, g.isMem k = false

/-- A walk from `n` to the sink that counts. If the network is skipped, no node between its ends receives from the
network in program `p`. -/
structure Allowed (g : Graph) (skipMem skipNet : Bool) (p : Program) (sink n : NodeId) (path : List NodeId) : Prop
    extends g.Upstream skipMem sink n path where
  net : skipNet = true → ∀ k ∈ path.tail.dropLast, g.isNetRead p k = false

theorem Upstream.allowed {g : Graph} {skipMem : Bool} {sink n : NodeId} {path : List NodeId}
    (h : g.Upstream skipMem sink n path) (p : Program) : g.Allowed skipMem false p sink n path :=
  ⟨h, nofun⟩

/-! ## The search behind both questions -/

/-- Whether a search from the sink looks at a node without passing it. -/
def isBarrier (g : Graph) (skipNet : Bool) (p : Program) (sink n : NodeId) : Bool :=
  decide (n ≠ sink) && skipNet && g.isNetRead p n

/-- The nodes that a search from the sink sees behind a node. -/
def behind (g : Graph) (skipNet : Bool) (p : Program) (sink n : NodeId) : List NodeId :=
  if g.isBarrier skipNet p sink n then [] else g.predecessors n

/-- Where a search from the sink looks. -/
def visits (g : Graph) (skipMem skipNet : Bool) (p : Program) (sink : NodeId) : List (NodeId × Trail) :=
  sweep (g.behind skipNet p sink) [(sink, [sink])] ((g.others sink).filter (!g.isSkipped skipMem ·))

/-- Whether the search for all sources reports the path of a node. -/
def reports (g : Graph) (sources : SortedSet NodeId) (skipNet : Bool) (p : Program) (sink : NodeId)
    (e : NodeId × Trail) : Bool :=
  decide (e.1 ∈ sources) && !g.isBarrier skipNet p sink e.1

/-- Whether a node that is looked at makes the answer network dependent. -/
def raises (g : Graph) (sources : SortedSet NodeId) (skipNet : Bool) (p : Program) (sink : NodeId)
    (e : NodeId × Trail) : Bool :=
  g.isBarrier skipNet p sink e.1 || (decide (e.1 ∈ sources) && !skipNet && e.2.any (g.isNetRead p))

/-- Leaving nodes out before a search is leaving them out as they are met. -/
theorem discovered_filter (ns unseen : List NodeId) (q : NodeId → Bool) :
    (discovered ns unseen).filter q = discovered ns (unseen.filter q) := by
  simp [discovered, List.filter_filter, Bool.and_comm]

theorem undiscovered_filter (ns unseen : List NodeId) (q : NodeId → Bool) :
    (undiscovered ns unseen).filter q = undiscovered ns (unseen.filter q) := by
  simp [undiscovered, List.filter_filter, Bool.and_comm]

section

variable {g : Graph} {sink : NodeId} {sources : SortedSet NodeId} {skipMem skipNet : Bool} {p : Program}

theorem isBarrier_eq_true_iff {n : NodeId} :
    g.isBarrier skipNet p sink n = true ↔ n ≠ sink ∧ skipNet = true ∧ g.isNetRead p n = true := by
  simp [isBarrier, and_assoc]

@[simp]
theorem isBarrier_false (p : Program) (sink n : NodeId) : g.isBarrier false p sink n = false := by
  simp [isBarrier]

/-- The search for all sources adds up what is reported where it looks. -/
theorem collect_eq (agenda : List (NodeId × Trail)) (unseen : List NodeId) (d : Dependencies) :
    let looked := sweep (g.behind skipNet p sink) agenda (unseen.filter (!g.isSkipped skipMem ·))
    g.collect sink sources skipMem skipNet p agenda unseen d =
      { paths := (looked.filter (g.reports sources skipNet p sink)).foldl (fun m e => m.insert e.1 e.2) d.paths
        netDependency := d.netDependency || looked.any (g.raises sources skipNet p sink) } := by
  fun_induction collect g sink sources skipMem skipNet p agenda unseen d with
  | case1 unseen d => simp [sweep]
  | case2 n path agenda unseen d barred ih =>
    have barrier : g.isBarrier skipNet p sink n = true := isBarrier_eq_true_iff.2 barred
    have none : discovered [] (unseen.filter (!g.isSkipped skipMem ·)) = [] := by simp [discovered]
    have all : undiscovered [] (unseen.filter (!g.isSkipped skipMem ·)) = unseen.filter (!g.isSkipped skipMem ·) := by
      simp [undiscovered]
    rw [ih, sweep, behind, if_pos barrier, none, all]
    simp [reports, raises, barrier]
  | case3 n path agenda unseen d free new ih =>
    have barrier : g.isBarrier skipNet p sink n = false :=
      Bool.eq_false_iff.2 fun h => free (isBarrier_eq_true_iff.1 h)
    rw [ih, sweep, behind, if_neg (by simp [barrier]), ← discovered_filter, ← undiscovered_filter]
    by_cases source : n ∈ sources
    · simp [reports, raises, barrier, source, Dependencies.meet, new, Bool.or_assoc]
    · simp [reports, raises, barrier, source, Dependencies.meet, new]

/-- An entry of the agenda as the search for the nearest source keeps it: a handle and its distance. -/
def measured (e : NodeId × Trail) : NodeId × Nat := (e.1, e.2.length - 1)

/-- The search for the nearest source stops at the first source where it looks. -/
theorem nearest_eq (distances : List (NodeId × Nat)) (unseen : List NodeId) :
    ∀ agenda : List (NodeId × Trail), (∀ e ∈ agenda, e.2 ≠ []) → agenda.map measured = distances →
      g.nearest sources skipMem distances unseen =
        ((sweep g.predecessors agenda (unseen.filter (!g.isSkipped skipMem ·))).find?
          (decide <| ·.1 ∈ sources)).map measured := by
  fun_induction nearest g sources skipMem distances unseen with
  | case1 unseen =>
    intro agenda ne same
    obtain rfl := List.map_eq_nil_iff.1 same
    simp [sweep]
  | case2 n distance distances unseen source =>
    intro agenda ne same
    obtain ⟨⟨m, path⟩, rest, rfl, he, rfl⟩ := List.map_eq_cons_iff.1 same
    cases he
    simp [sweep, source, measured]
  | case3 n distance distances unseen other new ih =>
    intro agenda ne same
    obtain ⟨⟨m, path⟩, rest, rfl, he, rfl⟩ := List.map_eq_cons_iff.1 same
    cases he
    have long : path.length - 1 + 1 = path.length :=
      Nat.sub_add_cancel (List.length_pos_iff.2 (ne (m, path) List.mem_cons_self))
    rw [sweep, ← discovered_filter, ← undiscovered_filter, List.find?_cons_of_neg (by simpa using other)]
    refine ih _ ?_ ?_
    · intro e he
      rcases List.mem_append.1 he with he | he
      · exact ne e (List.mem_cons_of_mem _ he)
      · obtain ⟨k, -, rfl⟩ := List.mem_map.1 he
        exact List.cons_ne_nil _ _
    · rw [List.map_append, List.map_map]
      congr 1
      refine List.map_congr_left fun k _ => ?_
      simp [measured, long]

theorem everyDependency_eq (live : g.isLive sink = true) :
    g.everyDependency sink sources skipMem skipNet p =
      { paths := .ofList ((g.visits skipMem skipNet p sink).filter (g.reports sources skipNet p sink))
        netDependency := (g.visits skipMem skipNet p sink).any (g.raises sources skipNet p sink) } := by
  rw [everyDependency, if_pos live, collect_eq]
  simp [visits, SortedMap.ofList]

/-- Without barriers, the nearest source is the first one where the search for all sources looks. -/
theorem shortestDependency_eq (live : g.isLive sink = true) (p : Program) :
    g.shortestDependency sink sources skipMem =
      ((g.visits skipMem false p sink).find? (decide <| ·.1 ∈ sources)).map measured := by
  have unbarred : g.behind false p sink = g.predecessors := by
    funext n
    simp [behind]
  rw [shortestDependency, if_pos live, visits, unbarred]
  exact nearest_eq _ _ _ (by simp) rfl

/-! ## Where the search looks -/

theorem mem_behind_iff {n m : NodeId} :
    m ∈ g.behind skipNet p sink n ↔ g.isBarrier skipNet p sink n = false ∧ m ∈ g.predecessors n := by
  cases h : g.isBarrier skipNet p sink n <;> simp [behind, h]

theorem mem_unskipped_iff {n : NodeId} : n ∈ (g.others sink).filter (!g.isSkipped skipMem ·) ↔
    g.isLive n = true ∧ n ≠ sink ∧ (skipMem = true → g.isMem n = false) := by
  have skipped : g.isSkipped skipMem n = (skipMem && g.isMem n) := rfl
  cases skipMem <;> simp [mem_others_iff, skipped, and_assoc]

theorem nodup_visits : ((g.visits skipMem skipNet p sink).map (·.1)).Nodup := by
  refine nodup_sweep (List.nodup_singleton _) ?_ (((List.nodup_range.filter _).filter _).filter _)
  intro e he left
  rw [List.mem_singleton.1 he] at left
  exact (mem_unskipped_iff.1 left).2.1 rfl

theorem eq_of_mem_visits {n : NodeId} {path path' : Trail} (h : (n, path) ∈ g.visits skipMem skipNet p sink)
    (h' : (n, path') ∈ g.visits skipMem skipNet p sink) : path = path' :=
  congrArg Prod.snd (List.inj_on_of_nodup_map nodup_visits h h' rfl)

theorem sink_mem_visits : (sink, [sink]) ∈ g.visits skipMem skipNet p sink :=
  agenda_subset_sweep List.mem_cons_self

theorem Upstream.isLive {n : NodeId} {path : List NodeId} (h : g.Upstream skipMem sink n path) :
    g.isLive sink = true := h.live sink (List.mem_of_getLast? h.last)

theorem allowed_singleton (live : g.isLive sink = true) : g.Allowed skipMem skipNet p sink sink [sink] where
  head := rfl
  last := rfl
  chain := .singleton _
  live := by simpa using live
  mem _ := by simp
  net _ := by simp

/-- A walk that counts and does not return to the sink counts with one more node in front of it, if its first node
is no barrier. -/
theorem Allowed.cons {n m : NodeId} {path : List NodeId} (h : g.Allowed skipMem skipNet p sink n path)
    (nodup : path.Nodup) (free : g.isBarrier skipNet p sink n = false) (edge : g.Edge m n) (live : g.isLive m = true)
    (mem : skipMem = true → g.isMem m = false) : g.Allowed skipMem skipNet p sink m (m :: path) := by
  obtain ⟨rest, rfl⟩ := h.eq_cons
  refine { head := rfl, last := ?_, chain := ?_, live := ?_, mem := ?_, net := ?_ }
  · rw [List.getLast?_cons_cons]
    exact h.last
  · exact List.isChain_cons_cons.2 ⟨edge, h.chain⟩
  · intro k hk
    rcases List.mem_cons.1 hk with rfl | hk
    · exact live
    · exact h.live k hk
  · intro skip k hk
    rw [List.dropLast_cons_of_ne_nil (List.cons_ne_nil _ _)] at hk
    rcases List.mem_cons.1 hk with rfl | hk
    · exact mem skip
    · exact h.mem skip k hk
  · intro skip k hk
    rw [List.tail_cons] at hk
    cases rest with
    | nil => simp at hk
    | cons r rest =>
      rw [List.dropLast_cons_of_ne_nil (List.cons_ne_nil _ _)] at hk
      rcases List.mem_cons.1 hk with rfl | hk
      · -- the first node is not the sink, which ends the walk
        have other : k ≠ sink := by
          rintro rfl
          have last := h.last
          rw [List.getLast?_cons_cons] at last
          exact (List.nodup_cons.1 nodup).1 (List.mem_of_getLast? last)
        simpa [isBarrier, other, skip] using free
      · exact h.net skip k hk

theorem Allowed.tail {n m : NodeId} {path : List NodeId} (h : g.Allowed skipMem skipNet p sink n (n :: m :: path)) :
    g.Allowed skipMem skipNet p sink m (m :: path) where
  head := rfl
  last := by
    have last := h.last
    rwa [List.getLast?_cons_cons] at last
  chain := (List.isChain_cons_cons.1 h.chain).2
  live k hk := h.live k (List.mem_cons_of_mem _ hk)
  mem skip k hk := by
    refine h.mem skip k ?_
    rw [List.dropLast_cons_of_ne_nil (List.cons_ne_nil _ _)]
    exact List.mem_cons_of_mem _ hk
  net skip k hk := by
    refine h.net skip k ?_
    cases path with
    | nil => simp at hk
    | cons r path =>
      rw [List.tail_cons, List.dropLast_cons_of_ne_nil (List.cons_ne_nil _ _)]
      exact List.mem_cons_of_mem _ hk

/-- The second node of a walk that counts is no barrier. -/
theorem Allowed.isBarrier_eq_false {n m : NodeId} {path : List NodeId}
    (h : g.Allowed skipMem skipNet p sink n (n :: m :: path)) : g.isBarrier skipNet p sink m = false := by
  refine Bool.eq_false_iff.2 fun barrier => ?_
  obtain ⟨other, skip, net⟩ := isBarrier_eq_true_iff.1 barrier
  cases path with
  | nil =>
    have last := h.last
    simp only [List.getLast?_cons_cons, List.getLast?_singleton, Option.some.injEq] at last
    exact other last
  | cons r path =>
    have := h.net skip m (by simp)
    rw [net] at this
    cases this

/-- Where the search looks, its path counts and passes no node twice. -/
theorem allowed_of_mem_visits (wf : Linked g) (live : g.isLive sink = true) {n : NodeId} {path : Trail}
    (h : (n, path) ∈ g.visits skipMem skipNet p sink) :
    g.Allowed skipMem skipNet p sink n path ∧ path.Nodup := by
  refine sweep_induction (S := fun n path => g.Allowed skipMem skipNet p sink n path ∧ path.Nodup) ?_ ?_ ?_ h
  · intro e he
    rw [List.mem_singleton.1 he]
    exact ⟨allowed_singleton live, List.nodup_singleton _⟩
  · intro e he k hk left
    rw [List.mem_singleton.1 he] at hk
    exact (mem_unskipped_iff.1 left).2.1 (List.mem_singleton.1 hk)
  · rintro n path m ⟨allowed, nodup⟩ near unseen new
    obtain ⟨free, pred⟩ := mem_behind_iff.1 near
    obtain ⟨live, -, mem⟩ := mem_unskipped_iff.1 unseen
    exact ⟨allowed.cons nodup free ((mem_predecessors_iff wf).1 pred) live mem, List.nodup_cons.2 ⟨new, nodup⟩⟩

/-- The search looks wherever a walk that counts starts, on a path that is no longer. -/
theorem Allowed.exists_mem_visits (wf : Linked g) {n : NodeId} {path : List NodeId}
    (h : g.Allowed skipMem skipNet p sink n path) :
    ∃ way, (n, way) ∈ g.visits skipMem skipNet p sink ∧ way.length ≤ path.length := by
  obtain ⟨rest, rfl⟩ := h.eq_cons
  induction rest generalizing n with
  | nil =>
    have : n = sink := by simpa using h.last
    exact ⟨[sink], this ▸ sink_mem_visits, le_rfl⟩
  | cons m rest ih =>
    obtain ⟨way, looked, short⟩ := ih h.tail
    have pred : n ∈ g.predecessors m := (mem_predecessors_iff wf).2 (List.isChain_cons_cons.1 h.chain).1
    by_cases other : n = sink
    · exact ⟨[sink], other ▸ sink_mem_visits, by simp⟩
    · have unseen := mem_unskipped_iff.2 ⟨h.live n List.mem_cons_self, other, fun skip => h.mem skip n (by simp)⟩
      obtain ⟨way', looked', short'⟩ := sweep_next (staged_singleton _) looked
        (mem_behind_iff.2 ⟨h.isBarrier_eq_false, pred⟩) unseen
      exact ⟨way', looked', short'.trans (Nat.succ_le_succ short)⟩

/-- No walk that counts is shorter than the path that the search has found. -/
theorem length_le_of_mem_visits (wf : Linked g) {n : NodeId} {path : Trail}
    (h : (n, path) ∈ g.visits skipMem skipNet p sink) {path' : List NodeId}
    (allowed : g.Allowed skipMem skipNet p sink n path') : path.length ≤ path'.length := by
  obtain ⟨way, looked, short⟩ := allowed.exists_mem_visits wf
  rwa [eq_of_mem_visits h looked]

/-! ## All sources -/

theorem get?_everyDependency_iff (live : g.isLive sink = true) {n : NodeId} {path : List NodeId} :
    (g.everyDependency sink sources skipMem skipNet p).paths.get? n = some path ↔
      (n, path) ∈ g.visits skipMem skipNet p sink ∧ n ∈ sources ∧ g.isBarrier skipNet p sink n = false := by
  have distinct : (((g.visits skipMem skipNet p sink).filter (g.reports sources skipNet p sink)).map (·.1)).Nodup :=
    nodup_visits.sublist (List.filter_sublist.map _)
  rw [everyDependency_eq live, SortedMap.get?_ofList_eq_some_iff distinct, List.mem_filter]
  simp [reports]

/-- A source is reported exactly if it ends a walk that counts and is no barrier. -/
theorem mem_keys_everyDependency_iff (wf : Linked g) {n : NodeId} :
    n ∈ (g.everyDependency sink sources skipMem skipNet p).paths.keys ↔
      n ∈ sources ∧ (∃ path, g.Allowed skipMem skipNet p sink n path) ∧ g.isBarrier skipNet p sink n = false := by
  rw [SortedMap.mem_keys_iff, Option.isSome_iff_exists]
  constructor
  · rintro ⟨path, h⟩
    by_cases live : g.isLive sink = true
    · obtain ⟨looked, source, free⟩ := (get?_everyDependency_iff live).1 h
      exact ⟨source, ⟨path, (allowed_of_mem_visits wf live looked).1⟩, free⟩
    · rw [everyDependency, if_neg live] at h
      cases h
  · rintro ⟨source, ⟨path, allowed⟩, free⟩
    obtain ⟨way, looked, -⟩ := allowed.exists_mem_visits wf
    exact ⟨way, (get?_everyDependency_iff allowed.isLive).2 ⟨looked, source, free⟩⟩

/-- A reported path counts, passes no node twice, and is a shortest one. -/
theorem of_get?_everyDependency (wf : Linked g) {n : NodeId} {path : List NodeId}
    (h : (g.everyDependency sink sources skipMem skipNet p).paths.get? n = some path) :
    g.Allowed skipMem skipNet p sink n path ∧ path.Nodup ∧
      ∀ path', g.Allowed skipMem skipNet p sink n path' → path.length ≤ path'.length := by
  by_cases live : g.isLive sink = true
  · obtain ⟨looked, -, -⟩ := (get?_everyDependency_iff live).1 h
    obtain ⟨allowed, nodup⟩ := allowed_of_mem_visits wf live looked
    exact ⟨allowed, nodup, fun path' allowed' => length_le_of_mem_visits wf looked allowed'⟩
  · rw [everyDependency, if_neg live] at h
    cases h

/-- With barriers, the answer is network dependent exactly if a barrier ends a walk that counts. -/
theorem netDependency_barred_iff (wf : Linked g) :
    (g.everyDependency sink sources skipMem true p).netDependency = true ↔
      ∃ n, n ≠ sink ∧ g.isNetRead p n = true ∧ ∃ path, g.Allowed skipMem true p sink n path := by
  constructor
  · intro h
    by_cases live : g.isLive sink = true
    · rw [everyDependency_eq live, List.any_eq_true] at h
      obtain ⟨⟨n, path⟩, looked, raised⟩ := h
      have barrier : g.isBarrier true p sink n = true := by simpa [raises] using raised
      obtain ⟨other, -, net⟩ := isBarrier_eq_true_iff.1 barrier
      exact ⟨n, other, net, path, (allowed_of_mem_visits wf live looked).1⟩
    · rw [everyDependency, if_neg live] at h
      cases h
  · rintro ⟨n, other, net, path, allowed⟩
    obtain ⟨way, looked, -⟩ := allowed.exists_mem_visits wf
    rw [everyDependency_eq allowed.isLive]
    exact List.any_eq_true.2 ⟨_, looked, by simp [raises, isBarrier, other, net]⟩

/-- Without barriers, the answer is network dependent exactly if a reported path leads over the network. -/
theorem netDependency_unbarred_iff :
    (g.everyDependency sink sources skipMem false p).netDependency = true ↔
      ∃ n path, (g.everyDependency sink sources skipMem false p).paths.get? n = some path ∧
        ∃ k ∈ path, g.isNetRead p k = true := by
  by_cases live : g.isLive sink = true
  · simp only [get?_everyDependency_iff live]
    rw [everyDependency_eq live, List.any_eq_true]
    simp [raises, isBarrier, and_assoc]
  · rw [everyDependency, if_neg live]
    simp

/-- In a graph whose parts agree, the search for all sources is exact: it reports the sources that end a walk to the
sink that counts and are no barriers, each with a shortest such walk. With barriers the answer is network dependent
if one of them ends a walk that counts, and otherwise if a reported path leads over the network. -/
theorem everyDependency_exact (wf : Linked g) (sink : NodeId) (sources : SortedSet NodeId) (skipMem skipNet : Bool)
    (p : Program) :
    let found := g.everyDependency sink sources skipMem skipNet p
    (∀ n, n ∈ found.paths.keys ↔ n ∈ sources ∧ (∃ path, g.Allowed skipMem skipNet p sink n path) ∧
        ¬ (skipNet = true ∧ g.isNetRead p n = true ∧ n ≠ sink)) ∧
      (∀ n path, found.paths.get? n = some path → g.Walk n sink path ∧ path.Nodup ∧
        g.Allowed skipMem skipNet p sink n path ∧
          ∀ path', g.Allowed skipMem skipNet p sink n path' → path.length ≤ path'.length) ∧
      (skipNet = true → (found.netDependency = true ↔
        ∃ n, g.isNetRead p n = true ∧ n ≠ sink ∧ ∃ path, g.Allowed skipMem skipNet p sink n path)) ∧
      (skipNet = false → (found.netDependency = true ↔
        ∃ n path, found.paths.get? n = some path ∧ ∃ k ∈ path, g.isNetRead p k = true)) := by
  refine ⟨fun n => ?_, fun n path h => ?_, ?_, ?_⟩
  · rw [mem_keys_everyDependency_iff wf, ← Bool.not_eq_true, isBarrier_eq_true_iff]
    tauto
  · obtain ⟨allowed, nodup, shortest⟩ := of_get?_everyDependency wf h
    exact ⟨allowed.toWalk, nodup, allowed, shortest⟩
  · rintro rfl
    rw [netDependency_barred_iff wf]
    exact exists_congr fun n => and_left_comm
  · rintro rfl
    exact netDependency_unbarred_iff

/-- A sink with two ways from node `4`: a short one over the network and a longer one around it. A third way leads
over memory, node `6` leads only to the network, and the sink is on a circle. -/
def detour : List Mutation :=
  [.addNode .first (.op .other none) "sink", .addNode .first (.netRead ⟨none, [], none⟩) "recv",
    .addNode .first (.mem 0) "buf", .addNode .first (.op .other none) "a", .addNode .first (.op .other none) "b",
    .addNode .first (.op .other none) "c", .addNode .first (.op .other none) "d"] ++
    [(0, 3), (1, 0), (2, 0), (3, 0), (4, 1), (4, 2), (4, 5), (5, 3), (6, 1)].map fun e => .connect e.1 e.2 .data

/-- With the network skipped, the long way is reported, and it is a shortest one that counts. -/
theorem everyDependency_exact_detour :
    let found := (after detour).everyDependency 0 (.ofList [1, 4, 6]) true true .first
    Linked (after detour) ∧ found.paths.keys = [4] ∧ found.paths.get? 4 = some [4, 5, 3, 0] ∧
      (∀ path, (after detour).Allowed true true .first 0 4 path → 4 ≤ path.length) ∧
      (¬ ∃ path, (after detour).Allowed true true .first 0 6 path) ∧
      ∃ n, (after detour).isNetRead .first n = true ∧ n ≠ 0 ∧
        ∃ path, (after detour).Allowed true true .first 0 n path := by
  intro found
  have wf : Linked (after detour) := (wellFormed_after detour).toLinked
  have keys : found.paths.keys = [4] := by decide +kernel
  have path : found.paths.get? 4 = some [4, 5, 3, 0] := by decide +kernel
  have net : found.netDependency = true := by decide +kernel
  have source : 6 ∈ SortedSet.ofList [1, 4, 6] ∧ (after detour).isNetRead .first 6 = false := by decide +kernel
  obtain ⟨reported, shortest, barred, -⟩ := everyDependency_exact wf 0 (.ofList [1, 4, 6]) true true .first
  refine ⟨wf, keys, path, (shortest 4 _ path).2.2.2, fun allowed => ?_, (barred rfl).1 net⟩
  have := (reported 6).2 ⟨source.1, allowed, by simp [source.2]⟩
  rw [keys] at this
  simp at this

/-! ## Barriers that are not met -/

/-- A walk that counts, between nodes that are no barriers, does not lead over the network. -/
theorem Allowed.isNetRead_eq_false {n : NodeId} {path : List NodeId} (h : g.Allowed skipMem true p sink n path)
    (free : g.isBarrier true p sink n = false) (home : g.isNetRead p sink = false) :
    ∀ k ∈ path, g.isNetRead p k = false := by
  have start : g.isNetRead p n = false := by
    by_cases same : n = sink
    · rw [same, home]
    · simpa [isBarrier, same] using free
  intro k hk
  obtain ⟨rest, rfl⟩ := h.eq_cons
  rcases List.mem_cons.1 hk with rfl | hk
  · exact start
  have ne : rest ≠ [] := List.ne_nil_of_mem hk
  have last : rest.getLast ne = sink := by
    have last := h.last
    rwa [List.getLast?_cons_of_ne_nil ne, List.getLast?_eq_some_getLast ne, Option.some.injEq] at last
  rw [← List.dropLast_append_getLast ne, last] at hk
  rcases List.mem_append.1 hk with hk | hk
  · exact h.net rfl k hk
  · rw [List.mem_singleton.1 hk, home]

/-- A search that meets no barrier looks where the search without barriers looks. -/
theorem visits_eq_of_free
    (free : ∀ e ∈ g.visits skipMem true p sink, g.isBarrier true p sink e.1 = false) :
    g.visits skipMem false p sink = g.visits skipMem true p sink := by
  refine sweep_congr fun e he => ?_
  rw [behind, behind, free e he, isBarrier_false]

/-- If the search with barriers does not meet one, and the sink is none, taking the barriers away changes nothing.
In any case it loses no source. -/
theorem everyDependency_unbarred (wf : Linked g) (sink : NodeId) (sources : SortedSet NodeId) (skipMem : Bool)
    (p : Program) :
    ((g.everyDependency sink sources skipMem true p).netDependency = false → g.isNetRead p sink = false →
      g.everyDependency sink sources skipMem false p = g.everyDependency sink sources skipMem true p) ∧
      ∀ n ∈ (g.everyDependency sink sources skipMem true p).paths.keys,
        n ∈ (g.everyDependency sink sources skipMem false p).paths.keys := by
  refine ⟨fun quiet home => ?_, fun n hn => ?_⟩
  · by_cases live : g.isLive sink = true
    · rw [everyDependency_eq live] at quiet
      have free : ∀ e ∈ g.visits skipMem true p sink, g.isBarrier true p sink e.1 = false := by
        intro e he
        have := List.any_eq_false.1 quiet e he
        simpa [raises] using this
      have paths : (g.visits skipMem true p sink).filter (g.reports sources false p sink) =
          (g.visits skipMem true p sink).filter (g.reports sources true p sink) := by
        refine List.filter_congr fun e he => ?_
        rw [reports, reports, free e he, isBarrier_false]
      have net : (g.visits skipMem true p sink).any (g.raises sources false p sink) = false := by
        refine List.any_eq_false.2 fun e he => ?_
        have offline := (allowed_of_mem_visits wf live he).1.isNetRead_eq_false (free e he) home
        simp +contextual [raises, offline]
      rw [everyDependency_eq live, everyDependency_eq live, visits_eq_of_free free, paths, net]
      exact congrArg _ quiet.symm
    · rw [everyDependency, everyDependency, if_neg live, if_neg live]
  · obtain ⟨source, ⟨path, allowed⟩, -⟩ := (mem_keys_everyDependency_iff wf).1 hn
    exact (mem_keys_everyDependency_iff wf).2 ⟨source, ⟨path, allowed.toUpstream.allowed p⟩, isBarrier_false ..⟩

/-- For the other program the network node is no barrier; for its own program, taking barriers away adds sources. -/
theorem everyDependency_unbarred_detour :
    let sources : SortedSet NodeId := .ofList [1, 4, 6]
    Linked (after detour) ∧ ((after detour).everyDependency 0 sources true true .second).netDependency = false ∧
      (after detour).isNetRead .second 0 = false ∧
      (after detour).everyDependency 0 sources true false .second =
        (after detour).everyDependency 0 sources true true .second ∧
      4 ∈ ((after detour).everyDependency 0 sources true true .first).paths.keys ∧
      4 ∈ ((after detour).everyDependency 0 sources true false .first).paths.keys := by
  intro sources
  have wf : Linked (after detour) := (wellFormed_after detour).toLinked
  have quiet : ((after detour).everyDependency 0 sources true true .second).netDependency = false := by
    decide +kernel
  have home : (after detour).isNetRead .second 0 = false := by decide +kernel
  have reported : 4 ∈ ((after detour).everyDependency 0 sources true true .first).paths.keys := by decide +kernel
  exact ⟨wf, quiet, home, (everyDependency_unbarred wf 0 sources true .second).1 quiet home, reported,
    (everyDependency_unbarred wf 0 sources true .first).2 4 reported⟩

/-! ## The nearest source -/

/-- The first entry of a sorted list that passes a test comes before all others that do. -/
theorem rel_of_find? {α : Type} {r : α → α → Prop} {l : List α} (sorted : l.Pairwise r) (refl : ∀ a, r a a)
    {q : α → Bool} {a b : α} (found : l.find? q = some a) (hb : b ∈ l) (passes : q b = true) : r a b := by
  induction l with
  | nil => cases hb
  | cons c l ih =>
    obtain ⟨first, sorted⟩ := List.pairwise_cons.1 sorted
    rw [List.find?_cons] at found
    split at found
    next =>
      cases found
      rcases List.mem_cons.1 hb with rfl | hb
      · exact refl b
      · exact first b hb
    next fails =>
      rcases List.mem_cons.1 hb with rfl | hb
      · rw [passes] at fails
        cases fails
      · exact ih sorted found hb

theorem shortestDependency_eq_none_iff (wf : Linked g) : g.shortestDependency sink sources skipMem = none ↔
    ∀ n ∈ sources, ¬ ∃ path, g.Upstream skipMem sink n path := by
  by_cases live : g.isLive sink = true
  · rw [shortestDependency_eq live .first, Option.map_eq_none_iff, List.find?_eq_none]
    constructor
    · rintro none n source ⟨path, upstream⟩
      obtain ⟨way, looked, -⟩ := (upstream.allowed .first).exists_mem_visits wf
      exact none _ looked (decide_eq_true source)
    · intro none e he source
      obtain ⟨allowed, -⟩ := allowed_of_mem_visits wf live he
      exact none e.1 (of_decide_eq_true source) ⟨e.2, allowed.toUpstream⟩
  · rw [shortestDependency, if_neg live]
    refine iff_of_true rfl ?_
    rintro n - ⟨path, upstream⟩
    exact live upstream.isLive

/-- The source that is found is looked at by the search for all sources, on a path with one node more than its
distance, and before all other sources. -/
theorem of_shortestDependency (wf : Linked g) {n : NodeId} {d : Nat} (h : g.shortestDependency sink sources skipMem = some (n, d))
    (p : Program) :
    g.isLive sink = true ∧ n ∈ sources ∧
      ∃ path, (n, path) ∈ g.visits skipMem false p sink ∧ path.length = d + 1 ∧
        ∀ m way, (m, way) ∈ g.visits skipMem false p sink → m ∈ sources → d + 1 ≤ way.length := by
  by_cases live : g.isLive sink = true
  · rw [shortestDependency_eq live p, Option.map_eq_some_iff] at h
    obtain ⟨⟨n, path⟩, found, he⟩ := h
    cases he
    have looked := List.mem_of_find?_eq_some found
    obtain ⟨rest, rfl⟩ := (allowed_of_mem_visits wf live looked).1.eq_cons
    refine ⟨live, by simpa using List.find?_some found, n :: rest, looked, rfl, fun m way hm source => ?_⟩
    exact rel_of_find? (sweep_sorted (staged_singleton _)) (fun _ => le_rfl) found hm (decide_eq_true source)
  · rw [shortestDependency, if_neg live] at h
    cases h

/-- In a graph whose parts agree, the nearest source is found exactly if a walk leads from a source to the sink, without
memory on the way if memory is skipped. Its distance is one less than the number of nodes on a shortest such walk
from any source, and the search for all sources without barriers agrees with it. -/
theorem shortestDependency_nearest (wf : Linked g) (sink : NodeId) (sources : SortedSet NodeId) (skipMem : Bool) :
    let nearest := g.shortestDependency sink sources skipMem
    let every := fun p => (g.everyDependency sink sources skipMem false p).paths
    (nearest = none ↔ g.isLive sink = false ∨ ∀ n ∈ sources, ¬ ∃ path, g.Upstream skipMem sink n path) ∧
      (∀ n d, nearest = some (n, d) → n ∈ sources ∧
        (∃ path, g.Upstream skipMem sink n path ∧ path.length = d + 1) ∧
        (∀ m ∈ sources, ∀ path, g.Upstream skipMem sink m path → d + 1 ≤ path.length) ∧
        ∀ p, (∃ path, (every p).get? n = some path ∧ path.length = d + 1) ∧
          ∀ m path, (every p).get? m = some path → d + 1 ≤ path.length) ∧
      (nearest = none → ∀ p, (every p).keys = []) := by
  refine ⟨?_, fun n d h => ?_, fun h p => ?_⟩
  · rw [shortestDependency_eq_none_iff wf]
    refine ⟨.inr, ?_⟩
    rintro (stale | none)
    · rintro n - ⟨path, upstream⟩
      rw [upstream.isLive] at stale
      cases stale
    · exact none
  · obtain ⟨live, source, path, looked, long, first⟩ := of_shortestDependency wf h .first
    have shortest : ∀ m ∈ sources, ∀ path, g.Upstream skipMem sink m path → d + 1 ≤ path.length := by
      intro m hm path upstream
      obtain ⟨way, looked, short⟩ := (upstream.allowed .first).exists_mem_visits wf
      exact (first m way looked hm).trans short
    refine ⟨source, ⟨path, (allowed_of_mem_visits wf live looked).1.toUpstream, long⟩, shortest, fun p => ⟨?_, ?_⟩⟩
    · obtain ⟨-, -, path, looked, long, -⟩ := of_shortestDependency wf h p
      exact ⟨path, (get?_everyDependency_iff live).2 ⟨looked, source, isBarrier_false ..⟩, long⟩
    · intro m path reported
      obtain ⟨looked, hm, -⟩ := (get?_everyDependency_iff live).1 reported
      exact shortest m hm path (allowed_of_mem_visits wf live looked).1.toUpstream
  · refine List.eq_nil_iff_forall_not_mem.2 fun n hn => ?_
    obtain ⟨source, ⟨path, allowed⟩, -⟩ := (mem_keys_everyDependency_iff wf).1 hn
    exact (shortestDependency_eq_none_iff wf).1 h n source ⟨path, allowed.toUpstream⟩

/-- The nearest source lies two steps from the sink, and no walk from node `6` is shorter. -/
theorem shortestDependency_nearest_detour :
    Linked (after detour) ∧ (after detour).shortestDependency 0 (.ofList [4, 6]) true = some (4, 2) ∧
      (∃ path, (after detour).Upstream true 0 4 path ∧ path.length = 3) ∧
      (∀ path, (after detour).Upstream true 0 6 path → 3 ≤ path.length) ∧
      ∀ p, ∃ path, ((after detour).everyDependency 0 (.ofList [4, 6]) true false p).paths.get? 4 = some path ∧
        path.length = 3 := by
  have wf : Linked (after detour) := (wellFormed_after detour).toLinked
  have nearest : (after detour).shortestDependency 0 (.ofList [4, 6]) true = some (4, 2) := by decide +kernel
  obtain ⟨-, some, -⟩ := shortestDependency_nearest wf 0 (.ofList [4, 6]) true
  obtain ⟨-, attained, least, agrees⟩ := some 4 2 nearest
  exact ⟨wf, nearest, attained, least 6 (by simp), fun p => (agrees p).1⟩

end

end Graph

end PeerTaint
