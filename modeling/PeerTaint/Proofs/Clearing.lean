import PeerTaint.Proofs.Repetition
import PeerTaint.Proofs.Upkeep

/-!
What splicing the known calls leaves.

After all operations were visited, resolving a value makes no call: it finds a node, or gives the value that of its
memory or one of its own. So the calls that are spliced are the only ones that change (`Clears`), and none of them
is left however they are nested.
-/

namespace PeerTaint

/-! ## The calls of a graph -/

theorem NodeKind.category_eq_call_iff {kind : NodeKind} : kind.category = .call ↔ ∃ info, kind = .call info := by
  cases kind <;> simp [category]

theorem NodeKind.bare_eq_call_iff {kind : NodeKind} {info : CallInfo} :
    kind.bare = .call info ↔ ∃ info', kind = .call info' ∧ { info' with args := [] } = info := by
  cases kind <;> simp [bare, mapCallInfo]

namespace Graph

/-- The handles of all calls. -/
def callHandles (g : Graph) : List NodeId := (g.nodes.filter (·.category = .call)).map (·.id)

theorem length_callHandles (g : Graph) : g.callHandles.length = g.nodes.countP (·.category = .call) := by
  rw [callHandles, List.length_map, List.countP_eq_length_filter]

variable {g g' : Graph} {n : NodeId}

theorem Linked.mem_callHandles_iff (wf : g.Linked) : n ∈ g.callHandles ↔ g.IsCall n := by
  simp only [callHandles, List.mem_map, List.mem_filter, decide_eq_true_eq, mem_nodes_iff, isCall_iff]
  constructor
  · rintro ⟨x, ⟨⟨m, hm⟩, call⟩, rfl⟩
    obtain ⟨info, hk⟩ := NodeKind.category_eq_call_iff.1 call
    exact ⟨x, info, (wf.id_eq m x hm).symm ▸ hm, hk⟩
  · rintro ⟨x, info, hx, hk⟩
    exact ⟨x, ⟨⟨n, hx⟩, NodeKind.category_eq_call_iff.2 ⟨info, hk⟩⟩, wf.id_eq n x hx⟩

theorem Linked.nodup_callHandles (wf : g.Linked) : g.callHandles.Nodup := by
  have ascending : g.callHandles.Pairwise (· < ·) := List.pairwise_map.2 (wf.nodes_ascending.filter _)
  exact ascending.imp ne_of_lt

end Graph

namespace BuildContext

open Build

/-- The node is a call whose target is a routine of the program of the node. -/
def CallsKnown (c : BuildContext) (g : Graph) (n : NodeId) : Prop :=
  ∃ x info name, g.node? n = some x ∧ x.kind = .call info ∧ info.target = some name ∧
    ∃ r ∈ c.programs.routines, r.program = x.program ∧ r.name = name

section Known

variable {c : BuildContext} {g g' : Graph} {n : NodeId}

theorem callsKnown_iff_role : c.CallsKnown g n ↔
    ∃ p info name, g.role? n = some (p, .call info) ∧ info.target = some name ∧
      ∃ r ∈ c.programs.routines, r.program = p ∧ r.name = name := by
  constructor
  · rintro ⟨x, info, name, hx, hkind, target, r, hr, program, named⟩
    refine ⟨x.program, { info with args := [] }, name, ?_, target, r, hr, program, named⟩
    exact Graph.role?_eq_some_iff.2 ⟨x, hx, rfl, by rw [hkind]; rfl⟩
  · rintro ⟨p, info, name, role, target, r, hr, program, named⟩
    obtain ⟨x, hx, rfl, bare⟩ := Graph.role?_eq_some_iff.1 role
    obtain ⟨info', hkind, rfl⟩ := NodeKind.bare_eq_call_iff.1 bare
    exact ⟨x, info', name, hx, hkind, target, r, hr, program, named⟩

theorem CallsKnown.isCall (h : c.CallsKnown g n) : g.IsCall n := by
  obtain ⟨p, info, -, role, -⟩ := callsKnown_iff_role.1 h
  exact ⟨p, info, role⟩

/-- Whether a node is a known call shows in its role. -/
theorem CallsKnown.of_role (h : c.CallsKnown g n) (same : g'.role? n = g.role? n) : c.CallsKnown g' n := by
  rw [callsKnown_iff_role] at h ⊢
  rwa [same]

/-- The known calls are the ones that are spliced. -/
theorem callsKnown_iff_mem (wf : g.Linked) : c.CallsKnown g n ↔ n ∈ (c.knownCalls g).map (·.1) := by
  simp only [List.mem_map, mem_knownCalls_iff wf, Option.bind_eq_some_iff]
  constructor
  · rintro ⟨x, info, name, hx, hkind, target, r, hr, program, named⟩
    have found : (c.programs.routine? name x.program).isSome = true :=
      List.find?_isSome.2 ⟨r, hr, decide_eq_true ⟨program, named⟩⟩
    obtain ⟨r', hr'⟩ := Option.isSome_iff_exists.1 found
    exact ⟨(n, r'), ⟨x, info, hx, hkind, name, target, hr'⟩, rfl⟩
  · rintro ⟨e, ⟨x, info, hx, hkind, name, target, hr⟩, rfl⟩
    have found : e.2.program = x.program ∧ e.2.name = name := by simpa using List.find?_some hr
    exact ⟨x, info, name, hx, hkind, target, e.2, List.mem_of_find?_eq_some hr, found⟩

end Known

/-! ## Linking without new calls -/

/-- Values are resolved and nodes are joined, and no call is made. -/
structure Joins (c : BuildContext) (s s' : BuildState) : Prop where
  settles : c.Settles .univ s s'
  calls : ∀ n, s'.graph.IsCall n → s.graph.IsCall n

section Joins

variable {c : BuildContext} {s s' s'' : BuildState} {p : Program} {v : Value}

theorem Joins.refl (c : BuildContext) (s : BuildState) : c.Joins s s := ⟨.refl c _ s, fun _ h => h⟩

theorem Joins.trans (h : c.Joins s s') (h' : c.Joins s' s'') : c.Joins s s'' :=
  ⟨h.settles.trans h'.settles, fun n hn => h.calls n (h'.calls n hn)⟩

theorem joins_flow (a b : NodeId) : c.Joins s { s with graph := (s.graph.connect a b .data).2 } := by
  have idle := Graph.Idles.connect s.graph a b .data
  refine ⟨settles_idle idle, ?_⟩
  rintro n ⟨p, info, role⟩
  exact ⟨p, info, (idle.role n).symm.trans role⟩

theorem calls_place {g : Graph} {x : Node} (other : x.category ≠ .call) (n : NodeId) (h : (g.place x).IsCall n) :
    g.IsCall n := by
  obtain ⟨p, info, role⟩ := h
  rw [Graph.role?_place] at role
  split at role
  · obtain ⟨-, bare⟩ := Prod.mk.inj (Option.some.inj role)
    obtain ⟨info', hkind, -⟩ := NodeKind.bare_eq_call_iff.1 bare
    exact absurd (NodeKind.category_eq_call_iff.2 ⟨info', hkind⟩) other
  · exact ⟨p, info, role⟩

theorem Obtains.joins {t : Option NodeId} (h : c.Obtains s v p t s') : c.Joins s s' := by
  refine ⟨h.settles.mono (Set.subset_univ _), ?_⟩
  cases h with
  | rest => exact fun _ h => h
  | memory key free made =>
    rcases Graph.memNode_eq_ok made with ⟨-, rfl⟩ | ⟨-, -, rfl⟩
    · exact fun _ h => h
    · exact calls_place (by simp [Graph.fresh, Node.category, NodeKind.category])
  | «variable» scalar undefined known free made =>
    obtain ⟨-, rfl⟩ := Graph.addNode_eq_ok made
    exact calls_place (by simp [Graph.fresh, Node.category, NodeKind.category])

section Links

variable (cat : c.programs.Catalogued) (expanded : c.Expanded s)
include cat expanded

theorem wp_valueNode_joins (p : Program) (v : Value) :
    wp (c.valueNode p v) (fun _ s' => c.Joins s s') (fun _ => True) s := by
  refine (wp_valueNode_obtains fun op defined => ?_).mono fun _ _ h => h.joins
  obtain ⟨-, q, listed⟩ := cat.definition v op defined
  exact expanded.visited _ listed

theorem wp_passArgument_joins (p : Program) (a : NodeId) (v : Value) :
    wp (c.passArgument p a v) (fun _ s' => c.Joins s s') (fun _ => True) s := by
  unfold passArgument
  rw [wp_bind]
  refine (wp_valueNode_joins cat expanded p v).mono fun t s₁ joins => ?_
  cases t with
  | none => exact joins
  | some n =>
    dsimp only
    rw [wp_flow]
    exact joins.trans (joins_flow a n)

theorem wp_passReturned_joins (p : Program) (users : List NodeId) (v : Value) :
    wp (c.passReturned p users v) (fun _ s' => c.Joins s s') (fun _ => True) s := by
  unfold passReturned
  rw [wp_bind]
  refine (wp_valueNode_joins cat expanded p v).mono fun t s₁ joins => ?_
  cases t with
  | none => exact joins
  | some n =>
    refine (wp_forM (P := fun _ _ => True) (I := fun s' => c.Joins s s') joins fun u _ s₂ h => ?_).mono
      fun _ s₂ h => h.1
    rw [wp_flow]
    exact ⟨h.trans (joins_flow n u), trivial, fun _ _ => trivial⟩

theorem wp_linkParams_joins (p : Program) (args : List (Option NodeId × Value)) :
    wp (c.linkParams p args) (fun _ s' => c.Joins s s') (fun _ => True) s := by
  induction args generalizing s with
  | nil => exact .refl c s
  | cons arg args ih =>
    obtain ⟨actual, formal⟩ := arg
    cases actual with
    | none => exact ih expanded
    | some a =>
      rw [linkParams_cons, wp_bind]
      refine (wp_passArgument_joins cat expanded p a formal).mono fun _ s₁ first => ?_
      exact (ih (first.settles.expanded expanded)).mono fun _ s₂ rest => first.trans rest

theorem wp_linkReturned_joins (p : Program) (users : List NodeId) (vs : List Value) :
    wp (c.linkReturned p users vs) (fun _ s' => c.Joins s s') (fun _ => True) s := by
  induction vs generalizing s with
  | nil => exact .refl c s
  | cons v vs ih =>
    rw [linkReturned_cons, wp_bind]
    refine (wp_passReturned_joins cat expanded p users v).mono fun _ s₁ first => ?_
    exact (ih (first.settles.expanded expanded)).mono fun _ s₂ rest => first.trans rest

end Links

end Joins

/-! ## Splicing -/

/-- The nodes are taken out, the others stay what they are, and no call is made. -/
structure Clears (ns : List NodeId) (g g' : Graph) : Prop where
  kept : ∀ m ∉ ns, ∀ ρ, g.role? m = some ρ → g'.role? m = some ρ
  gone : ∀ m ∈ ns, m < g'.slots.size ∧ g'.isLive m = false
  calls : ∀ m, g'.IsCall m → g.IsCall m
  evolves : g.Evolves g'

theorem Clears.refl (g : Graph) : Clears [] g g := ⟨fun _ _ _ h => h, by simp, fun _ h => h, .refl g⟩

/-- A handle that is gone stays so. -/
theorem Clears.trans {ns ns' : List NodeId} {g₁ g₂ g₃ : Graph} (h : Clears ns g₁ g₂) (h' : Clears ns' g₂ g₃) :
    Clears (ns ++ ns') g₁ g₃ where
  kept m hm ρ hρ := by
    obtain ⟨hn, hn'⟩ := not_or.1 fun either => hm (List.mem_append.2 either)
    exact h'.kept m hn' ρ (h.kept m hn ρ hρ)
  gone m hm := by
    rcases List.mem_append.1 hm with hn | hn'
    · obtain ⟨lt, stale⟩ := h.gone m hn
      exact ⟨lt.trans_le h'.evolves.size_le, h'.evolves.stale m lt stale⟩
    · exact h'.gone m hn'
  calls m hm := h.calls m (h'.calls m hm)
  evolves := h.evolves.trans h'.evolves

theorem Clears.not_isCall {ns : List NodeId} {g g' : Graph} (h : Clears ns g g') {n : NodeId} (hn : n ∈ ns) :
    ¬ g'.IsCall n := by
  rintro ⟨p, info, role⟩
  have stale := (h.gone n hn).2
  rw [Graph.isLive_eq_isSome_role?, role] at stale
  cases stale

/-- There are fewer calls, by the number of those that are taken out. -/
theorem Clears.length_callHandles {ns : List NodeId} {g g' : Graph} (h : Clears ns g g') (wf : g.Linked)
    (wf' : g'.Linked) (distinct : ns.Nodup) (calls : ∀ n ∈ ns, g.IsCall n) :
    g.callHandles.length = g'.callHandles.length + ns.length := by
  have apart : g'.callHandles.Disjoint ns := fun n hn gone => h.not_isCall gone (wf'.mem_callHandles_iff.1 hn)
  have perm : g.callHandles.Perm (g'.callHandles ++ ns) := by
    refine (List.perm_ext_iff_of_nodup wf.nodup_callHandles
      (wf'.nodup_callHandles.append distinct apart)).2 fun n => ?_
    rw [List.mem_append, wf.mem_callHandles_iff, wf'.mem_callHandles_iff]
    constructor
    · rintro ⟨p, info, role⟩
      by_cases gone : n ∈ ns
      · exact .inr gone
      · exact .inl ⟨p, info, h.kept n gone _ role⟩
    · rintro (call | gone)
      · exact h.calls n call
      · exact calls n gone
  rw [perm.length_eq, List.length_append]

section Splice

variable {c : BuildContext} {s s' : BuildState} (cat : c.programs.Catalogued) (expanded : c.Expanded s)
include expanded

theorem Expanded.retire {n : NodeId} {x : Node} {g : Graph} (removed : s.graph.removeNode n = .ok (x, g)) :
    c.Expanded ⟨g, s.visited.mapValues fun m => if m = some n then none else m⟩ where
  wf := expanded.wf.removeNode removed
  visited e he := by
    obtain ⟨y, hy⟩ := Option.isSome_iff_exists.1 (expanded.visited e he)
    obtain ⟨i, hi, noted⟩ := Option.bind_eq_some_iff.1 hy
    rw [BuildState.noted?, hi, Option.bind_some, SortedMap.get?_mapValues, noted]
    rfl
  alive := expanded.alive.retire expanded.wf removed

include cat

/-- A splice takes the call out, and nothing else. -/
theorem wp_spliceCall_clears (n : NodeId) (callee : Routine) : wp (c.spliceCall n callee)
    (fun _ s' => c.Expanded s' ∧ Clears [n] s.graph s'.graph) (fun _ => True) s := by
  refine wp_spliceCall (fun _ => trivial) (fun _ _ _ => trivial) fun x info hx hkind => ?_
  refine (wp_linkParams_joins cat expanded callee.program _).mono fun _ s₁ j₁ => ?_
  have expanded₁ := j₁.settles.expanded expanded
  refine (wp_linkReturned_joins cat expanded₁ callee.program _ _).mono fun _ s₂ j₂ => ?_
  have joins := j₁.trans j₂
  have expanded₂ := j₂.settles.expanded expanded₁
  refine wp_retire (fun y g removed => ⟨expanded₂.retire removed, ?_⟩) fun _ _ => trivial
  obtain ⟨there, r⟩ := Graph.removed_of_removeNode expanded₂.wf.toLinked removed
  refine ⟨fun m hm ρ hρ => ?_, fun m hm => ?_, fun m hm => ?_, ?_⟩
  · rw [r.role?, if_neg fun same => hm (List.mem_singleton.2 same)]
    exact joins.settles.grows.extension.role m ρ hρ
  · obtain rfl := List.mem_singleton.1 hm
    refine ⟨r.size ▸ Graph.lt_size_of_node? there, ?_⟩
    rw [Graph.isLive_eq_isSome_role?, r.role?, if_pos rfl]
    rfl
  · obtain ⟨p, info, role⟩ := hm
    rw [r.role?] at role
    split at role
    · cases role
    · exact joins.calls m ⟨p, info, role⟩
  · refine (Graph.Changes.evolves expanded.wf joins.settles.grows.changes).trans ?_
    exact Graph.Change.evolves expanded₂.wf (.remove removed)

theorem wp_spliceAll_clears (calls : List (NodeId × Routine)) : wp (c.spliceAll calls)
    (fun _ s' => c.Expanded s' ∧ Clears (calls.map (·.1)) s.graph s'.graph) (fun _ => True) s := by
  induction calls generalizing s with
  | nil => exact ⟨expanded, .refl _⟩
  | cons e calls ih =>
    change wp (c.spliceCall e.1 e.2 >>= fun _ => c.spliceAll calls) _ _ s
    rw [wp_bind]
    refine (wp_spliceCall_clears cat expanded e.1 e.2).mono ?_
    rintro _ s₁ ⟨expanded₁, first⟩
    refine (ih expanded₁).mono ?_
    rintro _ s₂ ⟨expanded₂, rest⟩
    exact ⟨expanded₂, first.trans rest⟩

theorem wp_spliceKnownCalls_clears : wp c.spliceKnownCalls (fun k s' => k = (c.knownCalls s.graph).length ∧
    c.Expanded s' ∧ Clears ((c.knownCalls s.graph).map (·.1)) s.graph s'.graph) (fun _ => True) s := by
  simp only [spliceKnownCalls, monadLift_self]
  rw [wp_bind, wp_graph, wp_bind]
  exact (wp_spliceAll_clears cat expanded (c.knownCalls s.graph)).mono fun _ s' h => ⟨rfl, h⟩

end Splice

/-! ## After a build -/

section Build

variable {c : BuildContext} {s : BuildState} (cat : c.programs.Catalogued)
include cat

theorem wp_buildAll_expands (ms : List Mutation) :
    wp c.buildAll (fun _ s => c.Expanded s) (fun _ => True) { graph := Graph.after ms } := by
  have wf := Graph.wellFormed_after ms
  rw [buildAll_eq]
  refine (wp_addStream_tally cat fun _ he => he).mono ?_
  rintro _ s ⟨progress, visited, -⟩
  exact ⟨progress.events.wellFormed wf, visited, progress.events.alive cat wf fun _ _ hn => by cases hn⟩

/-- Whatever a builder is asked for, all operations stay visited. -/
theorem Expanded.serve (h : c.Expanded s) (request : BuildRequest) : c.Expanded (c.serve s request) := by
  unfold BuildContext.serve
  split
  · next run => exact Events.expanded cat ((wp_request_events h.wf request).run run) h
  · exact h

end Build

/-- Splicing the known calls after a build leaves none of them, and takes out nothing else. So there is nothing to
do when it is done again. -/
theorem spliceKnownCalls_clears (c : BuildContext) (registered : c.programs.Registered) (ms : List Mutation)
    (count : Nat) (s₀ : BuildState) (built : c.buildAll.run { graph := Graph.after ms } = .ok (count, s₀))
    (between : List BuildRequest) (s : BuildState) (continued : between.foldl c.serve s₀ = s) (k : Nat)
    (s' : BuildState) (spliced : c.spliceKnownCalls.run s = .ok (k, s')) :
    (∀ n, ¬ c.CallsKnown s'.graph n) ∧
      s.graph.nodes.countP (·.category = .call) = s'.graph.nodes.countP (·.category = .call) + k ∧
      (∀ n, c.CallsKnown s.graph n → s'.graph.isLive n = false) ∧
      (∀ n, s.graph.isLive n = true → ¬ c.CallsKnown s.graph n → s'.graph.role? n = s.graph.role? n) ∧
      c.spliceKnownCalls.run s' = .ok (0, s') := by
  have cat := registered.catalogued
  have expanded : c.Expanded s := by
    rw [← continued]
    exact List.foldlRecOn (motive := c.Expanded) between c.serve ((wp_buildAll_expands cat ms).run built)
      fun _ h r _ => h.serve cat r
  obtain ⟨rfl, expanded', clears⟩ := (wp_spliceKnownCalls_clears cat expanded).run spliced
  have wf := expanded.wf.toLinked
  have wf' := expanded'.wf.toLinked
  have none : ∀ n, ¬ c.CallsKnown s'.graph n := by
    -- no call is made, so it was one before, with the same target
    intro n known
    have other : n ∉ (c.knownCalls s.graph).map (·.1) := fun gone => clears.not_isCall gone known.isCall
    obtain ⟨p, info, before⟩ := clears.calls n known.isCall
    exact other ((callsKnown_iff_mem wf).1 (known.of_role (before.trans (clears.kept n other _ before).symm)))
  refine ⟨none, ?_, fun n known => ?_, fun n live other => ?_, ?_⟩
  · have distinct : ((c.knownCalls s.graph).map (·.1)).Nodup := (c.knownCalls_ascending wf).imp ne_of_lt
    have drop := clears.length_callHandles wf wf' distinct fun n hn => ((callsKnown_iff_mem wf).2 hn).isCall
    rwa [Graph.length_callHandles, Graph.length_callHandles, List.length_map] at drop
  · exact (clears.gone n ((callsKnown_iff_mem wf).1 known)).2
  · rw [Graph.isLive_eq_isSome_role?] at live
    obtain ⟨ρ, hρ⟩ := Option.isSome_iff_exists.1 live
    rw [hρ, clears.kept n (fun hn => other ((callsKnown_iff_mem wf).2 hn)) ρ hρ]
  · have nothing : c.knownCalls s'.graph = [] := by
      refine List.eq_nil_iff_forall_not_mem.2 fun e he => none e.1 ?_
      exact (callsKnown_iff_mem wf').2 (List.mem_map_of_mem he)
    change Stays c.spliceKnownCalls 0 s'
    rw [stays_iff_wp]
    simp only [spliceKnownCalls, monadLift_self]
    rw [wp_bind, wp_graph, nothing]
    exact ⟨rfl, rfl⟩

/-- `tell` calls itself with its parameter. What it returns is printed and sent. -/
def hearsay : BuildContext where
  programs := .ofRoutines
    [(.first, .scalar "x"), (.first, .scalar "y"), (.first, .argument "n" false), (.first, .scalar "m")]
    [{ name := "main", program := .first, operations :=
        [{ opcode := .call, operands := [⟨.first, 0⟩], target := some "tell", result := some ⟨.first, 1⟩ },
          { opcode := .call, operands := [⟨.first, 1⟩], target := some "puts" },
          { opcode := .call, operands := [⟨.first, 1⟩], target := some "send" }] },
      { name := "tell", program := .first, params := [⟨.first, 2⟩], operations :=
        [{ opcode := .call, operands := [⟨.first, 2⟩], target := some "tell", result := some ⟨.first, 3⟩ },
          { opcode := .ret, operands := [⟨.first, 3⟩] }] }]
  oracle := (AliasPartition.ofLists []).oracle
  naming := {}
  config := {}
  levels := fun _ _ _ => .empty

/-- A request that comes between the build and the splices. -/
def remark : BuildRequest := .connectValues .first ⟨.first, 0⟩ ⟨.first, 3⟩ .control

/-- Both calls of `tell` are taken out. The call of `puts` and the node `3` that sends stay. -/
theorem spliceKnownCalls_clears_hearsay : hearsay.programs.Registered ∧
    ∃ count s₀ s s', hearsay.buildAll.run { graph := Graph.after [] } = .ok (count, s₀) ∧
      [remark].foldl hearsay.serve s₀ = s ∧ hearsay.spliceKnownCalls.run s = .ok (2, s') ∧
      (∀ n, ¬ hearsay.CallsKnown s'.graph n) ∧ s'.graph.nodes.countP (·.category = .call) = 1 ∧
      s'.graph.role? 3 = some (.first, .netWrite ⟨some "send", [], none⟩) ∧
      hearsay.spliceKnownCalls.run s' = .ok (0, s') := by
  have registered : hearsay.programs.Registered := ProgramPair.registered_ofRoutines ..
  have outcome : ((hearsay.buildAll : Build Nat).run { graph := Graph.after [] }).map (fun r =>
      ((hearsay.serve r.2 remark).graph.nodes.countP (·.category = .call),
        (hearsay.serve r.2 remark).graph.role? 3,
        ((hearsay.spliceKnownCalls : Build Nat).run (hearsay.serve r.2 remark)).map (·.1))) =
      .ok (3, some (.first, .netWrite ⟨some "send", [], none⟩), .ok 2) := by
    decide +kernel
  obtain ⟨⟨count, s₀⟩, built, outcome⟩ := exists_of_map_eq_ok outcome
  simp only [Prod.mk.injEq] at outcome
  obtain ⟨before, send, outcome⟩ := outcome
  obtain ⟨⟨k, s'⟩, spliced, rfl⟩ := exists_of_map_eq_ok outcome
  obtain ⟨none, calls, -, kept, again⟩ :=
    spliceKnownCalls_clears hearsay registered [] count s₀ built [remark] _ rfl 2 s' spliced
  refine ⟨registered, count, s₀, _, s', built, rfl, spliced, none, ?_, ?_, again⟩
  · exact Nat.add_right_cancel (calls.symm.trans before)
  · refine (kept 3 ?_ ?_).trans send
    · rw [Graph.isLive_eq_isSome_role?]
      exact congrArg Option.isSome send
    · intro known
      obtain ⟨p, info, call⟩ := known.isCall
      cases send.symm.trans call

end BuildContext

end PeerTaint
