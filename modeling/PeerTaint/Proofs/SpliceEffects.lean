import PeerTaint.Proofs.Upkeep

/-!
What splicing a call does to the state of a builder.

The users of the call are looked up first. Then parameters and returned values are resolved one by one, which
can expand any number of operations, and the call is taken out at the end. Up to there the graph only grows
(`Continues`), so that edges once drawn stay. Hence the effect can be said by what each value resolves to at
its turn, also if the call is its own argument, returns into itself or is used by its routine (`Replaces`). A
node that is no call is refused before anything is changed. As a builder that stops says nothing about its
state, this is said of the splice done part by part (`InPlace`).
-/

namespace PeerTaint

/-! ## A node that is gone -/

/-- The handle is stale, and neither an index nor an edge has it. -/
structure Graph.Forgets (g : Graph) (n : NodeId) : Prop where
  stale : g.isLive n = false
  value : ∀ v, g.valueNodes.get? v ≠ some n
  memValue : ∀ v, g.memValues.get? v ≠ some n
  mem : ∀ p k, g.memNodes.get? (p, k) ≠ some n
  input : ∀ v o, g.inputNodes.get? (v, o) ≠ some n
  net : ∀ p d, n ∉ g.netNodes p d
  successors : ∀ m, n ∉ g.successors m
  predecessors : ∀ m, n ∉ g.predecessors m

/-- The handle is gone from the graph, and no operation is visited with it. -/
structure BuildState.Forgets (s : BuildState) (n : NodeId) : Prop extends s.graph.Forgets n where
  visited : ∀ i, s.visited.get? i ≠ some (some n)

theorem Graph.Removed.forgets {g g' : Graph} {n : NodeId} {x : Node} (r : g.Removed n x g') (wf : g'.Linked) :
    g'.Forgets n := by
  have apart : ∀ {a b}, a = n ∨ b = n → g'.hasEdge a b ≠ true := by
    intro a b touches edge
    rw [hasEdge, r.edgeKind?, if_pos touches] at edge
    cases edge
  refine ⟨?_, fun v hv => ?_, fun v hv => ?_, fun p k hk => ?_, fun v o hi => ?_, fun p d hn => ?_,
    fun m hm => ?_, fun m hm => ?_⟩
  · rw [isLive, r.node, if_pos rfl]
    rfl
  · rw [r.value, BuildContext.get?_filterValues_otherThan] at hv
    exact hv.2 rfl
  · rw [r.memValue, BuildContext.get?_filterValues_otherThan] at hv
    exact hv.2 rfl
  · rw [r.mem, BuildContext.get?_filterValues_otherThan] at hk
    exact hk.2 rfl
  · rw [r.input, BuildContext.get?_filterValues_otherThan] at hi
    exact hi.2 rfl
  · rw [r.net, List.mem_filter, otherThan, decide_eq_true_iff] at hn
    exact hn.2 rfl
  · exact apart (Or.inr rfl) (mem_successors_iff.1 hm)
  · exact apart (Or.inl rfl) ((mem_predecessors_iff wf).1 hm)

/-- While a graph grows, an edge at most turns from control to data. -/
theorem Graph.Extends.edgeKind? {g g' : Graph} (h : g.Extends g') {a b : NodeId} {k : EdgeKind}
    (hk : g.edgeKind? a b = some k) :
    g'.edgeKind? a b = some k ∨ k = .control ∧ g'.edgeKind? a b = some .data := by
  cases k with
  | data => exact Or.inl (h.data a b hk)
  | control =>
    obtain ⟨k', hk'⟩ := hasEdge_iff.1 (h.edge a b (hasEdge_iff.2 ⟨_, hk⟩))
    cases k' with
    | control => exact Or.inl hk'
    | data => exact Or.inr ⟨rfl, hk'⟩

/-! ## Successful runs -/

namespace Build

variable {α β : Type} {s s' : BuildState}

theorem run_bind_eq_ok {x : Build α} {f : α → Build β} {b : β} (run : (x >>= f).run s = .ok (b, s')) :
    ∃ a s₁, x.run s = .ok (a, s₁) ∧ (f a).run s₁ = .ok (b, s') := by
  rw [StateT.run_bind] at run
  cases hx : x.run s with
  | error f => rw [hx] at run; cases run
  | ok r =>
    rw [hx] at run
    exact ⟨r.1, r.2, rfl, run⟩

/-- A step ends where it ends. -/
theorem wp_run (x : Build α) (s : BuildState) : wp x (fun a s' => x.run s = .ok (a, s')) (fun _ => True) s := by
  unfold wp
  cases x.run s <;> trivial

theorem Maintains.run {x : Build α} (hx : Maintains x) (h : s.Current) {a : α} (run : x.run s = .ok (a, s')) :
    s.Continues s' := (hx s h).run run

end Build

namespace BuildContext

open Build

section Links

variable {c : BuildContext} {p : Program} {s s' : BuildState}

theorem linkParams_append (c : BuildContext) (p : Program) (args later : List (Option NodeId × Value)) :
    c.linkParams p (args ++ later) = (do c.linkParams p args; c.linkParams p later : Build Unit) := by
  induction args with
  | nil => rfl
  | cons arg args ih =>
    obtain ⟨actual, formal⟩ := arg
    cases actual with
    | none => exact ih
    | some a => rw [List.cons_append, linkParams_cons, linkParams_cons, ih, bind_assoc]

theorem linkReturned_append (c : BuildContext) (p : Program) (users : List NodeId) (vs later : List Value) :
    c.linkReturned p users (vs ++ later) =
      (do c.linkReturned p users vs; c.linkReturned p users later : Build Unit) := by
  induction vs with
  | nil => rfl
  | cons v vs ih => rw [List.cons_append, linkReturned_cons, linkReturned_cons, ih, bind_assoc]

/-- An argument flows into what the parameter resolves to. -/
theorem passArgument_eq_ok (h : s.Current) {a : NodeId} {v : Value}
    (run : (c.passArgument p a v).run s = .ok ((), s')) :
    ∃ answer s₁, (c.valueNode p v).run s = .ok (answer, s₁) ∧
      ∀ f, answer = some f → s.graph.isLive a = true → a ≠ f → s'.graph.edgeKind? a f = some .data := by
  obtain ⟨answer, s₁, resolved, linked⟩ := run_bind_eq_ok run
  refine ⟨answer, s₁, resolved, ?_⟩
  rintro f rfl live hne
  obtain ⟨continues, answers⟩ := (c.supplies_valueNode p v s h).run resolved
  cases linked
  change (s₁.graph.connect a f .data).2.edgeKind? a f = _
  rw [Graph.edgeKind?_flow, if_pos ⟨rfl, rfl, hne, continues.isLive live, answers f rfl⟩]

/-- A live node flows to live nodes. An edge that was drawn to one stays while those to the others are drawn. -/
theorem wp_flows_data {users : List NodeId} {r : NodeId} (h : s.Current) (source : s.graph.isLive r = true)
    (live : ∀ u ∈ users, s.graph.isLive u = true) : wp (users.forM (flow r))
      (fun _ s' => ∀ u ∈ users, r ≠ u → s'.graph.edgeKind? r u = some .data) (fun _ => True) s := by
  refine (wp_forM (I := fun s₁ => s.Continues s₁) (P := fun u s₁ => r ≠ u → s₁.graph.edgeKind? r u = some .data)
    h.refl fun u hu s₁ h₁ => ?_).mono fun _ s' drawn => drawn.2.1
  have grown := h₁.current.grow (.single (.connect r u .data))
  rw [wp_flow]
  refine ⟨h₁.trans grown, fun hne => ?_, fun w data hne => grown.grows.extension.data r w (data hne)⟩
  rw [Graph.edgeKind?_flow, if_pos ⟨rfl, rfl, hne, h₁.isLive source, h₁.isLive (live u hu)⟩]

/-- What the value resolves to flows to the users. -/
theorem passReturned_eq_ok (h : s.Current) {users : List NodeId} (live : ∀ u ∈ users, s.graph.isLive u = true)
    {v : Value} (run : (c.passReturned p users v).run s = .ok ((), s')) :
    ∃ answer s₁, (c.valueNode p v).run s = .ok (answer, s₁) ∧
      ∀ r, answer = some r → ∀ u ∈ users, r ≠ u → s'.graph.edgeKind? r u = some .data := by
  obtain ⟨answer, s₁, resolved, linked⟩ := run_bind_eq_ok run
  refine ⟨answer, s₁, resolved, ?_⟩
  rintro r rfl
  obtain ⟨continues, answers⟩ := (c.supplies_valueNode p v s h).run resolved
  exact (wp_flows_data continues.current (answers r rfl) fun u hu => continues.isLive (live u hu)).run linked

/-- Each parameter is resolved after those before it were linked, and the edge into its node stays. -/
theorem linkParams_eq_ok (h : s.Current) {before after : List (Option NodeId × Value)} {a : NodeId} {v : Value}
    (run : (c.linkParams p (before ++ (some a, v) :: after)).run s = .ok ((), s')) :
    ∃ s₁ answer s₂, (c.linkParams p before).run s = .ok ((), s₁) ∧ (c.valueNode p v).run s₁ = .ok (answer, s₂) ∧
      ∀ f, answer = some f → s.graph.isLive a = true → a ≠ f → s'.graph.edgeKind? a f = some .data := by
  rw [linkParams_append, linkParams_cons] at run
  obtain ⟨⟨⟩, s₁, linked, rest⟩ := run_bind_eq_ok run
  obtain ⟨⟨⟩, s₂, passed, later⟩ := run_bind_eq_ok rest
  have h₁ := (c.maintains_linkParams p before).run h linked
  have h₂ := (c.maintains_passArgument p a v).run h₁.current passed
  have h₃ := (c.maintains_linkParams p after).run h₂.current later
  obtain ⟨answer, t, resolved, drawn⟩ := passArgument_eq_ok h₁.current passed
  refine ⟨s₁, answer, t, linked, resolved, fun f hf live hne => ?_⟩
  exact h₃.grows.extension.data a f (drawn f hf (h₁.isLive live) hne)

/-- Each returned value is resolved after those before it were linked, and the edges from its node stay. -/
theorem linkReturned_eq_ok (h : s.Current) {users : List NodeId} (live : ∀ u ∈ users, s.graph.isLive u = true)
    {before after : List Value} {v : Value}
    (run : (c.linkReturned p users (before ++ v :: after)).run s = .ok ((), s')) :
    ∃ s₁ answer s₂, (c.linkReturned p users before).run s = .ok ((), s₁) ∧
      (c.valueNode p v).run s₁ = .ok (answer, s₂) ∧
      ∀ r, answer = some r → ∀ u ∈ users, r ≠ u → s'.graph.edgeKind? r u = some .data := by
  rw [linkReturned_append, linkReturned_cons] at run
  obtain ⟨⟨⟩, s₁, linked, rest⟩ := run_bind_eq_ok run
  obtain ⟨⟨⟩, s₂, passed, later⟩ := run_bind_eq_ok rest
  have h₁ := (c.maintains_linkReturned p users before).run h linked
  have h₂ := (c.maintains_passReturned p users v).run h₁.current passed
  have h₃ := (c.maintains_linkReturned p users after).run h₂.current later
  obtain ⟨answer, t, resolved, drawn⟩ := passReturned_eq_ok h₁.current (fun u hu => h₁.isLive (live u hu)) passed
  refine ⟨s₁, answer, t, linked, resolved, fun r hr u hu hne => ?_⟩
  exact h₃.grows.extension.data r u (drawn r hr u hu hne)

end Links

/-! ## Splicing -/

/-- The call `n` was replaced by the routine, from the state `s` to the state `s'`. -/
structure Replaces (c : BuildContext) (n : NodeId) (callee : Routine) (s s' : BuildState) : Prop where
  forgets : s'.Forgets n
  /-- Edges that do not touch the call stay, and at most turn from control to data. -/
  edge : ∀ a b k, a ≠ n → b ≠ n → s.graph.edgeKind? a b = some k →
    s'.graph.edgeKind? a b = some k ∨ k = .control ∧ s'.graph.edgeKind? a b = some .data
  /-- Each parameter is resolved after those before it were linked. The argument flows into its node. -/
  params : ∀ before a formal after, (s.graph.args n).zip callee.params = before ++ (some a, formal) :: after →
    ∃ s₁ answer s₂, (c.linkParams callee.program before).run s = .ok ((), s₁) ∧
      (c.valueNode callee.program formal).run s₁ = .ok (answer, s₂) ∧
      ∀ f, answer = some f → s.graph.isLive a = true → a ≠ f → a ≠ n → f ≠ n →
        s'.graph.edgeKind? a f = some .data
  /-- Each returned value is resolved after all parameters and the values before it were linked. Its node flows
  to all users of the call. -/
  returned : ∀ before v after, callee.returned = before ++ v :: after →
    ∃ s₁ s₂ answer s₃,
      (c.linkParams callee.program ((s.graph.args n).zip callee.params)).run s = .ok ((), s₁) ∧
      (c.linkReturned callee.program (s.graph.successors n) before).run s₁ = .ok ((), s₂) ∧
      (c.valueNode callee.program v).run s₂ = .ok (answer, s₃) ∧
      ∀ r u, answer = some r → s.graph.hasEdge n u = true → r ≠ u → r ≠ n → u ≠ n →
        s'.graph.edgeKind? r u = some .data

section Splice

variable {c : BuildContext} {s s' : BuildState} {n : NodeId} {callee : Routine}

/-- The parts of a splice. -/
theorem wp_spliceCall_parts (c : BuildContext) (n : NodeId) (callee : Routine) (s : BuildState) :
    wp (c.spliceCall n callee) (fun _ s' => ∃ s₁ s₂ x g,
      (c.linkParams callee.program ((s.graph.args n).zip callee.params)).run s = .ok ((), s₁) ∧
      (c.linkReturned callee.program (s.graph.successors n) callee.returned).run s₁ = .ok ((), s₂) ∧
      s₂.graph.removeNode n = .ok (x, g) ∧
      s' = ⟨g, s₂.visited.mapValues fun m => if m = some n then none else m⟩) (fun _ => True) s := by
  refine wp_spliceCall (fun _ => trivial) (fun _ _ _ => trivial) fun x info hx hkind => ?_
  have args : s.graph.args n = info.args := by
    rw [Graph.args, hx, Option.map_some, hkind]
    rfl
  rw [args]
  refine (wp_run _ s).mono fun _ s₁ params => (wp_run _ s₁).mono fun _ s₂ returned => ?_
  exact wp_retire (fun y g removed => ⟨s₁, s₂, y, g, params, returned, removed, rfl⟩) fun _ _ => trivial

theorem replaces_of_spliceCall (h : s.Current) (run : (c.spliceCall n callee).run s = .ok ((), s')) :
    c.Replaces n callee s s' := by
  obtain ⟨s₁, s₂, x, g, params, returned, removed, rfl⟩ := (wp_spliceCall_parts c n callee s).run run
  have h₁ := (c.maintains_linkParams callee.program _).run h params
  have h₂ := (c.maintains_linkReturned callee.program _ _).run h₁.current returned
  obtain ⟨-, r⟩ := Graph.removed_of_removeNode h₂.current.wf.toLinked removed
  have kept : ∀ {a b}, a ≠ n → b ≠ n → g.edgeKind? a b = s₂.graph.edgeKind? a b := by
    intro a b ha hb
    rw [r.edgeKind?, if_neg (not_or.2 ⟨ha, hb⟩)]
  refine ⟨⟨?_, fun i hi => ?_⟩, fun a b k ha hb hk => ?_, fun before a formal after split => ?_,
    fun before v after split => ?_⟩
  · exact r.forgets (h₂.current.wf.removeNode removed).toLinked
  · rw [SortedMap.get?_mapValues] at hi
    obtain ⟨m, -, same⟩ := Option.map_eq_some_iff.1 hi
    split at same
    · cases same
    · next other => exact other same
  · rw [kept ha hb]
    exact (h₁.trans h₂).grows.extension.edgeKind? hk
  · rw [split] at params
    obtain ⟨t, answer, t', linked, resolved, drawn⟩ := linkParams_eq_ok h params
    refine ⟨t, answer, t', linked, resolved, fun f hf live hne ha hfn => ?_⟩
    rw [kept ha hfn]
    exact h₂.grows.extension.data a f (drawn f hf live hne)
  · have users : ∀ u ∈ s.graph.successors n, s₁.graph.isLive u = true := by
      intro u hu
      exact h₁.isLive (h.wf.isLive_of_hasEdge (Graph.mem_successors_iff.1 hu)).2
    rw [split] at returned
    obtain ⟨t, answer, t', linked, resolved, drawn⟩ := linkReturned_eq_ok h₁.current users returned
    refine ⟨s₁, t, answer, t', params, linked, resolved, fun a u ha hu hne han hun => ?_⟩
    rw [kept han hun]
    exact drawn a ha u (Graph.mem_successors_iff.2 hu) hne

end Splice

end BuildContext

/-! ## Refusals -/

/-- A step of a builder whose effects stay when it stops with a fault. -/
abbrev InPlace := ExceptT BuildFault (StateM BuildState)

namespace InPlace

variable {α β : Type}

/-- How a step ends, and the state that it leaves. -/
def outcome (x : InPlace α) (s : BuildState) : Except BuildFault α × BuildState := (ExceptT.run x).run s

/-- The outcome of a part that succeeds, or else leaves the state as it is. -/
def settle (s : BuildState) : Except BuildFault (α × BuildState) → Except BuildFault α × BuildState
  | .ok (a, s') => (.ok a, s')
  | .error f => (.error f, s)

/-- A step of a builder as one part. -/
def part (x : Build α) : InPlace α := ExceptT.mk fun s => settle s (x.run s)

/-- The answer with the state, or the fault without it. -/
def result : Except BuildFault α × BuildState → Except BuildFault (α × BuildState)
  | (.ok a, s) => .ok (a, s)
  | (.error f, _) => .error f

/-- The step does what `y` does. -/
def Refines (x : InPlace α) (y : Build α) : Prop := ∀ s, result (x.outcome s) = y.run s

theorem outcome_part (x : Build α) (s : BuildState) : (part x).outcome s = settle s (x.run s) := rfl

theorem outcome_bind_of_ok {x : InPlace α} {f : α → InPlace β} {s s' : BuildState} {a : α}
    (h : x.outcome s = (.ok a, s')) : (x >>= f).outcome s = (f a).outcome s' := by
  unfold outcome at h ⊢
  rw [ExceptT.run_bind, StateT.run_bind, h]
  rfl

theorem outcome_bind_of_error {x : InPlace α} {f : α → InPlace β} {s s' : BuildState} {e : BuildFault}
    (h : x.outcome s = (.error e, s')) : (x >>= f).outcome s = (.error e, s') := by
  unfold outcome at h ⊢
  rw [ExceptT.run_bind, StateT.run_bind, h]
  rfl

theorem refines_part (x : Build α) : (part x).Refines x := by
  intro s
  rw [outcome_part]
  cases x.run s <;> rfl

theorem Refines.bind {x : InPlace α} {y : Build α} {f : α → InPlace β} {g : α → Build β} (hx : x.Refines y)
    (hf : ∀ a, (f a).Refines (g a)) : (x >>= f).Refines (y >>= g) := by
  intro s
  have here := hx s
  rw [StateT.run_bind, ← here]
  rcases h : x.outcome s with ⟨_ | a, s'⟩
  · rw [outcome_bind_of_error h]; rfl
  · rw [outcome_bind_of_ok h]
    exact hf a s'

end InPlace

namespace BuildContext

open Build InPlace

/-- Replaces a call by the routine it calls, part by part. -/
def spliceInPlace (c : BuildContext) (n : NodeId) (callee : Routine) : InPlace Unit := do
  let g ← part Build.graph
  let node ← part (Build.attempt fun g => (·, g) <$> g.getNode n)
  match node.kind with
  | .call info =>
    part (c.linkParams callee.program (info.args.zip callee.params))
    part (c.linkReturned callee.program (g.successors n) callee.returned)
    part (retire n)
  | _ => throw (.graph (.notACall n))

theorem refines_spliceInPlace (c : BuildContext) (n : NodeId) (callee : Routine) :
    (c.spliceInPlace n callee).Refines (c.spliceCall n callee) := by
  unfold spliceInPlace spliceCall
  refine (refines_part _).bind fun g => (refines_part _).bind fun node => ?_
  cases node.kind with
  | call info => exact (refines_part _).bind fun _ => (refines_part _).bind fun _ => refines_part _
  | op | var | mem | netRead | netWrite | input => exact fun s => rfl

section Refusals

variable (c : BuildContext) {s : BuildState} {n : NodeId} (callee : Routine)

/-- Looking a node up leaves the state as it is. -/
theorem run_getNode (s : BuildState) (n : NodeId) :
    (Build.attempt fun g => (·, g) <$> g.getNode n).run s =
      (s.graph.node? n).elim (.error (.graph (.staleNode n))) fun x => .ok (x, s) := by
  simp only [attempt, StateT.run_bind, StateT.run_get, pure_bind, Graph.getNode]
  cases s.graph.node? n <;> rfl

/-- A stale node is refused, and nothing is changed. -/
theorem outcome_spliceInPlace_stale (stale : s.graph.isLive n = false) :
    (c.spliceInPlace n callee).outcome s = (.error (.graph (.staleNode n)), s) := by
  have gone : s.graph.node? n = none := by simpa [Graph.isLive] using stale
  unfold spliceInPlace
  rw [outcome_bind_of_ok (outcome_part Build.graph s)]
  refine outcome_bind_of_error ?_
  rw [outcome_part, run_getNode, gone]
  rfl

/-- A node that is no call is refused, and nothing is changed. -/
theorem outcome_spliceInPlace_other (live : s.graph.isLive n = true) (other : ¬ s.graph.IsCall n) :
    (c.spliceInPlace n callee).outcome s = (.error (.graph (.notACall n)), s) := by
  obtain ⟨x, hx⟩ := Graph.isLive_iff.1 live
  have fetched : (part (Build.attempt fun g => (·, g) <$> g.getNode n)).outcome s = (.ok x, s) := by
    rw [outcome_part, run_getNode, hx]
    rfl
  unfold spliceInPlace
  rw [outcome_bind_of_ok (outcome_part Build.graph s), outcome_bind_of_ok fetched]
  cases hk : x.kind with
  | call info => exact absurd (Graph.isCall_iff.2 ⟨x, info, hx, hk⟩) other
  | op | var | mem | netRead | netWrite | input => rfl

end Refusals

/-- A builder comes to current states only. From such a state, a splice that ends has replaced the call. A
stale node and a node that is no call are refused, with graph and visited operations exactly as before. -/
theorem splice_replaces_or_refuses (c : BuildContext) :
    (∀ ms (rs : List BuildRequest), (rs.foldl c.serve { graph := Graph.after ms }).Current) ∧
    ∀ s n callee, s.Current →
      (∀ s', (c.spliceCall n callee).run s = .ok ((), s') → c.Replaces n callee s s') ∧
      (c.spliceInPlace n callee).Refines (c.spliceCall n callee) ∧
      (s.graph.isLive n = false → (c.spliceCall n callee).run s = .error (.graph (.staleNode n)) ∧
        (c.spliceInPlace n callee).outcome s = (.error (.graph (.staleNode n)), s)) ∧
      (s.graph.isLive n = true → ¬ s.graph.IsCall n →
        (c.spliceCall n callee).run s = .error (.graph (.notACall n)) ∧
        (c.spliceInPlace n callee).outcome s = (.error (.graph (.notACall n)), s)) := by
  refine ⟨c.current_foldl_serve, fun s n callee current => ?_⟩
  have refines := c.refines_spliceInPlace n callee
  refine ⟨fun s' run => replaces_of_spliceCall current run, refines, fun stale => ?_, fun live other => ?_⟩
  · have outcome := outcome_spliceInPlace_stale c callee stale
    rw [← refines s, outcome]
    exact ⟨rfl, rfl⟩
  · have outcome := outcome_spliceInPlace_other c callee live other
    rw [← refines s, outcome]
    exact ⟨rfl, rfl⟩

/-- The call of `relay` takes its own result and `a`, and `y` uses the result. -/
def feedback : BuildContext where
  programs := .ofRoutines
    [(.first, .scalar "a"), (.first, .scalar "x"), (.first, .argument "p" false), (.first, .argument "q" false),
      (.first, .scalar "y")]
    [{ name := "main", program := .first, operations :=
        [{ opcode := .call, operands := [⟨.first, 1⟩, ⟨.first, 0⟩], target := some "relay",
            result := some ⟨.first, 1⟩ },
          { opcode := .binary, operands := [⟨.first, 1⟩], result := some ⟨.first, 4⟩ }] }]
  oracle := (AliasPartition.ofLists []).oracle
  naming := {}
  config := {}
  levels := fun _ _ _ => .empty

/-- Returns its second parameter. -/
def returnSecond : Routine where
  name := "relay"
  program := .first
  params := [⟨.first, 2⟩, ⟨.first, 3⟩]
  operations := [{ opcode := .ret, operands := [⟨.first, 3⟩] }]

/-- The node `1` of `a` flows into the node `4` of `q`, which flows to the user `2` of the call `0`. -/
theorem splice_replaces_feedback :
    let s := [BuildRequest.all].foldl feedback.serve { graph := Graph.after [] }
    s.Current ∧ s.graph.args 0 = [some 0, some 1] ∧
      ∃ s', (feedback.spliceCall 0 returnSecond).run s = .ok ((), s') ∧ feedback.Replaces 0 returnSecond s s' ∧
        s'.graph.edgeKind? 1 4 = some .data ∧ s'.graph.edgeKind? 4 2 = some .data := by
  intro s
  obtain ⟨current, effect⟩ := splice_replaces_or_refuses feedback
  have outcome : ((feedback.spliceCall 0 returnSecond : Build Unit).run s).map
      (fun r => (r.2.graph.edgeKind? 1 4, r.2.graph.edgeKind? 4 2)) = .ok (some .data, some .data) := by
    decide +kernel
  obtain ⟨⟨⟨⟩, s'⟩, run, edges⟩ := exists_of_map_eq_ok outcome
  obtain ⟨passed, returned⟩ := Prod.mk.inj edges
  have replaces := (effect s 0 returnSecond (current [] [.all])).1 s' run
  exact ⟨current [] [.all], by decide +kernel, s', run, replaces, passed, returned⟩

end BuildContext

end PeerTaint
