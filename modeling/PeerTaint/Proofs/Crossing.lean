import PeerTaint.Proofs.Walks

/-!
What passes between the programs.

Attaching inputs and splicing calls go by moves as well, so the graph is divided however it was built:
the only edges between the programs lead from a send to a receive at a common level, and all of these
are there. Every path from one program to the other runs over such an edge.
-/

namespace PeerTaint

theorem Graph.Linked.nodes_ascending {g : Graph} (wf : Linked g) : g.nodes.Pairwise (·.id < ·.id) := by
  rw [nodes, List.pairwise_filterMap, List.pairwise_iff_getElem]
  intro i j hi hj hij x hx y hy
  have id_eq : ∀ {k} (hk : k < g.slots.toList.length) {z}, g.slots.toList[k] = some z → z.id = k := by
    intro k hk z hz
    refine wf.id_eq k z ?_
    rw [Array.getElem_toList] at hz
    simp [node?, Array.getElem?_eq_getElem (Array.length_toList ▸ hk), hz]
  rw [id_eq hi hx, id_eq hj hy]
  exact hij

namespace BuildContext

open Build

/-! ## The parts of a splice -/

section Splice

variable {c : BuildContext} {s : BuildState} {Q : Unit → BuildState → Prop} {E : BuildFault → Prop}

theorem wp_retire {n : NodeId}
    (ok : ∀ x g, s.graph.removeNode n = .ok (x, g) →
      Q () ⟨g, s.visited.mapValues fun m => if m = some n then none else m⟩)
    (error : ∀ e, s.graph.removeNode n = .error e → E (.graph e)) : wp (retire n) Q E s := by
  unfold retire
  rw [wp_bind, wp_discard]
  exact wp_attempt ok error

theorem wp_spliceCall {n : NodeId} {callee : Routine}
    (stale : s.graph.node? n = none → E (.graph (.staleNode n)))
    (other : ∀ x, s.graph.node? n = some x → (∀ info, x.kind ≠ .call info) → E (.graph (.notACall n)))
    (call : ∀ x info, s.graph.node? n = some x → x.kind = .call info →
      wp (c.linkParams callee.program (info.args.zip callee.params)) (fun _ s₁ =>
        wp (c.linkReturned callee.program (s.graph.successors n) callee.returned) (fun _ s₂ =>
          wp (retire n) Q E s₂) E s₁) E s) :
    wp (c.spliceCall n callee) Q E s := by
  simp only [spliceCall, monadLift_self]
  rw [wp_bind, wp_graph, wp_bind]
  refine wp_attempt (fun x g hg => ?_) fun e he => ?_
  · cases hx : s.graph.node? n with
    | none => simp [Graph.getNode, hx] at hg
    | some y =>
      simp only [Graph.getNode, hx] at hg
      cases hg
      split
      · next info hkind =>
        rw [wp_bind]
        refine (call x info hx hkind).mono fun _ s₁ h₁ => ?_
        rw [wp_bind]
        exact h₁
      · next hkind =>
        rw [wp_throw]
        exact other x hx hkind
  · cases hx : s.graph.node? n with
    | none =>
      simp only [Graph.getNode, hx] at he
      cases he
      exact stale hx
    | some y => simp [Graph.getNode, hx] at he

end Splice

/-- A call that is no transfer is used in its own program only. -/
theorem Grounded.lives_users {c : BuildContext} {s : BuildState} (inv : c.Grounded s) {n : NodeId} {x : Node}
    {info : CallInfo} (hx : s.graph.node? n = some x) (hkind : x.kind = .call info) :
    ∀ u ∈ s.graph.successors n, s.graph.Lives x.program u := by
  intro u hu
  have edge := Graph.mem_successors_iff.1 hu
  obtain ⟨y, hy⟩ := Graph.isLive_iff.1 (inv.wf.isLive_of_hasEdge edge).2
  obtain ⟨k, hk⟩ := Graph.hasEdge_iff.1 edge
  refine ⟨_, Graph.role?_eq_some_iff.2 ⟨y, hy, ?_, rfl⟩⟩
  by_contra hne
  have cross := (inv.divided.cross n u x.face y.face (Graph.face?_eq_some_iff.2 ⟨x, hx, rfl⟩)
    (Graph.face?_eq_some_iff.2 ⟨y, hy, rfl⟩) (fun h => hne h.symm) k).1 hk
  have send : x.kind.direction? = some .send := cross.2.1
  rw [hkind] at send
  cases send

/-- Splices calls in the given order. -/
def spliceAll (c : BuildContext) (calls : List (NodeId × Routine)) : Build Unit :=
  calls.forM fun e => c.spliceCall e.1 e.2

section Inputs

variable {c : BuildContext} (cat : c.programs.Catalogued) (homed : c.programs.Homed)
include cat homed

/-! ## Inputs -/

omit cat homed in
theorem moves_inputNode {s : BuildState} {v : Value} {o : Origin} {name : String} {n : NodeId} {g : Graph}
    (hg : s.graph.inputNode v o name = .ok (n, g)) : c.Moves s { s with graph := g } := by
  rcases Graph.inputNode_eq_ok hg with ⟨-, rfl⟩ | ⟨fresh, rfl, label, rfl⟩
  · exact .refl
  · have placed : c.Step s
        { s with graph := s.graph.place (s.graph.fresh v.program (.input v o name) label) } :=
      .place rfl rfl rfl rfl rfl
    have index : (s.graph.place (s.graph.fresh v.program (.input v o name) label)).inputNodes
        = s.graph.inputNodes := by
      obtain ⟨_, _, _, _, he⟩ := Graph.place_eq s.graph (s.graph.fresh v.program (.input v o name) label)
      rw [he]
    rw [← index]
    refine .tail (.single (.step placed)) (.input (Graph.role?_place_fresh ..) ?_)
    rw [Graph.findInput, index]
    exact fresh

theorem wp_addInput_moves {s : BuildState} (inv : c.Grounded s) (r : InputRecord) :
    wp (c.addInput r) (fun _ s' => c.Moves s s') (fun _ => True) s := by
  simp only [addInput, monadLift_self]
  rw [wp_bind]
  refine (walker_valueNode cat homed r.program r.value s inv).mono fun t s₁ ⟨steps, lives⟩ => ?_
  cases t with
  | none => exact steps.moves
  | some target =>
    obtain ⟨hp, live⟩ := lives target rfl
    dsimp only
    rw [wp_bind, wp_graph, wp_bind]
    refine wp_attempt (fun n g hg => ?_) fun _ _ => trivial
    have made : c.Moves s₁ { s₁ with graph := g } := moves_inputNode hg
    have inv₂ := made.grounded cat (steps.grounded cat inv)
    have source := inv₂.input r.value r.origin n (Graph.findInput_inputNode hg)
    have target := live.grows (Graph.Grows.inputNode hg)
    rw [wp_bind, wp_flow, wp_pure]
    exact (steps.moves.trans made).tail (.step (.flow (hp ▸ source.given) target.given))

theorem wp_addInputs_moves {s : BuildState} (inv : c.Grounded s) (inputs : InputSets) :
    wp (c.addInputs inputs) (fun _ s' => c.Moves s s') (fun _ => True) s := by
  unfold addInputs
  induction inputs.toList generalizing s with
  | nil => exact .refl
  | cons r rs ih =>
    rw [addRecords, wp_bind]
    refine (wp_addInput_moves cat homed inv r).mono fun _ s₁ first => ?_
    rw [wp_bind]
    exact (ih (first.grounded cat inv)).mono fun _ s₂ rest => first.trans rest

/-! ## Splicing -/

theorem wp_linkParams_steps {p : Program} {s : BuildState} (inv : c.Grounded s)
    {args : List (Option NodeId × Value)} (hargs : ∀ a v, (some a, v) ∈ args → s.graph.Given p a) :
    wp (c.linkParams p args) (fun _ s' => c.Steps s s') (fun _ => True) s := by
  induction args generalizing s with
  | nil => exact .refl
  | cons arg args ih =>
    obtain ⟨actual, formal⟩ := arg
    have rest := fun a v h => hargs a v (List.mem_cons_of_mem _ h)
    cases actual with
    | none => exact ih inv rest
    | some a =>
      have source := hargs a formal List.mem_cons_self
      simp only [linkParams, monadLift_self]
      rw [wp_bind]
      refine (walker_valueNode cat homed p formal s inv).mono ?_
      rintro r s₁ ⟨steps, lives⟩
      cases r with
      | none =>
        refine (ih (steps.grounded cat inv) fun a v h => (rest a v h).grows steps.grows).mono ?_
        exact fun _ s₂ next => steps.trans next
      | some n =>
        have flow : c.Step s₁ { s₁ with graph := (s₁.graph.connect a n .data).2 } :=
          .flow (source.grows steps.grows) (lives n rfl).2.given
        have linked : c.Steps s _ := steps.tail flow
        dsimp only
        rw [wp_bind, wp_flow]
        refine (ih (linked.grounded cat inv) fun a v h => (rest a v h).grows linked.grows).mono ?_
        exact fun _ s₂ next => linked.trans next

theorem wp_linkReturned_steps {p : Program} {s : BuildState} (inv : c.Grounded s) {users : List NodeId}
    (husers : ∀ u ∈ users, s.graph.Given p u) (vs : List Value) :
    wp (c.linkReturned p users vs) (fun _ s' => c.Steps s s') (fun _ => True) s := by
  induction vs generalizing s with
  | nil => exact .refl
  | cons v vs ih =>
    simp only [linkReturned, monadLift_self]
    rw [wp_bind]
    refine (walker_valueNode cat homed p v s inv).mono ?_
    rintro r s₁ ⟨steps, lives⟩
    cases r with
    | none =>
      refine (ih (steps.grounded cat inv) fun u hu => (husers u hu).grows steps.grows).mono ?_
      exact fun _ s₂ next => steps.trans next
    | some n =>
      have source := (lives n rfl).2.given
      dsimp only
      rw [wp_bind]
      refine (wp_forM (P := fun _ _ => True) (I := fun s' => c.Steps s₁ s') .refl
        fun u hu s₂ drawn => ?_).mono fun _ s₂ drawn => ?_
      · have target := ((husers u hu).grows steps.grows).grows drawn.grows
        rw [wp_flow]
        exact ⟨drawn.tail (.flow (source.grows drawn.grows) target), trivial, fun _ _ => trivial⟩
      · have linked : c.Steps s s₂ := steps.trans drawn.1
        refine (ih (linked.grounded cat inv) fun u hu => (husers u hu).grows linked.grows).mono ?_
        exact fun _ s₃ next => linked.trans next

theorem wp_spliceCall_moves {s : BuildState} (inv : c.Grounded s) {n : NodeId} {callee : Routine}
    (hn : s.graph.Given callee.program n) :
    wp (c.spliceCall n callee) (fun _ s' => c.Moves s s') (fun _ => True) s := by
  refine wp_spliceCall (fun _ => trivial) (fun _ _ _ => trivial) fun x info hx hkind => ?_
  have home : x.program = callee.program := hn.program x hx
  have args : ∀ a v, (some a, v) ∈ info.args.zip callee.params → s.graph.Given callee.program a := by
    intro a v h
    rw [← home]
    refine inv.divided.args n x a hx ?_
    rw [hkind]
    exact (List.of_mem_zip h).1
  have users : ∀ u ∈ s.graph.successors n, s.graph.Given callee.program u := by
    intro u hu
    rw [← home]
    exact (inv.lives_users hx hkind u hu).given
  refine (wp_linkParams_steps cat homed inv args).mono fun _ s₁ params => ?_
  have inv₁ := params.grounded cat inv
  refine (wp_linkReturned_steps cat homed inv₁ (fun u hu => (users u hu).grows params.grows) _).mono
    fun _ s₂ returned => ?_
  exact wp_retire (fun y g hg => (params.moves.trans returned.moves).tail (.retire hg)) fun _ _ => trivial

theorem wp_spliceAll_moves {s : BuildState} (inv : c.Grounded s) {calls : List (NodeId × Routine)}
    (hcalls : ∀ e ∈ calls, s.graph.Given e.2.program e.1) :
    wp (c.spliceAll calls) (fun _ s' => c.Moves s s') (fun _ => True) s := by
  refine (wp_forM (P := fun _ _ => True) (I := fun s' => c.Moves s s') .refl
    fun e he s₁ moves => ?_).mono fun _ s' h => h.1
  have evolves := Graph.Changes.evolves inv.wf moves.changes
  refine (wp_spliceCall_moves cat homed (moves.grounded cat inv) ((hcalls e he).evolves evolves)).mono
    fun _ s₂ next => ⟨moves.trans next, trivial, fun _ _ => trivial⟩

end Inputs

/-! ## The calls that are spliced -/

theorem mem_knownCalls_iff {c : BuildContext} {g : Graph} (wf : Graph.Linked g) {e : NodeId × Routine} :
    e ∈ c.knownCalls g ↔ ∃ x info, g.node? e.1 = some x ∧ x.kind = .call info ∧
      info.target.bind (c.programs.routine? · x.program) = some e.2 := by
  unfold knownCalls
  rw [List.mem_filterMap]
  constructor
  · rintro ⟨x, hx, he⟩
    split at he
    · next info hkind =>
      obtain ⟨r, hr, rfl⟩ := Option.map_eq_some_iff.1 he
      obtain ⟨n, hn⟩ := Graph.mem_nodes_iff.1 hx
      exact ⟨x, info, (wf.id_eq n x hn).symm ▸ hn, hkind, hr⟩
    · cases he
  · rintro ⟨x, info, hx, hkind, hr⟩
    refine ⟨x, Graph.mem_nodes_iff.2 ⟨e.1, hx⟩, ?_⟩
    rw [hkind]
    simp only [hr, wf.id_eq e.1 x hx, Option.map_some]

theorem knownCalls_ascending (c : BuildContext) {g : Graph} (wf : Graph.Linked g) :
    ((c.knownCalls g).map (·.1)).Pairwise (· < ·) := by
  rw [List.pairwise_map, knownCalls, List.pairwise_filterMap]
  refine wf.nodes_ascending.imp fun hlt e he e' he' => ?_
  split at he
  · split at he'
    · obtain ⟨r, -, rfl⟩ := Option.map_eq_some_iff.1 he
      obtain ⟨r', -, rfl⟩ := Option.map_eq_some_iff.1 he'
      exact hlt
    · cases he'
  · cases he

theorem given_of_mem_knownCalls {c : BuildContext} {g : Graph} (wf : Graph.Linked g)
    {e : NodeId × Routine} (he : e ∈ c.knownCalls g) : g.Given e.2.program e.1 := by
  obtain ⟨x, info, hx, -, hr⟩ := (mem_knownCalls_iff wf).1 he
  obtain ⟨name, -, hr⟩ := Option.bind_eq_some_iff.1 hr
  have found : e.2.program = x.program ∧ e.2.name = name := by
    simpa using List.find?_some hr
  refine ⟨Graph.lt_size_of_node? hx, fun y hy => ?_⟩
  rw [hx] at hy
  cases hy
  exact found.1.symm

/-! ## The whole build -/

/-- Builds the graph, splices the known calls if that is wanted, and attaches the inputs. -/
def assemble (c : BuildContext) (splice : Bool) (inputs : InputSets) : Build Unit := do
  discard c.buildAll
  if splice then discard c.spliceKnownCalls
  discard (c.addInputs inputs)

section Assemble

variable {c : BuildContext} (cat : c.programs.Catalogued) (homed : c.programs.Homed)
include cat homed

theorem wp_spliceKnownCalls_moves {s : BuildState} (inv : c.Grounded s) :
    wp c.spliceKnownCalls (fun _ s' => c.Moves s s') (fun _ => True) s := by
  simp only [spliceKnownCalls, monadLift_self]
  rw [wp_bind, wp_graph, wp_bind]
  exact wp_spliceAll_moves cat homed inv fun e he => given_of_mem_knownCalls inv.wf.toLinked he

theorem wp_assemble_moves (splice : Bool) (inputs : InputSets) :
    wp (c.assemble splice inputs) (fun _ s => c.Moves {} s) (fun _ => True) {} := by
  have inputsMove : ∀ s, c.Moves {} s →
      wp (discard (c.addInputs inputs)) (fun _ s' => c.Moves {} s') (fun _ => True) s := by
    intro s before
    rw [wp_discard]
    exact (wp_addInputs_moves cat homed (before.grounded cat grounded_empty) inputs).mono
      fun _ s' moves => before.trans moves
  unfold assemble
  rw [wp_bind, wp_discard]
  refine (wp_buildAll_steps cat homed grounded_empty).mono fun _ s₁ ⟨built, _⟩ => ?_
  cases splice with
  | false => exact inputsMove s₁ built.moves
  | true =>
    change wp (discard c.spliceKnownCalls >>= fun _ => discard (c.addInputs inputs)) _ _ s₁
    rw [wp_bind, wp_discard]
    exact (wp_spliceKnownCalls_moves cat homed (built.grounded cat grounded_empty)).mono
      fun _ s₂ spliced => inputsMove s₂ (built.moves.trans spliced)

end Assemble

/-- The first node sends to the network and the second one receives from it, at a common level. -/
def Transfers (x y : Node) : Prop :=
  (∃ info, x.kind = .netWrite info) ∧ (∃ info, y.kind = .netRead info) ∧
    ∃ l, l ∈ x.levels ∧ l ∈ y.levels

theorem feeds_iff_transfers {x y : Node} : x.face.Feeds y.face ↔ Transfers x y := by
  have send : x.kind.direction? = some .send ↔ ∃ info, x.kind = .netWrite info := by
    cases x.kind <;> simp [NodeKind.direction?]
  have recv : y.kind.direction? = some .recv ↔ ∃ info, y.kind = .netRead info := by
    cases y.kind <;> simp [NodeKind.direction?]
  exact and_congr send (and_congr recv Iff.rfl)

/-- However a graph is built, the edges between the programs are the data edges from a node that sends
to a node of the other program that receives at a common level, and every path from one program to the
other takes such an edge. -/
theorem edges_between_programs (c : BuildContext) (registered : c.programs.Registered)
    (homed : c.programs.Homed) (splice : Bool) (inputs : InputSets) (s : BuildState)
    (built : (c.assemble splice inputs).run {} = .ok ((), s)) :
    (∀ a b x y kind, s.graph.node? a = some x → s.graph.node? b = some y → x.program ≠ y.program →
      (s.graph.edgeKind? a b = some kind ↔ kind = .data ∧ Transfers x y)) ∧
    ∀ path a b x y, path.IsChain s.graph.Edge → path.head? = some a → path.getLast? = some b →
      s.graph.node? a = some x → s.graph.node? b = some y → x.program ≠ y.program →
      ∃ before w r after, path = before ++ w :: r :: after ∧ ∃ u v, s.graph.node? w = some u ∧
        s.graph.node? r = some v ∧ u.program ≠ v.program ∧ Transfers u v := by
  have cat := registered.catalogued
  have inv : c.Grounded s :=
    Moves.grounded cat ((wp_assemble_moves cat homed splice inputs).run built) grounded_empty
  have face : ∀ {n x}, s.graph.node? n = some x → s.graph.face? n = some x.face :=
    fun hx => Graph.face?_eq_some_iff.2 ⟨_, hx, rfl⟩
  constructor
  · intro a b x y kind hx hy hne
    rw [inv.divided.cross a b x.face y.face (face hx) (face hy) hne, feeds_iff_transfers]
  · intro path a b x y chain ha hb hx hy hne
    obtain ⟨before, w, r, after, he, fu, fv, hu, hv, hne, feeds⟩ :=
      inv.divided.exists_link inv.wf.toLinked chain ha hb (face hx) (face hy) hne
    obtain ⟨u, hw, rfl⟩ := Graph.face?_eq_some_iff.1 hu
    obtain ⟨v, hr, rfl⟩ := Graph.face?_eq_some_iff.1 hv
    exact ⟨before, w, r, after, he, u, v, hw, hr, hne, feeds_iff_transfers.1 feeds⟩

/-- The first program sends `x` through a routine of its own, and the second program receives it into
`buf` and loads it. -/
def exchange : BuildContext where
  programs := .ofRoutines
    [(.first, .scalar "x"), (.first, .argument "data" false), (.second, .buffer "buf"), (.second, .scalar "y")]
    [{ name := "main", program := .first, operations :=
        [{ opcode := .call, operands := [⟨.first, 0⟩], target := some "emit" }] },
      { name := "emit", program := .first, params := [⟨.first, 1⟩], operations :=
        [{ opcode := .call, operands := [⟨.first, 1⟩], target := some "send", location := some ⟨"a.c", 3⟩ }] },
      { name := "main", program := .second, operations :=
        [{ opcode := .call, operands := [⟨.second, 0⟩], target := some "RECV", location := some ⟨"b.c", 7⟩ },
          { opcode := .load, operands := [⟨.second, 0⟩], result := some ⟨.second, 1⟩ }] }]
  oracle := (AliasPartition.ofLists [[⟨.second, 0⟩]]).oracle
  naming := {}
  config := {}
  levels := fun _ _ _ => .ofList [1]

/-- The node `1` of `x` leads to the node `6` of `y`. The edge from the node `2` to the node `4` takes
what is sent to the other program, and the path takes such an edge. -/
theorem edges_between_programs_exchange : exchange.programs.Registered ∧ exchange.programs.Homed ∧
    ∃ s, (exchange.assemble true .empty).run {} = .ok ((), s) ∧ s.graph.edgeKind? 2 4 = some .data ∧
      (∃ u v, s.graph.node? 2 = some u ∧ s.graph.node? 4 = some v ∧ Transfers u v) ∧
      ∃ before w r after, [1, 3, 2, 4, 5, 6] = before ++ w :: r :: after ∧ ∃ u v,
        s.graph.node? w = some u ∧ s.graph.node? r = some v ∧ u.program ≠ v.program ∧ Transfers u v := by
  have registered : exchange.programs.Registered := ProgramPair.registered_ofRoutines ..
  have homed : exchange.programs.Homed := by decide +kernel
  have outcome : ((exchange.assemble true .empty).run {}).map (fun r => (r.2.graph.edgeKind? 2 4,
      [1, 2, 4, 6].map fun n => (r.2.graph.node? n).map (·.program),
      [(1, 3), (3, 2), (2, 4), (4, 5), (5, 6)].all fun e => r.2.graph.hasEdge e.1 e.2)) =
      .ok (some .data, [some .first, some .first, some .second, some .second], true) := by
    decide +kernel
  obtain ⟨r, hrun, outcome⟩ := exists_of_map_eq_ok outcome
  obtain ⟨links, paths⟩ := edges_between_programs exchange registered homed true .empty r.2 hrun
  simp only [Prod.mk.injEq, List.map_cons, List.map_nil, List.cons.injEq, Option.map_eq_some_iff,
    List.all_cons, List.all_nil, Bool.and_eq_true, and_true] at outcome
  obtain ⟨link, ⟨⟨x, hx, px⟩, ⟨u, hu, pu⟩, ⟨v, hv, pv⟩, y, hy, py⟩, e₁, e₂, e₃, e₄, e₅⟩ := outcome
  refine ⟨registered, homed, r.2, hrun, link, ⟨u, v, hu, hv, ?_⟩, ?_⟩
  · exact ((links 2 4 u v .data hu hv (by rw [pu, pv]; decide)).1 link).2
  · refine paths [1, 3, 2, 4, 5, 6] 1 6 x y ?_ rfl rfl hx hy (by rw [px, py]; decide)
    exact .cons_cons e₁ (.cons_cons e₂ (.cons_cons e₃ (.cons_cons e₄ (.cons_cons e₅ (.singleton 6)))))

end BuildContext

end PeerTaint
