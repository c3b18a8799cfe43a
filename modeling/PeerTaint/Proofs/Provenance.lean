import PeerTaint.Proofs.Crossing
import PeerTaint.Proofs.Identity

/-!
Where edges come from.

When an edge is drawn, the operation at work is known and so are the values that its ends stand for
(`Link`). Values keep resolving to the same nodes and operations stay visited with theirs, so that every
edge can still be told from the operations of the programs at the end (`Justified`). What is left are the
edges between the programs, which lead from a send to a receive at a common level.
-/

namespace PeerTaint

/-- The nodes belong to different programs. -/
def Graph.Across (g : Graph) (a b : NodeId) : Prop :=
  ∃ p q k l, g.role? a = some (p, k) ∧ g.role? b = some (q, l) ∧ p ≠ q

theorem Graph.Across.extends {g g' : Graph} {a b : NodeId} (h : g.Across a b) (extension : g.Extends g') :
    g'.Across a b := by
  obtain ⟨p, q, k, l, ha, hb, hne⟩ := h
  exact ⟨p, q, k, l, extension.role _ _ ha, extension.role _ _ hb, hne⟩

theorem Graph.isMem_eq_any_role? (g : Graph) (n : NodeId) : g.isMem n = (g.role? n).any (·.2.isMem) := by
  rw [Graph.isMem, Graph.role?]
  cases g.node? n <;> simp [Node.isMem]

theorem Graph.Extends.isMem {g g' : Graph} (extension : g.Extends g') {n : NodeId} (h : g.isMem n = true) :
    g'.isMem n = true := by
  rw [Graph.isMem_eq_any_role?] at h ⊢
  obtain ⟨ρ, role, mem⟩ := (Option.any_eq_true _ _).1 h
  rw [extension.role n ρ role]
  exact mem

namespace BuildContext

open Build

/-- A builder that expands the operations of the programs and does nothing else. -/
def strictly (c : BuildContext) : Mandate := ⟨fun p op => (p, op) ∈ c.programs.stream, fun _ _ => False, False⟩

/-- An operation of the programs asks for the edge. -/
inductive Justified (c : BuildContext) (s : BuildState) : NodeId → NodeId → Prop
  /-- A stored value flows to where it is stored. -/
  | stored {p : Program} {op : Operation} {value destination : Value} {rest : List Value} {a b : NodeId}
      (listed : (p, op) ∈ c.programs.stream) (opcode : op.opcode = .store)
      (operands : op.operands = value :: destination :: rest) (source : s.graph.findNode value p = some a)
      (target : s.graph.findNode destination p = some b) : Justified c s a b
  /-- An operand flows into the operation that uses it. -/
  | used {p : Program} {op : Operation} {v : Value} {a n : NodeId} (listed : (p, op) ∈ c.programs.stream)
      (opcode : op.opcode ≠ .store ∧ op.opcode ≠ .call) (operand : v ∈ op.operands)
      (source : s.graph.findNode v p = some a) (noted : s.noted? op = some (some n))
      (hosts : c.Hosts s.graph p op n) : Justified c s a n
  /-- An argument flows into the call. -/
  | passed {p : Program} {op : Operation} {v : Value} {a n : NodeId} (listed : (p, op) ∈ c.programs.stream)
      (opcode : op.opcode = .call) (argument : v ∈ op.operands) (source : s.graph.findNode v p = some a)
      (noted : s.noted? op = some (some n)) (hosts : c.Hosts s.graph p op n) : Justified c s a n
  /-- Received data flows into the memory that it is received in. -/
  | received {p : Program} {op : Operation} {v : Value} {m n : NodeId} (listed : (p, op) ∈ c.programs.stream)
      (opcode : op.opcode = .call) (recv : c.callDirection? p op = some .recv) (argument : v ∈ op.operands)
      (target : s.graph.findNode v p = some m) (mem : s.graph.isMem m = true)
      (noted : s.noted? op = some (some n)) (hosts : c.Hosts s.graph p op n) : Justified c s n m
  /-- A call flows into the memory that its result points to. -/
  | returned {p : Program} {op : Operation} {v : Value} {k : AliasKey} {m n : NodeId}
      (listed : (p, op) ∈ c.programs.stream) (opcode : op.opcode = .call) (result : op.result = some v)
      (points : c.Points v k) (target : s.graph.findNode v p = some m) (mem : s.graph.findMem p k = some m)
      (noted : s.noted? op = some (some n)) (hosts : c.Hosts s.graph p op n) : Justified c s n m

/-! ## What lasts -/

/-- Values resolve to the same nodes as before, and operations other than stores are visited with the
same ones. -/
structure Lasts (c : BuildContext) (s s' : BuildState) : Prop where
  graph : s.graph.Extends s'.graph
  findNode : ∀ v p n, s.graph.findNode v p = some n → s'.graph.findNode v p = some n
  noted : ∀ p op x, (p, op) ∈ c.programs.stream → op.opcode ≠ .store → s.noted? op = some x →
    s'.noted? op = some x

section Lasts

variable {c : BuildContext} {s s' : BuildState}

theorem opcode_ne_store {op : Operation} (call : op.opcode = .call) : op.opcode ≠ .store := by
  rw [call]
  nofun

theorem Justified.lasts {a b : NodeId} (h : c.Justified s a b) (lasts : c.Lasts s s') : c.Justified s' a b := by
  cases h with
  | stored listed opcode operands source target =>
    exact .stored listed opcode operands (lasts.findNode _ _ _ source) (lasts.findNode _ _ _ target)
  | used listed opcode operand source noted hosts =>
    exact .used listed opcode operand (lasts.findNode _ _ _ source) (lasts.noted _ _ _ listed opcode.1 noted)
      (hosts.extends lasts.graph)
  | passed listed opcode argument source noted hosts =>
    exact .passed listed opcode argument (lasts.findNode _ _ _ source)
      (lasts.noted _ _ _ listed (opcode_ne_store opcode) noted) (hosts.extends lasts.graph)
  | received listed opcode recv argument target mem noted hosts =>
    refine .received listed opcode recv argument (lasts.findNode _ _ _ target) (lasts.graph.isMem mem)
      (lasts.noted _ _ _ listed (opcode_ne_store opcode) noted) (hosts.extends lasts.graph)
  | returned listed opcode result points target mem noted hosts =>
    exact .returned listed opcode result points (lasts.findNode _ _ _ target) (lasts.graph.mem _ _ _ mem)
      (lasts.noted _ _ _ listed (opcode_ne_store opcode) noted) (hosts.extends lasts.graph)

theorem noted?_note_of_ne {op op' : Operation} (other : ∀ i, op.id = some i → op'.id ≠ some i)
    (x : Option NodeId) : (s.note op' x).noted? op = s.noted? op := by
  unfold BuildState.noted?
  cases hi : op.id with
  | none => rfl
  | some i => exact get?_note (other i hi) x

end Lasts

/-! ## Traced edges -/

/-- Every edge is justified or leads from one program to the other. Operations are visited with the nodes
that their results, and the destinations of stores, resolve to. -/
structure Traced (c : BuildContext) (s : BuildState) : Prop where
  wf : s.graph.WellFormed
  distinct : c.Distinct s.graph
  result : ∀ p op v n, (p, op) ∈ c.programs.stream → op.opcode ≠ .store → op.result = some v →
    c.aliasKey? v = none → s.noted? op = some (some n) → s.graph.findNode v p = some n
  store : ∀ p op value destination rest n, (p, op) ∈ c.programs.stream → op.opcode = .store →
    op.operands = value :: destination :: rest → s.noted? op = some (some n) →
    s.graph.findNode destination p = some n
  edge : ∀ a b kind, s.graph.edgeKind? a b = some kind →
    kind = .data ∧ (c.Justified s a b ∨ s.graph.Across a b)

section Traced

variable {c : BuildContext} {s s' : BuildState} (tame : c.Tame) (homed : c.programs.Homed)

theorem traced_empty : c.Traced {} where
  wf := Graph.wellFormed_empty
  distinct := distinct_empty
  result p op v n _ _ _ _ hn := by cases h : op.id <;> simp [BuildState.noted?, h] at hn
  store p op value destination rest n _ _ _ hn := by cases h : op.id <;> simp [BuildState.noted?, h] at hn
  edge a b kind h := by cases h

include tame homed

/-- An operation that was visited is the one to look at when its result has no node yet. -/
theorem Traced.findNode_of_answers (h : c.Traced s) {p : Program} {v : Value} {n : NodeId}
    (ha : c.Answers s p v n) : s.graph.findNode v p = some n := by
  obtain found | ⟨rfl, scalar, op, hop, noted⟩ := ha
  · exact found
  · obtain ⟨listed, result⟩ := tame.cat.mem_of_definition? homed hop
    refine h.result _ op v n listed (fun store => ?_) result scalar (noted?_of_notes tame.cat listed noted)
    rw [tame.silent _ listed store] at result
    cases result

/-- What an edge was drawn for can be told from the state. -/
theorem Traced.justified_of_link (h : c.Traced s) {a b : NodeId} (link : c.Link c.strictly s a b) :
    c.Justified s a b ∨ s.graph.Across a b := by
  have found := fun {p v n} => h.findNode_of_answers tame homed (p := p) (v := v) (n := n)
  cases link with
  | stored due opcode operands source noted =>
    exact .inl (.stored due opcode operands (found source)
      (h.store _ _ _ _ _ _ due opcode operands (noted?_of_notes tame.cat due noted)))
  | @operand p op v _ _ due opcode operand source noted hosts =>
    by_cases call : op.opcode = .call
    · exact .inl (.passed due call operand (found source) (noted?_of_notes tame.cat due noted) hosts)
    · exact .inl (.used due ⟨opcode, call⟩ operand (found source) (noted?_of_notes tame.cat due noted) hosts)
  | received due opcode recv argument target mem noted hosts =>
    exact .inl (.received due opcode recv argument (found target) mem
      (noted?_of_notes tame.cat due noted) hosts)
  | @result p op v k _ _ due opcode result mem bound noted hosts =>
    obtain ⟨hv, hk⟩ := pointerResult?_eq_some_iff.1 result
    have target : s.graph.findNode v p = some b := by
      cases homed (p, op) due v hv
      rw [h.distinct.byClass.findNode_of_some hk, bound]
    exact .inl (.returned due opcode hv (aliasKey?_eq_some_iff.1 hk) target mem
      (noted?_of_notes tame.cat due noted) hosts)
  | @level p kind n o d role opposite =>
    obtain ⟨kind', role', -⟩ := (h.wf.net _ _ _).1 opposite
    cases d with
    | send => exact .inr ⟨_, _, _, _, role, role', (Program.peer_ne p).symm⟩
    | recv => exact .inr ⟨_, _, _, _, role', role, Program.peer_ne p⟩

/-- An event of a builder that only expands keeps what is there. -/
theorem Event.lasts (e : c.Event c.strictly s s') (h : c.Traced s) : c.Lasts s s' := by
  have grows : s.graph.Grows s'.graph := e.grows_or_retires.resolve_right fun retired => retired.1
  refine ⟨grows.extension, fun v p n hn => ?_, fun p op x listed opcode hx => ?_⟩
  · exact e.findNode (fun p op v due => homed (p, op) due v) h.wf h.distinct hn
      (grows.extension.isLive (h.wf.isLive_findNode hn))
  · have other : ∀ {q op'}, (q, op') ∈ c.programs.stream → (op'.opcode ≠ .store → s.noted? op' = none) →
        ∀ i, op.id = some i → op'.id ≠ some i := by
      intro q op' listed' new i hi hi'
      cases tame.cat.eq_of_id listed listed' (hi.trans hi'.symm)
      rw [new opcode] at hx
      cases hx
    cases e with
    | touch | memory | «variable» => exact hx
    | operation due new => exact (noted?_note_of_ne (other due fun _ => new) _).trans hx
    | note due new => exact (noted?_note_of_ne (other due new) _).trans hx
    | input due => exact due.elim
    | retire due => exact due.elim

/-- When an operation is visited with a node, it was so before, or there is a reason for the node, or the
node is a new one that its result is bound to. -/
theorem Event.noted_cases (e : c.Event c.strictly s s') (h : c.Traced s) {p : Program} {op : Operation}
    {n : NodeId} (listed : (p, op) ∈ c.programs.stream) (hn : s'.noted? op = some (some n)) :
    s.noted? op = some (some n) ∨ c.Marks s p op (some n) ∨ op.opcode ≠ .store ∧
      ∀ v, op.result = some v → c.aliasKey? v = none → s'.graph.findNode v p = some n := by
  have distinct' := e.distinct (fun p op v due => homed (p, op) due v) h.wf h.distinct
  cases e with
  | touch | memory | «variable» => exact .inl hn
  | @operation q op' label m g g' due new free opcode own made idle edge =>
    by_cases same : op'.id = op.id
    · cases tame.cat.eq_of_id listed due same.symm
      obtain rfl : m = n := by
        have noted := hn.symm.trans (noted?_of_notes tame.cat listed (notes_note _ op (some m)))
        simpa using noted.symm
      refine .inr (.inr ⟨opcode, fun v hv scalar => ?_⟩)
      have bound := boundResult?_eq_some_iff.2 ⟨hv, scalar⟩
      cases homed (p, op) due v hv
      rw [distinct'.byClass.findNode_of_none scalar, BuildState.graph_note, bound]
      simp [bindResult, Graph.bindValue, SortedMap.get?_insert]
    · rw [noted?_note_of_ne fun i hi hi' => same (hi'.trans hi.symm)] at hn
      exact .inl hn
  | @note q op' x due new mark =>
    by_cases same : op'.id = op.id
    · cases tame.cat.eq_of_id listed due same.symm
      cases hn.symm.trans (noted?_of_notes tame.cat listed (notes_note s op x))
      exact .inr (.inl mark)
    · rw [noted?_note_of_ne fun i hi hi' => same (hi'.trans hi.symm)] at hn
      exact .inl hn
  | input due => exact due.elim
  | retire due => exact due.elim

omit tame homed in
/-- Edges are drawn one at a time, and only by what touches the graph. -/
theorem Event.edge_cases (e : c.Event c.strictly s s') {a b : NodeId} {kind : EdgeKind}
    (h : s'.graph.edgeKind? a b = some kind) :
    s.graph.edgeKind? a b = some kind ∨ kind = .data ∧ c.Link c.strictly s a b := by
  cases e with
  | touch idle drawn => exact drawn.resolve_left id a b kind h
  | @memory p v k label n g due pointer made =>
    change g.edgeKind? a b = some kind at h
    rcases Graph.memNode_eq_ok made with ⟨-, rfl⟩ | ⟨-, rfl, rfl⟩
    · exact .inl h
    · exact .inl ((Graph.edgeKind?_place rfl a b).symm.trans h)
  | @operation p op label n g g' due new free opcode own made idle edge =>
    have bound : (bindResult (c.boundResult? op) n g').edgeKind? a b = g'.edgeKind? a b := by
      unfold bindResult
      split <;> rfl
    obtain ⟨rfl, rfl⟩ := Graph.addNode_eq_ok made
    rw [BuildState.graph_note, bound, edge, Graph.edgeKind?_place rfl] at h
    exact .inl h
  | «variable» scalar undefined known free made =>
    obtain ⟨rfl, rfl⟩ := Graph.addNode_eq_ok made
    exact .inl ((Graph.edgeKind?_place rfl a b).symm.trans h)
  | note =>
    rw [BuildState.graph_note] at h
    exact .inl h
  | input due => exact due.elim
  | retire due => exact due.elim

theorem Event.traced (e : c.Event c.strictly s s') (h : c.Traced s) : c.Traced s' := by
  have lasts := e.lasts tame homed h
  refine ⟨e.changes.wellFormed h.wf, e.distinct (fun p op v due => homed (p, op) due v) h.wf h.distinct,
    fun p op v n listed opcode result scalar hn => ?_,
    fun p op value destination rest n listed opcode operands hn => ?_, fun a b kind hab => ?_⟩
  · rcases e.noted_cases tame homed h listed hn with old | mark | ⟨-, bound⟩
    · exact lasts.findNode _ _ _ (h.result p op v n listed opcode result scalar old)
    · cases mark with
      | found result' node =>
        cases result.symm.trans result'
        exact lasts.findNode _ _ _ node
      | memory result' =>
        obtain ⟨hv, hk⟩ := pointerResult?_eq_some_iff.1 result'
        cases result.symm.trans hv
        rw [scalar] at hk
        cases hk
      | stored store => exact absurd store opcode
    · exact bound v result scalar
  · have silent := tame.silent _ listed opcode
    rcases e.noted_cases tame homed h listed hn with old | mark | ⟨plain, -⟩
    · exact lasts.findNode _ _ _ (h.store p op value destination rest n listed opcode operands old)
    · cases mark with
      | found result node =>
        rw [silent] at result
        cases result
      | memory result =>
        rw [pointerResult?, silent] at result
        cases result
      | stored _ operands' target =>
        rw [operands] at operands'
        cases operands'
        exact lasts.findNode _ _ _ (h.findNode_of_answers tame homed target)
    · exact absurd opcode plain
  · rcases e.edge_cases hab with old | ⟨rfl, link⟩
    · obtain ⟨data, reason⟩ := h.edge a b kind old
      exact ⟨data, reason.imp (·.lasts lasts) (·.extends lasts.graph)⟩
    · exact ⟨rfl, (h.justified_of_link tame homed link).imp (·.lasts lasts) (·.extends lasts.graph)⟩

theorem Events.traced (e : c.Events c.strictly s s') (h : c.Traced s) : c.Traced s' := by
  induction e with
  | refl => exact h
  | tail _ step ih => exact step.traced tame homed ih

end Traced

theorem wp_buildAll_strictly {c : BuildContext} {s : BuildState} (cat : c.programs.Catalogued)
    (homed : c.programs.Homed) : c.Proceeds c.strictly c.Tame c.buildAll s := by
  refine proceeds_addRoutines (fun v op hv => (cat.mem_of_definition? homed hv).1) fun r hr op hop => ?_
  exact List.mem_flatMap.2 ⟨r, hr, List.mem_map.2 ⟨op, hop, rfl⟩⟩

/-- No flow is invented. All edges of the programs' graph are data edges, and an operation of the programs
asks for each of them, unless it takes what one program sends to a receive of the other at a common
level. -/
theorem edges_justified (c : BuildContext) (registered : c.programs.Registered) (homed : c.programs.Homed)
    (silent : ∀ e ∈ c.programs.stream, e.2.opcode = .store → e.2.result = none) (count : Nat) (s : BuildState)
    (built : c.buildAll.run {} = .ok (count, s)) (a b : NodeId) (kind : EdgeKind)
    (edge : s.graph.edgeKind? a b = some kind) :
    kind = .data ∧ (c.Justified s a b ∨ ∃ x y, s.graph.node? a = some x ∧ s.graph.node? b = some y ∧
      x.program ≠ y.program ∧ Transfers x y) := by
  have cat := registered.catalogued
  have traced : c.Traced s :=
    ((wp_buildAll_strictly cat homed).run built).events.traced ⟨cat, silent⟩ homed traced_empty
  have grounded : c.Grounded s :=
    ((wp_buildAll_steps cat homed grounded_empty).run built).1.grounded cat grounded_empty
  obtain ⟨data, reason⟩ := traced.edge a b kind edge
  refine ⟨data, reason.imp_right fun across => ?_⟩
  obtain ⟨p, q, k, l, ha, hb, hne⟩ := across
  obtain ⟨x, hx, rfl, -⟩ := Graph.role?_eq_some_iff.1 ha
  obtain ⟨y, hy, rfl, -⟩ := Graph.role?_eq_some_iff.1 hb
  have cross := grounded.divided.cross a b x.face y.face (Graph.face?_eq_some_iff.2 ⟨x, hx, rfl⟩)
    (Graph.face?_eq_some_iff.2 ⟨y, hy, rfl⟩) hne kind
  exact ⟨x, y, hx, hy, hne, feeds_iff_transfers.1 (cross.1 edge).2⟩

/-- The first program puts `x` into memory, loads it again and sends it, and the second one receives it
into `buf`. -/
def courier : BuildContext where
  programs := .ofRoutines
    [(.first, .scalar "x"), (.first, .pointer "p"), (.first, .scalar "y"), (.second, .buffer "buf")]
    [{ name := "main", program := .first, operations :=
        [{ opcode := .call, operands := [], target := some "malloc", result := some ⟨.first, 1⟩ },
          { opcode := .store, operands := [⟨.first, 0⟩, ⟨.first, 1⟩] },
          { opcode := .load, operands := [⟨.first, 1⟩], result := some ⟨.first, 2⟩ },
          { opcode := .call, operands := [⟨.first, 2⟩], target := some "send", location := some ⟨"a.c", 3⟩ }] },
      { name := "main", program := .second, operations :=
        [{ opcode := .call, operands := [⟨.second, 0⟩], target := some "RECV", location := some ⟨"b.c", 7⟩ }] }]
  oracle := (AliasPartition.ofLists [[⟨.first, 1⟩], [⟨.second, 0⟩]]).oracle
  naming := {}
  config := {}
  levels := fun _ _ _ => .ofList [1]

/-- The memory that `p` points to is the node `1`. The operations of the first program ask for the edges into
it and onwards to the send `4`, whose edge to the receive `5` leads to the second program. -/
theorem edges_justified_courier : courier.programs.Registered ∧ courier.programs.Homed ∧
    (∀ e ∈ courier.programs.stream, e.2.opcode = .store → e.2.result = none) ∧
    ∃ s, courier.buildAll.run {} = .ok (5, s) ∧
      (∀ e ∈ [(0, 1), (2, 1), (1, 3), (3, 4), (5, 6)], courier.Justified s e.1 e.2) ∧
      (courier.Justified s 4 5 ∨ ∃ x y, s.graph.node? 4 = some x ∧ s.graph.node? 5 = some y ∧
        x.program ≠ y.program ∧ Transfers x y) := by
  have registered : courier.programs.Registered := ProgramPair.registered_ofRoutines ..
  have homed : courier.programs.Homed := by decide +kernel
  have silent : ∀ e ∈ courier.programs.stream, e.2.opcode = .store → e.2.result = none := by decide +kernel
  have outcome : ((courier.buildAll : Build Nat).run {}).map (fun r => (r.1,
      [(0, 1), (2, 1), (1, 3), (3, 4), (5, 6), (4, 5)].map fun e => r.2.graph.edgeKind? e.1 e.2,
      [(0, 1), (2, 1), (1, 3), (3, 4), (5, 6)].all fun e =>
        (r.2.graph.node? e.1).map (·.program) = (r.2.graph.node? e.2).map (·.program))) =
      .ok (5, List.replicate 6 (some .data), true) := by decide +kernel
  obtain ⟨r, hrun, outcome⟩ := exists_of_map_eq_ok outcome
  simp only [Prod.mk.injEq, List.map_cons, List.map_nil, List.replicate, List.cons.injEq, and_true] at outcome
  obtain ⟨count, ⟨e₁, e₂, e₃, e₄, e₅, e₆⟩, sides⟩ := outcome
  have reasons := edges_justified courier registered homed silent r.1 r.2 hrun
  refine ⟨registered, homed, silent, r.2, hrun.trans (by rw [← count]), fun e he => ?_,
    (reasons 4 5 .data e₆).2⟩
  have edge : r.2.graph.edgeKind? e.1 e.2 = some .data := by
    simp only [List.mem_cons, List.not_mem_nil, or_false] at he
    rcases he with rfl | rfl | rfl | rfl | rfl <;> assumption
  refine (reasons e.1 e.2 .data edge).2.resolve_right fun across => ?_
  obtain ⟨x, y, hx, hy, hne, -⟩ := across
  have side := List.all_eq_true.1 sides e he
  simp only [hx, hy, Option.map_some, Option.some.injEq, decide_eq_true_eq] at side
  exact hne side

end BuildContext

end PeerTaint
