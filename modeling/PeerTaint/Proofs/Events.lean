import PeerTaint.Proofs.BuildSteps
import PeerTaint.Proofs.Division
import PeerTaint.Proofs.Expansion

/-!
Events of building.

An event makes a node together with everything that resolves to it, takes a call out, or leaves every
node in its place. Unlike the steps of `Moves`, events presuppose nothing about the programs, and each
of them says what the builder knew: why an edge is drawn (`Link`), and why an operation is visited with a
node (`Marks`). A `Mandate` says what a builder may do. Whatever happens, graphs stay well formed, what was
visited stays visited, and no graph outgrows its handles.
-/

namespace PeerTaint

namespace Graph

/-! ## Changes that move nothing -/

/-- A change that leaves which nodes there are, what they stand for, and what resolves to them. -/
structure Idles (g g' : Graph) : Prop where
  grows : Grows g g'
  size : g'.slots.size = g.slots.size
  role : ∀ n, g'.role? n = g.role? n
  same : SameIndices g g'

theorem Idles.refl (g : Graph) : Idles g g := ⟨.refl, rfl, fun _ => rfl, ⟨rfl, rfl, rfl, rfl, fun _ _ => rfl⟩⟩

theorem Idles.trans {g₁ g₂ g₃ : Graph} (h : Idles g₁ g₂) (h' : Idles g₂ g₃) : Idles g₁ g₃ where
  grows := h.grows.trans h'.grows
  size := h'.size.trans h.size
  role n := (h'.role n).trans (h.role n)
  same := ⟨h'.same.mem.trans h.same.mem, h'.same.input.trans h.same.input,
    h'.same.value.trans h.same.value, h'.same.memValue.trans h.same.memValue,
    fun p d => (h'.same.net p d).trans (h.same.net p d)⟩

theorem Idles.modify {f : Node → Node} (hf : Benign f) (g : Graph) (n : NodeId) :
    Idles g (g.modifyNode n f) where
  grows := .single (.modify n hf)
  size := size_modifyNode g n f
  role := role?_modifyNode hf g n
  same := ⟨rfl, rfl, rfl, rfl, fun _ _ => rfl⟩

theorem Idles.connect (g : Graph) (a b : NodeId) (kind : EdgeKind) : Idles g (g.connect a b kind).2 := by
  refine ⟨.single (.connect a b kind), size_connect g a b kind, fun n => ?_, ?_⟩
  · exact map_node?_connect g a b kind n fun _ _ _ => rfl
  · rcases connect_cases g a b kind with ⟨he, -⟩ | ⟨-, -, -, ⟨-, -, he⟩ | ⟨-, he⟩⟩ <;> rw [he] <;>
      exact ⟨rfl, rfl, rfl, rfl, fun _ _ => rfl⟩

theorem Idles.linkLevel (n : NodeId) (d : Direction) (levels : LevelSet) (g : Graph) (o : NodeId) :
    Idles g (linkLevel n d levels g o) := by
  unfold Graph.linkLevel
  split
  · exact .refl g
  · split <;> split <;> first | exact .connect _ _ _ _ | exact .refl g

theorem Idles.correlate (g : Graph) (n : NodeId) (p : Program) (d : Direction) (levels : LevelSet) :
    Idles g (g.correlate n p d levels) := by
  rw [correlate_eq]
  split
  · exact .refl g
  · refine List.foldlRecOn _ _ (.modify (by exact ⟨fun _ => rfl, fun _ => rfl⟩) g n) fun g' h o _ => ?_
    exact h.trans (.linkLevel n d levels g' o)

theorem inputNode_eq_error {g : Graph} {v : Value} {o : Origin} {name : String} {e : GraphError}
    (h : g.inputNode v o name = .error e) :
    nodeCapacity ≤ g.slots.size ∧ e = .capacityExceeded g.slots.size := by
  unfold inputNode at h
  cases hm : g.findInput v o with
  | some m => rw [hm] at h; cases h
  | none =>
    rw [hm] at h
    cases ha : g.addNode v.program (.input v o name) (inputLabel o name) with
    | error e' =>
      rw [ha] at h
      cases h
      exact addNode_eq_error ha
    | ok r => rw [ha] at h; cases h

/-! ## Room for nodes -/

theorem lt_nodeCapacity_of_nodeIdOfSlot {k : Nat} {n : NodeId} (h : nodeIdOfSlot k = .ok n) :
    k < nodeCapacity := by
  by_contra full
  rw [nodeIdOfSlot, if_neg full] at h
  cases h

section Room

variable {g g' : Graph} {n : NodeId}

theorem size_addNode {p : Program} {kind : NodeKind} {label : String}
    (h : g.addNode p kind label = .ok (n, g')) :
    g'.slots.size = g.slots.size + 1 ∧ g.slots.size < nodeCapacity := by
  constructor
  · obtain ⟨-, rfl⟩ := addNode_eq_ok h
    exact size_place ..
  · cases hs : nodeIdOfSlot g.slots.size with
    | ok m => exact lt_nodeCapacity_of_nodeIdOfSlot hs
    | error e =>
      rw [addNode, hs] at h
      cases h

theorem size_addNode_le {p : Program} {kind : NodeKind} {label : String} {r : NodeId × Graph}
    (h : g.addNode p kind label = .ok r) : r.2.slots.size ≤ nodeCapacity := by
  obtain ⟨size, lt⟩ := size_addNode h
  omega

theorem size_memNode_le {p : Program} {k : AliasKey} {label : String}
    (h : g.memNode p k label = .ok (n, g')) (room : g.slots.size ≤ nodeCapacity) :
    g'.slots.size ≤ nodeCapacity := by
  unfold memNode at h
  cases hm : g.findMem p k with
  | some m =>
    rw [hm] at h
    cases h
    exact room
  | none =>
    rw [hm] at h
    cases ha : g.addNode p (.mem k) label with
    | error e => rw [ha] at h; cases h
    | ok r =>
      rw [ha] at h
      cases h
      exact size_addNode_le ha

theorem size_inputNode_le {v : Value} {o : Origin} {name : String}
    (h : g.inputNode v o name = .ok (n, g')) (room : g.slots.size ≤ nodeCapacity) :
    g'.slots.size ≤ nodeCapacity := by
  unfold inputNode at h
  cases hm : g.findInput v o with
  | some m =>
    rw [hm] at h
    cases h
    exact room
  | none =>
    rw [hm] at h
    cases ha : g.addNode v.program (.input v o name) (inputLabel o name) with
    | error e => rw [ha] at h; cases h
    | ok r =>
      rw [ha] at h
      cases h
      exact size_addNode_le ha

end Room

/-- What a value resolves to is live. -/
theorem findNode_bindValue (g : Graph) {v w : Value} (n : NodeId) (p : Program) (hw : w ≠ v) :
    (g.bindValue v n).findNode w p = g.findNode w p := by
  simp [findNode, bindValue, SortedMap.get?_insert, hw]

theorem findNode_bindMemValue (g : Graph) {v w : Value} (n : NodeId) (p : Program) (hw : w ≠ v) :
    (g.bindMemValue v n).findNode w p = g.findNode w p := by
  simp [findNode, bindMemValue, SortedMap.get?_insert, hw]

theorem findNode_congr {g g' : Graph} (memValue : g'.memValues = g.memValues)
    (value : g'.valueNodes = g.valueNodes) (v : Value) (p : Program) : g'.findNode v p = g.findNode v p := by
  rw [findNode, memValue, value, findNode]

theorem WellFormed.isLive_findNode {g : Graph} (wf : g.WellFormed) {v : Value} {p : Program} {n : NodeId}
    (hn : g.findNode v p = some n) : g.isLive n = true := by
  rw [isLive_eq_isSome_role?]
  rw [findNode] at hn
  split at hn
  · rcases Option.or_eq_some_iff.1 hn with hn | ⟨-, hn⟩
    · obtain ⟨q, k, role⟩ := wf.memValue v n hn
      rw [role]
      rfl
    · obtain ⟨q, kind, role, -⟩ := wf.value v n hn
      rw [role]
      rfl
  · cases hn

/-! ## Calls -/

/-- A live node that is a call. -/
def IsCall (g : Graph) (n : NodeId) : Prop := ∃ p info, g.role? n = some (p, .call info)

theorem isCall_iff {g : Graph} {n : NodeId} :
    g.IsCall n ↔ ∃ x info, g.node? n = some x ∧ x.kind = .call info := by
  constructor
  · rintro ⟨p, info, role⟩
    obtain ⟨x, hx, -, hkind⟩ := role?_eq_some_iff.1 role
    refine ⟨x, ?_⟩
    cases hk : x.kind with
    | call info => exact ⟨info, hx, rfl⟩
    | op | var | mem | netRead | netWrite | input => rw [hk] at hkind; cases hkind
  · rintro ⟨x, info, hx, hkind⟩
    exact ⟨x.program, _, role?_eq_some_iff.2 ⟨x, hx, rfl, by rw [hkind]; rfl⟩⟩

theorem IsCall.grows {g g' : Graph} {n : NodeId} (h : g.IsCall n) (grows : Grows g g') : g'.IsCall n := by
  obtain ⟨p, info, role⟩ := h
  exact ⟨p, info, grows.extension.role n _ role⟩

theorem IsCall.removed {g g' : Graph} {n m : NodeId} {x : Node} (h : g.IsCall m) (r : Removed g n x g')
    (hne : m ≠ n) : g'.IsCall m := by
  obtain ⟨p, info, role⟩ := h
  exact ⟨p, info, by rw [r.role?, if_neg hne, role]⟩

end Graph

/-- The state with an operation noted, if the operation has a number. -/
def BuildState.note (s : BuildState) (op : Operation) (x : Option NodeId) : BuildState :=
  match op.id with
  | some i => { s with visited := s.visited.insert i x }
  | none => s

@[simp]
theorem BuildState.graph_note (s : BuildState) (op : Operation) (x : Option NodeId) :
    (s.note op x).graph = s.graph := by
  unfold note
  split <;> rfl

theorem Build.wp_note {Q : Unit → BuildState → Prop} {E : BuildFault → Prop} {s : BuildState}
    {op : Operation} {x : Option NodeId} : wp (remember op x) Q E s ↔ Q () (s.note op x) := by
  unfold remember BuildState.note
  cases op.id <;> exact Iff.rfl

/-- If the operation has a number, it was visited with `x`. -/
def BuildState.Notes (s : BuildState) (op : Operation) (x : Option NodeId) : Prop :=
  ∀ i, op.id = some i → s.visited.get? i = some x

namespace BuildContext

open Build
open Relation (ReflTransGen)

/-! ## What an operation has to do with nodes -/

section Reasons

variable (c : BuildContext)

/-- The kind of the node that an operation gets for itself. -/
def nodeKind (p : Program) (op : Operation) : NodeKind :=
  if op.opcode = .call then callKind (callInfo op) (c.callDirection? p op) else .op op.opcode op.result

/-- The node that a value resolves to: the one that it is bound to, or else the one that the operation
defining it was visited with. -/
def Answers (s : BuildState) (p : Program) (v : Value) (n : NodeId) : Prop :=
  s.graph.findNode v p = some n ∨ v.program = p ∧ c.aliasKey? v = none ∧
    ∃ op, c.programs.definition? v = some op ∧ s.Notes op (some n)

/-- The node is that of the result's class, or one that the operation got for itself. -/
inductive Hosts (g : Graph) (p : Program) (op : Operation) (n : NodeId) : Prop
  | memory {v : Value} {k : AliasKey} (plain : op.opcode ≠ .call) (result : c.pointerResult? op = some (v, k))
      (mem : g.findMem p k = some n) : Hosts g p op n
  | own (own : op.opcode = .call ∨ c.pointerResult? op = none)
      (role : g.role? n = some (p, c.nodeKind p op)) : Hosts g p op n

/-- Why an operation is visited with a node. -/
inductive Marks (s : BuildState) (p : Program) (op : Operation) : Option NodeId → Prop
  | none : Marks s p op none
  | found {v : Value} {n : NodeId} (result : op.result = some v) (node : s.graph.findNode v p = some n) :
      Marks s p op (some n)
  | memory {v : Value} {k : AliasKey} {n : NodeId} (result : c.pointerResult? op = some (v, k))
      (mem : s.graph.findMem p k = some n) : Marks s p op (some n)
  | stored {value destination : Value} {rest : List Value} {n : NodeId} (opcode : op.opcode = .store)
      (operands : op.operands = value :: destination :: rest) (target : c.Answers s p destination n) :
      Marks s p op (some n)

end Reasons

/-- What a builder may do: expand operations, enter inputs, and, if it may rewire the graph, join nodes at
will and take calls out. -/
structure Mandate where
  expands : Program → Operation → Prop
  enters : Value → Origin → Prop
  rewires : Prop

/-- A builder that may do everything. -/
def Mandate.any : Mandate := ⟨fun _ _ => True, fun _ _ => True, True⟩

/-! ## Events -/

section Events

variable (c : BuildContext) (M : Mandate)

/-- Why there is an edge between two nodes. -/
inductive Link (s : BuildState) : NodeId → NodeId → Prop
  | stored {p : Program} {op : Operation} {value destination : Value} {rest : List Value} {a n : NodeId}
      (due : M.expands p op) (opcode : op.opcode = .store)
      (operands : op.operands = value :: destination :: rest) (source : c.Answers s p value a)
      (noted : s.Notes op (some n)) : Link s a n
  | operand {p : Program} {op : Operation} {v : Value} {a n : NodeId} (due : M.expands p op)
      (opcode : op.opcode ≠ .store) (operand : v ∈ op.operands) (source : c.Answers s p v a)
      (noted : s.Notes op (some n)) (hosts : c.Hosts s.graph p op n) : Link s a n
  | received {p : Program} {op : Operation} {v : Value} {m n : NodeId} (due : M.expands p op)
      (opcode : op.opcode = .call) (recv : c.callDirection? p op = some .recv) (argument : v ∈ op.operands)
      (target : c.Answers s p v m) (mem : s.graph.isMem m = true) (noted : s.Notes op (some n))
      (hosts : c.Hosts s.graph p op n) : Link s n m
  | result {p : Program} {op : Operation} {v : Value} {k : AliasKey} {m n : NodeId} (due : M.expands p op)
      (opcode : op.opcode = .call) (result : c.pointerResult? op = some (v, k))
      (mem : s.graph.findMem p k = some m) (bound : s.graph.memValues.get? v = some m)
      (noted : s.Notes op (some n)) (hosts : c.Hosts s.graph p op n) : Link s n m
  /-- A network node and one of the other program. -/
  | level {p : Program} {kind : NodeKind} {n o : NodeId} {d : Direction}
      (role : s.graph.role? n = some (p, kind)) (opposite : o ∈ s.graph.netNodes p.peer d.opposite) :
      Link s (Graph.linkEnds n d o).1 (Graph.linkEnds n d o).2

/-- All edges that the graph has beyond those of the state are there for a reason. -/
def Explains (s : BuildState) (g : Graph) : Prop :=
  ∀ a b kind, g.edgeKind? a b = some kind →
    s.graph.edgeKind? a b = some kind ∨ kind = .data ∧ c.Link M s a b

/-- An event of building. -/
inductive Event : BuildState → BuildState → Prop
  | touch {s : BuildState} {g : Graph} (idle : s.graph.Idles g) (drawn : M.rewires ∨ c.Explains M s g) :
      Event s { s with graph := g }
  /-- A pointer gets the node of its class in a program. -/
  | memory {s : BuildState} {p : Program} {v : Value} {k : AliasKey} {label : String} {n : NodeId}
      {g : Graph} (due : v.program = p ∨ ∃ op, M.expands p op ∧ op.result = some v)
      (pointer : c.aliasKey? v = some k) (made : s.graph.memNode p k label = .ok (n, g)) :
      Event s { s with graph := g.bindMemValue v n }
  /-- An operation gets a node of its own. -/
  | operation {s : BuildState} {p : Program} {op : Operation} {label : String} {n : NodeId} {g g' : Graph}
      (due : M.expands p op) (new : s.noted? op = none)
      (free : op.result.bind (s.graph.findNode · p) = none) (opcode : op.opcode ≠ .store)
      (own : op.opcode = .call ∨ c.pointerResult? op = none)
      (made : s.graph.addNode p (c.nodeKind p op) label = .ok (n, g)) (idle : g.Idles g')
      (edge : ∀ a b, g'.edgeKind? a b = g.edgeKind? a b) :
      Event s (BuildState.note { s with graph := bindResult (c.boundResult? op) n g' } op (some n))
  /-- A value that no operation defines gets a node of its own. -/
  | variable {s : BuildState} {v : Value} {name : String} {n : NodeId} {g : Graph}
      (scalar : c.aliasKey? v = none) (undefined : c.programs.definition? v = none)
      (known : (c.programs.info? v).isSome = true) (free : s.graph.findNode v v.program = none)
      (made : s.graph.addNode v.program (.var v) name = .ok (n, g)) :
      Event s { s with graph := g.bindValue v n }
  | note {s : BuildState} {p : Program} {op : Operation} {x : Option NodeId} (due : M.expands p op)
      (new : op.opcode ≠ .store → s.noted? op = none) (mark : c.Marks s p op x) : Event s (s.note op x)
  | input {s : BuildState} {v : Value} {o : Origin} {name : String} {n : NodeId} {g : Graph}
      (due : M.enters v o) (made : s.graph.inputNode v o name = .ok (n, g)) : Event s { s with graph := g }
  /-- A call gives way to the routine that it calls. -/
  | retire {s : BuildState} {n : NodeId} {x : Node} {info : CallInfo} {g : Graph} (due : M.rewires)
      (call : x.kind = .call info) (removed : s.graph.removeNode n = .ok (x, g)) :
      Event s ⟨g, s.visited.mapValues fun m => if m = some n then none else m⟩

/-- Events, any number of times. -/
abbrev Events : BuildState → BuildState → Prop := ReflTransGen (c.Event M)

end Events

section Laws

variable {c : BuildContext} {M : Mandate} {s s' : BuildState}

theorem callKind_defines_iff {op : Operation} {d : Option Direction} (v : Value) :
    (callKind (callInfo op) d).Defines v ↔ op.result = some v := by
  refine ⟨fun h => ?_, callKind_defines⟩
  cases d with
  | none => exact h.1
  | some d => cases d <;> exact h.1

theorem nodeKind_defines_iff {p : Program} {op : Operation} (v : Value) :
    (c.nodeKind p op).Defines v ↔ op.result = some v := by
  unfold nodeKind
  split
  · exact callKind_defines_iff v
  · simp [NodeKind.Defines, NodeKind.value?, NodeKind.category]

/-- Graphs grow, except when a call is taken out. -/
theorem Event.grows_or_retires (h : c.Event M s s') :
    s.graph.Grows s'.graph ∨ M.rewires ∧ ∃ n x g, s.graph.removeNode n = .ok (x, g) ∧
      s' = ⟨g, s.visited.mapValues fun m => if m = some n then none else m⟩ := by
  cases h with
  | touch idle => exact .inl idle.grows
  | memory due pointer made =>
    obtain ⟨grows, mem⟩ := Graph.Grows.memNode made
    exact .inl (grows.tail (.bindMemValue _ mem))
  | @operation p op label n g g' due new free opcode own made idle =>
    have grows := (Graph.Grows.addNode made).trans idle.grows
    obtain ⟨rfl, rfl⟩ := Graph.addNode_eq_ok made
    rw [BuildState.graph_note]
    cases hr : c.boundResult? op with
    | none => exact .inl grows
    | some v =>
      have role := (idle.role _).trans (Graph.role?_place_fresh s.graph p (c.nodeKind p op) label)
      have defines := (nodeKind_defines_iff (c := c) (p := p) v).2 (c.boundResult?_eq_some hr)
      exact .inl (grows.tail (.bindValue role (NodeKind.defines_bare.2 defines)))
  | @«variable» v name n g scalar undefined known free made =>
    exact .inl (grows_bindResult v.program (some v) made fun w hw => ⟨hw, nofun⟩)
  | note =>
    rw [BuildState.graph_note]
    exact .inl .refl
  | input due made => exact .inl (Graph.Grows.inputNode made)
  | retire due call removed => exact .inr ⟨due, _, _, _, removed, rfl⟩

theorem Event.changes (h : c.Event M s s') : s.graph.Changes s'.graph := by
  rcases h.grows_or_retires with grows | ⟨-, n, x, g, removed, rfl⟩
  · exact grows.changes
  · exact .single (.remove removed)

theorem Events.changes (h : c.Events M s s') : s.graph.Changes s'.graph := by
  induction h with
  | refl => exact .refl
  | tail _ step ih => exact ih.trans step.changes

theorem Events.wellFormed (h : c.Events M s s') (wf : s.graph.WellFormed) : s'.graph.WellFormed :=
  h.changes.wellFormed wf

/-- No graph outgrows its handles. -/
theorem Event.size_le (h : c.Event M s s') (wf : s.graph.WellFormed)
    (room : s.graph.slots.size ≤ nodeCapacity) : s'.graph.slots.size ≤ nodeCapacity := by
  cases h with
  | touch idle =>
    rw [idle.size]
    exact room
  | @memory p v k label n g due pointer made =>
    change g.slots.size ≤ nodeCapacity
    exact Graph.size_memNode_le made room
  | @operation p op label n g g' due new free opcode own made idle =>
    have bound : (bindResult (c.boundResult? op) n g').slots.size = g'.slots.size := by
      unfold bindResult
      split <;> rfl
    rw [BuildState.graph_note, bound, idle.size]
    exact Graph.size_addNode_le made
  | «variable» scalar undefined known free made => exact Graph.size_addNode_le made
  | note =>
    rw [BuildState.graph_note]
    exact room
  | input due made => exact Graph.size_inputNode_le made room
  | retire due call removed =>
    rw [(Graph.removed_of_removeNode wf.toLinked removed).2.size]
    exact room

theorem Events.size_le (h : c.Events M s s') (wf : s.graph.WellFormed)
    (room : s.graph.slots.size ≤ nodeCapacity) : s'.graph.slots.size ≤ nodeCapacity := by
  induction h with
  | refl => exact room
  | tail before step ih => exact step.size_le (Events.wellFormed before wf) ih

theorem isSome_noted?_note {op op' : Operation} {x : Option NodeId} (h : (s.noted? op').isSome = true) :
    ((s.note op x).noted? op').isSome = true := by
  unfold BuildState.note
  cases op.id with
  | none => exact h
  | some i =>
    obtain ⟨y, hy⟩ := Option.isSome_iff_exists.1 h
    obtain ⟨j, hj, hy⟩ := Option.bind_eq_some_iff.1 hy
    simp only [BuildState.noted?, hj, Option.bind_some, SortedMap.get?_insert]
    split <;> simp [hy]

theorem isSome_noted?_note_self {op : Operation} {i : Nat} (hi : op.id = some i) (x : Option NodeId) :
    ((s.note op x).noted? op).isSome = true := by
  simp [BuildState.note, BuildState.noted?, hi, SortedMap.get?_insert]

theorem isSome_noted?_mapValues {op : Operation} (h : (s.noted? op).isSome = true) (g : Graph)
    (f : Option NodeId → Option NodeId) :
    (BuildState.noted? ⟨g, s.visited.mapValues f⟩ op).isSome = true := by
  obtain ⟨y, hy⟩ := Option.isSome_iff_exists.1 h
  obtain ⟨i, hi, hy⟩ := Option.bind_eq_some_iff.1 hy
  simp [BuildState.noted?, hi, SortedMap.get?_mapValues, hy]

theorem Event.isSome_noted? (h : c.Event M s s') {op : Operation} (hx : (s.noted? op).isSome = true) :
    (s'.noted? op).isSome = true := by
  cases h with
  | touch | memory | «variable» | input => exact hx
  | operation | note => exact isSome_noted?_note hx
  | retire => exact isSome_noted?_mapValues hx _ _

theorem Events.isSome_noted? (h : c.Events M s s') (op : Operation)
    (hx : (s.noted? op).isSome = true) : (s'.noted? op).isSome = true := by
  induction h with
  | refl => exact hx
  | tail _ step ih => exact step.isSome_noted? ih

end Laws

end BuildContext

end PeerTaint
