import PeerTaint.Proofs.Acts

/-!
How many handles a build gives out.

A handle is given out for a purpose: an operation that was not visited before, a class in a program that
had no node there, a value that stood for nothing, or an input that was not entered. Whatever happens
afterwards, the purpose stays met (`Purpose.Met`), so that no purpose is served twice (`Accounted`). Hence a
graph has no more slots than there are operations to expand, classes and values to resolve, and inputs to
enter (`size_le_demand`).
-/

namespace PeerTaint

namespace ProgramPair

/-- The operation stands in a routine. -/
def Lists (m : ProgramPair) (op : Operation) : Prop := ∃ p, (p, op) ∈ m.stream

/-- As many handles as operations, two for each value, and one for each input. -/
def demand (m : ProgramPair) (inputs : InputSets) : Nat :=
  m.stream.length + 2 * m.values.size + inputs.toList.length

end ProgramPair

theorem SortedMap.isSome_get?_insert {κ α : Type} [Key κ] [DecidableEq κ] {m : SortedMap κ α} {k k' : κ}
    {a : α} (h : (m.get? k).isSome = true) : ((m.insert k' a).get? k).isSome = true := by
  rw [get?_insert]
  split
  · rfl
  · exact h

/-! ## Graphs with one node more -/

namespace Graph

/-- The indices have all keys that they had. -/
structure KeepsKeys (g g' : Graph) : Prop where
  mem : ∀ k, (g.memNodes.get? k).isSome = true → (g'.memNodes.get? k).isSome = true
  value : ∀ v, (g.valueNodes.get? v).isSome = true → (g'.valueNodes.get? v).isSome = true
  input : ∀ k, (g.inputNodes.get? k).isSome = true → (g'.inputNodes.get? k).isSome = true

/-- One node was added. -/
structure Adds (g : Graph) (p : Program) (kind : NodeKind) (g' : Graph) : Prop extends KeepsKeys g g' where
  size : g'.slots.size = g.slots.size + 1
  role : ∀ n, g'.role? n = if n = g.slots.size then some (p, kind.bare) else g.role? n

variable {g g₁ g' : Graph} {p : Program} {kind : NodeKind}

theorem KeepsKeys.refl (g : Graph) : KeepsKeys g g := ⟨fun _ => id, fun _ => id, fun _ => id⟩

theorem Idles.keepsKeys (h : Idles g g') : KeepsKeys g g' where
  mem _ hk := h.same.mem ▸ hk
  value _ hv := h.same.value ▸ hv
  input _ hk := h.same.input ▸ hk

theorem Adds.place (g : Graph) (p : Program) (kind : NodeKind) (label : String) :
    Adds g p kind (g.place (g.fresh p kind label)) where
  size := size_place ..
  role n := role?_place ..
  toKeepsKeys := by
    obtain ⟨_, _, _, _, he⟩ := place_eq g (g.fresh p kind label)
    rw [he]
    exact ⟨fun _ => id, fun _ => id, fun _ => id⟩

theorem Adds.idles (h : Adds g p kind g₁) (idle : Idles g₁ g') : Adds g p kind g' where
  size := idle.size.trans h.size
  role n := (idle.role n).trans (h.role n)
  mem k hk := idle.keepsKeys.mem k (h.mem k hk)
  value v hv := idle.keepsKeys.value v (h.value v hv)
  input k hk := idle.keepsKeys.input k (h.input k hk)

theorem Adds.bindResult (h : Adds g p kind g') (r : Option Value) (n : NodeId) :
    Adds g p kind (BuildContext.bindResult r n g') := by
  cases r with
  | none => exact h
  | some v => exact { h with value := fun w hw => SortedMap.isSome_get?_insert (h.value w hw) }

end Graph

/-! ## Purposes -/

/-- What a handle is given out for. -/
inductive Purpose where
  | operation (id : Nat)
  | memory (p : Program) (k : AliasKey)
  | value (v : Value)
  | input (v : Value) (o : Origin)

namespace Purpose

/-- The purpose is met: the operation was visited, or the node is there. -/
def Met (s : BuildState) : Purpose → Prop
  | operation i => (s.visited.get? i).isSome = true
  | memory p k => (s.graph.memNodes.get? (p, k)).isSome = true
  | value v => (s.graph.valueNodes.get? v).isSome = true
  | input v o => (s.graph.inputNodes.get? (v, o)).isSome = true

theorem Met.mono {s s' : BuildState} {x : Purpose} (h : x.Met s) (keys : s.graph.KeepsKeys s'.graph)
    (visited : ∀ i, (s.visited.get? i).isSome = true → (s'.visited.get? i).isSome = true) : x.Met s' := by
  cases x with
  | operation i => exact visited i h
  | memory p k => exact keys.mem (p, k) h
  | value v => exact keys.value v h
  | input v o => exact keys.input (v, o) h

end Purpose

theorem BuildState.isSome_visited_note {s : BuildState} {op : Operation} {x : Option NodeId} {i : Nat}
    (h : (s.visited.get? i).isSome = true) : ((s.note op x).visited.get? i).isSome = true := by
  unfold note
  split
  · exact SortedMap.isSome_get?_insert h
  · exact h

namespace BuildContext

section Accounts

variable (c : BuildContext) (M : Mandate)

/-- The purposes that there are for a builder with a mandate. -/
def Wants : Purpose → Prop
  | .operation i => ∃ p op, M.expands p op ∧ op.id = some i
  | .memory _ k => ∃ v, c.aliasKey? v = some k
  | .value v => c.aliasKey? v = none ∧ c.programs.definition? v = none ∧ (c.programs.info? v).isSome = true
  | .input v o => M.enters v o

/-- Every handle was given out for a purpose of its own, which is still met. Calls define values that an
operation defines. -/
structure Accounted (s : BuildState) (xs : List Purpose) : Prop where
  wf : s.graph.WellFormed
  size : s.graph.slots.size = xs.length
  nodup : xs.Nodup
  wanted : ∀ x ∈ xs, c.Wants M x
  met : ∀ x ∈ xs, x.Met s
  calls : ∀ n p info v, s.graph.role? n = some (p, .call info) → info.result = some v →
    (c.programs.definition? v).isSome = true

end Accounts

section Steps

variable {c : BuildContext} {M : Mandate} {s s' : BuildState} {xs : List Purpose}

theorem accounted_empty : c.Accounted M {} [] where
  wf := Graph.wellFormed_empty
  size := rfl
  nodup := .nil
  wanted := by simp
  met := by simp
  calls n p info v h := by cases h

/-- No handle is given out. -/
theorem Accounted.idle (h : c.Accounted M s xs) (wf : s'.graph.WellFormed)
    (size : s'.graph.slots.size = s.graph.slots.size) (keeps : ∀ x ∈ xs, x.Met s')
    (role : ∀ n r, s'.graph.role? n = some r → s.graph.role? n = some r) : c.Accounted M s' xs where
  wf := wf
  size := size.trans h.size
  nodup := h.nodup
  wanted := h.wanted
  met := keeps
  calls n p info v hn := h.calls n p info v (role n _ hn)

/-- A handle is given out for a new purpose. -/
theorem Accounted.serve (h : c.Accounted M s xs) (wf : s'.graph.WellFormed) {x : Purpose} {p : Program}
    {kind : NodeKind} (adds : s.graph.Adds p kind s'.graph) (wanted : c.Wants M x) (new : ¬ x.Met s)
    (met : x.Met s')
    (visited : ∀ i, (s.visited.get? i).isSome = true → (s'.visited.get? i).isSome = true)
    (defined : ∀ v, kind.category = .call → kind.Defines v → (c.programs.definition? v).isSome = true) :
    ∃ xs', c.Accounted M s' xs' := by
  refine ⟨x :: xs, wf, by rw [adds.size, h.size, List.length_cons],
    List.nodup_cons.2 ⟨fun hx => new (h.met x hx), h.nodup⟩, fun y hy => ?_, fun y hy => ?_,
    fun n q info v hn hv => ?_⟩
  · rcases List.mem_cons.1 hy with rfl | hy
    · exact wanted
    · exact h.wanted y hy
  · rcases List.mem_cons.1 hy with rfl | hy
    · exact met
    · exact (h.met y hy).mono adds.toKeepsKeys visited
  · rw [adds.role] at hn
    split at hn
    · simp only [Option.some.injEq, Prod.mk.injEq] at hn
      have call : kind.category = .call := by
        cases kind <;> simp_all [NodeKind.bare, NodeKind.mapCallInfo, NodeKind.category]
      have defines : kind.bare.Defines v := by
        rw [hn.2]
        exact ⟨hv, by simp [NodeKind.category]⟩
      exact defined v call (NodeKind.defines_bare.1 defines)
    · exact h.calls n q info v hn hv

/-- A call gives way. What is left of it is that its operation was visited. -/
theorem Accounted.met_retire {n : NodeId} {x : Node} {info : CallInfo} {g : Graph} {y : Purpose}
    (h : c.Accounted M s xs) (call : x.kind = .call info) (hx : s.graph.node? n = some x)
    (r : s.graph.Removed n x g) (hy : y ∈ xs) :
    y.Met ⟨g, s.visited.mapValues fun m => if m = some n then none else m⟩ := by
  have met := h.met y hy
  have role : s.graph.role? n = some (x.program, .call { info with args := [] }) :=
    Graph.role?_eq_some_iff.2 ⟨x, hx, rfl, by rw [call]; rfl⟩
  have other : ∀ {κ : Type} [Key κ] [DecidableEq κ] {m : SortedMap κ NodeId} {k : κ},
      (m.get? k).isSome = true → m.get? k ≠ some n →
      ((m.filterValues (Graph.otherThan n)).get? k).isSome = true := by
    intro κ _ _ m k hk hne
    obtain ⟨j, hj⟩ := Option.isSome_iff_exists.1 hk
    rw [SortedMap.get?_filterValues, hj]
    simp [Graph.otherThan, Option.filter, show j ≠ n from fun same => hne (same ▸ hj)]
  cases y with
  | operation i =>
    change ((s.visited.mapValues _).get? i).isSome = true
    rw [SortedMap.get?_mapValues, Option.isSome_map]
    exact met
  | memory p k =>
    change (g.memNodes.get? (p, k)).isSome = true
    rw [r.mem]
    refine other met fun same => ?_
    cases role.symm.trans (h.wf.mem p k n same)
  | value v =>
    -- the value has no definition, so what stands for it is no call
    change (g.valueNodes.get? v).isSome = true
    rw [r.value]
    refine other met fun same => ?_
    obtain ⟨p, kind, role', defines⟩ := h.wf.value v n same
    cases role.symm.trans role'
    obtain ⟨-, undefined, -⟩ := h.wanted _ hy
    have defined := h.calls n _ _ v role defines.1
    rw [undefined] at defined
    cases defined
  | input v o =>
    change (g.inputNodes.get? (v, o)).isSome = true
    rw [r.input]
    refine other met fun same => ?_
    obtain ⟨p, name, role'⟩ := h.wf.input v o n same
    cases role.symm.trans role'

variable (numbered : ∀ p op, M.expands p op → ∃ i, op.id = some i)
  (defined : ∀ p op v, M.expands p op → op.result = some v → (c.programs.definition? v).isSome = true)
include numbered defined

theorem Event.accounted (e : c.Event M s s') (h : c.Accounted M s xs) :
    ∃ xs', c.Accounted M s' xs' := by
  have wf := e.changes.wellFormed h.wf
  cases e with
  | touch idle =>
    exact ⟨xs, h.idle wf idle.size (fun x hx => (h.met x hx).mono idle.keepsKeys fun _ => id)
      fun n r hr => idle.role n ▸ hr⟩
  | @memory p v k label n g due pointer made =>
    rcases Graph.memNode_eq_ok made with ⟨-, rfl⟩ | ⟨free, rfl, rfl⟩
    · have keys : s.graph.KeepsKeys (s.graph.bindMemValue v n) := ⟨fun _ => id, fun _ => id, fun _ => id⟩
      exact ⟨xs, h.idle wf rfl (fun x hx => (h.met x hx).mono keys fun _ => id) fun n r hr => hr⟩
    · have adds := Graph.Adds.place s.graph p (.mem k) label
      refine h.serve wf (x := .memory p k)
        { adds with mem := fun _ => SortedMap.isSome_get?_insert } ⟨v, pointer⟩ ?_ ?_ (fun _ => id)
        fun v call => by cases call
      · simp [Purpose.Met, show s.graph.memNodes.get? (p, k) = none from free]
      · simp [Purpose.Met, Graph.bindMemValue, SortedMap.get?_insert]
  | @operation p op label n g g' due new free opcode own made idle =>
    obtain ⟨rfl, rfl⟩ := Graph.addNode_eq_ok made
    obtain ⟨i, hi⟩ := numbered p op due
    have unseen : s.visited.get? i = none := by simpa [BuildState.noted?, hi] using new
    have adds := ((Graph.Adds.place s.graph p (c.nodeKind p op) label).idles idle).bindResult (c.boundResult? op)
      s.graph.slots.size
    refine h.serve wf (x := .operation i) (by rwa [BuildState.graph_note])
      ⟨p, op, due, hi⟩ ?_ ?_ (fun _ seen => BuildState.isSome_visited_note (s := ⟨_, s.visited⟩) seen)
      fun v _ defines => defined p op v due ((nodeKind_defines_iff v).1 defines)
    · simp [Purpose.Met, unseen]
    · simp [Purpose.Met, BuildState.note, hi, SortedMap.get?_insert]
  | @«variable» v name n g scalar undefined known free made =>
    obtain ⟨rfl, rfl⟩ := Graph.addNode_eq_ok made
    have unbound : s.graph.valueNodes.get? v = none := by
      rw [Graph.findNode, if_pos rfl, Option.or_eq_none_iff] at free
      exact free.2
    refine h.serve wf (x := .value v)
      ((Graph.Adds.place s.graph v.program (.var v) name).bindResult (some v) _)
      ⟨scalar, undefined, known⟩ ?_ ?_ (fun _ => id) fun v call => by cases call
    · simp [Purpose.Met, unbound]
    · simp [Purpose.Met, Graph.bindValue, SortedMap.get?_insert]
  | note =>
    refine ⟨xs, h.idle wf (by rw [BuildState.graph_note]) (fun y hy => ?_) fun n r hr => ?_⟩
    · exact (h.met y hy).mono (by rw [BuildState.graph_note]; exact .refl _)
        fun _ => BuildState.isSome_visited_note
    · rwa [BuildState.graph_note] at hr
  | @input v o name n g due made =>
    rcases Graph.inputNode_eq_ok made with ⟨-, rfl⟩ | ⟨free, rfl, label, rfl⟩
    · exact ⟨xs, h⟩
    · have adds := Graph.Adds.place s.graph v.program (.input v o name) label
      refine h.serve wf (x := .input v o)
        { adds with input := fun _ => SortedMap.isSome_get?_insert } due ?_ ?_ (fun _ => id)
        fun v call => by cases call
      · simp [Purpose.Met, show s.graph.inputNodes.get? (v, o) = none from free]
      · simp [Purpose.Met, SortedMap.get?_insert]
  | @retire n x info g due call removed =>
    obtain ⟨hx, r⟩ := Graph.removed_of_removeNode h.wf.toLinked removed
    refine ⟨xs, h.idle wf r.size (fun y hy => h.met_retire call hx r hy) fun m role hr => ?_⟩
    change g.role? m = some role at hr
    rw [r.role?] at hr
    split at hr
    · cases hr
    · exact hr

theorem Events.accounted (e : c.Events M {} s) : ∃ xs, c.Accounted M s xs := by
  induction e with
  | refl => exact ⟨[], accounted_empty⟩
  | tail _ step ih =>
    obtain ⟨xs, h⟩ := ih
    exact step.accounted numbered defined h

end Steps

/-! ## How many purposes there are -/

/-- The inputs of the records. -/
def Recorded (inputs : InputSets) (v : Value) (o : Origin) : Prop :=
  ∃ r ∈ inputs.toList, r.value = v ∧ r.origin = o

/-- What a value can need handles for. -/
def valuePurposes (c : BuildContext) (v : Value) : List Purpose :=
  match c.aliasKey? v with
  | some k => [.memory .first k, .memory .second k]
  | none => [.value v]

/-- All that handles can be needed for. -/
def purposes (c : BuildContext) (inputs : InputSets) : List Purpose :=
  c.programs.stream.filterMap (fun e => e.2.id.map .operation) ++
    (c.programs.values.keys.flatMap c.valuePurposes ++ inputs.toList.map fun r => .input r.value r.origin)

theorem length_flatMap_valuePurposes_le (c : BuildContext) (vs : List Value) :
    (vs.flatMap c.valuePurposes).length ≤ 2 * vs.length := by
  induction vs with
  | nil => simp
  | cons v vs ih =>
    have two : (c.valuePurposes v).length ≤ 2 := by
      unfold valuePurposes
      split <;> simp
    rw [List.flatMap_cons, List.length_append, List.length_cons]
    omega

theorem length_purposes_le (c : BuildContext) (inputs : InputSets) :
    (c.purposes inputs).length ≤ c.programs.demand inputs := by
  have operations := List.length_filterMap_le (fun e => e.2.id.map Purpose.operation) c.programs.stream
  have values := c.length_flatMap_valuePurposes_le c.programs.values.keys
  rw [SortedMap.length_keys] at values
  rw [purposes, List.length_append, List.length_append, List.length_map, ProgramPair.demand]
  omega

/-- A builder that expands the operations of the programs and enters the inputs. -/
def mandate (c : BuildContext) (inputs : InputSets) : Mandate := ⟨fun _ => c.programs.Lists, Recorded inputs, True⟩

theorem Wants.mem_purposes {c : BuildContext} {inputs : InputSets} {x : Purpose}
    (h : c.Wants (c.mandate inputs) x) : x ∈ c.purposes inputs := by
  have known : ∀ {v}, (c.programs.info? v).isSome = true → v ∈ c.programs.values.keys :=
    fun h => SortedMap.mem_keys_iff.2 h
  rw [purposes, List.mem_append, List.mem_append]
  cases x with
  | operation i =>
    obtain ⟨_, op, ⟨p, hop⟩, hi⟩ := h
    exact .inl (List.mem_filterMap.2 ⟨(p, op), hop, by simp [hi]⟩)
  | memory p k =>
    obtain ⟨v, hk⟩ := h
    have registered : (c.programs.info? v).isSome = true := by
      unfold aliasKey? at hk
      cases hv : c.programs.info? v with
      | none => simp [hv] at hk
      | some info => rfl
    refine .inr (.inl (List.mem_flatMap.2 ⟨v, known registered, ?_⟩))
    cases p <;> simp [valuePurposes, hk]
  | value v =>
    obtain ⟨scalar, -, registered⟩ := h
    exact .inr (.inl (List.mem_flatMap.2 ⟨v, known registered, by simp [valuePurposes, scalar]⟩))
  | input v o =>
    obtain ⟨r, hr, rfl, rfl⟩ := h
    exact .inr (.inr (List.mem_map.2 ⟨r, hr, rfl⟩))

/-- A graph has no more slots than there are purposes. -/
theorem size_le_demand {c : BuildContext} (cat : c.programs.Catalogued) {inputs : InputSets} {s : BuildState}
    (e : c.Events (c.mandate inputs) {} s) :
    s.graph.slots.size ≤ c.programs.demand inputs := by
  have numbered : ∀ p op, (c.mandate inputs).expands p op → ∃ i, op.id = some i := by
    rintro _ op ⟨p, hop⟩
    obtain ⟨i, -, hi⟩ := cat.id _ hop
    exact ⟨i, hi⟩
  have defined : ∀ p op v, (c.mandate inputs).expands p op → op.result = some v →
      (c.programs.definition? v).isSome = true := by
    rintro _ op v ⟨p, hop⟩ hv
    exact cat.defined _ hop v hv
  obtain ⟨xs, h⟩ := e.accounted numbered defined
  calc s.graph.slots.size = xs.length := h.size
    _ ≤ (c.purposes inputs).length :=
      (List.subperm_of_subset h.nodup fun x hx => (h.wanted x hx).mem_purposes).length_le
    _ ≤ c.programs.demand inputs := c.length_purposes_le inputs

end BuildContext

end PeerTaint
