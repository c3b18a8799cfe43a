import PeerTaint.Proofs.Acts

/-!
One node for each value and each class.

A builder binds values from several places: when it resolves one, when it makes the node of an operation,
and when it makes the node of a class. Over any run of requests a class has at most one node in a program,
and so has a value among the nodes that are its own (`Distinct`). What a value resolves to says whether it
has a class, and it stays what it is until a splice takes it out.
-/

namespace PeerTaint

/-- The kind of a node that is a value's own: a variable, or an operation with that result. -/
def NodeKind.StandsFor (kind : NodeKind) (v : Value) : Prop :=
  kind = .var v ∨ ∃ opcode, kind = .op opcode (some v)

theorem NodeKind.standsFor_bare {kind : NodeKind} {v : Value} : kind.bare.StandsFor v ↔ kind.StandsFor v := by
  cases kind <;> simp [StandsFor, bare, mapCallInfo]

theorem not_standsFor_callKind (info : CallInfo) (d : Option Direction) (v : Value) :
    ¬ (BuildContext.callKind info d).StandsFor v := by
  cases d with
  | none => simp [BuildContext.callKind, NodeKind.StandsFor]
  | some d => cases d <;> simp [BuildContext.callKind, NodeKind.StandsFor]

namespace BuildContext

open Build
open Relation (ReflTransGen)

/-- Classes have one node in a program, and values one of their own. Pointers resolve to the node of their
class, and other values to their own. -/
structure Distinct (c : BuildContext) (g : Graph) : Prop where
  mem : ∀ n p k, g.role? n = some (p, .mem k) → g.findMem p k = some n
  own : ∀ n p kind v, g.role? n = some (p, kind) → kind.StandsFor v → g.valueNodes.get? v = some n
  memValue : ∀ v n, g.memValues.get? v = some n →
    ∃ k, c.aliasKey? v = some k ∧ g.findMem v.program k = some n
  value : ∀ v n, g.valueNodes.get? v = some n → c.aliasKey? v = none

section Steps

variable {c : BuildContext} {g g' : Graph}

theorem distinct_empty : c.Distinct .empty where
  mem n p k h := by cases h
  own n p kind v h := by cases h
  memValue v n h := by cases h
  value v n h := by cases h

theorem Distinct.byClass (h : c.Distinct g) : c.ByClass g where
  value := h.value
  memValue v n hv := (h.memValue v n hv).imp fun _ hk => hk.1

theorem Distinct.congr (h : c.Distinct g) (role : ∀ n, g'.role? n = g.role? n)
    (mem : g'.memNodes = g.memNodes) (memValue : g'.memValues = g.memValues)
    (value : g'.valueNodes = g.valueNodes) : c.Distinct g' := by
  have found : ∀ p k, g'.findMem p k = g.findMem p k := fun p k => by rw [Graph.findMem, mem, Graph.findMem]
  refine ⟨fun n p k hn => ?_, fun n p kind v hn => ?_, fun v n hv => ?_, fun v n hv => ?_⟩
  · rw [found]
    exact h.mem n p k (role n ▸ hn)
  · rw [value]
    exact h.own n p kind v (role n ▸ hn)
  · simp only [found]
    exact h.memValue v n (memValue ▸ hv)
  · exact h.value v n (value ▸ hv)

/-- A new node that is no class takes what it is bound to. -/
theorem Distinct.bindResult (h : c.Distinct g) {p : Program} {kind : NodeKind} {label : String}
    {r : Option Value} (idle : (g.place (g.fresh p kind label)).Idles g') (noMem : kind.isMem = false)
    (stands : ∀ v, kind.StandsFor v → r = some v)
    (free : ∀ v, r = some v → c.aliasKey? v = none ∧ g.valueNodes.get? v = none) :
    c.Distinct (bindResult r g.slots.size g') := by
  obtain ⟨slots, reads, writes, live, he⟩ := Graph.place_eq g (g.fresh p kind label)
  have role : ∀ n, (BuildContext.bindResult r g.slots.size g').role? n =
      if n = g.slots.size then some (p, kind.bare) else g.role? n := fun n => by
    rw [role?_bindResult, idle.role, Graph.role?_place]
    rfl
  have mem : (BuildContext.bindResult r g.slots.size g').memNodes = g.memNodes := by
    have same : g'.memNodes = g.memNodes := by rw [idle.same.mem, he]
    cases r <;> exact same
  have memValue : (BuildContext.bindResult r g.slots.size g').memValues = g.memValues := by
    have same : g'.memValues = g.memValues := by rw [idle.same.memValue, he]
    cases r <;> exact same
  have value : ∀ v, (BuildContext.bindResult r g.slots.size g').valueNodes.get? v =
      if r = some v then some g.slots.size else g.valueNodes.get? v := fun v => by
    have same : g'.valueNodes = g.valueNodes := by rw [idle.same.value, he]
    cases r with
    | none => simp [BuildContext.bindResult, same]
    | some w => simp [BuildContext.bindResult, Graph.bindValue, SortedMap.get?_insert, same, eq_comm]
  refine ⟨fun n q k hn => ?_, fun n q kind' v hn hv => ?_, fun v n hv => ?_, fun v n hv => ?_⟩
  · rw [role] at hn
    rw [Graph.findMem, mem]
    split at hn
    · simp only [Option.some.injEq, Prod.mk.injEq] at hn
      rw [← NodeKind.isMem_bare, hn.2] at noMem
      cases noMem
    · exact h.mem n q k hn
  · rw [role] at hn
    rw [value]
    split at hn
    · next new =>
      cases hn
      rw [if_pos (stands v (NodeKind.standsFor_bare.1 hv)), new]
    · have old := h.own n q kind' v hn hv
      rw [if_neg fun hr => ?_, old]
      rw [(free v hr).2] at old
      cases old
  · rw [memValue] at hv
    simp only [Graph.findMem, mem]
    exact h.memValue v n hv
  · rw [value] at hv
    split at hv
    · next hr => exact (free v hr).1
    · exact h.value v n hv

/-- A pointer of a program gets the node of its class there. -/
theorem Distinct.memory (h : c.Distinct g) {v : Value} {k : AliasKey} {label : String} {n : NodeId}
    (pointer : c.aliasKey? v = some k) (made : g.memNode v.program k label = .ok (n, g')) :
    c.Distinct (g'.bindMemValue v n) := by
  obtain ⟨grows, mem⟩ := Graph.Grows.memNode made
  have extension := grows.extension
  have bindings := Graph.bindings_memNode made
  have role : ∀ m ρ, g'.role? m = some ρ → g.role? m = some ρ ∨ m = n ∧ ρ = (v.program, .mem k) := by
    intro m ρ hm
    rcases Graph.memNode_eq_ok made with ⟨-, rfl⟩ | ⟨-, rfl, rfl⟩
    · exact .inl hm
    · change (g.place _).role? m = some ρ at hm
      rw [Graph.role?_place] at hm
      split at hm
      · next new => exact .inr ⟨new, (Option.some.inj hm).symm⟩
      · exact .inl hm
  refine ⟨fun m p j hm => ?_, fun m p kind w hm hw => ?_, fun w m hw => ?_, fun w m hw => ?_⟩
  · rcases role m _ hm with old | ⟨rfl, new⟩
    · exact extension.mem p j m (h.mem m p j old)
    · cases new
      exact mem
  · rcases role m _ hm with old | ⟨rfl, new⟩
    · exact (congrArg (·.get? w) bindings.2).trans (h.own m p kind w old hw)
    · cases new
      simp [NodeKind.StandsFor] at hw
  · change (g'.memValues.insert v n).get? w = some m at hw
    rw [SortedMap.get?_insert, bindings.1] at hw
    split at hw
    · next same =>
      cases hw
      subst same
      exact ⟨k, pointer, mem⟩
    · obtain ⟨j, hj, old⟩ := h.memValue w m hw
      exact ⟨j, hj, extension.mem _ j m old⟩
  · change g'.valueNodes.get? w = some m at hw
    exact h.value w m (bindings.2 ▸ hw)

theorem get?_filterValues_otherThan {κ : Type} [Key κ] [DecidableEq κ] {m : SortedMap κ NodeId} {k : κ}
    {n j : NodeId} : (m.filterValues (Graph.otherThan n)).get? k = some j ↔ m.get? k = some j ∧ j ≠ n := by
  rw [SortedMap.get?_filterValues, Option.filter_eq_some_iff]
  simp [Graph.otherThan]

/-- Whatever resolved to a node that is taken out resolves to nothing. -/
theorem Distinct.retire (h : c.Distinct g) (wf : g.WellFormed) {n : NodeId} {x : Node}
    (removed : g.removeNode n = .ok (x, g')) : c.Distinct g' := by
  obtain ⟨hx, r⟩ := Graph.removed_of_removeNode wf.toLinked removed
  have role : ∀ m ρ, g'.role? m = some ρ → m ≠ n ∧ g.role? m = some ρ := by
    intro m ρ hm
    rw [r.role?] at hm
    split at hm
    · cases hm
    · next hne => exact ⟨hne, hm⟩
  refine ⟨fun m p k hm => ?_, fun m p kind v hm hv => ?_, fun v m hv => ?_, fun v m hv => ?_⟩
  · obtain ⟨hne, hm⟩ := role m _ hm
    rw [Graph.findMem, r.mem, get?_filterValues_otherThan]
    exact ⟨h.mem m p k hm, hne⟩
  · obtain ⟨hne, hm⟩ := role m _ hm
    rw [r.value, get?_filterValues_otherThan]
    exact ⟨h.own m p kind v hm hv, hne⟩
  · rw [r.memValue, get?_filterValues_otherThan] at hv
    obtain ⟨k, hk, mem⟩ := h.memValue v m hv.1
    exact ⟨k, hk, by rw [Graph.findMem, r.mem, get?_filterValues_otherThan]; exact ⟨mem, hv.2⟩⟩
  · rw [r.value, get?_filterValues_otherThan] at hv
    exact h.value v m hv.1

/-- A pointer that has a node gets the same one again. -/
theorem Distinct.findNode_memory (h : c.Distinct g) {v : Value} {k : AliasKey} {label : String} {n m : NodeId}
    (pointer : c.aliasKey? v = some k) (made : g.memNode v.program k label = .ok (m, g'))
    (hn : g.findNode v v.program = some n) : (g'.bindMemValue v m).findNode v v.program = some n := by
  rw [h.byClass.findNode_of_some pointer] at hn
  obtain ⟨j, hj, mem⟩ := h.memValue v n hn
  cases pointer.symm.trans hj
  obtain ⟨grows, found⟩ := Graph.Grows.memNode made
  cases (grows.extension.mem _ _ _ mem).symm.trans found
  simp [Graph.findNode, Graph.bindMemValue, SortedMap.get?_insert]

theorem findNode_bindResult {r : Option Value} {n : NodeId} {v : Value} (other : r ≠ some v) (p : Program) :
    (bindResult r n g).findNode v p = g.findNode v p := by
  cases r with
  | none => rfl
  | some w => exact Graph.findNode_bindValue g n p fun same => other (congrArg some same.symm)

/-- Taking out a node does not concern what resolves to another one. -/
theorem findNode_of_removed {m n : NodeId} {x : Node} (r : g.Removed m x g') {v : Value} {p : Program}
    (hn : g.findNode v p = some n) (hne : n ≠ m) : g'.findNode v p = some n := by
  cases program_of_findNode hn
  rw [Graph.findNode, if_pos rfl, Option.or_eq_some_iff] at hn ⊢
  rcases hn with hn | ⟨none, hn⟩
  · exact .inl (r.memValue ▸ get?_filterValues_otherThan.2 ⟨hn, hne⟩)
  · refine .inr ⟨?_, r.value ▸ get?_filterValues_otherThan.2 ⟨hn, hne⟩⟩
    rw [r.memValue, SortedMap.get?_filterValues, none]
    rfl

end Steps

section Events

variable {c : BuildContext} {M : Mandate} {s s' : BuildState}
  (home : ∀ p op v, M.expands p op → op.result = some v → v.program = p)
include home

theorem Event.distinct (e : c.Event M s s') (wf : s.graph.WellFormed) (h : c.Distinct s.graph) :
    c.Distinct s'.graph := by
  cases e with
  | touch idle => exact h.congr idle.role idle.same.mem idle.same.memValue idle.same.value
  | memory due pointer made =>
    obtain rfl | ⟨op, due, hv⟩ := due
    · exact h.memory pointer made
    · cases home _ op _ due hv
      exact h.memory pointer made
  | @operation p op label n g g' due new free opcode own made idle =>
    obtain ⟨rfl, rfl⟩ := Graph.addNode_eq_ok made
    rw [BuildState.graph_note]
    refine h.bindResult idle ?_ (fun v hv => ?_) fun v hv => ?_
    · unfold nodeKind
      split
      · exact isMem_callKind ..
      · rfl
    · unfold nodeKind at hv
      split at hv
      · exact absurd hv (not_standsFor_callKind _ _ v)
      · next plain =>
        have scalar : c.pointerResult? op = none := own.resolve_left plain
        rw [boundResult?, scalar]
        simpa [NodeKind.StandsFor] using hv
    · obtain ⟨hv, scalar⟩ := boundResult?_eq_some_iff.1 hv
      cases home p op v due hv
      rw [hv, Option.bind_some, h.byClass.findNode_of_none scalar] at free
      exact ⟨scalar, free⟩
  | @«variable» v name n g scalar undefined known free made =>
    obtain ⟨rfl, rfl⟩ := Graph.addNode_eq_ok made
    refine h.bindResult (r := some v) (.refl _) rfl (fun w hw => ?_) fun w hw => ?_
    · simpa [NodeKind.StandsFor] using hw
    · cases hw
      rw [h.byClass.findNode_of_none scalar] at free
      exact ⟨scalar, free⟩
  | note => rwa [BuildState.graph_note]
  | input due made =>
    rcases Graph.inputNode_eq_ok made with ⟨-, rfl⟩ | ⟨-, rfl, label, rfl⟩
    · exact h
    · refine (h.bindResult (r := none) (.refl _) rfl (fun w hw => ?_) fun w hw => ?_).congr
        (fun _ => rfl) rfl rfl rfl
      · simp [NodeKind.StandsFor] at hw
      · cases hw
  | retire due call removed => exact h.retire wf removed

theorem Events.distinct (e : c.Events M s s') (wf : s.graph.WellFormed) (h : c.Distinct s.graph) :
    c.Distinct s'.graph := by
  induction e with
  | refl => exact h
  | tail before step ih => exact step.distinct home (Events.wellFormed before wf) ih

/-- What a value resolves to stays, as long as the node does. -/
theorem Event.findNode (e : c.Event M s s') (wf : s.graph.WellFormed) (h : c.Distinct s.graph) {v : Value}
    {p : Program} {n : NodeId} (hn : s.graph.findNode v p = some n) (live : s'.graph.isLive n = true) :
    s'.graph.findNode v p = some n := by
  have kept : ∀ {g : Graph}, g.memValues = s.graph.memValues → g.valueNodes = s.graph.valueNodes →
      g.findNode v p = some n := fun memValue value => (Graph.findNode_congr memValue value v p).trans hn
  cases e with
  | touch idle => exact kept idle.same.memValue idle.same.value
  | @memory q w k label m g due pointer made =>
    obtain ⟨memValues, valueNodes⟩ := Graph.bindings_memNode made
    by_cases same : v = w
    · subst same
      cases program_of_findNode hn
      have place : v.program = q := by
        obtain here | ⟨op, due, hv⟩ := due
        · exact here
        · exact home q op v due hv
      subst place
      exact h.findNode_memory pointer made hn
    · exact (Graph.findNode_bindMemValue g m p same).trans (kept memValues valueNodes)
  | @operation q op label m g g' due new free opcode own made idle =>
    have quiet := Graph.Quiet.addNode made
    rw [BuildState.graph_note, findNode_bindResult (fun hr => ?_) p]
    · exact kept (idle.same.memValue.trans quiet.memValue) (idle.same.value.trans quiet.value)
    · have hv := (boundResult?_eq_some_iff.1 hr).1
      cases home q op v due hv
      cases program_of_findNode hn
      rw [hv, Option.bind_some, hn] at free
      cases free
  | @«variable» w name m g scalar undefined known free made =>
    have quiet := Graph.Quiet.addNode made
    have other : v ≠ w := by
      rintro rfl
      cases program_of_findNode hn
      rw [hn] at free
      cases free
    exact (Graph.findNode_bindValue g m p other).trans (kept quiet.memValue quiet.value)
  | note => rwa [BuildState.graph_note]
  | input due made =>
    rcases Graph.inputNode_eq_ok made with ⟨-, rfl⟩ | ⟨-, -, label, rfl⟩
    · exact hn
    · obtain ⟨_, _, _, _, he⟩ := Graph.place_eq s.graph (s.graph.fresh _ _ label)
      exact kept (by rw [he]) (by rw [he])
  | @retire m x info g due call removed =>
    obtain ⟨-, r⟩ := Graph.removed_of_removeNode wf.toLinked removed
    refine findNode_of_removed r hn ?_
    rintro rfl
    rw [Graph.isLive_eq_isSome_role?, r.role?, if_pos rfl] at live
    cases live

/-- Handles that were given up do not come back, so the node was there all the time. -/
theorem Events.findNode (e : c.Events M s s') (wf : s.graph.WellFormed) (h : c.Distinct s.graph) {v : Value}
    {p : Program} {n : NodeId} (hn : s.graph.findNode v p = some n) (live : s'.graph.isLive n = true) :
    s'.graph.findNode v p = some n := by
  induction e using ReflTransGen.head_induction_on with
  | refl => exact hn
  | @head s s₁ step rest ih =>
    have wf₁ : s₁.graph.WellFormed := step.changes.wellFormed wf
    refine ih wf₁ (step.distinct home wf h) (step.findNode home wf h hn ?_)
    by_contra stale
    obtain ⟨x, hx⟩ := Graph.isLive_iff.1 (wf.isLive_findNode hn)
    have lt := (Graph.lt_size_of_node? hx).trans_le (step.changes.evolves wf).size_le
    rw [((Events.changes rest).evolves wf₁).stale n lt (Bool.eq_false_iff.2 stale)] at live
    cases live

end Events

/-! ## Runs of requests -/

/-- Results belong to the program that their operation is expanded for, be it on demand or on request. -/
structure Housed (c : BuildContext) (rs : List BuildRequest) : Prop where
  definition : ∀ v op w, c.programs.definition? v = some op → op.result = some w → w.program = v.program
  request : ∀ r ∈ rs, ∀ p op, r.Names c.programs p op → ∀ w, op.result = some w → w.program = p

theorem Housed.of_subset {c : BuildContext} {rs rs' : List BuildRequest} (h : c.Housed rs) (sub : rs' ⊆ rs) :
    c.Housed rs' := ⟨h.definition, fun r hr => h.request r (sub hr)⟩

/-- The state after a request; one that is refused leaves it as it is. A request that stops half-way, since
there are no handles left or the oracle contradicts itself, is taken back whole, with the nodes that it made before:
so nothing is said here of a builder that goes on from what such a request left. -/
def serve (c : BuildContext) (s : BuildState) (r : BuildRequest) : BuildState :=
  match (r.run c).run s with
  | .ok (_, s') => s'
  | .error _ => s

/-- What a builder makes of an empty graph, one request after the other. -/
def served (c : BuildContext) (rs : List BuildRequest) : BuildState := rs.foldl c.serve {}

theorem served_concat (c : BuildContext) (rs : List BuildRequest) (r : BuildRequest) :
    c.served (rs ++ [r]) = c.serve (c.served rs) r := by
  rw [served, List.foldl_append]
  rfl

/-- A builder whose operations have results of the program that they are expanded for. -/
def Mandate.housed : Mandate := ⟨fun p op => ∀ v, op.result = some v → v.program = p, fun _ _ => True, True⟩

theorem Mandate.program_of_housed (p : Program) (op : Operation) (v : Value) (due : housed.expands p op)
    (hv : op.result = some v) : v.program = p := due v hv

section Runs

variable {c : BuildContext} {rs : List BuildRequest}

/-- What is known about every way that a request ends is known about the state after it. -/
theorem serve_of_wp {R : BuildState → BuildState → Prop} {s : BuildState} {r : BuildRequest} (refl : R s s)
    (h : wp (r.run c) (fun _ s' => R s s') (fun _ => True) s) : R s (c.serve s r) := by
  unfold serve
  cases run : (r.run c).run s with
  | ok a => exact h.run run
  | error f => exact refl

theorem events_serve {r : BuildRequest} (housed : c.Housed [r]) {s : BuildState} (wf : s.graph.WellFormed) :
    c.Events .housed s (c.serve s r) :=
  serve_of_wp .refl (wp_request_within (fun v op hop w hw => housed.definition v op w hop hw) trivial
    (fun _ _ => trivial) (housed.request r List.mem_cons_self) wf)

theorem grows_serve {r : BuildRequest} (housed : c.Housed [r]) (plain : r.splices = false) (s : BuildState) :
    s.graph.Grows (c.serve s r).graph := by
  refine serve_of_wp (R := fun s s' => s.graph.Grows s'.graph) .refl ?_
  exact (wp_request_progress (M := .housed) (fun v op hop w hw => housed.definition v op w hop hw) trivial
    (fun _ _ => trivial) (housed.request r List.mem_cons_self) plain).mono fun _ _ h => h.grows

theorem distinct_served (housed : c.Housed rs) :
    (c.served rs).graph.WellFormed ∧ c.Distinct (c.served rs).graph := by
  induction rs using List.reverseRecOn with
  | nil => exact ⟨Graph.wellFormed_empty, distinct_empty⟩
  | append_singleton rs r ih =>
    obtain ⟨wf, distinct⟩ := ih (housed.of_subset (List.subset_append_left rs [r]))
    have events := events_serve (housed.of_subset (List.subset_append_right rs [r])) wf
    rw [served_concat]
    exact ⟨events.wellFormed wf, events.distinct Mandate.program_of_housed wf distinct⟩

/-- A node that a value resolves to is lost only to a splice that takes it out. -/
theorem findNode_served {later : List BuildRequest} (housed : c.Housed (rs ++ later)) {v : Value} {p : Program}
    {n : NodeId} (hn : (c.served rs).graph.findNode v p = some n) :
    (c.served (rs ++ later)).graph.findNode v p = some n ∨
      ∃ before r after, later = before ++ r :: after ∧ r.splices = true ∧
        (c.served (rs ++ before)).graph.findNode v p = some n ∧
        (c.served (rs ++ before ++ [r])).graph.isLive n = false := by
  induction later using List.reverseRecOn with
  | nil =>
    rw [List.append_nil]
    exact .inl hn
  | append_singleton later r ih =>
    rw [← List.append_assoc] at housed
    have housed₁ : c.Housed (rs ++ later) := housed.of_subset (List.subset_append_left _ [r])
    have housedr : c.Housed [r] := housed.of_subset (List.subset_append_right _ [r])
    rcases ih housed₁ with found | ⟨before, r', after, rfl, lost⟩
    · obtain ⟨wf, distinct⟩ := distinct_served housed₁
      rw [← List.append_assoc, served_concat]
      cases live : (c.serve (c.served (rs ++ later)) r).graph.isLive n with
      | true =>
        have events := events_serve housedr wf
        exact .inl (events.findNode Mandate.program_of_housed wf distinct found live)
      | false =>
        refine .inr ⟨later, r, [], rfl, ?_, found, ?_⟩
        · by_contra plain
          have grows := grows_serve housedr (Bool.eq_false_iff.2 plain) (c.served (rs ++ later))
          rw [grows.extension.isLive (wf.isLive_findNode found)] at live
          cases live
        · rw [served_concat, live]
    · exact .inr ⟨before, r', after ++ [r], by simp, lost⟩

end Runs

/-! ## Which values share a node -/

/-- A pointer that is no constant, which the oracle puts into a class. -/
def Points (c : BuildContext) (v : Value) (k : AliasKey) : Prop :=
  ∃ info, c.programs.info? v = some info ∧ info.isPointer = true ∧ info.kind.isConstant = false ∧
    c.oracle.key? v = some k

theorem aliasKey?_eq_some_iff {c : BuildContext} {v : Value} {k : AliasKey} :
    c.aliasKey? v = some k ↔ c.Points v k := by
  unfold aliasKey? Points
  cases c.programs.info? v with
  | none => simp
  | some info => simp [and_assoc]

/-- Nodes of classes and of values are told apart by what they stand for, and values by what they resolve
to. -/
structure Identified (c : BuildContext) (g : Graph) : Prop where
  /-- A class has one node in a program. -/
  mem : ∀ n m x y k, g.node? n = some x → g.node? m = some y → x.program = y.program →
    x.kind = .mem k → y.kind = .mem k → n = m
  /-- A value has one node of its own. -/
  own : ∀ n m x y v, g.node? n = some x → g.node? m = some y → x.kind.StandsFor v → y.kind.StandsFor v → n = m
  pointer : ∀ v p k n, c.Points v k → g.findNode v p = some n →
    ∃ x, g.node? n = some x ∧ x.program = v.program ∧ x.kind = .mem k
  /-- Pointers of one program share a node exactly when they share a class. -/
  shared : ∀ v w p k l n m, c.Points v k → c.Points w l → g.findNode v p = some n → g.findNode w p = some m →
    (n = m ↔ k = l)
  scalar : ∀ v p n, (∀ k, ¬ c.Points v k) → g.findNode v p = some n → g.isMem n = false

theorem Distinct.identified {c : BuildContext} {g : Graph} (wf : g.WellFormed) (h : c.Distinct g) :
    c.Identified g := by
  have role : ∀ {n x}, g.node? n = some x → g.role? n = some (x.program, x.kind.bare) :=
    fun hx => Graph.role?_eq_some_iff.2 ⟨_, hx, rfl, rfl⟩
  have mem : ∀ {v p k n}, c.Points v k → g.findNode v p = some n → g.findMem p k = some n := by
    intro v p k n points hn
    have hk := aliasKey?_eq_some_iff.2 points
    cases program_of_findNode hn
    rw [h.byClass.findNode_of_some hk] at hn
    obtain ⟨j, hj, mem⟩ := h.memValue v n hn
    cases hk.symm.trans hj
    exact mem
  refine ⟨fun n m x y k hx hy same hxk hyk => ?_, fun n m x y v hx hy hxv hyv => ?_,
    fun v p k n points hn => ?_, fun v w p k l n m hv hw hn hm => ?_, fun v p n unclassed hn => ?_⟩
  · have hn := h.mem n x.program k (by rw [role hx, hxk]; rfl)
    have hm := h.mem m y.program k (by rw [role hy, hyk]; rfl)
    rw [same, hm] at hn
    exact (Option.some.inj hn).symm
  · have hn := h.own n _ _ v (role hx) (NodeKind.standsFor_bare.2 hxv)
    have hm := h.own m _ _ v (role hy) (NodeKind.standsFor_bare.2 hyv)
    exact Option.some.inj (hn.symm.trans hm)
  · obtain ⟨x, hx, program, kind⟩ := Graph.role?_eq_some_iff.1 (wf.mem _ _ _ (mem points hn))
    refine ⟨x, hx, program.trans (program_of_findNode hn).symm, ?_⟩
    cases hk : x.kind <;> simp_all [NodeKind.bare, NodeKind.mapCallInfo]
  · have hn := mem hv hn
    have hm := mem hw hm
    constructor
    · rintro rfl
      have same := (wf.mem _ _ _ hn).symm.trans (wf.mem _ _ _ hm)
      simpa using same
    · rintro rfl
      exact Option.some.inj (hn.symm.trans hm)
  · have scalar : c.aliasKey? v = none := by
      cases hk : c.aliasKey? v with
      | none => rfl
      | some k => exact absurd (aliasKey?_eq_some_iff.1 hk) (unclassed k)
    cases program_of_findNode hn
    rw [h.byClass.findNode_of_none scalar] at hn
    obtain ⟨p, kind, role, defines⟩ := wf.value v n hn
    rw [Graph.isMem_of_role? role]
    cases kind <;> simp_all [NodeKind.Defines, NodeKind.value?, NodeKind.isMem]

/-- Over any run of requests, in any order and with refused ones among them, a class has one node in a
program and a value one of its own, pointers resolve to the node of their class and other values to none
of these. What a value resolves to stays so until a splice takes the node out. -/
theorem served_identified (c : BuildContext) (rs : List BuildRequest) (housed : c.Housed rs) :
    c.Identified (c.served rs).graph ∧
      ∀ later, c.Housed (rs ++ later) → ∀ v p n, (c.served rs).graph.findNode v p = some n →
        (c.served (rs ++ later)).graph.findNode v p = some n ∨
          ∃ before r after, later = before ++ r :: after ∧ r.splices = true ∧
            (c.served (rs ++ before)).graph.findNode v p = some n ∧
            (c.served (rs ++ before ++ [r])).graph.isLive n = false := by
  obtain ⟨wf, distinct⟩ := distinct_served housed
  exact ⟨distinct.identified wf, fun later housed' v p n hn => findNode_served housed' hn⟩

/-- `main` stores what `read` returns into `q` and into `r`, where `q` may point to what `p` points to. -/
def fanout : BuildContext where
  programs := .ofRoutines
    [(.first, .pointer "p"), (.first, .pointer "q"), (.first, .pointer "r"), (.first, .scalar "x"),
      (.first, .argument "a" true), (.first, .scalar "z"), (.first, .scalar "t"), (.second, .pointer "p")]
    [{ name := "main", program := .first, operations :=
        [{ opcode := .call, operands := [⟨.first, 0⟩], target := some "read", result := some ⟨.first, 3⟩ },
          { opcode := .store, operands := [⟨.first, 3⟩, ⟨.first, 1⟩] },
          { opcode := .store, operands := [⟨.first, 3⟩, ⟨.first, 2⟩] }] },
      { name := "read", program := .first, params := [⟨.first, 4⟩], operations :=
        [{ opcode := .load, operands := [⟨.first, 4⟩], result := some ⟨.first, 5⟩ },
          { opcode := .ret, operands := [⟨.first, 5⟩] }] }]
  oracle := (AliasPartition.ofLists
    [[⟨.first, 0⟩, ⟨.first, 1⟩, ⟨.first, 4⟩, ⟨.second, 0⟩], [⟨.first, 2⟩]]).oracle
  naming := {}
  config := {}
  levels := fun _ _ _ => .empty

/-- All of `fanout`, after a value of the other program. -/
def fanoutRequests : List BuildRequest := [.value .second ⟨.second, 0⟩, .all]

/-- An operation that no routine lists, the splice of the call, and its result. -/
def fanoutLater : List BuildRequest :=
  [.operation .first { opcode := .binary, operands := [⟨.first, 3⟩], result := some ⟨.first, 6⟩ },
    .spliceKnownCalls, .value .first ⟨.first, 3⟩]

/-- The pointers `p` and `q` resolve to the node `2` of their class, and `r` to the node `3`. The result of
the call resolves to the node `1` until the splice. -/
theorem served_identified_fanout : fanout.Housed (fanoutRequests ++ fanoutLater) ∧
    fanout.Identified (fanout.served fanoutRequests).graph ∧
    [0, 1, 2, 3].map (fun i => (fanout.served fanoutRequests).graph.findNode ⟨.first, i⟩ .first) =
      [some 2, some 2, some 3, some 1] ∧
    ∃ before r after, fanoutLater = before ++ r :: after ∧ r.splices = true ∧
      (fanout.served (fanoutRequests ++ before)).graph.findNode ⟨.first, 3⟩ .first = some 1 ∧
      (fanout.served (fanoutRequests ++ before ++ [r])).graph.isLive 1 = false := by
  have homed : fanout.programs.Homed := by decide +kernel
  have housed : fanout.Housed (fanoutRequests ++ fanoutLater) := by
    refine ⟨fun v op w hop hw => ?_, fun r hr p op names w hw => ?_⟩
    · have result := ((ProgramPair.registered_ofRoutines ..).catalogued.definition v op hop).1
      cases result.symm.trans hw
      rfl
    · simp only [fanoutRequests, fanoutLater, List.cons_append, List.nil_append, List.mem_cons,
        List.not_mem_nil, or_false] at hr
      rcases hr with rfl | rfl | rfl | rfl | rfl
      · cases names
      · exact homed (p, op) names w hw
      · obtain ⟨rfl, rfl⟩ := names
        cases hw
        rfl
      · cases names
      · cases names
  have before : fanout.Housed fanoutRequests := housed.of_subset (List.subset_append_left _ _)
  have found : [0, 1, 2, 3].map (fun i => (fanout.served fanoutRequests).graph.findNode ⟨.first, i⟩ .first) =
      [some 2, some 2, some 3, some 1] := by decide +kernel
  have lost : (fanout.served (fanoutRequests ++ fanoutLater)).graph.findNode ⟨.first, 3⟩ .first = none := by
    decide +kernel
  obtain ⟨identified, stays⟩ := served_identified fanout fanoutRequests before
  refine ⟨housed, identified, found, ?_⟩
  simp only [List.map_cons, List.map_nil, List.cons.injEq] at found
  refine (stays fanoutLater housed _ _ _ found.2.2.2.1).resolve_left fun kept => ?_
  rw [lost] at kept
  cases kept

end BuildContext

end PeerTaint
