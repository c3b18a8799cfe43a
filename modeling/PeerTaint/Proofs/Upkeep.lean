import PeerTaint.Proofs.Identity

/-!
What a builder remembers stays live.

A builder answers with the node that an operation was visited with and does not ask the graph again. That the
node is still there is a property of the whole run: operations are visited with live nodes, graphs only
grow while operations are expanded, and a call that is taken out is forgotten at once. So operations are visited
with live nodes in every state that a builder comes to (`Current`), and what a value resolves to is live.
Nothing is presupposed about the programs.
-/

namespace PeerTaint

namespace BuildState

/-- The graph is well formed, and operations are visited with live nodes. -/
structure Current (s : BuildState) : Prop where
  wf : s.graph.WellFormed
  visited : ∀ i n, s.visited.get? i = some (some n) → s.graph.isLive n = true

/-- The graph has grown, and the state is current. -/
structure Continues (s s' : BuildState) : Prop where
  grows : s.graph.Grows s'.graph
  current : s'.Current

section Continues

variable {s s' s'' : BuildState} {n : NodeId}

theorem Current.refl (h : s.Current) : s.Continues s := ⟨.refl, h⟩

theorem Continues.trans (h : s.Continues s') (h' : s'.Continues s'') : s.Continues s'' :=
  ⟨h.grows.trans h'.grows, h'.current⟩

theorem Continues.isLive (h : s.Continues s') (live : s.graph.isLive n = true) : s'.graph.isLive n = true :=
  h.grows.extension.isLive live

theorem Current.grow (h : s.Current) {g : Graph} (grows : s.graph.Grows g) :
    s.Continues { s with graph := g } where
  grows := grows
  current := ⟨grows.changes.wellFormed h.wf, fun i n hn => grows.extension.isLive (h.visited i n hn)⟩

theorem Current.note (h : s.Current) (op : Operation) {x : Option NodeId}
    (live : ∀ n, x = some n → s.graph.isLive n = true) : s.Continues (s.note op x) := by
  unfold BuildState.note
  split
  · refine ⟨.refl, h.wf, fun i n hn => ?_⟩
    rw [SortedMap.get?_insert] at hn
    split at hn
    · exact live n (Option.some.inj hn)
    · exact h.visited i n hn
  · exact h.refl

end Continues

end BuildState

namespace Build

variable {α β : Type}

/-- From every current state, the step ends in a current state and its graph grows. -/
def Maintains (x : Build α) : Prop := ∀ s, s.Current → wp x (fun _ s' => s.Continues s') (fun _ => True) s

namespace Maintains

theorem pure (a : α) : Maintains (Pure.pure a : Build α) := fun _ h => h.refl

theorem bind {x : Build α} {f : α → Build β} (hx : Maintains x) (hf : ∀ a, Maintains (f a)) :
    Maintains (x >>= f) := by
  intro s h
  rw [wp_bind]
  exact (hx s h).mono fun a s₁ h₁ => (hf a s₁ h₁.current).mono fun _ s₂ h₂ => h₁.trans h₂

theorem map {x : Build α} (f : α → β) (hx : Maintains x) : Maintains (f <$> x) := by
  intro s h
  rw [wp_map]
  exact hx s h

theorem forM {f : α → Build Unit} (hf : ∀ a, Maintains (f a)) (xs : List α) : Maintains (xs.forM f) := by
  induction xs with
  | nil => exact .pure ()
  | cons x xs ih => exact .bind (hf x) fun _ => ih

theorem mapM {f : α → Build β} (hf : ∀ a, Maintains (f a)) (xs : List α) : Maintains (xs.mapM f) := by
  induction xs with
  | nil => exact .pure []
  | cons x xs ih =>
    rw [List.mapM_cons]
    exact .bind (hf x) fun b => .bind ih fun bs => .pure (b :: bs)

theorem graph : Maintains Build.graph := fun _ h => h.refl

theorem isMem (n : NodeId) : Maintains (Build.isMem n) := fun _ h => h.refl

theorem modify (n : NodeId) {f : Node → Node} (benign : Graph.Benign f) :
    Maintains (Build.update (·.modifyNode n f)) := fun _ h => h.grow (.single (.modify n benign))

theorem access (n : NodeId) : Maintains (Build.update (·.recordAccess n)) :=
  modify n (by exact ⟨fun _ => rfl, fun _ => rfl⟩)

theorem connect (a b : NodeId) (kind : EdgeKind) : Maintains (Build.connect a b kind) :=
  fun _ h => h.grow (.single (.connect a b kind))

theorem flow (a b : NodeId) : Maintains (Build.flow a b) := .map _ (.connect a b .data)

end Maintains

/-- The step maintains the state, and the node that it answers with is live. -/
def Yields (x : Build NodeId) : Prop :=
  ∀ s, s.Current → wp x (fun n s' => s.Continues s' ∧ s'.graph.isLive n = true) (fun _ => True) s

/-- The step maintains the state, and if it answers with a node, the node is live. -/
def Supplies (x : Build (Option NodeId)) : Prop :=
  ∀ s, s.Current → wp x
    (fun r s' => s.Continues s' ∧ ∀ n, r = some n → s'.graph.isLive n = true) (fun _ => True) s

theorem Yields.maintains {x : Build NodeId} (hx : Yields x) : Maintains x :=
  fun s h => (hx s h).mono fun _ _ answer => answer.1

theorem Supplies.maintains {x : Build (Option NodeId)} (hx : Supplies x) : Maintains x :=
  fun s h => (hx s h).mono fun _ _ answer => answer.1

theorem Yields.supplies {x : Build NodeId} (hx : Yields x) : Supplies (some <$> x) := by
  intro s h
  rw [wp_map]
  exact (hx s h).mono fun n s' answer => ⟨answer.1, fun m hm => Option.some.inj hm ▸ answer.2⟩

theorem Supplies.none : Supplies (pure none) := fun _ h => ⟨h.refl, by simp⟩

end Build

namespace BuildContext

open Build

/-! ## Nodes for operations and values -/

section Nodes

variable (c : BuildContext) (p : Program)

theorem yields_memNodeFor (v : Value) (k : AliasKey) : Yields (c.memNodeFor p v k) := by
  intro s h
  refine wp_memNodeFor (fun n g made => ?_) (fun _ => trivial) fun _ => trivial
  obtain ⟨grows, mem⟩ := Graph.Grows.memNode made
  have continues := h.grow (grows.tail (.bindMemValue v mem))
  refine ⟨continues, ?_⟩
  rw [Graph.isLive_eq_isSome_role?, continues.current.wf.mem p k n mem]
  rfl

omit c in
theorem isLive_addNode {g g' : Graph} {kind : NodeKind} {label : String} {n : NodeId}
    (made : g.addNode p kind label = .ok (n, g')) : g'.isLive n = true := by
  obtain ⟨rfl, rfl⟩ := Graph.addNode_eq_ok made
  rw [Graph.isLive_eq_isSome_role?, Graph.role?_place_fresh]
  rfl

theorem yields_operationNode (op : Operation) : Yields (c.operationNode p op) := by
  intro s h
  refine wp_operationNode (fun v k _ => c.yields_memNodeFor p v k s h) (fun n g _ made => ?_) fun _ => trivial
  have live := isLive_addNode p made
  refine ⟨h.grow (grows_bindResult p op.result made fun v hv => ⟨hv, nofun⟩), ?_⟩
  cases op.result <;> exact live

theorem yields_callNode (op : Operation) (d : Option Direction) : Yields (c.callNode p op d) := by
  intro s h
  refine wp_callNode (fun n g made => ?_) fun _ => trivial
  have live := (Graph.Growth.extension (growth_located op.location n g)).isLive (isLive_addNode p made)
  refine ⟨h.grow (c.grows_callNode p made), ?_⟩
  cases c.boundResult? op <;> exact live

end Nodes

/-! ## Expanding operations -/

section Link

variable {resolve : Resolver} (supplies : ∀ p v, Supplies (resolve p v)) (p : Program)
include supplies

theorem maintains_linkOperand (n : NodeId) (isRead : Bool) (v : Value) :
    Maintains (linkOperand resolve p n isRead v) := by
  refine .bind (supplies p v).maintains fun r => ?_
  split
  · exact .pure ()
  · refine .bind (.isMem _) fun _ => ?_
    split
    · exact .bind (.access _) fun _ => .flow _ n
    · exact .flow _ n

theorem maintains_linkOperands (op : Operation) (n : NodeId) : Maintains (linkOperands resolve p op n) := by
  unfold linkOperands
  split
  · exact .pure ()
  · exact .bind (maintains_linkOperand supplies p n _ _) fun _ =>
      .forM (maintains_linkOperand supplies p n false) _

theorem maintains_linkArgument (n : NodeId) (d : Option Direction) (v : Value) :
    Maintains (linkArgument resolve p n d v) := by
  refine .bind (supplies p v).maintains fun r => ?_
  split
  · exact .pure _
  · refine .bind (.isMem _) fun _ => ?_
    split
    · exact .bind (.flow n _) fun _ => .bind (.access _) fun _ =>
        .bind (.modify _ (by exact ⟨fun _ => rfl, fun _ => rfl⟩)) fun _ => .pure _
    · exact .bind (.flow _ n) fun _ => .pure _

theorem maintains_linkArguments (op : Operation) (n : NodeId) (d : Option Direction) :
    Maintains (linkArguments resolve p op n d) :=
  .bind (.mapM (maintains_linkArgument supplies p n d) _) fun args => .modify n (benign_withArgs args d)

end Link

theorem maintains_located (loc : Option Location) (n : NodeId) : Maintains (Build.update (located loc n)) :=
  fun s h => h.grow (.single (growth_located loc n s.graph))

theorem maintains_linkResult (c : BuildContext) (p : Program) (op : Operation) (n : NodeId) :
    Maintains (c.linkResult p op n) := by
  unfold linkResult
  split
  · exact .bind (c.yields_memNodeFor p _ _).maintains fun m => .flow n m
  · exact .pure ()

section Expand

variable (c : BuildContext) {resolve : Resolver} (supplies : ∀ p v, Supplies (resolve p v)) (p : Program)
include supplies

theorem supplies_addStore (op : Operation) : Supplies (addStore resolve p op) := by
  intro s h
  by_cases shape : ∃ value destination rest, op.operands = value :: destination :: rest
  · obtain ⟨value, destination, rest, ho⟩ := shape
    rw [addStore_eq resolve p op ho, wp_bind]
    refine (supplies p destination s h).mono fun r s₁ ⟨h₁, live⟩ => ?_
    cases r with
    | none =>
      rw [wp_bind, wp_note]
      exact ⟨h₁.trans (h₁.current.note op (by simp)), by simp⟩
    | some d =>
      have noted := h₁.current.note op live
      rw [wp_bind, wp_note, wp_bind]
      refine (Maintains.access d _ noted.current).mono fun _ s₂ h₂ => ?_
      rw [wp_bind]
      refine (maintains_located op.location d s₂ h₂.current).mono fun _ s₃ h₃ => ?_
      rw [wp_bind]
      refine (maintains_linkOperand supplies p d false value s₃ h₃.current).mono fun _ s₄ h₄ => ?_
      have later := ((noted.trans h₂).trans h₃).trans h₄
      exact ⟨h₁.trans later, fun n hn => later.isLive (live n hn)⟩
  · simp only [addStore, monadLift_self]
    split
    · next ho => exact absurd ⟨_, _, _, ho⟩ shape
    · rw [wp_bind, wp_note]
      exact ⟨h.note op (by simp), by simp⟩

theorem yields_addPlain (op : Operation) : Yields (c.addPlain resolve p op) := by
  intro s h
  rw [addPlain_eq, wp_bind]
  refine (c.yields_operationNode p op s h).mono fun n s₁ ⟨h₁, live⟩ => ?_
  have noted := h₁.current.note op (x := some n) (by simpa using live)
  rw [wp_bind, wp_note, wp_bind]
  refine (maintains_located op.location n _ noted.current).mono fun _ s₂ h₂ => ?_
  rw [wp_bind]
  refine (maintains_linkOperands supplies p op n s₂ h₂.current).mono fun _ s₃ h₃ => ?_
  have later := (noted.trans h₂).trans h₃
  exact ⟨h₁.trans later, later.isLive live⟩

theorem yields_addCall (op : Operation) : Yields (c.addCall resolve p op) := by
  intro s h
  rw [addCall_eq, wp_bind]
  refine (c.yields_callNode p op _ s h).mono fun n s₁ ⟨h₁, live⟩ => ?_
  have noted := h₁.current.note op (x := some n) (by simpa using live)
  have linked := noted.current.grow (c.quiet_linkedByLevel p op n (c.callDirection? p op) _).grows
  rw [wp_bind, wp_note, wp_bind, wp_update, wp_bind]
  refine (maintains_linkArguments supplies p op n _ _ linked.current).mono fun _ s₂ h₂ => ?_
  rw [wp_bind]
  refine (maintains_linkResult c p op n s₂ h₂.current).mono fun _ s₃ h₃ => ?_
  have later := ((noted.trans linked).trans h₂).trans h₃
  exact ⟨h₁.trans later, later.isLive live⟩

theorem supplies_expand (op : Operation) : Supplies (c.expand resolve p op) := by
  intro s h
  refine wp_expand (fun x seen => ?_) (fun n _ bound => ?_) (fun _ _ _ => ?_) (fun _ _ _ _ => ?_)
    (fun _ _ _ _ => ?_) fun _ _ _ _ _ => ?_
  · -- the builder does not ask whether the node is still there
    obtain ⟨i, -, hi⟩ := Option.bind_eq_some_iff.1 seen
    exact ⟨h.refl, fun n hn => h.visited i n (hn ▸ hi)⟩
  · obtain ⟨v, -, hn⟩ := Option.bind_eq_some_iff.1 bound
    have live : ∀ m, some n = some m → s.graph.isLive m = true :=
      fun m hm => Option.some.inj hm ▸ h.wf.isLive_findNode hn
    rw [wp_note]
    exact ⟨h.note op live, by rwa [BuildState.graph_note]⟩
  · rw [wp_note]
    exact ⟨h.note op (by simp), by simp⟩
  · exact supplies_addStore supplies p op s h
  · exact wp_map.1 ((yields_addCall c supplies p op).supplies s h)
  · exact wp_map.1 ((yields_addPlain c supplies p op).supplies s h)

end Expand

theorem supplies_resolve (c : BuildContext) (depth : Nat) (p : Program) (v : Value) :
    Supplies (c.resolve depth p v) := by
  induction depth generalizing p v with
  | zero => exact fun _ _ => trivial
  | succ depth ih =>
    intro s h
    simp only [BuildContext.resolve, monadLift_self]
    split
    · exact Supplies.none s h
    · rw [wp_bind, wp_graph]
      split
      · next n hn => exact ⟨h.refl, fun m hm => Option.some.inj hm ▸ h.wf.isLive_findNode hn⟩
      · split
        · exact (c.yields_memNodeFor p v _).supplies s h
        · split
          · next op _ =>
            rw [wp_bind]
            refine (supplies_expand c ih p op s h).mono ?_
            rintro r s₁ ⟨h₁, live⟩
            rw [wp_bind, wp_graph, wp_pure]
            refine ⟨h₁, fun n hn => ?_⟩
            rcases Option.or_eq_some_iff.1 hn with found | ⟨-, answer⟩
            · exact h₁.current.wf.isLive_findNode found
            · exact live n answer
          · split
            · refine wp_addVar (fun n g made => ?_) fun _ => trivial
              have grows := grows_bindResult p (some v) made fun w hw => ⟨hw, by simp [NodeKind.category]⟩
              have live := isLive_addNode p made
              exact ⟨h.grow grows, fun m hm => Option.some.inj hm ▸ live⟩
            · exact Supplies.none s h

theorem supplies_valueNode (c : BuildContext) (p : Program) (v : Value) : Supplies (c.valueNode p v) :=
  c.supplies_resolve c.nesting p v

/-! ## Requests -/

section Requests

variable (c : BuildContext) (p : Program)

theorem maintains_addOperation (op : Operation) : Maintains (c.addOperation p op) :=
  (supplies_expand c c.supplies_valueNode p op).maintains

theorem maintains_addOperations (ops : List Operation) : Maintains (c.addOperations p ops) := by
  induction ops with
  | nil => exact .pure _
  | cons op ops ih => exact .bind (c.maintains_addOperation p op) fun _ => .bind ih fun _ => .pure _

theorem maintains_addRoutines (rs : List Routine) : Maintains (c.addRoutines rs) := by
  induction rs with
  | nil => exact .pure _
  | cons r rs ih =>
    exact .bind (c.maintains_addOperations r.program r.operations) fun _ => .bind ih fun _ => .pure _

theorem maintains_connectValues (a b : Value) (kind : EdgeKind) : Maintains (c.connectValues p a b kind) := by
  refine .bind (c.supplies_valueNode p a).maintains fun src =>
    .bind (c.supplies_valueNode p b).maintains fun dst => ?_
  split
  · exact .connect _ _ _
  · exact .pure _

theorem maintains_addInput (r : InputRecord) : Maintains (c.addInput r) := by
  refine .bind (c.supplies_valueNode r.program r.value).maintains fun target => ?_
  split
  · exact .pure _
  · refine .bind .graph fun g => .bind (fun s h => ?_) fun n => .bind (.flow n _) fun _ => .pure _
    exact wp_attempt (fun n g made => h.grow (Graph.Grows.inputNode made)) fun _ _ => trivial

theorem maintains_addRecords (rs : List InputRecord) : Maintains (c.addRecords rs) := by
  induction rs with
  | nil => exact .pure _
  | cons r rs ih => exact .bind (c.maintains_addInput r) fun _ => .bind ih fun _ => .pure _

theorem maintains_passArgument (a : NodeId) (v : Value) : Maintains (c.passArgument p a v) := by
  refine .bind (c.supplies_valueNode p v).maintains fun r => ?_
  split
  · exact .flow a _
  · exact .pure ()

theorem maintains_linkParams (args : List (Option NodeId × Value)) : Maintains (c.linkParams p args) := by
  induction args with
  | nil => exact .pure ()
  | cons arg args ih =>
    obtain ⟨actual, formal⟩ := arg
    cases actual with
    | none => exact ih
    | some a =>
      rw [linkParams_cons]
      exact .bind (c.maintains_passArgument p a formal) fun _ => ih

theorem maintains_passReturned (users : List NodeId) (v : Value) : Maintains (c.passReturned p users v) := by
  refine .bind (c.supplies_valueNode p v).maintains fun r => ?_
  split
  · exact .forM (fun u => .flow _ u) users
  · exact .pure ()

theorem maintains_linkReturned (users : List NodeId) (vs : List Value) :
    Maintains (c.linkReturned p users vs) := by
  induction vs with
  | nil => exact .pure ()
  | cons v vs ih =>
    rw [linkReturned_cons]
    exact .bind (c.maintains_passReturned p users v) fun _ => ih

end Requests

/-- What was visited with a node that is taken out is visited without a node. -/
theorem wp_retire_current {s : BuildState} (h : s.Current) (n : NodeId) :
    wp (retire n) (fun _ s' => s'.Current) (fun _ => True) s := by
  refine wp_retire (fun x g removed => ?_) fun _ _ => trivial
  obtain ⟨-, r⟩ := Graph.removed_of_removeNode h.wf.toLinked removed
  refine ⟨h.wf.removeNode removed, fun i m hm => ?_⟩
  rw [SortedMap.get?_mapValues] at hm
  obtain ⟨y, hy, same⟩ := Option.map_eq_some_iff.1 hm
  split at same
  · cases same
  · next other =>
    subst same
    have live := h.visited i m hy
    have hne : m ≠ n := fun he => other (congrArg some he)
    rw [Graph.isLive_eq_isSome_role?] at live ⊢
    rwa [r.role?, if_neg hne]

theorem wp_spliceCall_current (c : BuildContext) {s : BuildState} (h : s.Current) (n : NodeId)
    (callee : Routine) : wp (c.spliceCall n callee) (fun _ s' => s'.Current) (fun _ => True) s := by
  refine wp_spliceCall (fun _ => trivial) (fun _ _ _ => trivial) fun x info _ _ => ?_
  refine (c.maintains_linkParams callee.program _ s h).mono fun _ s₁ h₁ => ?_
  refine (c.maintains_linkReturned callee.program _ _ s₁ h₁.current).mono fun _ s₂ h₂ => ?_
  exact wp_retire_current h₂.current n

theorem wp_request_current (c : BuildContext) {s : BuildState} (h : s.Current) (request : BuildRequest) :
    wp (request.run c) (fun _ s' => s'.Current) (fun _ => True) s := by
  have kept : ∀ {α : Type} {x : Build α}, Maintains x →
      wp (discard x) (fun _ s' => s'.Current) (fun _ => True) s :=
    fun hx => wp_discard.2 ((hx s h).mono fun _ _ h' => h'.current)
  cases request with
  | operation p op => exact kept (c.maintains_addOperation p op)
  | value p v => exact kept (c.supplies_valueNode p v).maintains
  | connectValues p a b kind => exact kept (c.maintains_connectValues p a b kind)
  | inputs sets => exact kept (c.maintains_addRecords sets.toList)
  | routine r => exact kept (c.maintains_addOperations r.program r.operations)
  | all => exact kept (c.maintains_addRoutines c.programs.routines)
  | spliceCall n callee => exact c.wp_spliceCall_current h n callee
  | spliceKnownCalls =>
    change wp (discard c.spliceKnownCalls) _ _ s
    simp only [spliceKnownCalls, monadLift_self]
    rw [wp_discard, wp_bind, wp_graph, wp_bind]
    refine (wp_forM (P := fun _ _ => True) (I := fun s => s.Current) h fun e _ s₁ h₁ => ?_).mono
      fun _ s₂ h₂ => h₂.1
    exact (c.wp_spliceCall_current h₁ e.1 e.2).mono fun _ s₂ h₂ => ⟨h₂, trivial, fun _ _ => trivial⟩

/-- A builder comes to current states only, whatever graph it starts with and whatever it is asked for. -/
theorem current_foldl_serve (c : BuildContext) (ms : List Mutation) (rs : List BuildRequest) :
    (rs.foldl c.serve { graph := Graph.after ms }).Current := by
  have start : ({ graph := Graph.after ms } : BuildState).Current :=
    ⟨Graph.wellFormed_after ms, fun i n hn => by cases hn⟩
  refine List.foldlRecOn rs c.serve start fun s h r _ => ?_
  exact serve_of_wp (R := fun s s' => s.Current → s'.Current) id
    ((c.wp_request_current h r).mono fun _ _ h' _ => h') h

end BuildContext

end PeerTaint
