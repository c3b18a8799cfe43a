import PeerTaint.Proofs.Fetching
import PeerTaint.Proofs.Provenance

/-!
Recording accesses to memory.

Memory is accessed by stores, by loads, and by receives into it (`accessed`). When the operations that define
its operands were visited, an operation expands no other, and it records exactly the accesses that it makes
(`Performs`). Part by part, `Records` says which accesses were recorded: those of a list of values, each to
what the value resolves to.
-/

namespace PeerTaint

/-- How many of the values resolve to a set of memory cells. -/
def Graph.hits (g : Graph) (p : Program) (vs : List Value) (m : NodeId) : Nat :=
  if g.isMem m then vs.countP fun v => g.findNode v p = some m else 0

namespace Graph

@[simp]
theorem hits_nil (g : Graph) (p : Program) (m : NodeId) : g.hits p [] m = 0 := by
  simp [hits]

theorem hits_append (g : Graph) (p : Program) (vs ws : List Value) (m : NodeId) :
    g.hits p (vs ++ ws) m = g.hits p vs m + g.hits p ws m := by
  unfold hits
  split
  · exact List.countP_append
  · rfl

theorem hits_singleton (g : Graph) (p : Program) (v : Value) (m : NodeId) :
    g.hits p [v] m = if g.isMem m = true ∧ g.findNode v p = some m then 1 else 0 := by
  unfold hits
  by_cases mem : g.isMem m = true <;> by_cases found : g.findNode v p = some m <;> simp [mem, found]

theorem Extends.isMem_eq {g g' : Graph} (extension : g.Extends g') {n : NodeId} (live : g.isLive n = true) :
    g'.isMem n = g.isMem n := by
  rw [isLive_eq_isSome_role?] at live
  obtain ⟨ρ, role⟩ := Option.isSome_iff_exists.1 live
  rw [isMem_eq_any_role?, isMem_eq_any_role?, role, extension.role n ρ role]

/-- Values that keep resolving to the same sets of memory cells stand for the same accesses. -/
theorem hits_eq {g g' : Graph} (wf : g.WellFormed) (extension : g.Extends g') {p : Program} {vs : List Value}
    (same : ∀ v ∈ vs, ∀ m, g'.isMem m = true → (g'.findNode v p = some m ↔ g.findNode v p = some m))
    (m : NodeId) : g'.hits p vs m = g.hits p vs m := by
  unfold hits
  by_cases mem' : g'.isMem m = true
  · have count : vs.countP (fun v => g'.findNode v p = some m) = vs.countP fun v => g.findNode v p = some m :=
      List.countP_congr fun v hv => by simpa using same v hv m mem'
    rw [if_pos mem', count]
    split
    · rfl
    · next mem =>
      refine List.countP_eq_zero.2 fun v hv found => mem ?_
      rw [← extension.isMem_eq (wf.isLive_findNode (of_decide_eq_true found)), mem']
  · rw [if_neg mem', if_neg fun mem => mem' (extension.isMem mem)]

end Graph

/-- The operands and the result of an operation. -/
def Operation.values (op : Operation) : Set Value := {v | v ∈ op.operands ∨ op.result = some v}

theorem Operation.mem_values {op : Operation} {v : Value} (h : v ∈ op.operands) : v ∈ op.values := .inl h

namespace BuildContext

open Build

/-- The values that an operation accesses memory through: the destination of a store, what a load reads,
and the arguments of a receive. -/
def accessed (c : BuildContext) (p : Program) (op : Operation) : List Value :=
  match op.opcode with
  | .store => op.operands[1]?.toList
  | .load => op.operands[0]?.toList
  | .call => if c.callDirection? p op = some .recv then op.operands else []
  | _ => []

/-- The operation that defines the value was visited, and the value resolves to the node that it was visited
with. -/
structure Known (c : BuildContext) (s : BuildState) (v : Value) : Prop where
  visited : ∀ op, c.programs.definition? v = some op → (s.noted? op).isSome = true
  bound : ∀ op n, c.programs.definition? v = some op → c.aliasKey? v = none →
    s.noted? op = some (some n) → s.graph.findNode v v.program = some n

/-- Nothing happens but that values of `N` get nodes, and that the accesses are recorded that `vs` stand for. -/
structure Records (c : BuildContext) (N : Set Value) (p : Program) (vs : List Value) (s s' : BuildState) : Prop
    extends c.Settles N s s' where
  counts : ∀ m, s'.graph.memAccesses m = s.graph.memAccesses m + s'.graph.hits p vs m
  rests : ∀ v ∈ vs, ∃ t, c.Rests s' p v t

section Records

variable {c : BuildContext} {N : Set Value} {p : Program} {v : Value} {vs ws : List Value}
  {s s' s'' : BuildState} {n : NodeId}

theorem Known.settles (h : c.Known s v) (e : c.Settles N s s') : c.Known s' v := by
  have noted : ∀ op, s'.noted? op = s.noted? op := fun op => by
    rw [BuildState.noted?, e.visited, BuildState.noted?]
  constructor
  · intro op defined
    rw [noted]
    exact h.visited op defined
  · intro op n defined scalar hn
    exact e.findNode _ _ _ (h.bound op n defined scalar ((noted op).symm.trans hn))

/-- The node that the defining operation was visited with is the one that the value is bound to. -/
theorem Rests.eq_findNode {t : Option NodeId} (h : c.Rests s p v t) (known : c.Known s v) :
    t = s.graph.findNode v p := by
  cases h with
  | foreign other => exact (if_neg other).symm
  | found bound => exact bound.symm
  | @defined op _ home free scalar defined noted =>
    subst home
    cases t with
    | none => exact free.symm
    | some n => exact (known.bound op n defined scalar noted).symm
  | unknown home free => exact free.symm

/-- A value that rests resolves to the same node later on. -/
theorem Rests.findNode_eq {t : Option NodeId} (h : c.Rests s p v t) (e : c.Settles N s s') :
    s'.graph.findNode v p = s.graph.findNode v p := by
  cases h with
  | foreign other => exact (if_neg other).trans (if_neg other).symm
  | found bound => rw [bound, e.findNode _ _ _ bound]
  | defined home free scalar defined => exact e.unbound v p (.inr (by simp [Fetchable, scalar, defined]))
  | unknown home free scalar undefined unknown =>
    exact e.unbound v p (.inr (by simp [Fetchable, scalar, unknown]))

theorem wp_valueNode_known (known : c.Known s v) : wp (c.valueNode p v) (fun t s' =>
    c.Settles {v} s s' ∧ s.graph.Unread s'.graph ∧ c.Rests s' p v t ∧ t = s'.graph.findNode v p)
    (fun _ => True) s :=
  (wp_valueNode_rests known.visited).mono fun _ _ ⟨settles, unread, rests⟩ =>
    ⟨settles, unread, rests, rests.eq_findNode (known.settles settles)⟩

theorem Settles.records (e : c.Settles N s s') (unread : s.graph.Unread s'.graph) : c.Records N p [] s s' where
  toSettles := e
  counts m := by rw [Graph.hits_nil, unread m, Nat.add_zero]
  rests := nofun

theorem Records.trans (wf : s.graph.WellFormed) (h : c.Records N p vs s s') (h' : c.Records N p ws s' s'') :
    c.Records N p (vs ++ ws) s s'' where
  toSettles := h.toSettles.trans h'.toSettles
  counts m := by
    have same : s''.graph.hits p vs m = s'.graph.hits p vs m := by
      refine Graph.hits_eq (h.grows.changes.wellFormed wf) h'.grows.extension (fun v hv m _ => ?_) m
      obtain ⟨t, rests⟩ := h.rests v hv
      rw [rests.findNode_eq h'.toSettles]
    rw [h'.counts, h.counts, Graph.hits_append, same, Nat.add_assoc]
  rests v hv := by
    rcases List.mem_append.1 hv with hv | hv
    · exact (h.rests v hv).imp fun _ rests => rests.settles h'.toSettles
    · exact h'.rests v hv

/-- Marking and joining nodes is no access. -/
theorem records_idle {g : Graph} (idle : s.graph.Idles g) (unread : s.graph.Unread g) :
    c.Records N p [] s { s with graph := g } := (settles_idle idle).records unread

theorem records_modify {f : Node → Node} (benign : Graph.Benign f)
    (hf : ∀ x, (f x).isMem = x.isMem ∧ (f x).count = x.count) (n : NodeId) :
    c.Records N p [] s { s with graph := s.graph.modifyNode n f } :=
  records_idle (.modify benign s.graph n) (Graph.unread_modifyNode s.graph n hf)

theorem records_flow (a b : NodeId) :
    c.Records N p [] s { s with graph := (s.graph.connect a b .data).2 } :=
  records_idle (.connect ..) (Graph.unread_connect s.graph a b .data)

/-- An access to what a value resolves to. -/
theorem records_access (bound : s.graph.findNode v p = some n) :
    c.Records N p [v] s { s with graph := s.graph.recordAccess n } := by
  have idle : s.graph.Idles (s.graph.recordAccess n) := .modify idle_recordAccess.benign s.graph n
  have settles : c.Settles N s { s with graph := s.graph.recordAccess n } := settles_idle idle
  have found : (s.graph.recordAccess n).findNode v p = some n := settles.findNode _ _ _ bound
  refine ⟨settles, fun m => ?_, ?_⟩
  · have mem : (s.graph.recordAccess n).isMem m = s.graph.isMem m := by
      rw [Graph.isMem_eq_any_role?, idle.role, ← Graph.isMem_eq_any_role?]
    simp only [Graph.memAccesses_recordAccess, Graph.hits_singleton, mem, found, Option.some.injEq, eq_comm]
  · simpa using ⟨_, Rests.found found⟩

/-- A value that resolves to no set of memory cells stands for no access. -/
theorem records_nothing {t : Option NodeId} (rests : c.Rests s p v t)
    (other : ∀ a, s.graph.findNode v p = some a → s.graph.isMem a = false) : c.Records N p [v] s s := by
  refine ⟨.refl c N s, fun m => ?_, by simpa using ⟨_, rests⟩⟩
  rw [Graph.hits_singleton, if_neg, Nat.add_zero]
  rintro ⟨mem, found⟩
  rw [other m found] at mem
  cases mem

/-- Linking by levels is no access either. -/
theorem records_linkedByLevel (op : Operation) (d : Option Direction) (n : NodeId) :
    c.Records N p [] s { s with graph := c.linkedByLevel p op n d s.graph } := by
  cases d with
  | none => exact (Settles.refl c N s).records fun _ => rfl
  | some d =>
    refine records_idle (.correlate ..) fun m => ?_
    unfold linkedByLevel Graph.memAccesses
    rw [Graph.map_node?_correlate m (fun _ _ => rfl) fun _ _ _ => rfl]

/-- A pointer gets the node of its class, which is no access. -/
theorem wp_linkResult_records {op : Operation} (wf : s.graph.WellFormed) (sub : op.values ⊆ N)
    (home : ∀ v, op.result = some v → v.program = p)
    (filed : ∀ v k m, c.pointerResult? op = some (v, k) → s.graph.findNode v v.program = some m →
      s.graph.findMem v.program k = some m) :
    wp (c.linkResult p op n) (fun _ s' => c.Records N p [] s s') (fun _ => True) s := by
  unfold linkResult
  split
  · next v k hr =>
    obtain ⟨hv, hk⟩ := pointerResult?_eq_some_iff.1 hr
    cases home v hv
    rw [wp_bind]
    refine wp_memNodeFor (fun m g made => ?_) (fun _ => trivial) fun _ => trivial
    have settles : c.Settles N s { s with graph := g.bindMemValue v m } :=
      (settles_memory hk made (filed v k · hr)).mono (by simpa using sub (.inr hv))
    have bound := settles.records (p := v.program) fun m => Graph.unread_memNode made m
    rw [wp_flow]
    exact bound.trans wf (records_flow n m)
  · exact (Settles.refl c N s).records fun _ => rfl

/-! ## Operands and arguments -/

section Link

variable (wf : s.graph.WellFormed)
include wf

/-- An operand that is read is an access, if it is memory. -/
theorem wp_linkOperand_records (known : c.Known s v) (hv : v ∈ N) (isRead : Bool) :
    wp (linkOperand c.valueNode p n isRead v)
      (fun _ s' => c.Records N p (if isRead then [v] else []) s s') (fun _ => True) s := by
  simp only [linkOperand, monadLift_self]
  rw [wp_bind]
  refine (wp_valueNode_known known).mono ?_
  rintro t s₁ ⟨settles, unread, rests, answer⟩
  have fetched : c.Records N p [] s s₁ := (settles.mono (by simpa using hv)).records unread
  cases t with
  | none =>
    cases isRead with
    | false => exact fetched
    | true => exact fetched.trans wf (records_nothing rests (by simp [← answer]))
  | some a =>
    dsimp only
    rw [wp_bind, wp_isMem]
    split
    · next read =>
      obtain ⟨rfl, mem⟩ := Bool.and_eq_true_iff.1 read
      rw [wp_bind, wp_update, wp_flow]
      exact (fetched.trans wf (records_access answer.symm)).trans wf (records_flow a n)
    · next unread =>
      rw [wp_flow]
      cases isRead with
      | false => exact fetched.trans wf (records_flow a n)
      | true =>
        refine (fetched.trans wf (records_nothing rests fun b hb => ?_)).trans wf (records_flow a n)
        cases answer.trans hb
        simpa using unread

theorem wp_forM_linkOperand_records {vs : List Value} (known : ∀ v ∈ vs, c.Known s v) (hN : ∀ v ∈ vs, v ∈ N) :
    wp (vs.forM (linkOperand c.valueNode p n false)) (fun _ s' => c.Records N p [] s s') (fun _ => True) s := by
  induction vs generalizing s with
  | nil => exact (Settles.refl c N s).records fun _ => rfl
  | cons v vs ih =>
    obtain ⟨known, knowns⟩ := List.forall_mem_cons.1 known
    obtain ⟨hv, hvs⟩ := List.forall_mem_cons.1 hN
    change wp (linkOperand c.valueNode p n false v >>= fun _ => vs.forM _) _ _ s
    rw [wp_bind]
    refine (wp_linkOperand_records wf known hv false).mono fun _ s₁ first => ?_
    exact (ih (first.grows.changes.wellFormed wf) (fun w hw => (knowns w hw).settles first.toSettles) hvs).mono
      fun _ s₂ later => first.trans wf later

theorem wp_linkOperands_records {op : Operation} (known : ∀ v ∈ op.operands, c.Known s v)
    (hN : ∀ v ∈ op.operands, v ∈ N) : wp (linkOperands c.valueNode p op n)
      (fun _ s' => c.Records N p (if op.opcode = .load then op.operands[0]?.toList else []) s s')
      (fun _ => True) s := by
  unfold linkOperands
  split
  · next ho =>
    rw [ho]
    simpa using (Settles.refl c N s).records fun _ => rfl
  · next v vs ho =>
    rw [ho] at known hN
    obtain ⟨known, knowns⟩ := List.forall_mem_cons.1 known
    obtain ⟨hv, hvs⟩ := List.forall_mem_cons.1 hN
    rw [wp_bind]
    refine (wp_linkOperand_records wf known hv (op.opcode = .load)).mono fun _ s₁ first => ?_
    refine (wp_forM_linkOperand_records (first.grows.changes.wellFormed wf)
      (fun w hw => (knowns w hw).settles first.toSettles) hvs).mono fun _ s₂ later => ?_
    rw [ho]
    simpa using first.trans wf later

/-- An argument that is received into is an access, if it is memory. -/
theorem wp_linkArgument_records (known : c.Known s v) (hv : v ∈ N) (d : Option Direction) :
    wp (linkArgument c.valueNode p n d v)
      (fun _ s' => c.Records N p (if d = some .recv then [v] else []) s s') (fun _ => True) s := by
  simp only [linkArgument, monadLift_self]
  rw [wp_bind]
  refine (wp_valueNode_known known).mono ?_
  rintro t s₁ ⟨settles, unread, rests, answer⟩
  have fetched : c.Records N p [] s s₁ := (settles.mono (by simpa using hv)).records unread
  cases t with
  | none =>
    rw [wp_pure]
    split
    · exact fetched.trans wf (records_nothing rests (by simp [← answer]))
    · exact fetched
  | some a =>
    dsimp only
    rw [wp_bind, wp_isMem]
    split
    · next received =>
      simp only [Bool.and_eq_true, decide_eq_true_eq] at received
      simp only [wp_bind, wp_flow, wp_update, wp_pure, if_pos received.1]
      have joined := fetched.trans wf (records_flow n a)
      have bound : (s₁.graph.connect n a .data).2.findNode v p = some a :=
        (Graph.findNode_congr (Graph.Quiet.connect ..).memValue (Graph.Quiet.connect ..).value v p).trans
          answer.symm
      have access := joined.trans wf (records_access bound)
      exact access.trans wf (records_modify idle_netDependent.benign (fun _ => ⟨rfl, rfl⟩) a)
    · next other =>
      simp only [wp_bind, wp_flow, wp_pure]
      split
      · next recv =>
        refine (fetched.trans wf (records_nothing rests fun b hb => ?_)).trans wf (records_flow a n)
        cases answer.trans hb
        simpa [recv] using other
      · exact fetched.trans wf (records_flow a n)

theorem wp_mapM_linkArgument_records (d : Option Direction) {vs : List Value} (known : ∀ v ∈ vs, c.Known s v)
    (hN : ∀ v ∈ vs, v ∈ N) : wp (vs.mapM (linkArgument c.valueNode p n d))
      (fun _ s' => c.Records N p (if d = some .recv then vs else []) s s') (fun _ => True) s := by
  induction vs generalizing s with
  | nil => simpa using (Settles.refl c N s).records fun _ => rfl
  | cons v vs ih =>
    obtain ⟨known, knowns⟩ := List.forall_mem_cons.1 known
    obtain ⟨hv, hvs⟩ := List.forall_mem_cons.1 hN
    rw [List.mapM_cons, wp_bind]
    refine (wp_linkArgument_records wf known hv d).mono fun _ s₁ first => ?_
    rw [wp_bind]
    refine (ih (first.grows.changes.wellFormed wf) (fun w hw => (knowns w hw).settles first.toSettles)
      hvs).mono fun _ s₂ later => ?_
    have both := first.trans wf later
    rw [wp_pure]
    split
    · next recv => simpa [recv] using both
    · next other => simpa [other] using both

end Link

end Records

/-! ## One operation -/

/-- Nothing happens but that the operation is noted and that its values get nodes. -/
structure Begins (op : Operation) (s s' : BuildState) : Prop where
  noted : ∀ op', op'.id ≠ op.id → s'.noted? op' = s.noted? op'
  findNode : ∀ v q, v ∉ op.operands → op.result ≠ some v → s'.graph.findNode v q = s.graph.findNode v q
  unread : s.graph.Unread s'.graph

/-- The operation is noted, its values get nodes, and the accesses that it makes are recorded. -/
structure Performs (c : BuildContext) (p : Program) (op : Operation) (s s' : BuildState) : Prop where
  noted : ∀ op', op'.id ≠ op.id → s'.noted? op' = s.noted? op'
  findNode : ∀ v q, v ∉ op.operands → op.result ≠ some v → s'.graph.findNode v q = s.graph.findNode v q
  counts : ∀ m, s'.graph.memAccesses m = s.graph.memAccesses m + s'.graph.hits p (c.accessed p op) m
  placed : ∀ v ∈ c.accessed p op, v.program = p → (c.aliasKey? v).isSome = true →
    (s'.graph.findNode v p).isSome = true

section Perform

variable {c : BuildContext} {p : Program} {op : Operation} {s s₁ s' : BuildState} {n : NodeId}

theorem Rests.isSome_findNode {v : Value} {t : Option NodeId} (h : c.Rests s p v t) (home : v.program = p)
    (pointer : (c.aliasKey? v).isSome = true) : (s.graph.findNode v p).isSome = true := by
  cases h with
  | foreign other => exact absurd home other
  | found bound => rw [bound]; rfl
  | defined home free scalar => rw [scalar] at pointer; cases pointer
  | unknown home free scalar => rw [scalar] at pointer; cases pointer

theorem Begins.performs (h : Begins op s s₁) (records : c.Records op.values p (c.accessed p op) s₁ s') :
    c.Performs p op s s' where
  noted op' hne := by
    rw [BuildState.noted?, records.visited]
    exact h.noted op' hne
  findNode v q operand result := by
    rw [records.unbound v q (.inl fun hv => hv.elim operand result), h.findNode v q operand result]
  counts m := by rw [records.counts, h.unread]
  placed v hv home pointer := by
    obtain ⟨t, rests⟩ := records.rests v hv
    exact rests.isSome_findNode home pointer

theorem noted?_note_of_id_ne {op' : Operation} (other : op'.id ≠ op.id) (x : Option NodeId) :
    (s.note op x).noted? op' = s.noted? op' :=
  noted?_note_of_ne (fun _ hi hi' => other (hi.trans hi'.symm)) x

section Note

variable {v : Value} (other : ∀ op', c.programs.definition? v = some op' → op'.id ≠ op.id) (x : Option NodeId)
include other

/-- Noting an operation does not concern the values that it does not define. -/
theorem Rests.note {t : Option NodeId} (h : c.Rests s p v t) : c.Rests (s.note op x) p v t := by
  cases h with
  | foreign different => exact .foreign different
  | found bound => exact .found (by rwa [BuildState.graph_note])
  | defined home free scalar defined noted =>
    refine .defined home (by rwa [BuildState.graph_note]) scalar defined ?_
    rwa [noted?_note_of_id_ne (other _ defined)]
  | unknown home free scalar undefined unknown =>
    exact .unknown home (by rwa [BuildState.graph_note]) scalar undefined unknown

theorem Known.note (h : c.Known s v) : c.Known (s.note op x) v := by
  refine ⟨fun op' defined => ?_, fun op' n defined scalar noted => ?_⟩
  · rw [noted?_note_of_id_ne (other op' defined)]
    exact h.visited op' defined
  · rw [noted?_note_of_id_ne (other op' defined)] at noted
    rw [BuildState.graph_note]
    exact h.bound op' n defined scalar noted

end Note

theorem begins_note (visited : s₁.visited = s.visited)
    (findNode : ∀ v q, v ∉ op.operands → op.result ≠ some v → s₁.graph.findNode v q = s.graph.findNode v q)
    (unread : s.graph.Unread s₁.graph) (x : Option NodeId) : Begins op s (s₁.note op x) where
  noted op' hne := by
    rw [noted?_note_of_id_ne hne, BuildState.noted?, visited, BuildState.noted?]
  findNode := by rwa [BuildState.graph_note]
  unread := by rwa [BuildState.graph_note]

/-- An operation that is only noted makes no access. -/
theorem performs_note (idle : c.accessed p op = []) : c.Performs p op s (s.note op none) := by
  refine (begins_note rfl (fun _ _ _ _ => rfl) (fun _ => rfl) none).performs ?_
  rw [idle]
  exact (Settles.refl c _ _).records fun _ => rfl

theorem accessed_of_plain (store : op.opcode ≠ .store) (call : op.opcode ≠ .call) :
    c.accessed p op = if op.opcode = .load then op.operands[0]?.toList else [] := by
  unfold accessed
  split
  · contradiction
  · next load => rw [if_pos load]
  · contradiction
  · next load _ => rw [if_neg load]

theorem accessed_of_store {value destination : Value} {rest : List Value} (store : op.opcode = .store)
    (operands : op.operands = value :: destination :: rest) : c.accessed p op = [destination] := by
  rw [accessed, store, operands]
  rfl

theorem accessed_of_short_store (store : op.opcode = .store)
    (short : ∀ value destination rest, op.operands ≠ value :: destination :: rest) : c.accessed p op = [] := by
  rw [accessed, store]
  cases operands : op.operands with
  | nil => rfl
  | cons value rest =>
    cases rest with
    | nil => rfl
    | cons destination rest => exact absurd operands (short value destination rest)

theorem accessed_of_excluded (excluded : c.excluded op = true) : c.accessed p op = [] := by
  unfold accessed
  unfold BuildContext.excluded at excluded
  split <;> simp_all [Opcode.isTerminator]

theorem unread_bindResult (r : Option Value) (n : NodeId) (g : Graph) : g.Unread (bindResult r n g) := by
  cases r <;> exact fun _ => rfl

/-- A new node, which the result may be bound to. -/
theorem begins_addNode {kind : NodeKind} {label : String} {r : Option Value} {g g' : Graph}
    (made : s.graph.addNode p kind label = .ok (n, g)) (idle : g.Idles g') (unread : g.Unread g')
    (result : ∀ v, r = some v → op.result = some v) (x : Option NodeId) :
    Begins op s (BuildState.note { s with graph := bindResult r n g' } op x) := by
  have quiet := Graph.Quiet.addNode made
  have visited : BuildState.visited { s with graph := bindResult r n g' } = s.visited := rfl
  refine begins_note visited (fun w q _ hw => ?_) ?_ x
  · rw [findNode_bindResult fun hr => hw (result w hr), Graph.findNode_congr idle.same.memValue idle.same.value,
      Graph.findNode_congr quiet.memValue quiet.value]
  · obtain ⟨-, rfl⟩ := Graph.addNode_eq_ok made
    exact ((Graph.unread_place s.graph rfl).trans unread).trans (unread_bindResult r n g')

theorem isMem_withArgs (args : List (Option NodeId)) (d : Option Direction) (x : Node) :
    (withArgs args d x).isMem = x.isMem := by
  unfold withArgs Node.isMem
  cases x.kind <;> rfl

theorem wp_operationNode_begins : wp (c.operationNode p op)
    (fun _ s₁ => ∀ x, Begins op s (s₁.note op x)) (fun _ => True) s := by
  refine wp_operationNode (fun v k hr => ?_) (fun n g hr made => ?_) fun _ => trivial
  · have hv := (pointerResult?_eq_some_iff.1 hr).1
    refine wp_memNodeFor (fun n g made => ?_) (fun _ => trivial) fun _ => trivial
    obtain ⟨memValues, valueNodes⟩ := Graph.bindings_memNode made
    refine begins_note rfl (fun w q _ hw => ?_) fun m => Graph.unread_memNode made m
    have other : w ≠ v := fun same => hw (same ▸ hv)
    rw [Graph.findNode_bindMemValue g n q other, Graph.findNode_congr memValues valueNodes]
  · exact begins_addNode made (.refl g) (fun _ => rfl) fun _ hv => hv

/-- A call whose result points to memory binds nothing yet. -/
theorem wp_callNode_begins : wp (c.callNode p op (c.callDirection? p op)) (fun _ s₁ =>
    (∀ x, Begins op s (s₁.note op x)) ∧
      ((c.pointerResult? op).isSome = true → ∀ v q, s₁.graph.findNode v q = s.graph.findNode v q))
    (fun _ => True) s := by
  refine wp_callNode (fun n g made => ⟨?_, fun pointer v q => ?_⟩) fun _ => trivial
  · exact begins_addNode made (.modify (idle_located op.location).benign g n)
      (Graph.unread_modifyNode g n fun _ => ⟨rfl, rfl⟩) fun v hv => c.boundResult?_eq_some hv
  · obtain ⟨vk, hp⟩ := Option.isSome_iff_exists.1 pointer
    have unbound : c.boundResult? op = none := by rw [boundResult?, hp]
    have quiet := Graph.Quiet.addNode made
    rw [unbound]
    exact Graph.findNode_congr quiet.memValue quiet.value v q

section Turn

variable (tame : c.Tame) (homed : c.programs.Homed) (listed : (p, op) ∈ c.programs.stream)
  (traced : c.Traced s)
include tame homed

theorem Traced.known {v : Value} (h : c.Traced s)
    (visited : ∀ op, c.programs.definition? v = some op → (s.noted? op).isSome = true) : c.Known s v where
  visited := visited
  bound op n defined scalar noted := by
    obtain ⟨listed, result⟩ := tame.cat.mem_of_definition? homed defined
    refine h.result _ op v n listed (fun store => ?_) result scalar noted
    rw [tame.silent _ listed store] at result
    cases result

variable (new : s.noted? op = none) (free : op.result.bind (s.graph.findNode · p) = none)
  (ready : ∀ v ∈ op.operands, ∀ op', c.programs.definition? v = some op' →
    (s.noted? op').isSome = true ∨ op' = op)
include listed traced ready

/-- Once an operation was noted, its operands are known, be they results of its own. -/
theorem known_of_progress (e : c.Progress c.strictly s s₁) (noted : s₁.Notes op (some n)) :
    ∀ v ∈ op.operands, c.Known s₁ v := by
  refine fun v hv => (e.events.traced tame homed traced).known tame homed fun op' defined => ?_
  rcases ready v hv op' defined with before | rfl
  · exact e.events.isSome_noted? op' before
  · rw [noted?_of_notes tame.cat listed noted]
    rfl

include new free

theorem wp_addPlain_performs (store : op.opcode ≠ .store) (call : op.opcode ≠ .call) :
    wp (c.addPlain c.valueNode p op) (fun _ s' => c.Performs p op s s') (fun _ => True) s := by
  rw [addPlain_eq, wp_bind]
  refine (wp_operationNode_begins.and (wp_operationNode_progress (M := c.strictly) (H := True) listed new free
    store call)).mono fun n s₁ ⟨begins, made, _⟩ => ?_
  have wf := made.events.wellFormed traced.wf
  have known := known_of_progress tame homed listed traced ready made (notes_note s₁ op (some n))
  have located : c.Records op.values p [] (s₁.note op (some n)) _ :=
    records_modify (idle_located op.location).benign (fun _ => ⟨rfl, rfl⟩) n
  rw [wp_bind, wp_note, wp_bind, wp_update, wp_bind]
  refine (wp_linkOperands_records (located.grows.changes.wellFormed wf)
    (fun v hv => (known v hv).settles located.toSettles) fun _ => Operation.mem_values).mono
    fun _ s₂ linked => ?_
  rw [← accessed_of_plain (c := c) (p := p) store call] at linked
  exact (begins (some n)).performs (located.trans wf linked)

theorem wp_addCall_performs (call : op.opcode = .call) :
    wp (c.addCall c.valueNode p op) (fun _ s' => c.Performs p op s s') (fun _ => True) s := by
  have accessed : c.accessed p op = if c.callDirection? p op = some .recv then op.operands else [] := by
    rw [BuildContext.accessed, call]
  rw [addCall_eq, wp_bind]
  refine (wp_callNode_begins.and (wp_callNode_progress (M := c.strictly) (H := True) listed new free
    call)).mono fun n s₁ ⟨⟨begins, unbound⟩, made, _⟩ => ?_
  have wf := made.events.wellFormed traced.wf
  have known := known_of_progress tame homed listed traced ready made (notes_note s₁ op (some n))
  have leveled : c.Records op.values p [] (s₁.note op (some n)) _ :=
    records_linkedByLevel op (c.callDirection? p op) n
  have wf₂ := leveled.grows.changes.wellFormed wf
  rw [wp_bind, wp_note, wp_bind, wp_update, wp_bind, linkArguments_eq, wp_bind]
  refine (wp_mapM_linkArgument_records wf₂ (c.callDirection? p op)
    (fun v hv => (known v hv).settles leveled.toSettles) fun _ => Operation.mem_values).mono
      fun args s₂ linked => ?_
  rw [← accessed] at linked
  have completed : c.Records op.values p [] s₂ _ :=
    records_modify (benign_withArgs args (c.callDirection? p op)) (fun x => ⟨isMem_withArgs .., rfl⟩) n
  have through := (leveled.trans wf linked).trans wf completed
  have wf₃ := through.grows.changes.wellFormed wf
  rw [wp_update, wp_bind]
  refine (wp_linkResult_records wf₃ subset_rfl (homed _ listed) fun v k m hr hm => ?_).mono fun _ s₃ ended => ?_
  · -- the result had no node before its arguments
    obtain ⟨hv, hk⟩ := pointerResult?_eq_some_iff.1 hr
    refine (through.pointer v k m hk hm).resolve_left fun before => ?_
    cases homed _ listed v hv
    rw [BuildState.graph_note, unbound (by rw [hr]; rfl)] at before
    rw [hv, Option.bind_some, before] at free
    cases free
  · have all := through.trans wf ended
    rw [List.nil_append, List.append_nil, List.append_nil] at all
    exact (begins (some n)).performs all

omit new free in
/-- A store is noted between its destination and its value, but it defines neither. -/
theorem wp_addStore_performs (store : op.opcode = .store) :
    wp (addStore c.valueNode p op) (fun _ s' => c.Performs p op s s') (fun _ => True) s := by
  have other : ∀ v op', c.programs.definition? v = some op' → op'.id ≠ op.id := by
    intro v op' defined same
    obtain ⟨listed', result⟩ := tame.cat.mem_of_definition? homed defined
    cases tame.cat.eq_of_id listed' listed same
    rw [tame.silent _ listed store] at result
    cases result
  have known : ∀ v ∈ op.operands, c.Known s v := fun v hv => traced.known tame homed fun op' defined =>
    (ready v hv op' defined).resolve_right fun same => other v op' defined (congrArg _ same)
  by_cases shape : ∃ value destination rest, op.operands = value :: destination :: rest
  · obtain ⟨value, destination, rest, operands⟩ := shape
    have hd : destination ∈ op.operands := by simp [operands]
    have hv : value ∈ op.operands := by simp [operands]
    have accessed : c.accessed p op = [destination] := accessed_of_store store operands
    rw [addStore_eq c.valueNode p op operands, wp_bind]
    refine (wp_valueNode_known (known destination hd)).mono fun t s₁ ⟨settles, unread, rests, answer⟩ => ?_
    have begins : ∀ x, Begins op s (s₁.note op x) := begins_note settles.visited
      (fun w q operand _ => settles.unbound w q (.inl fun same => operand (same ▸ hd))) unread
    cases t with
    | none =>
      rw [wp_bind, wp_note, wp_pure]
      refine (begins none).performs ?_
      rw [accessed]
      refine records_nothing (rests.note (other destination) none) ?_
      rw [BuildState.graph_note, ← answer]
      nofun
    | some d =>
      have bound : (s₁.note op (some d)).graph.findNode destination p = some d := by
        rw [BuildState.graph_note, ← answer]
      have wf : (s₁.note op (some d)).graph.WellFormed := by
        rw [BuildState.graph_note]
        exact settles.grows.changes.wellFormed traced.wf
      have access : c.Records op.values p [destination] (s₁.note op (some d)) _ := records_access bound
      have located := access.trans wf
        (records_modify (idle_located op.location).benign (fun _ => ⟨rfl, rfl⟩) d)
      have known₁ := ((known value hv).settles settles).note (other value) (some d)
      rw [wp_bind, wp_note, wp_bind, wp_update, wp_bind, wp_update, wp_bind]
      refine (wp_linkOperand_records (located.grows.changes.wellFormed wf) (known₁.settles located.toSettles)
        (Operation.mem_values hv) false).mono fun _ s₂ linked => ?_
      refine (begins (some d)).performs ?_
      rw [accessed]
      exact located.trans wf linked
  · have short : ∀ value destination rest, op.operands ≠ value :: destination :: rest :=
      fun _ _ _ operands => shape ⟨_, _, _, operands⟩
    simp only [addStore, monadLift_self]
    rw [wp_bind, wp_note, wp_pure]
    exact performs_note (accessed_of_short_store store short)

/-- Expanding an operation in its turn performs it. -/
theorem wp_addOperation_performs :
    wp (c.addOperation p op) (fun _ s' => c.Performs p op s s') (fun _ => True) s := by
  refine wp_expand (fun x seen => ?_) (fun m _ bound => ?_) (fun _ _ excluded => ?_) (fun _ _ _ store => ?_)
    (fun _ _ _ call => ?_) fun _ _ _ store call => ?_
  · rw [new] at seen
    cases seen
  · rw [free] at bound
    cases bound
  · rw [wp_note]
    exact performs_note (accessed_of_excluded excluded)
  · exact wp_addStore_performs tame homed listed traced ready store
  · exact wp_addCall_performs tame homed listed traced new free ready call
  · exact wp_addPlain_performs tame homed listed traced new free ready store call

end Turn

end Perform

end BuildContext

end PeerTaint
