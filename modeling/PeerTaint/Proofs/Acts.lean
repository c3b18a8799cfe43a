import PeerTaint.Proofs.History
import PeerTaint.Proofs.Progress

/-!
Building goes by events.

The resolver is `Steady` as long as there are more levels left than operations that were not visited, since
every operation is noted before its operands are resolved. From that every request to a builder goes by
events, and all but splices make progress.
-/

namespace PeerTaint

/-- The operations that a request wants to have expanded, each for a program. -/
def BuildRequest.Names (m : ProgramPair) : BuildRequest → Program → Operation → Prop
  | operation p op, q, op' => q = p ∧ op' = op
  | routine r, q, op => q = r.program ∧ op ∈ r.operations
  | all, q, op => (q, op) ∈ m.stream
  | _, _, _ => False

/-- Whether a request takes calls out. -/
def BuildRequest.splices : BuildRequest → Bool
  | spliceCall _ _ | spliceKnownCalls => true
  | _ => false

namespace BuildContext

open Build

/-! ## Expanding goes by events -/

section Expand

variable {c : BuildContext} {M : Mandate} {H : Prop} {s : BuildState} {p : Program} {op : Operation}
  {k : Nat} {resolve : Resolver} {n : NodeId}

/-- A pointer gets the node of its class. -/
theorem wp_memNodeFor_progress {v : Value} {j : AliasKey}
    (due : v.program = p ∨ ∃ op, M.expands p op ∧ op.result = some v) (hj : c.aliasKey? v = some j) :
    wp (c.memNodeFor p v j) (fun m s' => c.Progress M s s' ∧ s'.visited = s.visited ∧
      s'.graph.findMem p j = some m ∧ s'.graph.memValues.get? v = some m) (c.Halts M H s) s := by
  refine wp_memNodeFor (fun m g hg => ?_) halts_full fun h => ⟨hj, h⟩
  obtain ⟨grows, mem⟩ := Graph.Grows.memNode hg
  exact ⟨⟨.single (.memory due hj hg), grows.tail (.bindMemValue v mem), fun _ _ h => h⟩, rfl, mem,
    SortedMap.get?_insert.trans (if_pos rfl)⟩

theorem bare_nodeKind (c : BuildContext) (p : Program) (op : Operation) :
    (c.nodeKind p op).bare = c.nodeKind p op := by
  unfold nodeKind
  split
  · exact bare_callKind op _
  · rfl

section Node

variable (due : M.expands p op) (new : s.noted? op = none)
  (free : op.result.bind (s.graph.findNode · p) = none)
include due new free

/-- An operation that gets a node of its own is noted at once. -/
theorem progress_operation (opcode : op.opcode ≠ .store)
    (own : op.opcode = .call ∨ c.pointerResult? op = none) {label : String} {g g' : Graph}
    (made : s.graph.addNode p (c.nodeKind p op) label = .ok (n, g)) (idle : g.Idles g')
    (edge : ∀ a b, g'.edgeKind? a b = g.edgeKind? a b) :
    c.Progress M s (BuildState.note { s with graph := bindResult (c.boundResult? op) n g' } op (some n)) ∧
      c.Hosts (bindResult (c.boundResult? op) n g') p op n := by
  have event : c.Event M s _ := .operation due new free opcode own made idle edge
  have role : (bindResult (c.boundResult? op) n g').role? n = some (p, c.nodeKind p op) := by
    obtain ⟨rfl, rfl⟩ := Graph.addNode_eq_ok made
    rw [role?_bindResult, idle.role, Graph.role?_place_fresh, bare_nodeKind]
  have grows : s.graph.Grows (bindResult (c.boundResult? op) n g') := by
    have before := (Graph.Grows.addNode made).trans idle.grows
    cases hr : c.boundResult? op with
    | none => exact before
    | some v =>
      rw [hr] at role
      exact before.tail (.bindValue (g := g') role ((nodeKind_defines_iff v).2 (c.boundResult?_eq_some hr)))
  refine ⟨⟨.single event, ?_, ?_⟩, .own own role⟩
  · rw [BuildState.graph_note]
    exact grows
  · exact fun i x hx => (get?_note (id_ne_of_noted? new hx) _).trans hx

/-- The node of an operation that is neither a store nor a call is made and noted at once. -/
theorem wp_operationNode_progress (opcode : op.opcode ≠ .store) (plain : op.opcode ≠ .call) :
    wp (c.operationNode p op) (fun n s₁ => c.Progress M s (s₁.note op (some n)) ∧ c.Hosts s₁.graph p op n)
      (c.Halts M H s) s := by
  refine wp_operationNode (fun v j hr => ?_) (fun n g hr hg => ?_) halts_full
  · obtain ⟨hv, hj⟩ := pointerResult?_eq_some_iff.1 hr
    refine (wp_memNodeFor_progress (.inr ⟨op, due, hv⟩) hj).mono fun m s₁ ⟨made, visited, mem, _⟩ => ?_
    have new₁ : s₁.noted? op = none := by rwa [BuildState.noted?, visited]
    exact ⟨made.trans (.note due new₁ (.memory hr mem)), .memory plain hr mem⟩
  · have bound : c.boundResult? op = op.result := by rw [boundResult?, hr]
    have kind : c.nodeKind p op = .op op.opcode op.result := if_neg plain
    rw [← kind] at hg
    rw [← bound]
    exact progress_operation due new free opcode (.inr hr) hg (.refl g) fun _ _ => rfl

/-- So is the node of a call. -/
theorem wp_callNode_progress (call : op.opcode = .call) : wp (c.callNode p op (c.callDirection? p op))
    (fun n s₁ => c.Progress M s (s₁.note op (some n)) ∧ c.Hosts s₁.graph p op n) (c.Halts M H s) s := by
  refine wp_callNode (fun n g hg => ?_) halts_full
  have kind : c.nodeKind p op = callKind (callInfo op) (c.callDirection? p op) := if_pos call
  have benign : Graph.Benign fun x => { x with location := x.location.or op.location } :=
    ⟨fun _ => rfl, fun _ => rfl⟩
  have opcode : op.opcode ≠ .store := by rw [call]; nofun
  rw [← kind] at hg
  exact progress_operation due new free opcode (.inl call) hg (.modify benign g n)
    fun a b => Graph.edgeKind?_modifyNode benign g n a b

end Node

section Link

variable (hres : c.Steady M resolve k) (hs : H → c.Shallow k s)
include hres hs

theorem wp_resolve_progress (v : Value) : wp (resolve p v)
    (fun r s' => c.Progress M s s' ∧ ∀ n, r = some n → c.Answers s' p v n) (c.Halts M H s) s :=
  (hres p v s).weaken (fun _ _ h => h) fun _ => .imp hs

theorem proceeds_linkOperand (isRead : Bool) {v : Value}
    (link : ∀ s₁ a, c.Progress M s s₁ → c.Answers s₁ p v a → c.Link M s₁ a n) :
    c.Proceeds M H (linkOperand resolve p n isRead v) s := by
  simp only [linkOperand, monadLift_self]
  refine .bind_of (wp_resolve_progress hres hs v) fun r s₁ e₁ answers => ?_
  cases r with
  | none => exact .pure _
  | some a =>
    have source := answers a rfl
    dsimp only
    unfold Proceeds
    rw [wp_bind, wp_isMem]
    split
    · rw [wp_bind, wp_update, wp_flow]
      have access : c.Progress M s₁ { s₁ with graph := s₁.graph.recordAccess a } :=
        .modify idle_recordAccess.benign a
      exact access.trans (.flow (link _ a (e₁.trans access) source))
    · rw [wp_flow]
      exact .flow (link s₁ a e₁ source)

theorem proceeds_linkOperands (due : M.expands p op) (opcode : op.opcode ≠ .store)
    (noted : s.Notes op (some n)) (hosts : c.Hosts s.graph p op n) :
    c.Proceeds M H (linkOperands resolve p op n) s := by
  have link : ∀ v ∈ op.operands, ∀ s₁, c.Progress M s s₁ → ∀ s₂ a, c.Progress M s₁ s₂ →
      c.Answers s₂ p v a → c.Link M s₂ a n := fun v hv s₁ e₁ s₂ a e₂ source =>
    .operand due opcode hv source ((e₁.trans e₂).noted noted) ((e₁.trans e₂).hosts hosts)
  unfold linkOperands
  split
  · exact .pure _
  · next v vs ho =>
    rw [ho] at link
    refine .bind (proceeds_linkOperand hres hs _ (link v List.mem_cons_self s (.refl c M s)))
      fun _ s₁ e₁ => .forM _ fun w hw s₂ e₂ => ?_
    exact proceeds_linkOperand hres (fun h => (hs h).events (e₁.trans e₂).events) false
      (link w (List.mem_cons_of_mem v hw) s₂ (e₁.trans e₂))

theorem proceeds_linkArgument (due : M.expands p op) (call : op.opcode = .call)
    (noted : s.Notes op (some n)) (hosts : c.Hosts s.graph p op n) {v : Value} (hv : v ∈ op.operands) :
    c.Proceeds M H (linkArgument resolve p n (c.callDirection? p op) v) s := by
  have opcode : op.opcode ≠ .store := by rw [call]; nofun
  simp only [linkArgument, monadLift_self]
  refine .bind_of (wp_resolve_progress hres hs v) fun r s₁ e₁ answers => ?_
  cases r with
  | none => exact .pure _
  | some a =>
    have source := answers a rfl
    dsimp only
    unfold Proceeds
    rw [wp_bind, wp_isMem]
    split
    · next received =>
      simp only [Bool.and_eq_true, decide_eq_true_eq] at received
      simp only [wp_bind, wp_flow, wp_update, wp_pure]
      have flow : c.Progress M s₁ { s₁ with graph := (s₁.graph.connect n a .data).2 } :=
        .flow (.received due call received.1 hv source received.2 (e₁.noted noted) (e₁.hosts hosts))
      have access := flow.trans (.modify idle_recordAccess.benign a)
      exact access.trans (.modify idle_netDependent.benign a)
    · simp only [wp_bind, wp_flow, wp_pure]
      exact .flow (.operand due opcode hv source (e₁.noted noted) (e₁.hosts hosts))

theorem proceeds_linkArguments (due : M.expands p op) (call : op.opcode = .call)
    (noted : s.Notes op (some n)) (hosts : c.Hosts s.graph p op n) :
    c.Proceeds M H (linkArguments resolve p op n (c.callDirection? p op)) s := by
  rw [linkArguments_eq]
  refine .bind (.mapM _ fun v hv s₁ e₁ => ?_) fun args _ _ => .modify (benign_withArgs args _) n
  exact proceeds_linkArgument hres (fun h => (hs h).events e₁.events) due call (e₁.noted noted)
    (e₁.hosts hosts) hv

/-- A store is noted once its destination is resolved, and it is not noted before unless it was expanded on
the way. -/
theorem wp_addStore_progress (due : M.expands p op) (opcode : op.opcode = .store) (new : s.noted? op = none) :
    wp (addStore resolve p op) (fun r s' => c.Progress M s s' ∧ s'.Notes op r) (c.Halts M H s) s := by
  -- entries of the first state stay, since the store is not among them
  have noteStore : ∀ {s₁ x}, c.Progress M s s₁ → c.Marks s₁ p op x → c.Progress M s (s₁.note op x) := by
    intro s₁ x e₁ mark
    refine ⟨e₁.events.tail (.note due (fun other => absurd opcode other) mark), ?_, fun i y hy => ?_⟩
    · rw [BuildState.graph_note]
      exact e₁.grows
    · exact (get?_note (id_ne_of_noted? new hy) x).trans (e₁.notes i y hy)
  by_cases shape : ∃ value destination rest, op.operands = value :: destination :: rest
  · obtain ⟨value, destination, rest, ho⟩ := shape
    rw [addStore_eq resolve p op ho, wp_bind]
    refine (wp_resolve_progress hres hs destination).mono fun r s₁ ⟨e₁, answers⟩ => ?_
    cases r with
    | none =>
      rw [wp_bind, wp_note, wp_pure]
      exact ⟨noteStore e₁ .none, notes_note s₁ op none⟩
    | some d =>
      have e₂ := noteStore e₁ (.stored opcode ho (answers d rfl))
      have noted := notes_note s₁ op (some d)
      rw [wp_bind, wp_note, wp_bind, wp_update, wp_bind, wp_update, wp_bind]
      have e₃ := (e₂.trans (.modify idle_recordAccess.benign d)).trans
        (.modify (idle_located op.location).benign d)
      refine (proceeds_linkOperand hres (fun h => (hs h).events e₃.events) false
        fun s₄ a e₄ source => ?_).weaken
        (fun _ s' e' => ⟨e₃.trans e', e'.noted noted⟩) fun _ => .mono e₃.events
      exact .stored due opcode ho source (e₄.noted noted)
  · simp only [addStore, monadLift_self]
    split
    · next ho => exact absurd ⟨_, _, _, ho⟩ shape
    · rw [wp_bind, wp_note, wp_pure]
      exact ⟨noteStore (.refl c M s) .none, notes_note s op none⟩

end Link

theorem proceeds_linkResult (due : M.expands p op) (call : op.opcode = .call)
    (noted : s.Notes op (some n)) (hosts : c.Hosts s.graph p op n) :
    c.Proceeds M H (c.linkResult p op n) s := by
  unfold linkResult
  split
  · next v j hr =>
    obtain ⟨hv, hj⟩ := pointerResult?_eq_some_iff.1 hr
    refine .bind_of (wp_memNodeFor_progress (.inr ⟨op, due, hv⟩) hj) fun m s₁ e₁ ⟨_, mem, bound⟩ => ?_
    exact Progress.flow (.result due call hr mem bound (e₁.noted noted) (e₁.hosts hosts))
  · exact .pure _

section Operation

variable (hres : c.Steady M resolve k) (due : M.expands p op) (new : s.noted? op = none)
  (free : op.result.bind (s.graph.findNode · p) = none)
  (deeper : ∀ s₁, c.Events M s s₁ → (∀ i, op.id = some i → (s₁.noted? op).isSome = true) → H →
    c.Shallow k s₁)
include hres due new free deeper

theorem wp_addPlain_progress (store : op.opcode ≠ .store) (plain : op.opcode ≠ .call) :
    wp (c.addPlain resolve p op) (fun n s' => c.Progress M s s' ∧ s'.Notes op (some n))
      (c.Halts M H s) s := by
  rw [addPlain_eq, wp_bind]
  refine (wp_operationNode_progress due new free store plain).mono fun n s₁ ⟨made, hosts⟩ => ?_
  have noted := notes_note s₁ op (some n)
  have hs := deeper _ made.events fun i hi => isSome_noted?_note_self hi _
  have ready : c.Progress M (s₁.note op (some n)) _ := .modify (idle_located op.location).benign n
  rw [wp_bind, wp_note, wp_bind, wp_update, wp_bind]
  refine (proceeds_linkOperands hres (fun h => (hs h).events ready.events) due store (ready.noted noted)
    (ready.hosts (by rwa [BuildState.graph_note]))).weaken (fun _ s' e' => ?_) fun _ =>
      .mono (made.trans ready).events
  exact ⟨(made.trans ready).trans e', (ready.trans e').noted noted⟩

theorem wp_addCall_progress (call : op.opcode = .call) :
    wp (c.addCall resolve p op) (fun n s' => c.Progress M s s' ∧ s'.Notes op (some n))
      (c.Halts M H s) s := by
  rw [addCall_eq, wp_bind]
  refine (wp_callNode_progress due new free call).mono fun n s₁ ⟨made, hosts⟩ => ?_
  have noted := notes_note s₁ op (some n)
  have hs := deeper _ made.events fun i hi => isSome_noted?_note_self hi _
  have linked : c.Progress M (s₁.note op (some n)) { s₁.note op (some n) with
      graph := c.linkedByLevel p op n (c.callDirection? p op) (s₁.note op (some n)).graph } := by
    unfold linkedByLevel
    cases c.callDirection? p op with
    | none => exact .refl c M _
    | some d =>
      cases hosts with
      | memory plain => exact absurd call plain
      | own _ role =>
        exact .touch (.correlate ..) (.inr (explains_correlate (by rwa [BuildState.graph_note]) d _))
  have hosts₂ := linked.hosts (by rwa [BuildState.graph_note])
  have e₂ := made.trans linked
  rw [wp_bind, wp_note, wp_bind, wp_update, wp_bind]
  refine (proceeds_linkArguments hres (fun h => (hs h).events linked.events) due call (linked.noted noted)
    hosts₂).weaken (fun _ s₃ e₃ => ?_) fun _ => .mono e₂.events
  rw [wp_bind]
  refine (proceeds_linkResult due call (linked.trans e₃ |>.noted noted) (e₃.hosts hosts₂)).weaken
    (fun _ s₄ e₄ => ?_) fun _ => .mono (e₂.trans e₃).events
  exact ⟨(e₂.trans e₃).trans e₄, ((linked.trans e₃).trans e₄).noted noted⟩

end Operation

theorem wp_expand_progress (hres : c.Steady M resolve k) (due : M.expands p op)
    (store : op.opcode = .store → H → c.Shallow k s)
    (deeper : s.noted? op = none → ∀ s₁, c.Events M s s₁ →
      (∀ i, op.id = some i → (s₁.noted? op).isSome = true) → H → c.Shallow k s₁) :
    wp (c.expand resolve p op) (fun r s' => c.Progress M s s' ∧ s'.Notes op r) (c.Halts M H s) s := by
  refine wp_expand (fun x seen => ?_) (fun n new bound => ?_) (fun new _ _ => ?_) (fun new _ _ hs => ?_)
    (fun new free _ call => ?_) fun new free _ other plain => ?_
  · exact ⟨.refl c M s, notes_of_noted? seen⟩
  · obtain ⟨v, hv, hn⟩ := Option.bind_eq_some_iff.1 bound
    rw [wp_note]
    exact ⟨.note due new (.found hv hn), notes_note s op _⟩
  · rw [wp_note]
    exact ⟨.note due new .none, notes_note s op _⟩
  · exact wp_addStore_progress hres (store hs) due hs new
  · exact wp_addCall_progress hres due new free (deeper new) call
  · exact wp_addPlain_progress hres due new free (deeper new) other plain

/-- Resolving a value makes progress, and it ends as long as there are more levels left than operations
that were not visited. -/
theorem steady_resolve (closed : ∀ v op, c.programs.definition? v = some op → M.expands v.program op)
    (depth : Nat) : c.Steady M (c.resolve depth) depth := by
  induction depth with
  | zero => exact fun p v s h => absurd h.few (Nat.not_lt_zero _)
  | succ depth ih =>
    intro p v s
    have stay : ∀ n, c.Answers s p v n → c.Progress M s s ∧ ∀ m, some n = some m → c.Answers s p v m :=
      fun n answers => ⟨.refl c M s, fun m hm => Option.some.inj hm ▸ answers⟩
    simp only [BuildContext.resolve, monadLift_self]
    split
    · exact ⟨.refl c M s, by simp⟩
    · next home =>
      obtain rfl : v.program = p := not_not.1 home
      rw [wp_bind, wp_graph]
      split
      · next n hn => exact stay n (.inl hn)
      · next free =>
        split
        · next j hj =>
          rw [wp_map]
          refine (wp_memNodeFor_progress (.inl rfl) hj).mono ?_
          rintro m s₁ ⟨e₁, -, -, bound⟩
          refine ⟨e₁, ?_⟩
          rintro _ ⟨⟩
          refine .inl ?_
          rw [Graph.findNode, if_pos rfl, bound]
          rfl
        · next scalar =>
          split
          · next op hd =>
            rw [wp_bind]
            refine (wp_expand_progress ih (closed v op hd) (fun store h => ?_)
              fun new s₁ e noted h => ?_).mono ?_
            · obtain ⟨hr, q, he⟩ := h.cat.definition v op hd
              rw [h.silent (q, op) he store] at hr
              cases hr
            · -- the operation was not visited before, and is now
              obtain ⟨hr, q, he⟩ := h.cat.definition v op hd
              obtain ⟨i, -, hi⟩ := h.cat.id (q, op) he
              have fewer : c.unseen s₁ < c.unseen s := unseen_lt e.isSome_noted? he new (noted i hi)
              exact ⟨h.toTame, fewer.trans_le (Nat.le_of_lt_succ h.few)⟩
            · rintro x s₁ ⟨e₁, noted⟩
              rw [wp_bind, wp_graph, wp_pure]
              refine ⟨e₁, fun n hn => ?_⟩
              rcases Option.or_eq_some_iff.1 hn with found | ⟨-, rfl⟩
              · exact .inl found
              · exact .inr ⟨rfl, scalar, op, hd, noted⟩
          · next undefined =>
            split
            · next info hi =>
              have known : (c.programs.info? v).isSome = true := by rw [hi]; rfl
              refine wp_addVar (fun n g hg => ?_) halts_full
              have grows := grows_bindResult v.program (some v) hg fun w hw => ⟨hw, by simp [NodeKind.category]⟩
              refine ⟨⟨.single (.variable scalar undefined known free hg), grows, fun _ _ h => h⟩, ?_⟩
              rintro _ ⟨⟩
              rw [Graph.findNode, if_pos rfl, Option.or_eq_none_iff] at free
              have unbound : (g.bindValue v n).memValues.get? v = none :=
                (congrArg (·.get? v) (Graph.Quiet.addNode hg).memValue).trans free.1
              refine .inl ?_
              rw [Graph.findNode, if_pos rfl, unbound]
              exact SortedMap.get?_insert.trans (if_pos rfl)
            · exact ⟨.refl c M s, by simp⟩

end Expand

section Requests

variable {c : BuildContext} {M : Mandate} {s : BuildState}
  (closed : ∀ v op, c.programs.definition? v = some op → M.expands v.program op) (p : Program)
include closed

theorem wp_valueNode_progress (v : Value) : wp (c.valueNode p v)
    (fun r s' => c.Progress M s s' ∧ ∀ n, r = some n → c.Answers s' p v n) (c.Halts M c.Tame s) s :=
  (steady_resolve closed c.nesting p v s).weaken (fun _ _ h => h) fun _ =>
    .imp fun h => ⟨h, c.unseen_lt_nesting s⟩

theorem proceeds_valueNode (v : Value) : c.Proceeds M c.Tame (c.valueNode p v) s :=
  (wp_valueNode_progress closed p v).mono fun _ _ h => h.1

theorem wp_addOperation_progress {op : Operation} (due : M.expands p op) : wp (c.addOperation p op)
    (fun r s' => c.Progress M s s' ∧ s'.Notes op r) (c.Halts M c.Tame s) s :=
  wp_expand_progress (steady_resolve closed c.nesting) due (fun _ h => ⟨h, c.unseen_lt_nesting s⟩)
    fun _ s₁ _ _ h => ⟨h, c.unseen_lt_nesting s₁⟩

theorem proceeds_addOperations {ops : List Operation} (due : ∀ op ∈ ops, M.expands p op) :
    c.Proceeds M c.Tame (c.addOperations p ops) s := by
  induction ops generalizing s with
  | nil => exact .pure _
  | cons op ops ih =>
    refine .bind_of (wp_addOperation_progress closed p (due op List.mem_cons_self)) fun n s₁ _ _ =>
      .bind (ih fun op' h => due op' (List.mem_cons_of_mem op h)) fun rest s₂ _ => .pure _

theorem proceeds_addRoutines {rs : List Routine} (due : ∀ r ∈ rs, ∀ op ∈ r.operations, M.expands r.program op) :
    c.Proceeds M c.Tame (c.addRoutines rs) s := by
  induction rs generalizing s with
  | nil => exact .pure _
  | cons r rs ih =>
    refine .bind (proceeds_addOperations closed r.program (due r List.mem_cons_self)) fun n s₁ _ =>
      .bind (ih fun r' h => due r' (List.mem_cons_of_mem r h)) fun rest s₂ _ => .pure _

section Rewire

variable (free : M.rewires)
include free

theorem proceeds_connectValues (a b : Value) (kind : EdgeKind) :
    c.Proceeds M c.Tame (c.connectValues p a b kind) s := by
  simp only [connectValues, monadLift_self]
  refine .bind (proceeds_valueNode closed p a) fun src s₁ _ => .bind (proceeds_valueNode closed p b)
    fun dst s₂ _ => ?_
  split
  · exact .connect free _ _ _
  · exact .pure _

theorem proceeds_addInput {r : InputRecord} (due : M.enters r.value r.origin) :
    c.Proceeds M c.Tame (c.addInput r) s := by
  simp only [addInput, monadLift_self]
  refine .bind (proceeds_valueNode closed r.program r.value) fun target s₁ _ => ?_
  split
  · exact .pure _
  · refine .bind .graph fun g s₂ _ => .bind ?_ fun n s₃ _ => .bind (.join free _ _) fun _ s₄ _ => .pure _
    refine wp_attempt (fun n g hg => ⟨.single (.input due hg), .inputNode hg, fun _ _ h => h⟩) fun e he => ?_
    obtain ⟨full, rfl⟩ := Graph.inputNode_eq_error he
    exact halts_full full

theorem proceeds_addRecords {rs : List InputRecord} (due : ∀ r ∈ rs, M.enters r.value r.origin) :
    c.Proceeds M c.Tame (c.addRecords rs) s := by
  induction rs generalizing s with
  | nil => exact .pure _
  | cons r rs ih =>
    refine .bind (proceeds_addInput closed free (due r List.mem_cons_self)) fun n s₁ _ =>
      .bind (ih fun r' h => due r' (List.mem_cons_of_mem r h)) fun rest s₂ _ => .pure _

/-! ## Splicing goes by events -/

theorem proceeds_linkParams (args : List (Option NodeId × Value)) :
    c.Proceeds M c.Tame (c.linkParams p args) s := by
  induction args generalizing s with
  | nil => exact .pure _
  | cons arg args ih =>
    obtain ⟨actual, formal⟩ := arg
    cases actual with
    | none => exact ih
    | some a =>
      rw [linkParams_cons, passArgument]
      refine .bind (.bind (proceeds_valueNode closed p formal) fun n s₁ _ => ?_) fun _ _ _ => ih
      split
      · exact .join free _ _
      · exact .pure _

theorem proceeds_linkReturned (users : List NodeId) (vs : List Value) :
    c.Proceeds M c.Tame (c.linkReturned p users vs) s := by
  induction vs generalizing s with
  | nil => exact .pure _
  | cons v vs ih =>
    rw [linkReturned_cons, passReturned]
    refine .bind (.bind (proceeds_valueNode closed p v) fun n s₁ _ => ?_) fun _ _ _ => ih
    split
    · exact .forM users fun u _ s₂ _ => .join free _ u
    · exact .pure _

/-- A call is replaced by events, and the other calls stay. -/
theorem wp_spliceCall_events {n : NodeId} (wf : s.graph.WellFormed) (call : s.graph.IsCall n)
    (callee : Routine) :
    wp (c.spliceCall n callee)
      (fun _ s' => c.Events M s s' ∧ ∀ m, m ≠ n → s.graph.IsCall m → s'.graph.IsCall m)
      (c.Halts M c.Tame s) s := by
  obtain ⟨x, info, hx, hkind⟩ := Graph.isCall_iff.1 call
  refine wp_spliceCall (fun stale => ?_) (fun y hy other => ?_) fun y info' hy _ => ?_
  · rw [hx] at stale
    cases stale
  · cases hx.symm.trans hy
    exact absurd hkind (other info)
  · refine (proceeds_linkParams closed callee.program free _).mono fun _ s₁ e₁ => ?_
    refine ((proceeds_linkReturned closed callee.program free _ _).after e₁).mono fun _ s₂ e₂ => ?_
    obtain ⟨z, info₂, hz, hcall⟩ := Graph.isCall_iff.1 (call.grows e₂.grows)
    refine wp_retire (fun z' g removed => ?_) fun e he => ?_
    · obtain ⟨hz', r⟩ := Graph.removed_of_removeNode (e₂.events.wellFormed wf).toLinked removed
      cases hz.symm.trans hz'
      exact ⟨e₂.events.tail (.retire free hcall removed), fun m hne h => (h.grows e₂.grows).removed r hne⟩
    · simp [Graph.removeNode, hz] at he

theorem acts_spliceAll {calls : List (NodeId × Routine)} (wf : s.graph.WellFormed)
    (call : ∀ e ∈ calls, s.graph.IsCall e.1) (distinct : (calls.map (·.1)).Nodup) :
    c.Acts M c.Tame (c.spliceAll calls) s := by
  induction calls generalizing s with
  | nil => exact .pure ()
  | cons e calls ih =>
    obtain ⟨notLater, distinct⟩ := List.nodup_cons.1 distinct
    have first := wp_spliceCall_events closed free wf (call e List.mem_cons_self) e.2
    change wp (c.spliceCall e.1 e.2 >>= fun _ => c.spliceAll calls) _ _ s
    rw [wp_bind]
    refine first.mono fun _ s₁ ⟨e₁, stay⟩ => Acts.after e₁ (ih (e₁.wellFormed wf) (fun e' he' => ?_) distinct)
    refine stay e'.1 (fun same => notLater ?_) (call e' (List.mem_cons_of_mem e he'))
    exact List.mem_map.2 ⟨e', he', same⟩

theorem acts_spliceKnownCalls (wf : s.graph.WellFormed) : c.Acts M c.Tame c.spliceKnownCalls s := by
  simp only [spliceKnownCalls, monadLift_self]
  change wp (Build.graph >>= _) _ _ s
  rw [wp_bind, wp_graph]
  refine Acts.bind (acts_spliceAll closed free wf (fun e he => ?_) ?_) fun _ _ _ => .pure _
  · obtain ⟨x, info, hx, hkind, -⟩ := (mem_knownCalls_iff wf.toLinked).1 he
    exact Graph.isCall_iff.2 ⟨x, info, hx, hkind⟩
  · exact (c.knownCalls_ascending wf.toLinked).imp Nat.ne_of_lt

end Rewire

end Requests

/-! ## Requests -/

section Request

variable {c : BuildContext} {M : Mandate} {s : BuildState}
  (closed : ∀ v op, c.programs.definition? v = some op → M.expands v.program op) (free : M.rewires)
  (enters : ∀ v o, M.enters v o) {request : BuildRequest}
  (due : ∀ p op, request.Names c.programs p op → M.expands p op)
include closed free enters due

/-- Whatever a builder is asked for, it makes progress, unless it splices. -/
theorem wp_request_progress (plain : request.splices = false) :
    wp (request.run c) (fun _ s' => c.Progress M s s') (fun _ => True) s := by
  have of_proceeds : ∀ {α : Type} {x : Build α} {H : Prop}, c.Proceeds M H x s →
      wp (discard x) (fun _ s' => c.Progress M s s') (fun _ => True) s :=
    fun h => wp_discard.2 (h.weaken (fun _ _ e => e) fun _ _ => trivial)
  cases request with
  | operation p op =>
    exact of_proceeds ((wp_addOperation_progress closed p (due p op ⟨rfl, rfl⟩)).mono fun _ _ h => h.1)
  | value p v => exact of_proceeds (proceeds_valueNode closed p v)
  | connectValues p a b kind => exact of_proceeds (proceeds_connectValues closed p free a b kind)
  | inputs sets => exact of_proceeds (proceeds_addRecords closed free fun r _ => enters r.value r.origin)
  | routine r =>
    exact of_proceeds (proceeds_addOperations closed r.program fun op hop => due r.program op ⟨rfl, hop⟩)
  | all =>
    refine of_proceeds (proceeds_addRoutines closed fun r hr op hop => due r.program op ?_)
    exact List.mem_flatMap.2 ⟨r, hr, List.mem_map.2 ⟨op, hop, rfl⟩⟩
  | spliceCall | spliceKnownCalls => cases plain

/-- Splices go by events as well. -/
theorem wp_request_within (wf : s.graph.WellFormed) :
    wp (request.run c) (fun _ s' => c.Events M s s') (fun _ => True) s := by
  cases hs : request.splices with
  | false => exact (wp_request_progress closed free enters due hs).mono fun _ _ h => h.events
  | true =>
    cases request with
    | spliceCall n callee =>
      by_cases call : s.graph.IsCall n
      · exact (wp_spliceCall_events closed free wf call callee).weaken (fun _ _ h => h.1) fun _ _ => trivial
      · refine wp_spliceCall (fun _ => trivial) (fun _ _ _ => trivial) fun x info hx hkind => ?_
        exact absurd (Graph.isCall_iff.2 ⟨x, info, hx, hkind⟩) call
    | spliceKnownCalls =>
      exact wp_discard.2 ((acts_spliceKnownCalls closed free wf).weaken (fun _ _ e => e) fun _ _ => trivial)
    | operation | value | connectValues | inputs | routine | all => cases hs

end Request

/-- Whatever a builder is asked for, it goes by events. -/
theorem wp_request_events {c : BuildContext} {s : BuildState} (wf : s.graph.WellFormed)
    (request : BuildRequest) :
    wp (request.run c) (fun _ s' => c.Events .any s s') (fun _ => True) s :=
  wp_request_within (fun _ _ _ => trivial) trivial (fun _ _ => trivial) (fun _ _ _ => trivial) wf

end BuildContext

end PeerTaint
