import PeerTaint.Proofs.Moves
import PeerTaint.Proofs.Turns

/-!
Building goes by moves.

From a grounded state, every builder of this development makes only moves, and what it resolves a value
of a program to is a live node of that program. The operations of the stream are expanded with a
resolver that is known to have this property; the induction on the depth of nesting then gives it for
the resolver itself.
-/

namespace PeerTaint

namespace BuildContext

open Build

/-- The resolver makes steps, and finds live nodes for values of the program that it is asked for. -/
def Walker (c : BuildContext) (resolve : Resolver) : Prop :=
  ∀ p v s, c.Grounded s → wp (resolve p v)
    (fun r s' => c.Steps s s' ∧ ∀ n, r = some n → v.program = p ∧ s'.graph.Lives p n) (fun _ => True) s

theorem idle_recordAccess : Node.Idle fun x => { x with count := x.count + 1 } :=
  fun _ => ⟨_, _, _, rfl⟩

theorem idle_located (loc : Option Location) :
    Node.Idle fun x => { x with location := x.location.or loc } := fun _ => ⟨_, _, _, rfl⟩

theorem idle_netDependent : Node.Idle fun x => { x with netDependent := true } :=
  fun _ => ⟨_, _, _, rfl⟩

section Nodes

variable {c : BuildContext} {p : Program} {s : BuildState}

theorem Grounded.lives_findNode (inv : c.Grounded s) {v : Value} {n : NodeId}
    (hn : s.graph.findNode v p = some n) : s.graph.Lives p n := by
  cases program_of_findNode hn
  rw [Graph.findNode, if_pos rfl, Option.or_eq_some_iff] at hn
  rcases hn with hn | ⟨-, hn⟩
  · obtain ⟨k, -, hm⟩ := inv.memValue v n hn
    exact ⟨_, inv.wf.mem _ _ _ hm⟩
  · exact (inv.value v n hn).live

theorem Grounded.byClass (inv : c.Grounded s) : c.ByClass s.graph where
  value v n hv := (inv.value v n hv).scalar
  memValue v n hv := (inv.memValue v n hv).imp fun _ hk => hk.1

theorem steps_memNode {k : AliasKey} {n : NodeId} {g : Graph} {label : String}
    (hg : s.graph.memNode p k label = .ok (n, g)) : c.Steps s { s with graph := g } := by
  rcases Graph.memNode_eq_ok hg with ⟨-, rfl⟩ | ⟨fresh, rfl, rfl⟩
  · exact .refl
  · have placed : c.Step s { s with graph := s.graph.place (s.graph.fresh p (.mem k) label) } :=
      .place rfl rfl rfl rfl rfl
    have index : (s.graph.place (s.graph.fresh p (.mem k) label)).memNodes = s.graph.memNodes := by
      obtain ⟨_, _, _, _, he⟩ := Graph.place_eq s.graph (s.graph.fresh p (.mem k) label)
      rw [he]
    rw [← index]
    refine .tail (.single placed) (.indexMem (Graph.role?_place_fresh ..) ?_)
    rw [Graph.findMem, index]
    exact fresh

/-- The result of an operation that is not visited yet is bound to a node. -/
theorem steps_bindResult {op : Operation} {r : Option Value} {n : NodeId} {kind : NodeKind}
    (homed : c.programs.Homed) (he : (p, op) ∈ c.programs.stream) (unvisited : s.noted? op = none)
    (role : s.graph.role? n = some (p, kind))
    (hr : ∀ v, r = some v → op.result = some v ∧ c.aliasKey? v = none ∧ kind.Defines v ∧
      s.graph.valueNodes.get? v = none) :
    c.Steps s { s with graph := bindResult r n s.graph } := by
  cases r with
  | none => exact .refl
  | some v =>
    obtain ⟨hv, scalar, defines, free⟩ := hr v rfl
    cases homed (p, op) he v hv
    exact .single (.bindValue role defines scalar free (Or.inr ⟨_, he, hv, unvisited⟩))

theorem valueNodes_bindResult {g : Graph} {r : Option Value} {n : NodeId} {v : Value} (hr : r = some v) :
    (bindResult r n g).valueNodes.get? v = some n := by
  rw [hr]
  exact SortedMap.get?_insert.trans (if_pos rfl)

theorem face?_bindResult (r : Option Value) (n m : NodeId) (g : Graph) :
    (bindResult r n g).face? m = g.face? m := by cases r <;> rfl

theorem face?_located (loc : Option Location) (n m : NodeId) (g : Graph) :
    (located loc n g).face? m = g.face? m := Graph.map_node?_modifyNode g n m fun _ => rfl

theorem args_callKind (op : Operation) (d : Option Direction) :
    (callKind (callInfo op) d).args = [] := by
  cases d with
  | none => rfl
  | some d => cases d <;> rfl

theorem direction?_callKind (info : CallInfo) (d : Option Direction) :
    (callKind info d).direction? = d := by
  cases d with
  | none => rfl
  | some d => cases d <;> rfl

theorem valueNodes_place (g : Graph) (x : Node) : (g.place x).valueNodes = g.valueNodes := by
  obtain ⟨_, _, _, _, he⟩ := Graph.place_eq g x
  rw [he]

variable (inv : c.Grounded s)
include inv

theorem wp_memNodeFor_steps {v : Value} {k : AliasKey} (hk : c.aliasKey? v = some k) :
    wp (c.memNodeFor v.program v k) (fun n s' => c.Steps s s' ∧ s'.graph.Lives v.program n)
      (fun _ => True) s := by
  refine wp_memNodeFor (fun n g hg => ?_) (fun _ => trivial) fun _ => trivial
  obtain ⟨grows, mem⟩ := Graph.Grows.memNode hg
  have wf : g.WellFormed := grows.changes.wellFormed inv.wf
  exact ⟨(steps_memNode hg).tail (.bindMemValue (s := { s with graph := g }) hk mem),
    ⟨_, wf.mem _ _ _ mem⟩⟩

theorem wp_linkResult_steps {op : Operation} (homed : c.programs.Homed)
    (he : (p, op) ∈ c.programs.stream) {n : NodeId} (hn : s.graph.Given p n) :
    wp (c.linkResult p op n) (fun _ s' => c.Steps s s') (fun _ => True) s := by
  unfold linkResult
  split
  · next v k hr =>
    obtain ⟨hv, hk⟩ := pointerResult?_eq_some_iff.1 hr
    cases homed (p, op) he v hv
    rw [wp_bind]
    refine (wp_memNodeFor_steps inv hk).mono fun m s₁ ⟨steps, lives⟩ => ?_
    rw [wp_flow]
    exact steps.tail (.flow (hn.grows steps.grows) lives.given)
  · exact .refl

section Operation

variable {op : Operation} (homed : c.programs.Homed) (he : (p, op) ∈ c.programs.stream)
  (unvisited : s.noted? op = none) (free : op.result.bind (s.graph.findNode · p) = none)
include homed he unvisited free

/-- The node of an operation that is neither a store nor a call. -/
theorem wp_operationNode_steps : wp (c.operationNode p op) (fun n s' => c.Steps s s' ∧
    s'.graph.Lives p n ∧ ∀ v, op.result = some v → c.aliasKey? v = none →
      s'.graph.valueNodes.get? v = some n) (fun _ => True) s := by
  refine wp_operationNode (fun v k hr => ?_) (fun n g hr hg => ?_) fun _ => trivial
  · obtain ⟨hv, hk⟩ := pointerResult?_eq_some_iff.1 hr
    cases homed (p, op) he v hv
    refine (wp_memNodeFor_steps inv hk).mono fun n s' ⟨steps, lives⟩ => ⟨steps, lives, fun w hw hk' => ?_⟩
    rw [hv] at hw
    cases hw
    rw [hk] at hk'
    cases hk'
  · obtain ⟨rfl, rfl⟩ := Graph.addNode_eq_ok hg
    have placed : c.Step s { s with graph := s.graph.place (s.graph.fresh p (.op op.opcode op.result)
        (c.operationLabel op)) } := .place rfl rfl rfl rfl rfl
    have role := Graph.role?_place_fresh s.graph p (.op op.opcode op.result) (c.operationLabel op)
    have bound : ∀ v, op.result = some v → op.result = some v ∧ c.aliasKey? v = none ∧
        (NodeKind.op op.opcode op.result).Defines v ∧ s.graph.valueNodes.get? v = none := by
      intro v hv
      have scalar : c.aliasKey? v = none := by
        rw [pointerResult?, hv, Option.bind_some, Option.map_eq_none_iff] at hr
        exact hr
      cases homed (p, op) he v hv
      rw [hv, Option.bind_some, inv.byClass.findNode_of_none scalar] at free
      exact ⟨hv, scalar, ⟨hv, nofun⟩, free⟩
    refine ⟨.trans (.single placed) (steps_bindResult homed he unvisited role fun v hv => ?_), ?_, ?_⟩
    · rw [valueNodes_place]
      exact bound v hv
    · exact ⟨_, (role?_bindResult ..).trans role⟩
    · intro v hv _
      exact valueNodes_bindResult hv

/-- The new node of a call. -/
theorem wp_callNode_steps (d : Option Direction) : wp (c.callNode p op d) (fun n s' => c.Steps s s' ∧
    s'.graph.Lives p n ∧ s'.graph.face? n = some ⟨p, d, .empty⟩ ∧
    ∀ v, op.result = some v → c.aliasKey? v = none → s'.graph.valueNodes.get? v = some n)
      (fun _ => True) s := by
  refine wp_callNode (fun n g hg => ?_) fun _ => trivial
  obtain ⟨rfl, rfl⟩ := Graph.addNode_eq_ok hg
  have placed : c.Steps s ⟨located op.location s.graph.slots.size (s.graph.place
      (s.graph.fresh p (callKind (callInfo op) d) (c.operationLabel op))), s.visited⟩ :=
    .tail (.single (.place rfl rfl rfl rfl (args_callKind op d))) (.note _ (idle_located op.location))
  have role := (role?_located op.location s.graph.slots.size s.graph.slots.size _).trans
    (Graph.role?_place_fresh s.graph p (callKind (callInfo op) d) (c.operationLabel op))
  refine ⟨placed.trans (steps_bindResult homed he unvisited role fun v hv => ?_), ?_, ?_, ?_⟩
  · obtain ⟨hv, scalar⟩ := boundResult?_eq_some_iff.1 hv
    cases homed (p, op) he v hv
    rw [hv, Option.bind_some, inv.byClass.findNode_of_none scalar] at free
    refine ⟨hv, scalar, NodeKind.defines_bare.2 (callKind_defines hv), ?_⟩
    exact (congrArg (·.get? v) (valueNodes_place s.graph _)).trans free
  · exact ⟨_, (role?_bindResult ..).trans role⟩
  · rw [face?_bindResult, face?_located, Graph.face?, Graph.node?_place, if_pos rfl]
    exact congrArg (fun d => some (Face.mk p d .empty)) (direction?_callKind _ d)
  · intro v hv hk
    exact valueNodes_bindResult (boundResult?_eq_some_iff.2 ⟨hv, hk⟩)

end Operation

end Nodes

/-! ## Expanding operations -/

section Expand

variable {c : BuildContext} {p : Program} {s : BuildState} {resolve : Resolver} {n : NodeId}
  (hres : c.Walker resolve) (inv : c.Grounded s)
include hres inv

theorem wp_linkOperand_steps (hn : s.graph.Given p n) (isRead : Bool) (v : Value) :
    wp (linkOperand resolve p n isRead v) (fun _ s' => c.Steps s s') (fun _ => True) s := by
  simp only [linkOperand, monadLift_self]
  rw [wp_bind]
  refine (hres p v s inv).mono ?_
  rintro r s₁ ⟨steps, lives⟩
  cases r with
  | none => exact steps
  | some a =>
    have ha := (lives a rfl).2.given
    have hn₁ := hn.grows steps.grows
    dsimp only
    rw [wp_bind, wp_isMem]
    split
    · rw [wp_bind, wp_update, wp_flow]
      have access : c.Step s₁ { s₁ with graph := s₁.graph.recordAccess a } := .note a idle_recordAccess
      refine (steps.tail access).tail (.flow (ha.grows access.grows) (hn₁.grows access.grows))
    · rw [wp_flow]
      exact steps.tail (.flow ha hn₁)

theorem wp_linkArgument_steps (hn : s.graph.Given p n) (d : Option Direction) (v : Value) :
    wp (linkArgument resolve p n d v)
      (fun r s' => c.Steps s s' ∧ ∀ a, r = some a → s'.graph.Lives p a) (fun _ => True) s := by
  simp only [linkArgument, monadLift_self]
  rw [wp_bind]
  refine (hres p v s inv).mono ?_
  rintro r s₁ ⟨steps, lives⟩
  cases r with
  | none => exact ⟨steps, by simp⟩
  | some a =>
    have live := (lives a rfl).2
    have hn₁ := hn.grows steps.grows
    dsimp only
    rw [wp_bind, wp_isMem]
    split
    · simp only [wp_bind, wp_flow, wp_update, wp_pure]
      have flow : c.Step s₁ { s₁ with graph := (s₁.graph.connect n a .data).2 } := .flow hn₁ live.given
      have marked := (steps.tail flow).tail (.note a idle_recordAccess)
      refine ⟨marked.tail (.note a idle_netDependent), fun b hb => ?_⟩
      cases hb
      exact (live.grows flow.grows).grows (.tail (.single (.modify a idle_recordAccess.benign))
        (.modify a idle_netDependent.benign))
    · simp only [wp_bind, wp_flow, wp_pure]
      have flow : c.Step s₁ { s₁ with graph := (s₁.graph.connect a n .data).2 } := .flow live.given hn₁
      refine ⟨steps.tail flow, fun b hb => ?_⟩
      cases hb
      exact live.grows flow.grows

variable (cat : c.programs.Catalogued)
include cat

theorem wp_linkOperands_steps (hn : s.graph.Given p n) (op : Operation) :
    wp (linkOperands resolve p op n) (fun _ s' => c.Steps s s') (fun _ => True) s := by
  unfold linkOperands
  cases op.operands with
  | nil => exact .refl
  | cons v vs =>
    rw [wp_bind]
    refine (wp_linkOperand_steps hres inv hn _ v).mono fun _ s₁ first => ?_
    refine (wp_forM (P := fun _ _ => True) (I := fun s' => c.Steps s s') first
      fun w _ s₂ steps => ?_).mono fun _ s' h => h.1
    refine (wp_linkOperand_steps hres (steps.grounded cat inv) (hn.grows steps.grows) false w).mono
      fun _ s₃ next => ⟨steps.trans next, trivial, fun _ _ => trivial⟩

theorem wp_linkArguments_steps (hn : s.graph.Given p n) (op : Operation) (d : Option Direction) :
    wp (linkArguments resolve p op n d) (fun _ s' => c.Steps s s') (fun _ => True) s := by
  rw [linkArguments_eq, wp_bind]
  refine (wp_mapM_answers (R := fun r s' => ∀ a, r = some a → s'.graph.Lives p a)
    (I := fun s' => c.Steps s s') .refl fun w _ s₁ steps => ?_).mono ?_
  · refine (wp_linkArgument_steps hres (steps.grounded cat inv) (hn.grows steps.grows) d w).mono
      fun r s₂ h => ⟨steps.trans h.1, h.2, fun r hr a ha => (hr a ha).grows h.1.grows⟩
  · rintro args s₂ ⟨steps, lives, -⟩
    rw [wp_update]
    exact steps.tail (.args d (hn.grows steps.grows) fun a ha => lives _ ha a rfl)

variable {op : Operation} (he : (p, op) ∈ c.programs.stream)
include he

theorem wp_addStore_steps (hop : op.opcode = .store) : wp (addStore resolve p op) (fun r s' =>
    c.Steps s s' ∧ (∀ n, r = some n → s'.graph.Lives p n) ∧ (s'.noted? op).isSome = true)
      (fun _ => True) s := by
  obtain ⟨i, -, hi⟩ := cat.id _ he
  have visit : ∀ {s : BuildState} {x}, (∀ n, x = some n → s.graph.Lives p n) →
      c.Step s { s with visited := s.visited.insert i x } :=
    fun live => .visit he hi live fun hs => absurd hop hs
  by_cases ho : ∃ value destination rest, op.operands = value :: destination :: rest
  · obtain ⟨value, destination, rest, ho⟩ := ho
    rw [addStore_eq resolve p op ho, wp_bind]
    refine (hres p destination s inv).mono fun r s₁ ⟨steps, lives⟩ => ?_
    cases r with
    | none =>
      rw [wp_bind, wp_remember hi, wp_pure]
      exact ⟨steps.tail (visit nofun), nofun, isSome_noted?_insert _ hi⟩
    | some d =>
      have live := (lives d rfl).2
      rw [wp_bind, wp_remember hi, wp_bind, wp_update, wp_bind, wp_update, wp_bind]
      have ready := ((steps.tail (visit fun n hn => (lives n hn).2)).tail (.note d idle_recordAccess)).tail
        (.note d (idle_located op.location))
      have live₂ := (live.grows (.single (.modify d idle_recordAccess.benign))).grows
        (.single (.modify d (idle_located op.location).benign))
      refine (wp_linkOperand_steps hres (Steps.grounded cat ready inv) live₂.given false value).mono
        fun _ s₃ next => ⟨ready.trans next, fun n hn => ?_, next.isSome_noted? (isSome_noted?_insert _ hi)⟩
      cases hn
      exact live₂.grows next.grows
  · have short : addStore resolve p op = (do Build.remember op none; return none) := by
      unfold addStore
      split
      · next value destination rest ho' => exact absurd ⟨value, destination, rest, ho'⟩ ho
      · rfl
    rw [short, wp_bind, wp_remember hi, wp_pure]
    exact ⟨.single (visit nofun), nofun, isSome_noted?_insert _ hi⟩

variable (homed : c.programs.Homed)
include homed

section Unvisited

variable (unvisited : s.noted? op = none) (free : op.result.bind (s.graph.findNode · p) = none)
include unvisited free

theorem wp_addPlain_steps : wp (c.addPlain resolve p op) (fun n s' =>
    c.Steps s s' ∧ s'.graph.Lives p n ∧ (s'.noted? op).isSome = true) (fun _ => True) s := by
  obtain ⟨i, -, hi⟩ := cat.id _ he
  rw [addPlain_eq, wp_bind]
  refine (wp_operationNode_steps inv homed he unvisited free).mono fun n s₁ ⟨steps, live, bound⟩ => ?_
  rw [wp_bind, wp_remember hi, wp_bind, wp_update, wp_bind]
  have visit : c.Step s₁ { s₁ with visited := s₁.visited.insert i (some n) } := by
    refine .visit he hi (fun m hm => ?_) fun _ _ v hv hk => ⟨rfl, (bound v hv hk).symm⟩
    cases hm
    exact live
  have ready := (steps.tail visit).tail (.note n (idle_located op.location))
  have live₂ := live.grows (.single (.modify n (idle_located op.location).benign))
  refine (wp_linkOperands_steps hres (Steps.grounded cat ready inv) cat live₂.given op).mono fun _ s₃ next => ?_
  rw [wp_pure]
  exact ⟨ready.trans next, live₂.grows next.grows, next.isSome_noted? (isSome_noted?_insert _ hi)⟩

theorem wp_addCall_steps : wp (c.addCall resolve p op) (fun n s' =>
    c.Steps s s' ∧ s'.graph.Lives p n ∧ (s'.noted? op).isSome = true) (fun _ => True) s := by
  obtain ⟨i, -, hi⟩ := cat.id _ he
  rw [addCall_eq, wp_bind]
  refine (wp_callNode_steps inv homed he unvisited free _).mono
    fun n s₁ ⟨steps, live, face, bound⟩ => ?_
  rw [wp_bind, wp_remember hi, wp_bind, wp_update, wp_bind]
  have visit : c.Step s₁ { s₁ with visited := s₁.visited.insert i (some n) } := by
    refine .visit he hi (fun m hm => ?_) fun _ _ v hv hk => ⟨rfl, (bound v hv hk).symm⟩
    cases hm
    exact live
  have linked : c.Steps { s₁ with visited := s₁.visited.insert i (some n) }
      ⟨c.linkedByLevel p op n (c.callDirection? p op) s₁.graph, s₁.visited.insert i (some n)⟩ := by
    unfold linkedByLevel
    cases hd : c.callDirection? p op with
    | none => exact .refl
    | some d => exact .single (.correlate _ (hd ▸ face))
  have ready := (steps.tail visit).trans linked
  have live₂ := live.grows linked.grows
  refine (wp_linkArguments_steps hres (Steps.grounded cat ready inv) cat live₂.given op _).mono
    fun _ s₃ next => ?_
  have ready₃ := ready.trans next
  have live₃ := live₂.grows next.grows
  rw [wp_bind]
  refine (wp_linkResult_steps (Steps.grounded cat ready₃ inv) homed he live₃.given).mono fun _ s₄ last => ?_
  exact ⟨ready₃.trans last, live₃.grows last.grows,
    last.isSome_noted? (next.isSome_noted? (isSome_noted?_insert _ hi))⟩

end Unvisited

theorem wp_expand_steps : wp (c.expand resolve p op) (fun r s' =>
    c.Steps s s' ∧ (∀ n, r = some n → s'.graph.Lives p n) ∧ (s'.noted? op).isSome = true)
      (fun _ => True) s := by
  obtain ⟨i, -, hi⟩ := cat.id _ he
  simp only [expand, monadLift_self, enter_eq, pure_bind]
  rw [wp_bind, wp_visited?]
  split
  · next x hx =>
    refine ⟨.refl, fun n hn => inv.noted _ he n (hx.trans (congrArg some hn)), ?_⟩
    rw [BuildState.noted?, hx]
    rfl
  · next unvisited =>
    rw [wp_bind, wp_graph]
    split
    · -- the result has a node already
      next n hn =>
      obtain ⟨v, hv, hn⟩ := Option.bind_eq_some_iff.1 hn
      have live : ∀ m, some n = some m → s.graph.Lives p m := by
        rintro m ⟨⟩
        exact inv.lives_findNode hn
      rw [wp_bind, wp_remember hi, wp_pure]
      refine ⟨.single (.visit he hi live fun _ _ w hw hk => ⟨rfl, ?_⟩), live, isSome_noted?_insert _ hi⟩
      rw [hv] at hw
      cases hw
      cases program_of_findNode hn
      rw [← inv.byClass.findNode_of_none hk, hn]
    · next free =>
      split
      · next hex =>
        have excluded : c.excluded op = true := hex
        rw [wp_bind, wp_remember hi, wp_pure]
        have none : ∀ n, (none : Option NodeId) = some n → s.graph.Lives p n := by simp
        refine ⟨.single (.visit he hi none fun _ included => ?_), none, isSome_noted?_insert _ hi⟩
        rw [excluded] at included
        cases included
      · split
        · next hop => exact wp_addStore_steps hres inv cat he hop
        · rw [wp_map]
          refine (wp_addCall_steps hres inv cat he homed unvisited free).mono ?_
          rintro n s' ⟨steps, live, noted⟩
          refine ⟨steps, ?_, noted⟩
          rintro m ⟨⟩
          exact live
        · rw [wp_map]
          refine (wp_addPlain_steps hres inv cat he homed unvisited free).mono ?_
          rintro n s' ⟨steps, live, noted⟩
          refine ⟨steps, ?_, noted⟩
          rintro m ⟨⟩
          exact live

end Expand

/-! ## Resolving values -/

section Resolve

variable {c : BuildContext} (cat : c.programs.Catalogued) (homed : c.programs.Homed)
include cat homed

theorem walker_resolve (depth : Nat) : c.Walker (c.resolve depth) := by
  induction depth with
  | zero => exact fun _ _ _ _ => trivial
  | succ depth ih =>
    intro p v s inv
    simp only [BuildContext.resolve, monadLift_self]
    split
    · exact ⟨.refl, by simp⟩
    · next hp =>
      obtain rfl : v.program = p := not_not.1 hp
      rw [wp_bind, wp_graph]
      split
      · next n hn =>
        refine ⟨.refl, ?_⟩
        rintro m ⟨⟩
        exact ⟨rfl, inv.lives_findNode hn⟩
      · next unbound =>
        split
        · next k hk =>
          rw [wp_map]
          refine (wp_memNodeFor_steps inv hk).mono ?_
          rintro n s' ⟨steps, live⟩
          refine ⟨steps, ?_⟩
          rintro m ⟨⟩
          exact ⟨rfl, live⟩
        · next scalar =>
          split
          · next op hop =>
            obtain ⟨he, -⟩ := cat.mem_of_definition? homed hop
            rw [wp_bind]
            refine (wp_expand_steps ih inv cat he homed).mono ?_
            rintro r s' ⟨steps, live, -⟩
            rw [wp_bind, wp_graph, wp_pure]
            refine ⟨steps, fun n hn => ?_⟩
            rcases Option.or_eq_some_iff.1 hn with hn | ⟨-, hn⟩
            · exact ⟨rfl, (steps.grounded cat inv).lives_findNode hn⟩
            · exact ⟨rfl, live n hn⟩
          · next undefined =>
            split
            · next info hinfo =>
              have known : (c.programs.info? v).isSome = true := by rw [hinfo]; rfl
              refine wp_addVar (fun n g hg => ?_) fun _ => trivial
              obtain ⟨rfl, rfl⟩ := Graph.addNode_eq_ok hg
              have role := Graph.role?_place_fresh s.graph v.program (.var v) info.name
              have placed : c.Step s ⟨s.graph.place (s.graph.fresh v.program (.var v) info.name), s.visited⟩ :=
                .place rfl rfl rfl rfl rfl
              have defines : (NodeKind.var v).Defines v := ⟨rfl, by rintro ⟨⟩⟩
              refine ⟨.tail (.single placed) (.bindValue role defines scalar ?_
                (Or.inl ⟨undefined, known, rfl⟩)), ?_⟩
              · rw [valueNodes_place, ← inv.byClass.findNode_of_none scalar]
                exact unbound
              · rintro m ⟨⟩
                exact ⟨rfl, _, role⟩
            · exact ⟨.refl, by simp⟩

theorem walker_valueNode : c.Walker c.valueNode := walker_resolve cat homed _

/-- Expanding operations of the stream makes steps, and visits them. -/
theorem wp_addStream_steps {s : BuildState} (inv : c.Grounded s) {es : List (Program × Operation)}
    (hes : ∀ e ∈ es, e ∈ c.programs.stream) :
    wp (c.addStream es) (fun _ s' => c.Steps s s' ∧ ∀ e ∈ es, (s'.noted? e.2).isSome = true)
      (fun _ => True) s := by
  induction es generalizing s with
  | nil => exact ⟨.refl, by simp⟩
  | cons e es ih =>
    rw [addStream, wp_bind]
    refine (wp_expand_steps (walker_valueNode cat homed) inv cat (hes e List.mem_cons_self) homed).mono ?_
    rintro _ s₁ ⟨first, -, noted⟩
    rw [wp_bind]
    refine (ih (first.grounded cat inv) fun e' he' => hes e' (List.mem_cons_of_mem e he')).mono ?_
    rintro _ s₂ ⟨rest, all⟩
    refine ⟨first.trans rest, fun e' he' => ?_⟩
    rcases List.mem_cons.1 he' with rfl | he'
    · exact rest.isSome_noted? noted
    · exact all e' he'

theorem wp_buildAll_steps {s : BuildState} (inv : c.Grounded s) :
    wp c.buildAll (fun _ s' => c.Steps s s' ∧ ∀ e ∈ c.programs.stream, (s'.noted? e.2).isSome = true)
      (fun _ => True) s := by
  rw [buildAll_eq]
  exact wp_addStream_steps cat homed inv fun _ he => he

end Resolve

end BuildContext

end PeerTaint
