import PeerTaint.Proofs.Bindings

/-!
Linking an operation with its operands.

`Resolves` says what a resolver guarantees: the value has its node, or it can have none, and every
operation that was visited on the way is wired. With such a resolver, the operands of an operation
that is `Underway` are linked one after the other, and a link that is drawn stays.
-/

namespace PeerTaint

/-- An edge that is drawn is there. -/
theorem Graph.edgeKind?_connect {g : Graph} {a b : NodeId} {ρ σ : Program × NodeKind} (hab : a ≠ b)
    (ha : g.role? a = some ρ) (hb : g.role? b = some σ) :
    (g.connect a b .data).2.edgeKind? a b = some .data := by
  have live : ∀ {n τ}, g.role? n = some τ → g.isLive n = true := by
    intro n τ hn
    rw [Graph.isLive_eq_isSome_role?, hn]
    rfl
  rw [Graph.edgeKind?_flow, if_pos ⟨rfl, rfl, hab, live ha, live hb⟩]

namespace BuildContext

open Build

section Statements

variable (c : BuildContext)

/-- The values that expanding an operation resolves itself. The stored value counts only when the
destination has a node. -/
def uses (p : Program) (op : Operation) : List Value :=
  if op.opcode = .store then
    match op.operands with
    | value :: destination :: _ =>
      if c.barren p destination then [destination] else [destination, value]
    | _ => []
  else op.operands

/-- With a value, the set has everything that resolving it resolves. -/
def Closed (p : Program) (N : Set Value) : Prop :=
  ∀ v ∈ N, c.aliasKey? v = none → ∀ op, c.programs.definition? v = some op → c.excluded op = false →
    ∀ w ∈ c.uses p op, w.program = p → w ∈ N

/-- Why building stops: there are no handles left, or the oracle puts a value into a class that does
not list it. -/
def Stopped : BuildFault → Prop
  | .graph e => ∃ slots, nodeCapacity ≤ slots ∧ e = .capacityExceeded slots
  | .inconsistentOracle v k =>
    c.aliasKey? v = some k ∧ (c.oracle.members? k).any (·.contains v) = false
  | .endlessStore => False

theorem stopped_full (slots : Nat) (h : nodeCapacity ≤ slots) :
    c.Stopped (.graph (.capacityExceeded slots)) := ⟨slots, h, rfl⟩

theorem stopped_inconsistent {v : Value} {k : AliasKey} (hk : c.aliasKey? v = some k)
    (h : (c.oracle.members? k).any (·.contains v) = false) : c.Stopped (.inconsistentOracle v k) :=
  ⟨hk, h⟩

/-- What a resolver guarantees, as long as fewer than `k` operations were not visited. -/
def Resolves (resolve : Resolver) (k : Nat) : Prop :=
  ∀ p v A D N s, c.Closed p N → (v.program = p → v ∈ N) → c.Invariant A D s → c.unseen s < k →
    wp (resolve p v) (fun r s' => c.Advances A D N s s' ∧ r = s'.graph.findNode v p ∧
      (r = none → c.barren p v = true)) c.Stopped s

end Statements

/-! ## Operands and arguments -/

section Link

variable {c : BuildContext} {p : Program} {A : Set (Program × Operation)} {D : Set Operation}
  {N : Set Value} {k : Nat} {resolve : Resolver} {s : BuildState} {n : NodeId}
  {ρ : Program × NodeKind} {v : Value}
  (hres : c.Resolves resolve k) (closed : c.Closed p N) (hv : v.program = p → v ∈ N)
  (inv : c.Invariant A D s) (hk : c.unseen s < k) (hn : s.graph.role? n = some ρ)
include hres closed hv inv hk hn

theorem wp_linkOperand (isRead : Bool) : wp (linkOperand resolve p n isRead v)
    (fun _ s' => c.Advances A D N s s' ∧ c.OperandLinked s'.graph p n v) c.Stopped s := by
  simp only [linkOperand, monadLift_self]
  rw [wp_bind]
  refine (hres p v A D N s closed hv inv hk).mono fun r s₁ ⟨adv, hr, hb⟩ => ?_
  cases r with
  | none => exact ⟨adv, Or.inl ⟨hb rfl, hr.symm⟩⟩
  | some a =>
    obtain ⟨σ, ha⟩ := adv.inv.role?_findNode hr.symm
    have hn₁ := adv.keeps.graph.role n ρ hn
    dsimp only
    rw [wp_bind, wp_isMem]
    split
    · rw [wp_bind, wp_update, wp_flow]
      have access : s₁.graph.Quiet (s₁.graph.recordAccess a) :=
        .modify (by exact ⟨fun _ => rfl, fun _ => rfl⟩) _ a
      refine adv.linked hr.symm (access.trans (.connect _ a n .data)) fun hne => ?_
      exact Graph.edgeKind?_connect hne (access.grows.extension.role _ _ ha)
        (access.grows.extension.role _ _ hn₁)
    · rw [wp_flow]
      refine adv.linked hr.symm (.connect _ a n .data) fun hne => ?_
      exact Graph.edgeKind?_connect hne ha hn₁

theorem wp_linkArgument (d : Option Direction) (hmem : ρ.2.isMem = false) :
    wp (linkArgument resolve p n d v)
      (fun _ s' => c.Advances A D N s s' ∧ c.ArgumentLinked s'.graph p d n v) c.Stopped s := by
  simp only [linkArgument, monadLift_self]
  rw [wp_bind]
  refine (hres p v A D N s closed hv inv hk).mono fun r s₁ ⟨adv, hr, hb⟩ => ?_
  cases r with
  | none => exact ⟨adv, Or.inl ⟨hb rfl, hr.symm⟩⟩
  | some a =>
    obtain ⟨σ, ha⟩ := adv.inv.role?_findNode hr.symm
    have hn₁ := adv.keeps.graph.role n ρ hn
    -- the argument keeps its kind through what follows
    have same : ∀ {g}, s₁.graph.Quiet g → g.isMem a = s₁.graph.isMem a := by
      intro g q
      rw [Graph.isMem_of_role? ha, Graph.isMem_of_role? (q.grows.extension.role a σ ha)]
    dsimp only
    rw [wp_bind, wp_isMem]
    split
    · next hc =>
      simp only [Bool.and_eq_true, decide_eq_true_eq] at hc
      have hna : n ≠ a := by
        rintro rfl
        rw [Graph.isMem_of_role? hn₁, hmem] at hc
        cases hc.2
      have edge := Graph.edgeKind?_connect hna hn₁ ha
      have rest : Graph.Quiet (s₁.graph.connect n a .data).2
          (((s₁.graph.connect n a .data).2.recordAccess a).modifyNode a fun node =>
            { node with netDependent := true }) :=
        .trans (.modify (by exact ⟨fun _ => rfl, fun _ => rfl⟩) _ a)
          (.modify (by exact ⟨fun _ => rfl, fun _ => rfl⟩) _ a)
      have q := (Graph.Quiet.connect s₁.graph n a .data).trans rest
      simp only [wp_bind, wp_flow, wp_update, wp_pure]
      refine adv.linked hr.symm q ?_
      rw [same q, if_pos hc]
      exact rest.grows.extension.data n a edge
    · next hc =>
      simp only [Bool.and_eq_true, decide_eq_true_eq] at hc
      have q := Graph.Quiet.connect s₁.graph a n .data
      simp only [wp_bind, wp_flow, wp_pure]
      refine adv.linked hr.symm q ?_
      rw [same q, if_neg hc]
      exact fun hne => Graph.edgeKind?_connect hne ha hn₁

end Link

/-! ## Expanding an operation -/

theorem wired_iff_plain {c : BuildContext} {s : BuildState} {p : Program} {op : Operation}
    (hs : op.opcode ≠ .store) (hc : op.opcode ≠ .call) :
    c.Wired s p op ↔ ∃ n, s.noted? op = some (some n) ∧ c.PlainWired s.graph p op n := by
  unfold Wired
  split
  · next h => exact absurd h hs
  · next h => exact absurd h hc
  · exact Iff.rfl

/-- The operation `op` was visited with the node `n`, but its operands are not all linked yet. -/
structure Underway (c : BuildContext) (A : Set (Program × Operation)) (D : Set Operation) (N : Set Value)
    (k : Nat) (s : BuildState) (op : Operation) (n : NodeId) (ρ : Program × NodeKind)
    (s' : BuildState) : Prop where
  adv : c.Advances A (insert op D) N s s'
  noted : s'.noted? op = some (some n)
  fewer : c.unseen s' < k
  role : s'.graph.role? n = some ρ

theorem wired_iff_call {c : BuildContext} {s : BuildState} {p : Program} {op : Operation}
    (hc : op.opcode = .call) :
    c.Wired s p op ↔ ∃ n, s.noted? op = some (some n) ∧ c.CallWired s.graph p op n := by
  rw [Wired, hc]

theorem isMem_callKind (info : CallInfo) (d : Option Direction) : (callKind info d).isMem = false := by
  cases d with
  | none => rfl
  | some d => cases d <;> rfl

theorem bare_callKind (op : Operation) (d : Option Direction) :
    (callKind (callInfo op) d).bare = callKind (callInfo op) d := by
  cases d with
  | none => rfl
  | some d => cases d <;> rfl

section Expand

variable {c : BuildContext} {p : Program} {A : Set (Program × Operation)} {D : Set Operation}
  {N : Set Value} {k : Nat} {resolve : Resolver} {s s₁ s₂ : BuildState} {op : Operation} {n : NodeId}
  {ρ : Program × NodeKind}

theorem Underway.next (h : c.Underway A D N k s op n ρ s₁) (step : c.Advances A (insert op D) N s₁ s₂) :
    c.Underway A D N k s op n ρ s₂ where
  adv := h.adv.trans step
  noted := step.keeps.noted? h.noted
  fewer := (unseen_le fun _ => step.keeps.isSome_noted?).trans_lt h.fewer
  role := step.keeps.graph.role n ρ h.role

theorem Underway.quiet (h : c.Underway A D N k s op n ρ s₁) {g : Graph} (q : s₁.graph.Quiet g) :
    c.Underway A D N k s op n ρ { s₁ with graph := g } :=
  h.next (h.adv.inv.quiet q)

theorem IsNodeOf.role {g : Graph} (wf : g.WellFormed) (h : c.IsNodeOf g p op n) :
    ∃ ρ, g.role? n = some ρ := by
  have := h.node
  split at this
  · exact ⟨_, wf.mem _ _ _ this⟩
  · exact ⟨_, this⟩

section Operands

variable (hres : c.Resolves resolve k) (closed : c.Closed p N)
  (hN : ∀ v ∈ op.operands, v.program = p → v ∈ N) (h : c.Underway A D N k s op n ρ s₁)
include hres closed hN h

theorem wp_operand (isRead : Bool) {v : Value} (hv : v ∈ op.operands) :
    wp (linkOperand resolve p n isRead v) (fun _ s' => c.Underway A D N k s op n ρ s' ∧
      c.OperandLinked s'.graph p n v ∧
      ∀ w, c.OperandLinked s₁.graph p n w → c.OperandLinked s'.graph p n w) c.Stopped s₁ := by
  refine (wp_linkOperand hres closed (hN v hv) h.adv.inv h.fewer h.role isRead).mono
    fun _ s' ⟨step, linked⟩ => ⟨h.next step, linked, fun w hw => ?_⟩
  exact OperandLinked.keeps h.adv.inv.toSound step.inv.toSound step.keeps hw

theorem wp_operands : wp (linkOperands resolve p op n)
    (fun _ s' => c.Underway A D N k s op n ρ s' ∧ ∀ v ∈ op.operands, c.OperandLinked s'.graph p n v)
    c.Stopped s₁ := by
  unfold linkOperands
  cases ho : op.operands with
  | nil => exact ⟨h, nofun⟩
  | cons v vs =>
    rw [wp_bind]
    refine (wp_operand hres closed hN h _ (by simp [ho])).mono fun _ s₂ ⟨h₂, linked, _⟩ => ?_
    refine (wp_forM (P := fun w s' => c.OperandLinked s'.graph p n w) h₂ fun w hw s₃ h₃ => ?_).mono
      fun _ s₃ ⟨h₃, all, keep⟩ => ⟨h₃, fun w hw => ?_⟩
    · exact wp_operand hres closed hN h₃ false (by simp [ho, hw])
    · rcases List.mem_cons.1 hw with rfl | hw
      · exact keep w linked
      · exact all w hw

/-- A call is linked with its arguments. -/
theorem wp_arguments {d : Option Direction} (hmem : ρ.2.isMem = false) :
    wp (linkArguments resolve p op n d)
      (fun _ s' => c.Underway A D N k s op n ρ s' ∧ ∀ v ∈ op.operands, c.ArgumentLinked s'.graph p d n v)
      c.Stopped s₁ := by
  rw [linkArguments_eq, wp_bind]
  refine (wp_mapM (P := fun w s' => c.ArgumentLinked s'.graph p d n w) h fun v hv s₂ h₂ => ?_).mono
    fun args s₂ ⟨h₂, all, _⟩ => ?_
  · refine (wp_linkArgument hres closed (hN v hv) h₂.adv.inv h₂.fewer h₂.role d hmem).mono
      fun _ s' ⟨step, linked⟩ => ⟨h₂.next step, linked, fun w hw => ?_⟩
    exact ArgumentLinked.keeps h₂.adv.inv.toSound step.inv.toSound step.keeps hw
  · have step :
        c.Advances A (insert op D) N s₂ { s₂ with graph := s₂.graph.modifyNode n (withArgs args d) } :=
      h₂.adv.inv.quiet (.modify (benign_withArgs args d) _ n)
    refine ⟨h₂.next step, fun v hv => ?_⟩
    exact ArgumentLinked.keeps h₂.adv.inv.toSound step.inv.toSound step.keeps (all v hv)

end Operands

/-- A call flows into the memory that its result points to. -/
theorem wp_linkResult (ord : c.programs.Orderly) (he : (p, op) ∈ c.programs.stream)
    (hr : ∀ v, op.result = some v → v ∈ N) (inv : c.Invariant A D s) (role : s.graph.role? n = some ρ)
    (hmem : ρ.2.isMem = false) :
    wp (c.linkResult p op n) (fun _ s' => c.Advances A D N s s' ∧
      ∀ v j, op.result = some v → c.aliasKey? v = some j → ∃ m, s'.graph.findNode v p = some m ∧
        s'.graph.findMem p j = some m ∧ s'.graph.edgeKind? n m = some .data) c.Stopped s := by
  unfold linkResult
  split
  · next v j hp =>
    obtain ⟨hv, hj⟩ := pointerResult?_eq_some_iff.1 hp
    cases ord.home (p, op) he v hv
    rw [wp_bind]
    refine wp_memNodeFor (fun m g hm => ?_) (c.stopped_full _) (c.stopped_inconsistent hj)
    have bound : c.Advances A D N s _ := inv.bindMem hj hm (hr v hv)
    obtain ⟨found, mem⟩ := findNode_bindMem inv.toSound hj hm
    have q := Graph.Quiet.connect (g.bindMemValue v m) n m .data
    have step : c.Advances A D N { s with graph := g.bindMemValue v m } _ := bound.inv.quiet q
    have roleMem := bound.inv.wf.mem _ _ _ mem
    have role' := bound.keeps.graph.role n ρ role
    have hne : n ≠ m := by
      rintro rfl
      rw [role'] at roleMem
      cases roleMem
      cases hmem
    rw [wp_flow]
    refine ⟨bound.trans step, fun w j' hw hj' => ?_⟩
    rw [hv] at hw
    cases hw
    rw [hj] at hj'
    cases hj'
    exact ⟨m, bound.inv.findNode_keeps step.inv.toSound step.keeps found,
      q.grows.extension.mem _ _ _ mem, Graph.edgeKind?_connect hne role' roleMem⟩
  · next hp =>
    refine ⟨⟨inv, .refl N s⟩, fun v j hv hj => ?_⟩
    rw [pointerResult?_eq_some_iff.2 ⟨hv, hj⟩] at hp
    cases hp

end Expand

end BuildContext

end PeerTaint
