import PeerTaint.Proofs.BuildSteps
import PeerTaint.Proofs.Programs

/-!
What a builder knows while it expands operations.

`Wired` says how an expanded operation stands in the graph. `Sound` ties the bindings of values to
the operations visited so far: a result without an alias class has a node exactly when its operation
was visited, so an operation is passed over because its result has a node only when the result points
to memory. `Invariant` adds that the visited operations are wired, except for those of a set `D`: the
operations that stand on top of each other, and those that were passed over. `Keeps` says what no
step takes back.
-/

namespace PeerTaint

/-- Data flows from one node to another, unless they are the same. -/
def Graph.Flows (g : Graph) (a b : NodeId) : Prop := a ≠ b → g.edgeKind? a b = some .data

/-- With which node an operation was visited. -/
def BuildState.noted? (s : BuildState) (op : Operation) : Option (Option NodeId) :=
  op.id.bind s.visited.get?

namespace BuildContext

section Statements

variable (c : BuildContext)

/-- A terminator, while control flow is not wanted. -/
def excluded (op : Operation) : Bool := op.opcode.isTerminator && !c.config.includeControlFlow

/-- A value that can have no node in a program: it belongs to the other program, or an excluded
terminator defines it, or nothing is known about it. -/
def barren (p : Program) (v : Value) : Bool :=
  v.program ≠ p || (c.aliasKey? v).isNone &&
    match c.programs.definition? v with
    | some op => c.excluded op
    | none => (c.programs.info? v).isNone

/-- The value has a node, with the given link; or it can have none. -/
def Resolved (g : Graph) (p : Program) (v : Value) (link : NodeId → Prop) : Prop :=
  (c.barren p v = true ∧ g.findNode v p = none) ∨ ∃ a, g.findNode v p = some a ∧ link a

/-- An operand flows into a node. -/
def OperandLinked (g : Graph) (p : Program) (n : NodeId) (v : Value) : Prop :=
  c.Resolved g p v fun a => g.Flows a n

/-- An argument flows into a call, except for memory that data is received in. -/
def ArgumentLinked (g : Graph) (p : Program) (d : Option Direction) (n : NodeId) (v : Value) : Prop :=
  c.Resolved g p v fun a =>
    if d = some .recv ∧ g.isMem a = true then g.edgeKind? n a = some .data else g.Flows a n

/-- The stored value flows into the destination. -/
def StoreWired (g : Graph) (p : Program) (op : Operation) : Prop :=
  match op.operands with
  | value :: destination :: _ => c.Resolved g p destination fun d => c.OperandLinked g p d value
  | _ => True

/-- The node is that of the result's alias class, or one of the operation's own. -/
structure IsNodeOf (g : Graph) (p : Program) (op : Operation) (n : NodeId) : Prop where
  node : match c.pointerResult? op with
    | some (_, k) => g.findMem p k = some n
    | none => g.role? n = some (p, .op op.opcode op.result)
  result : ∀ v, op.result = some v → g.findNode v p = some n

/-- All operands flow into the node of the operation. -/
structure PlainWired (g : Graph) (p : Program) (op : Operation) (n : NodeId) : Prop
    extends c.IsNodeOf g p op n where
  operands : ∀ v ∈ op.operands, c.OperandLinked g p n v

/-- The call has a node of its own kind, linked with its arguments, and flows into the memory that its
result points to. -/
structure CallWired (g : Graph) (p : Program) (op : Operation) (n : NodeId) : Prop where
  node : g.role? n = some (p, callKind (callInfo op) (c.callDirection? p op))
  arguments : ∀ v ∈ op.operands, c.ArgumentLinked g p (c.callDirection? p op) n v
  result : ∀ v, op.result = some v →
    match c.aliasKey? v with
    | some k => ∃ m, g.findNode v p = some m ∧ g.findMem p k = some m ∧ g.edgeKind? n m = some .data
    | none => g.findNode v p = some n

/-- The operation stands in the graph with everything that flows into it and out of it. -/
def Wired (s : BuildState) (p : Program) (op : Operation) : Prop :=
  match op.opcode with
  | .store => c.StoreWired s.graph p op
  | .call => ∃ n, s.noted? op = some (some n) ∧ c.CallWired s.graph p op n
  | _ => ∃ n, s.noted? op = some (some n) ∧ c.PlainWired s.graph p op n

/-- Bindings and visited operations agree. Operations outside `A` are visited only for a result
without an alias class. -/
structure Sound (A : Set (Program × Operation)) (s : BuildState) : Prop where
  wf : s.graph.WellFormed
  memValue : ∀ v n, s.graph.memValues.get? v = some n →
    ∃ k, c.aliasKey? v = some k ∧ s.graph.findMem v.program k = some n
  value : ∀ v n, s.graph.valueNodes.get? v = some n →
    c.aliasKey? v = none ∧ c.barren v.program v = false
  settled : ∀ e ∈ c.programs.stream, ∀ v, e.2.result = some v → c.aliasKey? v = none →
    c.excluded e.2 = false → ((s.noted? e.2).isSome = true ↔ (s.graph.valueNodes.get? v).isSome = true)
  terminator : ∀ e ∈ c.programs.stream, ∀ v, e.2.result = some v → c.aliasKey? v = none →
    c.excluded e.2 = true → ∀ x, s.noted? e.2 = some x → x = none
  started : ∀ e ∈ c.programs.stream, (s.noted? e.2).isSome = true →
    e ∈ A ∨ ∃ v, e.2.result = some v ∧ c.aliasKey? v = none

/-- The visited operations outside `D` are wired. -/
structure Invariant (A : Set (Program × Operation)) (D : Set Operation) (s : BuildState) : Prop
    extends c.Sound A s where
  wired : ∀ e ∈ c.programs.stream, (s.noted? e.2).isSome = true → e.2 ∉ D → c.excluded e.2 = false →
    c.Wired s e.1 e.2

end Statements

/-- Nothing is taken back, and only values of `N` become pointers to memory that has a node. -/
structure Keeps (N : Set Value) (s s' : BuildState) : Prop where
  graph : s.graph.Extends s'.graph
  memValue : ∀ v n, s.graph.memValues.get? v = some n → s'.graph.memValues.get? v = some n
  value : ∀ v n, s.graph.valueNodes.get? v = some n → s'.graph.valueNodes.get? v = some n
  visited : ∀ i x, s.visited.get? i = some x → s'.visited.get? i = some x
  new : ∀ v, (s'.graph.memValues.get? v).isSome = true →
    (s.graph.memValues.get? v).isSome = true ∨ v ∈ N

theorem Keeps.refl (N : Set Value) (s : BuildState) : Keeps N s s :=
  ⟨.refl _, fun _ _ h => h, fun _ _ h => h, fun _ _ h => h, fun _ h => Or.inl h⟩

theorem Keeps.trans {N : Set Value} {s₁ s₂ s₃ : BuildState} (h : Keeps N s₁ s₂) (h' : Keeps N s₂ s₃) :
    Keeps N s₁ s₃ where
  graph := h.graph.trans h'.graph
  memValue v n hv := h'.memValue v n (h.memValue v n hv)
  value v n hv := h'.value v n (h.value v n hv)
  visited i x hi := h'.visited i x (h.visited i x hi)
  new v hv := by
    rcases h'.new v hv with hv | hv
    · exact h.new v hv
    · exact Or.inr hv

theorem Keeps.noted? {N : Set Value} {s s' : BuildState} (h : Keeps N s s') {op : Operation}
    {x : Option NodeId} (hx : s.noted? op = some x) : s'.noted? op = some x := by
  obtain ⟨i, hi, hx⟩ := Option.bind_eq_some_iff.1 hx
  exact Option.bind_eq_some_iff.2 ⟨i, hi, h.visited i x hx⟩

theorem Keeps.isSome_noted? {N : Set Value} {s s' : BuildState} (h : Keeps N s s') {op : Operation}
    (hx : (s.noted? op).isSome = true) : (s'.noted? op).isSome = true := by
  obtain ⟨x, hx⟩ := Option.isSome_iff_exists.1 hx
  rw [h.noted? hx]
  rfl

/-! ## The node of a value -/

/-- Values with an alias class are bound to memory, and others to nodes of their own. -/
structure ByClass (c : BuildContext) (g : Graph) : Prop where
  value : ∀ v n, g.valueNodes.get? v = some n → c.aliasKey? v = none
  memValue : ∀ v n, g.memValues.get? v = some n → ∃ k, c.aliasKey? v = some k

theorem ByClass.findNode_of_some {c : BuildContext} {g : Graph} (h : c.ByClass g) {v : Value} {k : AliasKey}
    (hk : c.aliasKey? v = some k) : g.findNode v v.program = g.memValues.get? v := by
  unfold Graph.findNode
  rw [if_pos rfl]
  cases hv : g.valueNodes.get? v with
  | none => exact Option.or_none
  | some n =>
    rw [h.value v n hv] at hk
    cases hk

theorem ByClass.findNode_of_none {c : BuildContext} {g : Graph} (h : c.ByClass g) {v : Value}
    (hk : c.aliasKey? v = none) : g.findNode v v.program = g.valueNodes.get? v := by
  unfold Graph.findNode
  rw [if_pos rfl]
  cases hv : g.memValues.get? v with
  | none => rfl
  | some n =>
    obtain ⟨k, hk'⟩ := h.memValue v n hv
    rw [hk] at hk'
    cases hk'

section FindNode

variable {c : BuildContext} {A : Set (Program × Operation)} {s s' : BuildState} (h : c.Sound A s)
  {v : Value} {p : Program}
include h

theorem Sound.byClass : c.ByClass s.graph where
  value v n hv := (h.value v n hv).1
  memValue v n hv := (h.memValue v n hv).imp fun _ hk => hk.1

omit h in
theorem program_of_findNode {g : Graph} {n : NodeId} (hn : g.findNode v p = some n) : v.program = p := by
  unfold Graph.findNode at hn
  split at hn
  · assumption
  · cases hn

/-- The node of a value is live. -/
theorem Sound.role?_findNode {n : NodeId} (hn : s.graph.findNode v p = some n) :
    ∃ ρ, s.graph.role? n = some ρ := by
  cases program_of_findNode hn
  cases hk : c.aliasKey? v with
  | some k =>
    rw [h.byClass.findNode_of_some hk] at hn
    obtain ⟨q, k, hr⟩ := h.wf.memValue v n hn
    exact ⟨_, hr⟩
  | none =>
    rw [h.byClass.findNode_of_none hk] at hn
    obtain ⟨q, kind, hr, -⟩ := h.wf.value v n hn
    exact ⟨_, hr⟩

theorem Sound.findNode_barren (hb : c.barren p v = true) : s.graph.findNode v p = none := by
  cases hn : s.graph.findNode v p with
  | none => rfl
  | some n =>
    cases program_of_findNode hn
    cases hk : c.aliasKey? v with
    | some k => simp [barren, hk] at hb
    | none =>
      rw [h.byClass.findNode_of_none hk] at hn
      rw [(h.value v n hn).2] at hb
      cases hb

theorem Sound.findNode_keeps {N : Set Value} {A' : Set (Program × Operation)} (h' : c.Sound A' s')
    (keeps : Keeps N s s') {n : NodeId} (hn : s.graph.findNode v p = some n) :
    s'.graph.findNode v p = some n := by
  cases program_of_findNode hn
  cases hk : c.aliasKey? v with
  | some k =>
    rw [h.byClass.findNode_of_some hk] at hn
    rw [h'.byClass.findNode_of_some hk]
    exact keeps.memValue v n hn
  | none =>
    rw [h.byClass.findNode_of_none hk] at hn
    rw [h'.byClass.findNode_of_none hk]
    exact keeps.value v n hn

end FindNode

/-! ## What is wired stays wired -/

section Keeps

variable {c : BuildContext} {A A' : Set (Program × Operation)} {N : Set Value} {s s' : BuildState}
  {p : Program} {op : Operation} {n : NodeId}

theorem Keeps.flows (kept : Keeps N s s') {a b : NodeId} (hab : s.graph.Flows a b) :
    s'.graph.Flows a b :=
  fun hne => kept.graph.data a b (hab hne)

variable (h : c.Sound A s) (h' : c.Sound A' s') (kept : Keeps N s s')
include h h' kept

theorem Resolved.keeps {v : Value} {link link' : NodeId → Prop} (hv : c.Resolved s.graph p v link)
    (hl : ∀ a ρ, s.graph.role? a = some ρ → link a → link' a) : c.Resolved s'.graph p v link' := by
  rcases hv with ⟨hb, -⟩ | ⟨a, ha, hla⟩
  · exact Or.inl ⟨hb, h'.findNode_barren hb⟩
  · obtain ⟨ρ, hρ⟩ := h.role?_findNode ha
    exact Or.inr ⟨a, h.findNode_keeps h' kept ha, hl a ρ hρ hla⟩

theorem OperandLinked.keeps {v : Value} (hv : c.OperandLinked s.graph p n v) :
    c.OperandLinked s'.graph p n v :=
  Resolved.keeps h h' kept hv fun _ _ _ ha => kept.flows ha

theorem ArgumentLinked.keeps {v : Value} {d : Option Direction}
    (hv : c.ArgumentLinked s.graph p d n v) : c.ArgumentLinked s'.graph p d n v := by
  refine Resolved.keeps h h' kept hv fun a ρ hρ ha => ?_
  -- the node of an argument stays what it is
  have same : s'.graph.isMem a = s.graph.isMem a := by
    rw [Graph.isMem_of_role? hρ, Graph.isMem_of_role? (kept.graph.role a ρ hρ)]
  rw [same]
  split
  · next hc => rw [if_pos hc] at ha; exact kept.graph.data n a ha
  · next hc => rw [if_neg hc] at ha; exact kept.flows ha

theorem StoreWired.keeps (hw : c.StoreWired s.graph p op) : c.StoreWired s'.graph p op := by
  unfold StoreWired at hw ⊢
  split
  · next value destination _ ho =>
    rw [ho] at hw
    exact Resolved.keeps h h' kept hw fun d _ _ hd => OperandLinked.keeps h h' kept hd
  · trivial

theorem IsNodeOf.keeps (hw : c.IsNodeOf s.graph p op n) : c.IsNodeOf s'.graph p op n where
  node := by
    have := hw.node
    split at this
    · exact kept.graph.mem _ _ _ this
    · exact kept.graph.role _ _ this
  result v hv := h.findNode_keeps h' kept (hw.result v hv)

theorem PlainWired.keeps (hw : c.PlainWired s.graph p op n) : c.PlainWired s'.graph p op n where
  toIsNodeOf := IsNodeOf.keeps h h' kept hw.toIsNodeOf
  operands v hv := OperandLinked.keeps h h' kept (hw.operands v hv)

theorem CallWired.keeps (hw : c.CallWired s.graph p op n) : c.CallWired s'.graph p op n where
  node := kept.graph.role _ _ hw.node
  arguments v hv := ArgumentLinked.keeps h h' kept (hw.arguments v hv)
  result v hv := by
    have := hw.result v hv
    split
    · next k hk =>
      rw [hk] at this
      obtain ⟨m, hm, hf, he⟩ := this
      exact ⟨m, h.findNode_keeps h' kept hm, kept.graph.mem _ _ _ hf, kept.graph.data n m he⟩
    · next hk =>
      rw [hk] at this
      exact h.findNode_keeps h' kept this

theorem Wired.keeps (hw : c.Wired s p op) : c.Wired s' p op := by
  unfold Wired at hw ⊢
  split at hw
  · exact StoreWired.keeps h h' kept hw
  · obtain ⟨n, hn, hw⟩ := hw
    exact ⟨n, kept.noted? hn, CallWired.keeps h h' kept hw⟩
  · obtain ⟨n, hn, hw⟩ := hw
    exact ⟨n, kept.noted? hn, PlainWired.keeps h h' kept hw⟩

end Keeps

end BuildContext

end PeerTaint
