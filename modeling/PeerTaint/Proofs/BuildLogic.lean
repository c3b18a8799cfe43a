import PeerTaint.Build.Splice
import PeerTaint.Proofs.Evolution

/-!
Reasoning about builders.

`wp x Q E s` says how the builder step `x` ends from the state `s`: with an answer and a state as in
`Q`, or with a fault as in `E`. Each combinator of builder steps has one rule, and so has each of
the steps that make a node. `Leads R x` is the special case that only relates the states before and after
the step, and `Along r x` the one that only looks at how the graph changes.
-/

namespace PeerTaint

open Relation (ReflTransGen)

/-- A result of which something is known is there. -/
theorem exists_of_map_eq_ok {ε α β : Type} {x : Except ε α} {f : α → β} {b : β} (h : x.map f = .ok b) :
    ∃ a, x = .ok a ∧ f a = b := by
  cases x with
  | error e => cases h
  | ok a => exact ⟨a, rfl, Except.ok.inj h⟩

/-- What is computed from a result has this result. -/
theorem exists_of_bind_eq_ok {ε α β : Type} {x : Except ε α} {f : α → Except ε β} {b : β}
    (h : (x >>= f) = .ok b) : ∃ a, x = .ok a ∧ f a = .ok b := by
  cases x with
  | error e => cases h
  | ok a => exact ⟨a, rfl, h⟩

namespace Build

variable {α β : Type}

/-- From `s`, the step ends with an answer and a state as in `Q`, or with a fault as in `E`. -/
def wp (x : Build α) (Q : α → BuildState → Prop) (E : BuildFault → Prop) (s : BuildState) : Prop :=
  match x.run s with
  | .ok (a, s') => Q a s'
  | .error f => E f

section Rules

variable {Q Q' : α → BuildState → Prop} {E : BuildFault → Prop} {s : BuildState}

/-- What every successful run satisfies can be used for the answer. -/
theorem wp.of_run {x : Build α} (h : wp x Q E s)
    (hQ : ∀ a s', x.run s = .ok (a, s') → Q a s' → Q' a s') : wp x Q' E s := by
  unfold wp at h ⊢
  cases hx : x.run s with
  | ok r => rw [hx] at h; exact hQ r.1 r.2 hx h
  | error f => rw [hx] at h; exact h

theorem wp.mono {x : Build α} (h : wp x Q E s) (hQ : ∀ a s', Q a s' → Q' a s') : wp x Q' E s :=
  h.of_run fun a s' _ => hQ a s'

theorem wp.weaken {x : Build α} {E' : BuildFault → Prop} (h : wp x Q E s)
    (hQ : ∀ a s', Q a s' → Q' a s') (hE : ∀ f, E f → E' f) : wp x Q' E' s := by
  unfold wp at h ⊢
  cases hx : x.run s with
  | ok r => rw [hx] at h; exact hQ r.1 r.2 h
  | error f => rw [hx] at h; exact hE f h

theorem wp.run {x : Build α} (h : wp x Q E s) {a : α} {s' : BuildState} (hx : x.run s = .ok (a, s')) :
    Q a s' := by
  unfold wp at h
  rwa [hx] at h

/-- What is known about a step in two ways holds together. -/
theorem wp.and {x : Build α} {E' : BuildFault → Prop} (h : wp x Q E s) (h' : wp x Q' E' s) :
    wp x (fun a s' => Q a s' ∧ Q' a s') E s :=
  h.of_run fun _ _ run hQ => ⟨hQ, h'.run run⟩

theorem wp.fault {x : Build α} (h : wp x Q E s) {f : BuildFault} (hx : x.run s = .error f) : E f := by
  unfold wp at h
  rwa [hx] at h

/-- A step without a fault ends with an answer. -/
theorem wp.exists_run {x : Build α} (h : wp x Q (fun _ => False) s) :
    ∃ a s', x.run s = .ok (a, s') ∧ Q a s' := by
  cases hx : x.run s with
  | ok r => exact ⟨r.1, r.2, rfl, h.run hx⟩
  | error f => exact (h.fault hx).elim

@[simp]
theorem wp_pure (a : α) : wp (pure a) Q E s ↔ Q a s := Iff.rfl

@[simp]
theorem wp_throw (f : BuildFault) : wp (throw f : Build α) Q E s ↔ E f := Iff.rfl

@[simp]
theorem wp_bind {x : Build β} {f : β → Build α} :
    wp (x >>= f) Q E s ↔ wp x (fun b s' => wp (f b) Q E s') E s := by
  unfold wp
  rw [StateT.run_bind]
  cases x.run s <;> exact Iff.rfl

@[simp]
theorem wp_map {x : Build β} {f : β → α} : wp (f <$> x) Q E s ↔ wp x (fun b => Q (f b)) E s := by
  unfold wp
  rw [StateT.run_map]
  cases x.run s <;> exact Iff.rfl

@[simp]
theorem wp_discard {x : Build β} {Q : Unit → BuildState → Prop} :
    wp (discard x) Q E s ↔ wp x (fun _ => Q ()) E s := wp_map

@[simp]
theorem wp_graph {Q : Graph → BuildState → Prop} : wp graph Q E s ↔ Q s.graph s := Iff.rfl

@[simp]
theorem wp_update {Q : Unit → BuildState → Prop} {f : Graph → Graph} :
    wp (update f) Q E s ↔ Q () { s with graph := f s.graph } := Iff.rfl

theorem wp_attempt {f : Graph → Except GraphError (α × Graph)}
    (ok : ∀ a g, f s.graph = .ok (a, g) → Q a { s with graph := g })
    (error : ∀ e, f s.graph = .error e → E (.graph e)) : wp (attempt f) Q E s := by
  cases h : f s.graph with
  | ok r =>
    have run : (attempt f).run s = .ok (r.1, { s with graph := r.2 }) := by
      simp only [attempt, StateT.run_bind, StateT.run_get, pure_bind, h]
      rfl
    unfold wp
    rw [run]
    exact ok r.1 r.2 h
  | error e =>
    have run : (attempt f).run s = .error (.graph e) := by
      simp only [attempt, StateT.run_bind, StateT.run_get, pure_bind, h]
      rfl
    unfold wp
    rw [run]
    exact error e h

@[simp]
theorem wp_flow {Q : Unit → BuildState → Prop} {a b : NodeId} :
    wp (flow a b) Q E s ↔ Q () { s with graph := (s.graph.connect a b .data).2 } := Iff.rfl

/-- A builder without a journal takes no notice of the operations that are expanded. -/
theorem enter_eq (op : Operation) : (Journal.enter op : Build Unit) = pure () := rfl

@[simp]
theorem wp_visited? {Q : Option (Option NodeId) → BuildState → Prop} {op : Operation} :
    wp (visited? op) Q E s ↔ Q (op.id.bind s.visited.get?) s := Iff.rfl

@[simp]
theorem wp_isMem {Q : Bool → BuildState → Prop} {n : NodeId} :
    wp (isMem n) Q E s ↔ Q (s.graph.isMem n) s := Iff.rfl

theorem wp_remember {Q : Unit → BuildState → Prop} {op : Operation} {i : Nat} {n : Option NodeId}
    (hi : op.id = some i) :
    wp (remember op n) Q E s ↔ Q () { s with visited := s.visited.insert i n } := by
  unfold remember
  rw [hi]
  exact Iff.rfl

end Rules

section Loops

variable {E : BuildFault → Prop} {s : BuildState} {I : BuildState → Prop} {P : α → BuildState → Prop}
  {xs : List α}

/-- A loop keeps what each of its steps keeps, and what a step achieves lasts. -/
theorem wp_forM {f : α → Build Unit} (h : I s) (step : ∀ a ∈ xs, ∀ s, I s →
      wp (f a) (fun _ s' => I s' ∧ P a s' ∧ ∀ b, P b s → P b s') E s) :
    wp (xs.forM f) (fun _ s' => I s' ∧ (∀ a ∈ xs, P a s') ∧ ∀ b, P b s → P b s') E s := by
  induction xs generalizing s with
  | nil => exact ⟨h, nofun, fun _ hb => hb⟩
  | cons x xs ih =>
    change wp (f x >>= fun _ => xs.forM f) _ E s
    rw [wp_bind]
    refine (step x List.mem_cons_self s h).mono fun _ s₁ ⟨h₁, hx, keep₁⟩ => ?_
    refine (ih h₁ fun a ha => step a (List.mem_cons_of_mem x ha)).mono fun _ s₂ ⟨h₂, hxs, keep₂⟩ => ?_
    refine ⟨h₂, fun a ha => ?_, fun b hb => keep₂ b (keep₁ b hb)⟩
    rcases List.mem_cons.1 ha with rfl | ha
    · exact keep₂ a hx
    · exact hxs a ha

theorem wp_mapM {f : α → Build β} (h : I s) (step : ∀ a ∈ xs, ∀ s, I s →
      wp (f a) (fun _ s' => I s' ∧ P a s' ∧ ∀ b, P b s → P b s') E s) :
    wp (xs.mapM f) (fun _ s' => I s' ∧ (∀ a ∈ xs, P a s') ∧ ∀ b, P b s → P b s') E s := by
  induction xs generalizing s with
  | nil => exact ⟨h, nofun, fun _ hb => hb⟩
  | cons x xs ih =>
    rw [List.mapM_cons, wp_bind]
    refine (step x List.mem_cons_self s h).mono fun _ s₁ ⟨h₁, hx, keep₁⟩ => ?_
    rw [wp_bind]
    refine (ih h₁ fun a ha => step a (List.mem_cons_of_mem x ha)).mono fun _ s₂ ⟨h₂, hxs, keep₂⟩ => ?_
    refine ⟨h₂, fun a ha => ?_, fun b hb => keep₂ b (keep₁ b hb)⟩
    rcases List.mem_cons.1 ha with rfl | ha
    · exact keep₂ a hx
    · exact hxs a ha

/-- What a step says about its answer lasts, so the loop says it about all answers. -/
theorem wp_mapM_answers {f : α → Build β} {R : β → BuildState → Prop} (h : I s)
    (step : ∀ a ∈ xs, ∀ s, I s → wp (f a) (fun b s' => I s' ∧ R b s' ∧ ∀ b, R b s → R b s') E s) :
    wp (xs.mapM f) (fun bs s' => I s' ∧ (∀ b ∈ bs, R b s') ∧ ∀ b, R b s → R b s') E s := by
  induction xs generalizing s with
  | nil => exact ⟨h, nofun, fun _ hb => hb⟩
  | cons x xs ih =>
    rw [List.mapM_cons, wp_bind]
    refine (step x List.mem_cons_self s h).mono fun b s₁ ⟨h₁, hb, keep₁⟩ => ?_
    rw [wp_bind]
    refine (ih h₁ fun a ha => step a (List.mem_cons_of_mem x ha)).mono fun bs s₂ ⟨h₂, hbs, keep₂⟩ => ?_
    refine ⟨h₂, fun b' hb' => ?_, fun b' hb' => keep₂ b' (keep₁ b' hb')⟩
    rcases List.mem_cons.1 hb' with rfl | hb'
    · exact keep₂ b' hb
    · exact hbs b' hb'

end Loops

/-! ## Steps that lead from a state to certain others -/

/-- Every run of the step leads to a state that `R` allows. -/
def Leads (R : BuildState → BuildState → Prop) (x : Build α) : Prop :=
  ∀ s, wp x (fun _ s' => R s s') (fun _ => True) s

section Leads

variable {R : BuildState → BuildState → Prop}

theorem Leads.run {x : Build α} (h : Leads R x) {s s' : BuildState} {a : α} (hx : x.run s = .ok (a, s')) :
    R s s' := (h s).run hx

theorem Leads.throw (f : BuildFault) : Leads R (MonadExcept.throw f : Build α) := fun _ => trivial

theorem Leads.map {x : Build α} (f : α → β) (hx : Leads R x) : Leads R (f <$> x) := by
  intro s
  rw [wp_map]
  exact hx s

theorem Leads.update {f : Graph → Graph} (h : ∀ s, R s { s with graph := f s.graph }) :
    Leads R (Build.update f) := h

theorem Leads.attempt {f : Graph → Except GraphError (α × Graph)}
    (h : ∀ s a g, f s.graph = .ok (a, g) → R s { s with graph := g }) : Leads R (Build.attempt f) :=
  fun s => wp_attempt (fun a g hg => h s a g hg) fun _ _ => trivial

variable [IsPreorder BuildState R]

theorem Leads.pure (a : α) : Leads R (Pure.pure a : Build α) := fun s => refl_of R s

theorem Leads.graph : Leads R Build.graph := fun s => refl_of R s

theorem Leads.visited? (op : Operation) : Leads R (Build.visited? op) := fun s => refl_of R s

theorem Leads.isMem (n : NodeId) : Leads R (Build.isMem n) := fun s => refl_of R s

theorem Leads.bind {x : Build α} {f : α → Build β} (hx : Leads R x) (hf : ∀ a, Leads R (f a)) :
    Leads R (x >>= f) := by
  intro s
  rw [wp_bind]
  exact (hx s).mono fun a s₁ h₁ => (hf a s₁).mono fun _ _ h₂ => trans_of R h₁ h₂

theorem Leads.forM {f : α → Build Unit} (h : ∀ a, Leads R (f a)) (xs : List α) : Leads R (xs.forM f) := by
  induction xs with
  | nil => exact .pure ()
  | cons x xs ih => exact .bind (h x) fun _ => ih

theorem Leads.mapM {f : α → Build β} (h : ∀ a, Leads R (f a)) (xs : List α) : Leads R (xs.mapM f) := by
  induction xs with
  | nil => exact .pure []
  | cons x xs ih =>
    rw [List.mapM_cons]
    exact .bind (h x) fun b => .bind ih fun bs => .pure (b :: bs)

end Leads

/-! ## Steps that change the graph in a given way -/

/-- Changes of the kind `r` lead from the graph of one state to that of another. -/
def Via (r : Graph → Graph → Prop) (s s' : BuildState) : Prop := ReflTransGen r s.graph s'.graph

instance (r : Graph → Graph → Prop) : IsPreorder BuildState (Via r) where
  refl _ := .refl
  trans _ _ _ h h' := ReflTransGen.trans h h'

/-- Every run of the step takes the graph through changes of the kind `r`. -/
abbrev Along (r : Graph → Graph → Prop) (x : Build α) : Prop := Leads (Via r) x

section Along

variable {r : Graph → Graph → Prop}

theorem Along.remember (op : Operation) (n : Option NodeId) : Along r (Build.remember op n) := by
  intro s
  unfold Build.remember
  split <;> exact ReflTransGen.refl

theorem Along.update {f : Graph → Graph} (h : ∀ g, ReflTransGen r g (f g)) : Along r (Build.update f) :=
  Leads.update fun s => h s.graph

theorem Along.attempt {f : Graph → Except GraphError (α × Graph)}
    (h : ∀ g a g', f g = .ok (a, g') → ReflTransGen r g g') : Along r (Build.attempt f) :=
  Leads.attempt fun s => h s.graph

theorem Along.mono {r' : Graph → Graph → Prop} {x : Build α} (h : ∀ g g', r g g' → r' g g')
    (hx : Along r x) : Along r' x :=
  fun s => (hx s).mono fun _ _ hs => ReflTransGen.mono h _ _ hs

/-- What every change keeps is kept. -/
theorem Along.keeps {P : Graph → Prop} {x : Build α} (h : Along (fun g g' => P g → P g') x) {s s' : BuildState}
    {a : α} (hx : x.run s = .ok (a, s')) (start : P s.graph) : P s'.graph := by
  have changes : ReflTransGen (fun g g' => P g → P g') s.graph s'.graph := h.run hx
  generalize s'.graph = g at changes
  induction changes with
  | refl => exact start
  | tail _ step ih => exact step ih

end Along

theorem Along.connect (a b : NodeId) (kind : EdgeKind) : Along Graph.Growth (Build.connect a b kind) :=
  fun _ => .single (.connect a b kind)

theorem Along.flow (a b : NodeId) : Along Graph.Growth (Build.flow a b) :=
  fun _ => .single (.connect a b .data)

end Build

namespace BuildContext

open Build

/-! ## Nodes of operations and values -/

section Nodes

variable {c : BuildContext} {p : Program} {s : BuildState} {Q : NodeId → BuildState → Prop}
  {E : BuildFault → Prop}

/-- A new node, while there are handles left. -/
theorem wp_addNode {kind : NodeKind} {label : String}
    (ok : ∀ n g, s.graph.addNode p kind label = .ok (n, g) → Q n { s with graph := g })
    (full : nodeCapacity ≤ s.graph.slots.size → E (.graph (.capacityExceeded s.graph.slots.size))) :
    wp (Build.attempt (·.addNode p kind label)) Q E s := by
  refine wp_attempt ok fun e he => ?_
  obtain ⟨hle, rfl⟩ := Graph.addNode_eq_error he
  exact full hle

theorem wp_memNodeFor {v : Value} {k : AliasKey}
    (ok : ∀ n g, s.graph.memNode p k (c.memLabel v k) = .ok (n, g) →
      Q n { s with graph := g.bindMemValue v n })
    (full : nodeCapacity ≤ s.graph.slots.size → E (.graph (.capacityExceeded s.graph.slots.size)))
    (inconsistent : (c.oracle.members? k).any (·.contains v) = false → E (.inconsistentOracle v k)) :
    wp (c.memNodeFor p v k) Q E s := by
  unfold memNodeFor
  dsimp only
  split
  · rw [wp_bind]
    refine wp_attempt (fun n g hg => ok n g hg) fun e he => ?_
    obtain ⟨hle, rfl⟩ := Graph.memNode_eq_error he
    exact full hle
  · next listed => exact inconsistent (Bool.eq_false_iff.2 listed)

/-- Lets the result of an operation, if there is one, resolve to a node. -/
def bindResult (result : Option Value) (n : NodeId) (g : Graph) : Graph :=
  match result with
  | some v => g.bindValue v n
  | none => g

theorem wp_operationNode {op : Operation}
    (mem : ∀ v k, c.pointerResult? op = some (v, k) → wp (c.memNodeFor p v k) Q E s)
    (new : ∀ n g, c.pointerResult? op = none →
      s.graph.addNode p (.op op.opcode op.result) (c.operationLabel op) = .ok (n, g) →
      Q n { s with graph := bindResult op.result n g })
    (full : nodeCapacity ≤ s.graph.slots.size → E (.graph (.capacityExceeded s.graph.slots.size))) :
    wp (c.operationNode p op) Q E s := by
  unfold operationNode
  split
  · next v k hr => exact mem v k hr
  · next hr =>
    rw [wp_bind]
    refine wp_addNode (fun n g hg => ?_) full
    have := new n g hr hg
    unfold bindResult at this
    cases h : op.result <;> (rw [h] at this; exact this)

/-- What a new call node is bound to: the result, unless the result has an alias class. -/
def boundResult? (c : BuildContext) (op : Operation) : Option Value :=
  match c.pointerResult? op with
  | none => op.result
  | some _ => none

/-- A call as its node has it before the arguments are known. -/
def callInfo (op : Operation) : CallInfo := { target := op.callee, args := [], result := op.result }

/-- Gives a node a location, unless it has one. -/
def located (loc : Option Location) (n : NodeId) (g : Graph) : Graph :=
  g.modifyNode n fun x => { x with location := x.location.or loc }

theorem wp_callNode {op : Operation} {d : Option Direction}
    (new : ∀ n g, s.graph.addNode p (callKind (callInfo op) d) (c.operationLabel op) = .ok (n, g) →
      Q n { s with graph := bindResult (c.boundResult? op) n (located op.location n g) })
    (full : nodeCapacity ≤ s.graph.slots.size → E (.graph (.capacityExceeded s.graph.slots.size))) :
    wp (c.callNode p op d) Q E s := by
  unfold callNode
  rw [wp_bind]
  refine wp_addNode (fun n g hg => ?_) full
  have := new n g hg
  unfold bindResult boundResult? at this
  rw [wp_bind, locate, wp_update]
  cases hp : c.pointerResult? op with
  | some vk => cases hr : op.result <;> (rw [hp] at this; exact this)
  | none => cases hr : op.result <;> (rw [hp, hr] at this; exact this)

theorem wp_addVar {v : Value} {name : String} {Q : Option NodeId → BuildState → Prop}
    (new : ∀ n g, s.graph.addNode p (.var v) name = .ok (n, g) →
      Q (some n) { s with graph := g.bindValue v n })
    (full : nodeCapacity ≤ s.graph.slots.size → E (.graph (.capacityExceeded s.graph.slots.size))) :
    wp (do
      let n ← Build.attempt (·.addNode p (.var v) name)
      Build.update (·.bindValue v n)
      return some n) Q E s := by
  rw [wp_bind]
  exact wp_addNode (fun n g hg => new n g hg) full

end Nodes

/-! ## The parts of an operation

In `Build` itself no step has to be lifted. -/

/-- A store of a value into a destination. -/
theorem addStore_eq (resolve : Resolver) (p : Program) (op : Operation) {value destination : Value}
    {rest : List Value} (ho : op.operands = value :: destination :: rest) :
    addStore resolve p op = (do
      match ← resolve p destination with
      | none =>
        Build.remember op none
        return none
      | some d =>
        Build.remember op (some d)
        Build.update (·.recordAccess d)
        Build.update (located op.location d)
        linkOperand resolve p d false value
        return some d) := by
  unfold addStore
  rw [ho]
  rfl

theorem addPlain_eq (c : BuildContext) (resolve : Resolver) (p : Program) (op : Operation) :
    c.addPlain resolve p op = do
      let n ← c.operationNode p op
      Build.remember op (some n)
      Build.update (located op.location n)
      linkOperands resolve p op n
      return n := rfl

theorem quiet_linkedByLevel (c : BuildContext) (p : Program) (op : Operation) (n : NodeId)
    (d : Option Direction) (g : Graph) : g.Quiet (c.linkedByLevel p op n d g) := by
  unfold linkedByLevel
  split <;> [exact .correlate ..; exact .refl g]

theorem linkArguments_eq (resolve : Resolver) (p : Program) (op : Operation) (n : NodeId) (d : Option Direction) :
    linkArguments resolve p op n d = (do
      let args ← op.operands.mapM (linkArgument resolve p n d)
      Build.update (·.modifyNode n (withArgs args d))) := rfl

theorem addCall_eq (c : BuildContext) (resolve : Resolver) (p : Program) (op : Operation) :
    c.addCall resolve p op = do
      let n ← c.callNode p op (c.callDirection? p op)
      Build.remember op (some n)
      Build.update (c.linkedByLevel p op n (c.callDirection? p op))
      linkArguments resolve p op n (c.callDirection? p op)
      c.linkResult p op n
      return n := rfl

theorem benign_withArgs (args : List (Option NodeId)) (d : Option Direction) :
    Graph.Benign (withArgs args d) := ⟨fun x => by simp [withArgs], fun _ => rfl⟩

end BuildContext

end PeerTaint
