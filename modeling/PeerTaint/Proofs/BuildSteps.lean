import PeerTaint.Proofs.BuildLogic

/-!
What building does to a graph.

Resolving a value expands operations, and expanding an operation resolves values; each step changes the graph
in ways of a given kind when the resolver it uses does, and the induction on the depth of nesting closes the
circle. `Makes` lists the changes that all of this is made of. Expanding is growth; only splicing takes nodes
out.
-/

namespace PeerTaint

namespace BuildContext

open Build
open Relation (ReflTransGen)
open PeerTaint.Graph (Grows Growth)

/-! ## What expanding is made of -/

/-- A new node of a call, linked with the other program. -/
def linkedCall (c : BuildContext) (p : Program) (op : Operation) : Build NodeId := do
  let n ← c.callNode p op (c.callDirection? p op)
  Build.remember op (some n)
  Build.update (c.linkedByLevel p op n (c.callDirection? p op))
  return n

theorem addCall_eq_linkedCall (c : BuildContext) (resolve : Resolver) (p : Program) (op : Operation) :
    c.addCall resolve p op = do
      let n ← c.linkedCall p op
      linkArguments resolve p op n (c.callDirection? p op)
      c.linkResult p op n
      return n := by
  rw [addCall_eq, linkedCall]
  simp only [bind_assoc, pure_bind]

/-- Every change that expanding the operations that are due consists of is of the kind `r`. -/
structure Makes (c : BuildContext) (due : Program → Operation → Prop) (r : Graph → Graph → Prop) : Prop where
  flow : ∀ g a b, ReflTransGen r g (g.connect a b .data).2
  access : ∀ g n, ReflTransGen r g (g.recordAccess n)
  depend : ∀ g n, ReflTransGen r g (g.modifyNode n fun x => { x with netDependent := true })
  locate : ∀ g n loc, ReflTransGen r g (located loc n g)
  args : ∀ g n args d, ReflTransGen r g (g.modifyNode n (withArgs args d))
  memory : ∀ {g p k label n g'} v, g.memNode p k label = .ok (n, g') → ReflTransGen r g (g'.bindMemValue v n)
  plain : ∀ {g p op label n g'}, due p op → g.addNode p (.op op.opcode op.result) label = .ok (n, g') →
    ReflTransGen r g (bindResult op.result n g')
  call : ∀ {g p op label n g'}, due p op →
    g.addNode p (callKind (callInfo op) (c.callDirection? p op)) label = .ok (n, g') →
    ReflTransGen r g (c.linkedByLevel p op n (c.callDirection? p op)
      (bindResult (c.boundResult? op) n (located op.location n g')))
  unbound : ∀ {g p v name n g'}, g.addNode p (.var v) name = .ok (n, g') → ReflTransGen r g (g'.bindValue v n)

namespace Makes

variable {c : BuildContext} {due : Program → Operation → Prop} {r : Graph → Graph → Prop}
  (h : c.Makes due r) (p : Program)
include h

theorem memNodeFor (v : Value) (k : AliasKey) : Along r (c.memNodeFor p v k) :=
  fun _ => wp_memNodeFor (fun _ _ made => h.memory v made) (fun _ => trivial) fun _ => trivial

theorem operationNode {op : Operation} (hop : due p op) : Along r (c.operationNode p op) :=
  fun s => wp_operationNode (fun v k _ => h.memNodeFor p v k s) (fun _ _ _ made => h.plain hop made)
    fun _ => trivial

theorem linkedCall {op : Operation} (hop : due p op) : Along r (c.linkedCall p op) := by
  intro s
  unfold BuildContext.linkedCall
  rw [wp_bind]
  refine wp_callNode (fun n g made => ?_) fun _ => trivial
  rw [wp_bind]
  unfold Build.remember
  split <;> exact h.call hop made

section Resolve

variable {resolve : Resolver} (hresolve : ∀ p v, Along r (resolve p v))
include hresolve

theorem linkOperand (n : NodeId) (isRead : Bool) (v : Value) : Along r (linkOperand resolve p n isRead v) := by
  unfold BuildContext.linkOperand
  refine .bind (hresolve _ _) fun src => ?_
  split
  · exact .pure _
  · dsimp only
    refine .bind (.isMem _) fun isMem => ?_
    split
    · exact .bind (Along.update (h.access · _)) fun _ s => h.flow s.graph _ _
    · exact fun s => h.flow s.graph _ _

theorem linkOperands (op : Operation) (n : NodeId) : Along r (linkOperands resolve p op n) := by
  unfold BuildContext.linkOperands
  split
  · exact .pure _
  · exact .bind (h.linkOperand p hresolve n _ _) fun _ => .forM (h.linkOperand p hresolve n false) _

theorem addStore (op : Operation) : Along r (addStore resolve p op) := by
  unfold BuildContext.addStore
  split
  · refine .bind (hresolve _ _) fun dst => ?_
    split
    · exact .bind (Along.remember _ _) fun _ => .pure _
    · exact .bind (Along.remember _ _) fun _ => .bind (Along.update (h.access · _)) fun _ =>
        .bind (Along.update (h.locate · _ _)) fun _ => .bind (h.linkOperand p hresolve _ false _) fun _ => .pure _
  · exact .bind (Along.remember _ _) fun _ => .pure _

theorem addPlain {op : Operation} (hop : due p op) : Along r (c.addPlain resolve p op) := by
  unfold BuildContext.addPlain
  exact .bind (h.operationNode p hop) fun n => .bind (Along.remember _ _) fun _ =>
    .bind (Along.update (h.locate · _ _)) fun _ => .bind (h.linkOperands p hresolve op n) fun _ => .pure _

theorem linkArgument (n : NodeId) (d : Option Direction) (v : Value) :
    Along r (linkArgument resolve p n d v) := by
  unfold BuildContext.linkArgument
  refine .bind (hresolve _ _) fun arg => ?_
  split
  · exact .pure _
  · dsimp only
    refine .bind (.isMem _) fun isMem => ?_
    split
    · exact .bind (fun s => h.flow s.graph _ _) fun _ => .bind (Along.update (h.access · _)) fun _ =>
        .bind (Along.update (h.depend · _)) fun _ => .pure _
    · exact .bind (fun s => h.flow s.graph _ _) fun _ => .pure _

theorem addCall {op : Operation} (hop : due p op) : Along r (c.addCall resolve p op) := by
  rw [addCall_eq_linkedCall]
  refine .bind (h.linkedCall p hop) fun n => .bind ?_ fun _ => .bind ?_ fun _ => .pure _
  · exact .bind (.mapM (h.linkArgument p hresolve n _) _) fun args => Along.update (h.args · n args _)
  · unfold linkResult
    split
    · exact .bind (h.memNodeFor p _ _) fun mem s => h.flow s.graph n mem
    · exact .pure _

theorem expand {op : Operation} (hop : due p op) : Along r (c.expand resolve p op) := by
  unfold BuildContext.expand
  refine .bind (.visited? op) fun before => ?_
  split
  · exact .pure _
  · refine .bind .graph fun g => ?_
    split
    · exact .bind (Along.remember _ _) fun _ => .pure _
    · split
      · exact .bind (Along.remember _ _) fun _ => .pure _
      · split
        · exact h.addStore p hresolve op
        · exact .map _ (h.addCall p hresolve hop)
        · exact .map _ (h.addPlain p hresolve hop)

end Resolve

section Requests

variable (closed : ∀ v op, c.programs.definition? v = some op → due v.program op)
include closed

theorem resolve (depth : Nat) (p : Program) (v : Value) : Along r (c.resolve depth p v) := by
  induction depth generalizing p v with
  | zero => exact .throw _
  | succ depth ih =>
    unfold BuildContext.resolve
    split
    · exact .pure _
    · next home =>
      obtain rfl : v.program = p := not_not.1 home
      refine .bind .graph fun g => ?_
      split
      · exact .pure _
      · split
        · exact .map _ (h.memNodeFor v.program v _)
        · split
          · next op hop => exact .bind (h.expand v.program ih (closed v op hop)) fun n => .bind .graph fun g => .pure _
          · split
            · exact fun s => wp_addVar (fun n g made => h.unbound made) fun _ => trivial
            · exact .pure _

theorem addOperation {op : Operation} (hop : due p op) : Along r (c.addOperation p op) :=
  h.expand p (h.resolve closed _) hop

theorem addOperations {ops : List Operation} (hops : ∀ op ∈ ops, due p op) : Along r (c.addOperations p ops) := by
  induction ops with
  | nil => exact .pure _
  | cons op ops ih =>
    obtain ⟨first, rest⟩ := List.forall_mem_cons.1 hops
    exact .bind (h.addOperation p closed first) fun n => .bind (ih rest) fun count => .pure _

theorem addRoutines {rs : List Routine} (hrs : ∀ f ∈ rs, ∀ op ∈ f.operations, due f.program op) :
    Along r (c.addRoutines rs) := by
  induction rs with
  | nil => exact .pure _
  | cons f rs ih =>
    obtain ⟨first, rest⟩ := List.forall_mem_cons.1 hrs
    exact .bind (h.addOperations f.program closed first) fun n => .bind (ih rest) fun count => .pure _

end Requests

end Makes

/-! ## Expanding is growth -/

section Growth

variable (c : BuildContext) (p : Program)

theorem grows_bindResult {g g' : Graph} {kind : NodeKind} {label : String} {n : NodeId}
    (result : Option Value) (h : g.addNode p kind label = .ok (n, g'))
    (hr : ∀ v, result = some v → kind.Defines v) : Grows g (bindResult result n g') := by
  obtain ⟨rfl, rfl⟩ := Graph.addNode_eq_ok h
  have placed := Graph.Grows.addNode h
  cases result with
  | none => exact placed
  | some v =>
    refine placed.tail (.bindValue (Graph.role?_place_fresh g p kind label) ?_)
    exact NodeKind.defines_bare.2 (hr v rfl)

theorem callKind_defines {op : Operation} {d : Option Direction} {v : Value}
    (h : op.result = some v) : (callKind (callInfo op) d).Defines v := by
  cases d with
  | none => exact ⟨h, nofun⟩
  | some d => cases d <;> exact ⟨h, nofun⟩

theorem boundResult?_eq_some {op : Operation} {v : Value} (h : c.boundResult? op = some v) :
    op.result = some v := by
  unfold boundResult? at h
  split at h
  · exact h
  · cases h

theorem growth_located (loc : Option Location) (n : NodeId) (g : Graph) : Growth g (located loc n g) :=
  .modify n (by exact ⟨fun _ => rfl, fun _ => rfl⟩)

theorem role?_located (loc : Option Location) (n m : NodeId) (g : Graph) :
    (located loc n g).role? m = g.role? m :=
  Graph.role?_modifyNode (by exact ⟨fun _ => rfl, fun _ => rfl⟩) g n m

theorem grows_callNode {op : Operation} {d : Option Direction} {label : String} {g g' : Graph} {n : NodeId}
    (made : g.addNode p (callKind (callInfo op) d) label = .ok (n, g')) :
    Grows g (bindResult (c.boundResult? op) n (located op.location n g')) := by
  have grows := (Graph.Grows.addNode made).tail (growth_located op.location n _)
  obtain ⟨rfl, rfl⟩ := Graph.addNode_eq_ok made
  unfold bindResult
  split
  · next v hv =>
    have role := (role?_located op.location g.slots.size g.slots.size _).trans
      (Graph.role?_place_fresh g p (callKind (callInfo op) d) label)
    exact grows.tail (.bindValue role (NodeKind.defines_bare.2 (callKind_defines
      (c.boundResult?_eq_some hv))))
  · exact grows

theorem makes_growth : c.Makes (fun _ _ => True) Growth where
  flow _ a b := .single (.connect a b .data)
  access _ n := .single (.modify n (by exact ⟨fun _ => rfl, fun _ => rfl⟩))
  depend _ n := .single (.modify n (by exact ⟨fun _ => rfl, fun _ => rfl⟩))
  locate g n loc := .single (growth_located loc n g)
  args _ n _ _ := .single (.modify n (benign_withArgs ..))
  memory v made := by
    obtain ⟨grows, mem⟩ := Graph.Grows.memNode made
    exact grows.tail (.bindMemValue v mem)
  plain _ made := grows_bindResult _ _ made fun v hv => ⟨hv, nofun⟩
  call _ made := (c.grows_callNode _ made).trans (c.quiet_linkedByLevel ..).grows
  unbound made := grows_bindResult _ (some _) made fun w hw => ⟨hw, nofun⟩

theorem along_valueNode (v : Value) : Along Growth (c.valueNode p v) :=
  c.makes_growth.resolve (fun _ _ _ => trivial) _ p v

theorem along_addOperation (op : Operation) : Along Growth (c.addOperation p op) :=
  c.makes_growth.addOperation p (fun _ _ _ => trivial) trivial

theorem along_addOperations (ops : List Operation) : Along Growth (c.addOperations p ops) :=
  c.makes_growth.addOperations p (fun _ _ _ => trivial) fun _ _ => trivial

theorem along_buildAll : Along Growth c.buildAll :=
  c.makes_growth.addRoutines (fun _ _ _ => trivial) fun _ _ _ _ => trivial

theorem along_connectValues (a b : Value) (kind : EdgeKind) :
    Along Growth (c.connectValues p a b kind) := by
  unfold connectValues
  refine .bind (c.along_valueNode p a) fun src => .bind (c.along_valueNode p b) fun dst => ?_
  split
  · exact Along.connect _ _ _
  · exact .pure _

theorem along_addInput (r : InputRecord) : Along Growth (c.addInput r) := by
  unfold addInput
  refine .bind (c.along_valueNode r.program r.value) fun target => ?_
  split
  · exact .pure _
  · exact .bind .graph fun g => .bind (Along.attempt fun g n g' => Grows.inputNode) fun n =>
      .bind (Along.flow _ _) fun _ => .pure _

theorem along_addInputs (inputs : InputSets) : Along Growth (c.addInputs inputs) := by
  unfold addInputs
  induction inputs.toList with
  | nil => exact .pure _
  | cons r rs ih => exact .bind (c.along_addInput r) fun new => .bind ih fun rest => .pure _

end Growth

/-! ## Splicing removes nodes -/

section Change

open PeerTaint.Graph (Change)

variable (c : BuildContext) (p : Program)

theorem along_linkParams (args : List (Option NodeId × Value)) : Along Growth (c.linkParams p args) := by
  induction args with
  | nil => exact .pure _
  | cons arg args ih =>
    obtain ⟨actual, formal⟩ := arg
    cases actual with
    | none => exact ih
    | some actual =>
      unfold linkParams
      refine .bind (c.along_valueNode p formal) fun n => ?_
      split
      · exact .bind (Along.flow _ _) fun _ => ih
      · exact ih

theorem along_linkReturned (users : List NodeId) (vs : List Value) :
    Along Growth (c.linkReturned p users vs) := by
  induction vs with
  | nil => exact .pure _
  | cons v vs ih =>
    unfold linkReturned
    refine .bind (c.along_valueNode p v) fun n => ?_
    split
    · exact .bind (.forM (fun user => Along.flow _ user) users) fun _ => ih
    · exact ih

theorem along_retire (n : NodeId) : Along Change (retire n) := by
  unfold retire
  refine .bind (.map _ (Along.attempt fun g x g' hr => .single (.remove hr))) fun _ => ?_
  exact fun s => .refl

theorem along_spliceCall (n : NodeId) (callee : Routine) : Along Change (c.spliceCall n callee) := by
  have grow : ∀ {α : Type} {x : Build α}, Along Growth x → Along Change x :=
    fun h => h.mono fun _ _ => .grow
  unfold spliceCall
  refine .bind .graph fun g => .bind (Along.attempt fun g x g' hx => ?_) fun node => ?_
  · cases hy : g.getNode n with
    | error e => rw [hy] at hx; cases hx
    | ok y => rw [hy] at hx; cases hx; exact .refl
  · split
    · exact .bind (grow (c.along_linkParams _ _)) fun _ =>
        .bind (grow (c.along_linkReturned _ _ _)) fun _ => along_retire n
    · exact .throw _

theorem along_spliceKnownCalls : Along Change c.spliceKnownCalls := by
  unfold spliceKnownCalls
  exact .bind .graph fun g => .bind (.forM (fun call => c.along_spliceCall _ _) _) fun _ => .pure _

end Change

end BuildContext

end PeerTaint
