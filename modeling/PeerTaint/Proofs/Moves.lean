import PeerTaint.Proofs.Bindings
import PeerTaint.Proofs.Division

/-!
What a builder does, step by step.

A builder makes nodes, binds values to them, draws edges within a program, links network nodes with
the other program, and remembers what it visited; these are its steps (`Step`). Besides, inputs are
entered and splicing takes nodes out (`Move`). A step also says what the builder knew when it made it,
so that an invariant of building is proved by looking at the steps. `Grounded` is the invariant that
the steps themselves rely on: nodes and edges are kept apart by program, and what a value, an input or
an operation stands for is of its own program.
-/

namespace PeerTaint

/-- A change of a node that only the node itself knows of. -/
def Node.Idle (f : Node → Node) : Prop :=
  ∀ x, ∃ count location netDependent, f x = { x with count, location, netDependent }

theorem Node.Idle.benign {f : Node → Node} (h : Idle f) : Graph.Benign f := by
  constructor <;> intro x <;> obtain ⟨_, _, _, hx⟩ := h x <;> rw [hx]

theorem NodeKind.direction?_mapCallInfo (f : CallInfo → CallInfo) (kind : NodeKind) :
    (kind.mapCallInfo f).direction? = kind.direction? := by cases kind <;> rfl

theorem NodeKind.mem_args_mapCallInfo {args : List (Option NodeId)} {kind : NodeKind} {a : Option NodeId}
    (h : a ∈ (kind.mapCallInfo ({ · with args := args })).args) : a ∈ args := by
  cases kind <;> first | exact h | cases h

/-- A live node of a program. -/
def Graph.Lives (g : Graph) (p : Program) (n : NodeId) : Prop := ∃ kind, g.role? n = some (p, kind)

theorem Graph.Lives.given {g : Graph} {p : Program} {n : NodeId} (h : g.Lives p n) : g.Given p n := by
  obtain ⟨kind, hn⟩ := h
  exact .of_role? hn

theorem Graph.Lives.isLive {g : Graph} {p : Program} {n : NodeId} (h : g.Lives p n) :
    g.isLive n = true := by
  obtain ⟨kind, hn⟩ := h
  rw [isLive_eq_isSome_role?, hn]
  rfl

theorem Graph.Lives.grows {g g' : Graph} {p : Program} {n : NodeId} (h : g.Lives p n) (e : Grows g g') :
    g'.Lives p n := by
  obtain ⟨kind, hn⟩ := h
  exact ⟨kind, e.extension.role n _ hn⟩

namespace BuildContext

open Relation (ReflTransGen)

section Moves

variable (c : BuildContext)

/-- A step of a builder that adds to the graph or to what is remembered. -/
inductive Step : BuildState → BuildState → Prop
  | place {s : BuildState} {x : Node} (id : x.id = s.graph.slots.size) (succ : x.successors = .empty)
      (pred : x.predecessors = .empty) (levels : x.levels = .empty) (args : x.kind.args = []) :
      Step s { s with graph := s.graph.place x }
  | note {s : BuildState} (n : NodeId) {f : Node → Node} (idle : Node.Idle f) :
      Step s { s with graph := s.graph.modifyNode n f }
  | args {s : BuildState} {p : Program} {n : NodeId} {args : List (Option NodeId)}
      (d : Option Direction) (node : s.graph.Given p n) (actual : ∀ a, some a ∈ args → s.graph.Lives p a) :
      Step s { s with graph := s.graph.modifyNode n (withArgs args d) }
  | correlate {s : BuildState} {p : Program} {n : NodeId} {d : Direction} (levels : LevelSet)
      (face : s.graph.face? n = some ⟨p, some d, .empty⟩) :
      Step s { s with graph := s.graph.correlate n p d levels }
  | flow {s : BuildState} {p : Program} {a b : NodeId} (source : s.graph.Given p a)
      (target : s.graph.Given p b) : Step s { s with graph := (s.graph.connect a b .data).2 }
  | bindValue {s : BuildState} {n : NodeId} {kind : NodeKind} {v : Value}
      (role : s.graph.role? n = some (v.program, kind)) (defines : kind.Defines v)
      (scalar : c.aliasKey? v = none) (free : s.graph.valueNodes.get? v = none)
      (due : (c.programs.definition? v = none ∧ (c.programs.info? v).isSome = true ∧ kind = .var v) ∨
        ∃ e ∈ c.programs.stream, e.2.result = some v ∧ s.noted? e.2 = none) :
      Step s { s with graph := s.graph.bindValue v n }
  | bindMemValue {s : BuildState} {n : NodeId} {v : Value} {k : AliasKey}
      (pointer : c.aliasKey? v = some k) (mem : s.graph.findMem v.program k = some n) :
      Step s { s with graph := s.graph.bindMemValue v n }
  | indexMem {s : BuildState} {n : NodeId} {p : Program} {k : AliasKey}
      (role : s.graph.role? n = some (p, .mem k)) (fresh : s.graph.findMem p k = none) :
      Step s { s with graph := { s.graph with memNodes := s.graph.memNodes.insert (p, k) n } }
  | visit {s : BuildState} {p : Program} {op : Operation} {i : Nat} {x : Option NodeId}
      (place : (p, op) ∈ c.programs.stream) (id : op.id = some i)
      (live : ∀ n, x = some n → s.graph.Lives p n)
      (bound : op.opcode ≠ .store → c.excluded op = false → ∀ v, op.result = some v →
        c.aliasKey? v = none → x.isSome = true ∧ x = s.graph.valueNodes.get? v) :
      Step s { s with visited := s.visited.insert i x }

/-- A move of a builder: a step, the entry of an input, or the removal of a node. -/
inductive Move : BuildState → BuildState → Prop
  | step {s s' : BuildState} (step : c.Step s s') : Move s s'
  | input {s : BuildState} {n : NodeId} {v : Value} {o : Origin} {name : String}
      (role : s.graph.role? n = some (v.program, .input v o name)) (fresh : s.graph.findInput v o = none) :
      Move s { s with graph := { s.graph with inputNodes := s.graph.inputNodes.insert (v, o) n } }
  | retire {s : BuildState} {n : NodeId} {x : Node} {g : Graph}
      (removed : s.graph.removeNode n = .ok (x, g)) :
      Move s ⟨g, s.visited.mapValues fun m => if m = some n then none else m⟩

/-- Steps, any number of times. -/
abbrev Steps : BuildState → BuildState → Prop := ReflTransGen c.Step

/-- Moves, any number of times. -/
abbrev Moves : BuildState → BuildState → Prop := ReflTransGen c.Move

/-- A value without an alias class stands for a node of its program. If no operation defines it, the node
is one of its own. -/
structure Bound (g : Graph) (v : Value) (n : NodeId) : Prop where
  scalar : c.aliasKey? v = none
  live : g.Lives v.program n
  own : c.programs.definition? v = none →
    (c.programs.info? v).isSome = true ∧ g.role? n = some (v.program, .var v)

/-- Values, inputs and visited operations stand for nodes of their own program. -/
structure Grounded (s : BuildState) : Prop where
  wf : s.graph.WellFormed
  divided : s.graph.Divided
  value : ∀ v n, s.graph.valueNodes.get? v = some n → c.Bound s.graph v n
  memValue : ∀ v n, s.graph.memValues.get? v = some n →
    ∃ k, c.aliasKey? v = some k ∧ s.graph.findMem v.program k = some n
  input : ∀ v o n, s.graph.inputNodes.get? (v, o) = some n → s.graph.Lives v.program n
  noted : ∀ e ∈ c.programs.stream, ∀ n, s.noted? e.2 = some (some n) → s.graph.Lives e.1 n

end Moves

variable {c : BuildContext} {s s' : BuildState}

theorem Bound.mono {g g' : Graph} {v : Value} {n : NodeId} (h : c.Bound g v n)
    (role : ∀ ρ, g.role? n = some ρ → g'.role? n = some ρ) : c.Bound g' v n where
  scalar := h.scalar
  live := by
    obtain ⟨kind, hn⟩ := h.live
    exact ⟨kind, role _ hn⟩
  own undefined := by
    obtain ⟨known, hn⟩ := h.own undefined
    exact ⟨known, role _ hn⟩

/-! ## Steps only add -/

theorem Step.grows (h : c.Step s s') : s.graph.Grows s'.graph := by
  cases h with
  | place id succ pred levels args => exact .single (.place id succ pred)
  | note n idle => exact .single (.modify n idle.benign)
  | args d node actual => exact .single (.modify _ (benign_withArgs _ d))
  | correlate levels face => exact (Graph.Quiet.correlate ..).grows
  | flow source target => exact .single (.connect _ _ _)
  | bindValue role defines scalar free due => exact .single (.bindValue role defines)
  | bindMemValue pointer mem => exact .single (.bindMemValue _ mem)
  | indexMem role fresh => exact .single (.indexMem role fresh)
  | visit place id live bound => exact .refl

theorem Steps.grows (h : c.Steps s s') : s.graph.Grows s'.graph := by
  induction h with
  | refl => exact .refl
  | tail _ step ih => exact ih.trans step.grows

theorem Move.changes (h : c.Move s s') : s.graph.Changes s'.graph := by
  cases h with
  | step step => exact step.grows.changes
  | input role fresh => exact .single (.grow (.indexInput role))
  | retire removed => exact .single (.remove removed)

theorem Moves.changes (h : c.Moves s s') : s.graph.Changes s'.graph := by
  induction h with
  | refl => exact .refl
  | tail _ move ih => exact ih.trans move.changes

theorem Steps.moves (h : c.Steps s s') : c.Moves s s' :=
  ReflTransGen.mono (fun _ _ => .step) _ _ h

/-! ## What a step does to the indices -/

theorem Step.valueNodes (cat : c.programs.Catalogued) (h : c.Step s s') {v : Value} {n : NodeId}
    (hv : s'.graph.valueNodes.get? v = some n) :
    s.graph.valueNodes.get? v = some n ∨ c.Bound s.graph v n := by
  cases h with
  | place id succ pred levels args =>
    obtain ⟨_, _, _, _, he⟩ := Graph.place_eq s.graph _
    rw [he] at hv
    exact Or.inl hv
  | correlate levels face =>
    rw [(Graph.Quiet.correlate ..).value] at hv
    exact Or.inl hv
  | flow source target =>
    rw [(Graph.Quiet.connect ..).value] at hv
    exact Or.inl hv
  | @bindValue _ _ w role defines scalar free due =>
    simp only [Graph.bindValue, SortedMap.get?_insert] at hv
    split at hv
    · next he =>
      cases hv
      subst he
      refine Or.inr ⟨scalar, ⟨_, role⟩, fun undefined => ?_⟩
      rcases due with ⟨-, known, rfl⟩ | ⟨e, he, hr, -⟩
      · exact ⟨known, role⟩
      · have := cat.defined e he v hr
        rw [undefined] at this
        cases this
    · exact Or.inl hv
  | _ => exact Or.inl hv

theorem Step.memValues (h : c.Step s s') {v : Value} {n : NodeId}
    (hv : s'.graph.memValues.get? v = some n) :
    s.graph.memValues.get? v = some n ∨
      ∃ k, c.aliasKey? v = some k ∧ s.graph.findMem v.program k = some n := by
  cases h with
  | place id succ pred levels args =>
    obtain ⟨_, _, _, _, he⟩ := Graph.place_eq s.graph _
    rw [he] at hv
    exact Or.inl hv
  | correlate levels face =>
    rw [(Graph.Quiet.correlate ..).memValue] at hv
    exact Or.inl hv
  | flow source target =>
    rw [(Graph.Quiet.connect ..).memValue] at hv
    exact Or.inl hv
  | bindMemValue pointer mem =>
    simp only [Graph.bindMemValue, SortedMap.get?_insert] at hv
    split at hv
    · next he =>
      cases hv
      subst he
      exact Or.inr ⟨_, pointer, mem⟩
    · exact Or.inl hv
  | _ => exact Or.inl hv

theorem Step.inputNodes (h : c.Step s s') : s'.graph.inputNodes = s.graph.inputNodes := by
  cases h with
  | place id succ pred levels args =>
    obtain ⟨_, _, _, _, he⟩ := Graph.place_eq s.graph _
    rw [he]
  | correlate levels face => exact Graph.inputNodes_correlate
  | flow source target => exact Graph.inputNodes_connect ..
  | _ => rfl

theorem Steps.inputNodes (h : c.Steps s s') : s'.graph.inputNodes = s.graph.inputNodes := by
  induction h with
  | refl => rfl
  | tail _ step ih => exact step.inputNodes.trans ih

theorem Step.noted? (cat : c.programs.Catalogued) (h : c.Step s s') {e : Program × Operation}
    (he : e ∈ c.programs.stream) {x : Option NodeId} (hx : s'.noted? e.2 = some x) :
    s.noted? e.2 = some x ∨ s'.graph = s.graph ∧ (∀ n, x = some n → s.graph.Lives e.1 n) ∧
      (e.2.opcode ≠ .store → c.excluded e.2 = false → ∀ v, e.2.result = some v → c.aliasKey? v = none →
        x.isSome = true ∧ x = s.graph.valueNodes.get? v) := by
  cases h with
  | visit place id live bound =>
    rw [noted?_insert cat s.graph place he id] at hx
    split at hx
    · next same =>
      cases hx
      subst same
      exact Or.inr ⟨rfl, live, bound⟩
    · exact Or.inl hx
  | _ => exact Or.inl hx

theorem isSome_noted?_insert {op : Operation} {i : Nat} (x : Option NodeId) (hi : op.id = some i) :
    (BuildState.noted? { s with visited := s.visited.insert i x } op).isSome = true := by
  rw [BuildState.noted?, hi, Option.bind_some, SortedMap.get?_insert, if_pos rfl]
  rfl

/-- What was visited stays visited. -/
theorem Steps.isSome_noted? (h : c.Steps s s') {op : Operation} (hx : (s.noted? op).isSome = true) :
    (s'.noted? op).isSome = true := by
  induction h with
  | refl => exact hx
  | tail _ step ih =>
    cases step with
    | visit place id live bound =>
      obtain ⟨x, hx⟩ := Option.isSome_iff_exists.1 ih
      obtain ⟨j, hj, hx⟩ := Option.bind_eq_some_iff.1 hx
      rw [BuildState.noted?, hj, Option.bind_some, SortedMap.get?_insert]
      split
      · rfl
      · rw [hx]; rfl
    | _ => exact ih

/-! ## Moves keep a builder grounded -/

theorem Step.divided (h : c.Step s s') (inv : c.Grounded s) : s'.graph.Divided := by
  have evolves : s.graph.Evolves s'.graph := Graph.Changes.evolves inv.wf h.grows.changes
  have keep : s'.graph.slots = s.graph.slots → s'.graph.Divided := by
    intro slots
    have node : ∀ n, s'.graph.node? n = s.graph.node? n := by
      intro n
      rw [Graph.node?, Graph.node?, slots]
    refine inv.divided.congr evolves ?_ ?_ ?_
    · intro n; rw [Graph.face?, node]; rfl
    · intro a b; rw [Graph.edgeKind?, node]; rfl
    · intro n; rw [node]
  cases h with
  | place id succ pred levels args => exact inv.divided.place inv.wf id succ pred levels args
  | note n idle =>
    refine inv.divided.congr evolves (fun m => ?_) (fun a b => ?_) fun m => ?_
    · refine Graph.map_node?_modifyNode _ n m fun x => ?_
      obtain ⟨_, _, _, hx⟩ := idle x
      rw [hx]
      rfl
    · exact Graph.edgeKind?_modifyNode idle.benign _ n a b
    · refine Graph.map_node?_modifyNode _ n m fun x => ?_
      obtain ⟨_, _, _, hx⟩ := idle x
      rw [hx]
  | @args p n args d node actual =>
    have program : ∀ x, (withArgs args d x).program = x.program := fun _ => rfl
    have face : ∀ m, (s.graph.modifyNode n (withArgs args d)).face? m = s.graph.face? m := by
      intro m
      refine Graph.map_node?_modifyNode _ n m fun x => ?_
      simp [Node.face, withArgs, NodeKind.direction?_mapCallInfo]
    refine ⟨fun a b x y hx hy hne k => ?_, fun m x a hx ha => ?_⟩
    · rw [face] at hx hy
      rw [Graph.edgeKind?_modifyNode (benign_withArgs args d)]
      exact inv.divided.cross a b x y hx hy hne k
    · rw [Graph.node?_modifyNode] at hx
      split at hx
      · next hm =>
        obtain ⟨y, hy, rfl⟩ := Option.map_eq_some_iff.1 hx
        have home : y.program = p := node.program y (hm ▸ hy)
        have ha' : some a ∈ args := NodeKind.mem_args_mapCallInfo ha
        rw [program, home]
        exact ((actual a ha').given).evolves evolves
      · exact (inv.divided.args m x a hx ha).evolves evolves
  | correlate levels face => exact inv.divided.correlate inv.wf face
  | flow source target => exact inv.divided.flow source target
  | bindValue role defines scalar free due => exact keep rfl
  | bindMemValue pointer mem => exact keep rfl
  | indexMem role fresh => exact keep rfl
  | visit place id live bound => exact inv.divided

theorem Step.grounded (cat : c.programs.Catalogued) (h : c.Step s s') (inv : c.Grounded s) :
    c.Grounded s' where
  wf := h.grows.changes.wellFormed inv.wf
  divided := h.divided inv
  value v n hv := by
    have kept := h.grows.extension.role n
    rcases h.valueNodes cat hv with hv | bound
    · exact (inv.value v n hv).mono kept
    · exact bound.mono kept
  memValue v n hv := by
    have kept : ∀ k, s.graph.findMem v.program k = some n → s'.graph.findMem v.program k = some n :=
      fun k => h.grows.extension.mem v.program k n
    rcases h.memValues hv with hv | ⟨k, hk, hm⟩
    · obtain ⟨k, hk, hm⟩ := inv.memValue v n hv
      exact ⟨k, hk, kept k hm⟩
    · exact ⟨k, hk, kept k hm⟩
  input v o n hv := by
    rw [h.inputNodes] at hv
    exact (inv.input v o n hv).grows h.grows
  noted e he n hn := by
    rcases h.noted? cat he hn with hn | ⟨-, live, -⟩
    · exact (inv.noted e he n hn).grows h.grows
    · exact (live n rfl).grows h.grows

theorem Steps.grounded (cat : c.programs.Catalogued) (h : c.Steps s s') (inv : c.Grounded s) :
    c.Grounded s' := by
  induction h with
  | refl => exact inv
  | tail _ step ih => exact step.grounded cat ih

/-- What stood for the node that is taken out stands for nothing. -/
theorem noted?_retire {n : NodeId} {g : Graph} {op : Operation} {x : Option NodeId} :
    BuildState.noted? ⟨g, s.visited.mapValues fun m => if m = some n then none else m⟩ op = some x ↔
      ∃ y, s.noted? op = some y ∧ (if y = some n then none else y) = x := by
  unfold BuildState.noted?
  cases op.id with
  | none => simp
  | some i => simp

theorem Move.grounded (cat : c.programs.Catalogued) (h : c.Move s s') (inv : c.Grounded s) :
    c.Grounded s' := by
  cases h with
  | step step => exact step.grounded cat inv
  | @input n v o name role fresh =>
    refine ⟨inv.wf.indexInput role, ?_, fun w m hw => (inv.value w m hw).mono fun _ h => h, inv.memValue,
      fun w o' m hw => ?_, inv.noted⟩
    · exact inv.divided.congr (.of_eq rfl (fun _ => rfl) (fun _ _ => rfl) rfl) (fun _ => rfl)
        (fun _ _ => rfl) fun _ => rfl
    · simp only [SortedMap.get?_insert] at hw
      split at hw
      · next he =>
        cases hw
        cases he
        exact ⟨_, role⟩
      · exact inv.input w o' m hw
  | @retire n x g removed =>
    obtain ⟨-, r⟩ := Graph.removed_of_removeNode inv.wf.toLinked removed
    have role : ∀ {m}, m ≠ n → ∀ ρ, s.graph.role? m = some ρ → g.role? m = some ρ := by
      intro m hne ρ hm
      rw [r.role?, if_neg hne, hm]
    have kept : ∀ {p m}, s.graph.Lives p m → m ≠ n → g.Lives p m := by
      rintro p m ⟨kind, hm⟩ hne
      exact ⟨kind, role hne _ hm⟩
    refine ⟨inv.wf.removeNode removed, inv.divided.removed inv.wf removed, fun v m hv => ?_,
      fun v m hv => ?_, fun v o m hv => ?_, fun e he m hm => ?_⟩
    · rw [r.value, SortedMap.get?_filterValues, Option.filter_eq_some_iff] at hv
      exact (inv.value v m hv.1).mono (role (of_decide_eq_true hv.2))
    · rw [r.memValue, SortedMap.get?_filterValues, Option.filter_eq_some_iff] at hv
      obtain ⟨k, hk, hm⟩ := inv.memValue v m hv.1
      refine ⟨k, hk, ?_⟩
      rw [Graph.findMem, r.mem, SortedMap.get?_filterValues, Option.filter_eq_some_iff]
      exact ⟨hm, hv.2⟩
    · rw [r.input, SortedMap.get?_filterValues, Option.filter_eq_some_iff] at hv
      exact kept (inv.input v o m hv.1) (of_decide_eq_true hv.2)
    · obtain ⟨y, hy, he'⟩ := noted?_retire.1 hm
      split at he'
      · cases he'
      · next hne =>
        subst he'
        exact kept (inv.noted e he m hy) fun h => hne (congrArg some h)

theorem Moves.grounded (cat : c.programs.Catalogued) (h : c.Moves s s') (inv : c.Grounded s) :
    c.Grounded s' := by
  induction h with
  | refl => exact inv
  | tail _ move ih => exact move.grounded cat ih

theorem grounded_empty : c.Grounded {} where
  wf := Graph.wellFormed_empty
  divided := by
    constructor
    · intro a b x y hx; cases hx
    · intro n x a hx; cases hx
  value := nofun
  memValue := nofun
  input := nofun
  noted e _ n hn := by cases h : e.2.id <;> simp [BuildState.noted?, h] at hn

end BuildContext

end PeerTaint
