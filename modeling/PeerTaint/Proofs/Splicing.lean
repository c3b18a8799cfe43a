import PeerTaint.Proofs.Crossing
import PeerTaint.Proofs.Settling

/-!
Replacing calls by the routines they call.

In a finished build, a splice fetches the parameters and the returned values of the routine and draws
edges from and to them (`Drawn`); then it takes the call out (`Spliced`). Which edges there are
afterwards is said by what the values stand for at the end, so the states in between do not matter.
-/

namespace PeerTaint

/-- The arguments of a call. -/
def Graph.args (g : Graph) (n : NodeId) : List (Option NodeId) :=
  ((g.node? n).map (·.kind.args)).getD []

/-- A value stands for the node. -/
def Graph.Named (g : Graph) (n : NodeId) : Prop := ∃ p v, g.findNode v p = some n

namespace BuildContext

open Build

variable {c : BuildContext} {p : Program} {s s' s₁ s₂ : BuildState} {v : Value} {n : NodeId}

/-! ## Values that can be fetched have their nodes -/

/-- The value has its node, if it can be fetched. -/
def Fetches (c : BuildContext) (p : Program) (v : Value) (s : BuildState) : Prop :=
  v.program = p → c.Fetchable v → (s.graph.findNode v p).isSome = true

section Finished

variable (cat : c.programs.Catalogued) (fin : c.Finished s)
include cat fin

/-- What a value stands for after it was fetched does not change any more. -/
theorem Finished.findNode_steps (fetches : c.Fetches p v s) (steps : c.Steps s s') :
    s'.graph.findNode v p = s.graph.findNode v p := by
  cases hn : s.graph.findNode v p with
  | some n => exact steps.findNode cat fin.toGrounded hn
  | none =>
    cases hn' : s'.graph.findNode v p with
    | none => rfl
    | some n =>
      rcases Moves.findNode_back cat steps.moves fin hn' with hs | fetchable
      · rw [hn] at hs
        cases hs
      · have found := fetches (program_of_findNode hn') fetchable
        rw [hn] at found
        cases found

theorem Finished.fetches_steps (fetches : c.Fetches p v s) (steps : c.Steps s s') : c.Fetches p v s' := by
  intro hp fetchable
  rw [fin.findNode_steps cat fetches steps]
  exact fetches hp fetchable

end Finished

/-- A value that can be fetched stands for the node of its alias class, or for one of its own. -/
theorem Grounded.role?_fetchable (inv : c.Grounded s) (fetchable : c.Fetchable v)
    (hn : s.graph.findNode v p = some n) :
    (∃ k, c.aliasKey? v = some k ∧ s.graph.findMem p k = some n ∧ s.graph.role? n = some (p, .mem k)) ∨
      c.aliasKey? v = none ∧ s.graph.role? n = some (p, .var v) := by
  cases program_of_findNode hn
  cases hk : c.aliasKey? v with
  | some k =>
    rw [inv.byClass.findNode_of_some hk] at hn
    obtain ⟨k', hk', hm⟩ := inv.memValue v n hn
    rw [hk] at hk'
    cases hk'
    exact Or.inl ⟨k, rfl, hm, inv.wf.mem _ _ _ hm⟩
  | none =>
    rw [inv.byClass.findNode_of_none hk] at hn
    rcases fetchable with aliased | ⟨undefined, -⟩
    · rw [hk] at aliased
      cases aliased
    · exact Or.inr ⟨rfl, ((inv.value v n hn).own undefined).2⟩

/-- A call of a routine of its own program. -/
def Calls (g : Graph) (e : NodeId × Routine) : Prop :=
  g.Given e.2.program e.1 ∧ ∃ x info, g.node? e.1 = some x ∧ x.kind = .call info

theorem calls_of_mem_knownCalls {g : Graph} (wf : Graph.Linked g) {e : NodeId × Routine}
    (he : e ∈ c.knownCalls g) : Calls g e := by
  obtain ⟨x, info, hx, hkind, -⟩ := (mem_knownCalls_iff wf).1 he
  exact ⟨given_of_mem_knownCalls wf he, x, info, hx, hkind⟩

theorem Calls.ne_of_role? {g : Graph} {e : NodeId × Routine} (call : Calls g e) {kind : NodeKind}
    (role : g.role? n = some (p, kind)) (other : ∀ info, kind ≠ .call info) : e.1 ≠ n := by
  rintro rfl
  obtain ⟨-, x, info, hx, hkind⟩ := call
  obtain ⟨y, hy, -, rfl⟩ := Graph.role?_eq_some_iff.1 role
  rw [hx] at hy
  cases hy
  rw [hkind] at other
  exact other _ rfl

/-- A value that can be fetched does not stand for a call. -/
theorem Calls.ne_fetchable {e : NodeId × Routine} (call : Calls s.graph e) (inv : c.Grounded s)
    (fetchable : c.Fetchable v) (hn : s.graph.findNode v p = some n) : e.1 ≠ n := by
  rcases inv.role?_fetchable fetchable hn with ⟨_, _, _, role⟩ | ⟨_, role⟩
  · exact call.ne_of_role? role nofun
  · exact call.ne_of_role? role nofun

/-! ## Drawing edges -/

/-- Nodes were made for values, and edges drawn: those between different nodes that `r` relates. -/
structure Drawn (c : BuildContext) (r : NodeId → NodeId → Prop) (s s' : BuildState) : Prop where
  steps : c.Steps s s'
  kind : ∀ m, m < s.graph.slots.size → (s'.graph.node? m).map (·.kind) = (s.graph.node? m).map (·.kind)
  edge : ∀ a b, s'.graph.Edge a b ↔ s.graph.Edge a b ∨ a ≠ b ∧ r a b
  conserves : s.graph.Conserves s'.graph
  made : ∀ m, s.graph.slots.size ≤ m → m < s'.graph.slots.size → s'.graph.Named m

theorem Fetched.drawn (h : c.Fetched (s'.graph.findNode v p) s s') : c.Drawn (fun _ _ => False) s s' where
  steps := h.steps
  kind m hm := by rw [h.node m hm]
  edge a b := by simp [Graph.Edge, Graph.hasEdge, h.edge]
  conserves := h.conserves
  made m hle hlt := ⟨p, v, h.made m hle hlt⟩

theorem Drawn.refl (c : BuildContext) (s : BuildState) : c.Drawn (fun _ _ => False) s s where
  steps := .refl
  kind _ _ := rfl
  edge a b := by simp
  conserves := .refl _
  made _ hle hlt := absurd hlt (Nat.not_lt.2 hle)

theorem Drawn.isLive {r : NodeId → NodeId → Prop} (h : c.Drawn r s s') {m : NodeId}
    (hm : m < s.graph.slots.size) : s'.graph.isLive m = s.graph.isLive m := by
  rw [Graph.isLive, Graph.isLive, ← Option.isSome_map, h.kind m hm, Option.isSome_map]

theorem Drawn.trans {r r' q : NodeId → NodeId → Prop} (cat : c.programs.Catalogued) (inv : c.Grounded s₁)
    (h : c.Drawn r s s₁) (h' : c.Drawn r' s₁ s₂) (hq : ∀ a b, q a b ↔ r a b ∨ r' a b) : c.Drawn q s s₂ where
  steps := h.steps.trans h'.steps
  kind m hm := (h'.kind m (hm.trans_le h.conserves.size_le)).trans (h.kind m hm)
  edge a b := by rw [h'.edge, h.edge, hq, and_or_left, or_assoc]
  conserves := h.conserves.trans h'.conserves
  made m hle hlt := by
    rcases Nat.lt_or_ge m s₁.graph.slots.size with hm | hm
    · obtain ⟨p, v, hv⟩ := h.made m hle hm
      exact ⟨p, v, h'.steps.findNode cat inv hv⟩
    · exact h'.made m hm hlt

theorem Drawn.congr {r q : NodeId → NodeId → Prop} (h : c.Drawn r s s') (hq : ∀ a b, q a b ↔ r a b) :
    c.Drawn q s s' where
  steps := h.steps
  kind := h.kind
  edge a b := by rw [h.edge, hq]
  conserves := h.conserves
  made := h.made

theorem drawn_flow {a b : NodeId} (ha : s.graph.Given p a) (hb : s.graph.Given p b) :
    c.Drawn (fun x y => x = a ∧ y = b ∧ s.graph.isLive a = true ∧ s.graph.isLive b = true) s
      { s with graph := (s.graph.connect a b .data).2 } where
  steps := .single (.flow ha hb)
  kind m _ := Graph.map_node?_connect _ _ _ _ m fun _ _ _ => rfl
  edge x y := by
    simp only [Graph.Edge, Graph.hasEdge, Graph.edgeKind?_flow]
    split
    · next h =>
      obtain ⟨rfl, rfl, hne, live⟩ := h
      exact ⟨fun _ => Or.inr ⟨hne, rfl, rfl, live⟩, fun _ => rfl⟩
    · next h =>
      refine (or_iff_left fun new => h ?_).symm
      obtain ⟨hne, rfl, rfl, live⟩ := new
      exact ⟨rfl, rfl, hne, live⟩
  conserves := by
    have quiet := Graph.Quiet.connect s.graph a b .data
    refine ⟨(Graph.size_connect ..).ge, fun q k n _ hm => ?_, fun v n _ hv => ?_⟩
    · rwa [Graph.findMem, quiet.mem] at hm
    · rwa [quiet.value] at hv
  made m hle hlt := absurd hlt (Nat.not_lt.2 ((Graph.size_connect ..).trans_le hle))

theorem wp_flows {us : List NodeId} (cat : c.programs.Catalogued) (inv : c.Grounded s)
    (hn : s.graph.Lives p n) (hus : ∀ u ∈ us, s.graph.Lives p u) {E : BuildFault → Prop} : wp (us.forM (flow n)) (fun _ s' =>
      c.Drawn (fun a b => a = n ∧ b ∈ us) s s') E s := by
  induction us generalizing s with
  | nil => exact (Drawn.refl c s).congr fun a b => by simp
  | cons u us ih =>
    have hu := hus u List.mem_cons_self
    have first := drawn_flow (c := c) hn.given hu.given
    change wp (flow n u >>= fun _ => us.forM (flow n)) _ E s
    rw [wp_bind, wp_flow]
    have inv₁ := first.steps.grounded cat inv
    refine (ih inv₁ (hn.grows first.steps.grows) fun w hw => ?_).mono fun _ s' rest => ?_
    · exact (hus w (List.mem_cons_of_mem u hw)).grows first.steps.grows
    · refine first.trans cat inv₁ rest fun a b => ?_
      simp only [hn.isLive, hu.isLive, List.mem_cons]
      tauto

/-- Lets an argument flow into a parameter. -/
def passArgument (c : BuildContext) (p : Program) (a : NodeId) (v : Value) : Build Unit := do
  match ← c.valueNode p v with
  | some n => flow a n
  | none => pure ()

theorem linkParams_cons (a : NodeId) (v : Value) (rest : List (Option NodeId × Value)) :
    c.linkParams p ((some a, v) :: rest) = (do c.passArgument p a v; c.linkParams p rest) := by
  rw [linkParams, passArgument, bind_assoc]
  refine bind_congr fun r => ?_
  cases r <;> rfl

/-- Lets a returned value flow to the users of a call. -/
def passReturned (c : BuildContext) (p : Program) (users : List NodeId) (v : Value) : Build Unit := do
  match ← c.valueNode p v with
  | some n => users.forM (flow n)
  | none => pure ()

theorem linkReturned_cons (users : List NodeId) (v : Value) (vs : List Value) :
    c.linkReturned p users (v :: vs) = (do c.passReturned p users v; c.linkReturned p users vs) := by
  rw [linkReturned, passReturned, bind_assoc]
  refine bind_congr fun r => ?_
  cases r <;> rfl

section Link

variable (cat : c.programs.Catalogued) (homed : c.programs.Homed) (silent : c.programs.Silent)
  (fin : c.Finished s)
include cat homed silent fin

theorem wp_passArgument {a : NodeId} (ha : s.graph.Given p a) : wp (c.passArgument p a v) (fun _ s' =>
    c.Drawn (fun x b => x = a ∧ s.graph.isLive a = true ∧ s'.graph.findNode v p = some b) s s' ∧
      c.Fetches p v s') c.Stopped s := by
  unfold passArgument
  rw [wp_bind]
  refine (wp_valueNode_finished cat homed silent fin).mono fun r s₁ ⟨fetched, hr, fetches⟩ => ?_
  have fin₁ := Moves.finished cat fetched.steps.moves fin
  rw [hr] at fetched fetches
  cases r with
  | none => exact ⟨fetched.drawn.congr fun x b => by simp [← hr], fetches⟩
  | some n =>
    have target := fin₁.lives_findNode hr.symm
    have flow := drawn_flow (c := c) (ha.grows fetched.steps.grows) target.given
    rw [wp_flow, fin₁.findNode_steps cat fetches flow.steps, ← hr]
    refine ⟨fetched.drawn.trans cat fin₁.toGrounded flow fun x b => ?_,
      fin₁.fetches_steps cat fetches flow.steps⟩
    simp only [fetched.drawn.isLive ha.lt, target.isLive, Option.some.injEq]
    tauto

theorem wp_passReturned {users : List NodeId} (husers : ∀ u ∈ users, s.graph.Lives p u) :
    wp (c.passReturned p users v) (fun _ s' =>
      c.Drawn (fun a b => s'.graph.findNode v p = some a ∧ b ∈ users) s s' ∧ c.Fetches p v s')
      c.Stopped s := by
  unfold passReturned
  rw [wp_bind]
  refine (wp_valueNode_finished cat homed silent fin).mono fun r s₁ ⟨fetched, hr, fetches⟩ => ?_
  have fin₁ := Moves.finished cat fetched.steps.moves fin
  rw [hr] at fetched fetches
  cases r with
  | none => exact ⟨fetched.drawn.congr fun x b => by simp [← hr], fetches⟩
  | some n =>
    have users₁ := fun u hu => (husers u hu).grows fetched.steps.grows
    refine (wp_flows cat fin₁.toGrounded (fin₁.lives_findNode hr.symm) users₁).mono fun _ s₂ flows => ?_
    rw [fin₁.findNode_steps cat fetches flows.steps, ← hr]
    refine ⟨fetched.drawn.trans cat fin₁.toGrounded flows fun a b => ?_,
      fin₁.fetches_steps cat fetches flows.steps⟩
    simp only [Option.some.injEq, false_or, eq_comm]

/-- The arguments that are there flow into what the parameters stand for. -/
theorem wp_linkParams_drawn {args : List (Option NodeId × Value)}
    (hargs : ∀ a v, (some a, v) ∈ args → s.graph.Given p a) :
    wp (c.linkParams p args) (fun _ s' =>
      c.Drawn (fun a b => s.graph.isLive a = true ∧
        ∃ v, (some a, v) ∈ args ∧ s'.graph.findNode v p = some b) s s' ∧
      ∀ a v, (some a, v) ∈ args → c.Fetches p v s') c.Stopped s := by
  induction args generalizing s with
  | nil => exact ⟨(Drawn.refl c s).congr fun a b => by simp, nofun⟩
  | cons arg args ih =>
    obtain ⟨actual, formal⟩ := arg
    have rest := fun a v h => hargs a v (List.mem_cons_of_mem _ h)
    cases actual with
    | none =>
      refine (ih fin rest).mono fun _ s' ⟨drawn, fetches⟩ => ⟨drawn.congr fun a b => by simp, ?_⟩
      exact fun a v h => fetches a v (by simpa using h)
    | some a =>
      rw [linkParams_cons, wp_bind]
      refine (wp_passArgument cat homed silent fin (hargs a formal List.mem_cons_self)).mono
        fun _ s₁ ⟨first, fetches⟩ => ?_
      have fin₁ := Moves.finished cat first.steps.moves fin
      refine (ih fin₁ fun x v h => (rest x v h).grows first.steps.grows).mono
        fun _ s' ⟨drawn, later⟩ => ⟨first.trans cat fin₁.toGrounded drawn fun x b => ?_, fun x v h => ?_⟩
      · have live : ∀ {x v}, (some x, v) ∈ args → s₁.graph.isLive x = s.graph.isLive x :=
          fun h => first.isLive (rest _ _ h).lt
        have stable := fin₁.findNode_steps cat fetches drawn.steps
        constructor
        · rintro ⟨hx, v, hv, hb⟩
          rcases List.mem_cons.1 hv with he | hv
          · cases he
            exact Or.inl ⟨rfl, hx, stable.symm.trans hb⟩
          · exact Or.inr ⟨(live hv).trans hx, v, hv, hb⟩
        · rintro (⟨rfl, hx, hb⟩ | ⟨hx, v, hv, hb⟩)
          · exact ⟨hx, formal, List.mem_cons_self, stable.trans hb⟩
          · exact ⟨(live hv).symm.trans hx, v, List.mem_cons_of_mem _ hv, hb⟩
      · rcases List.mem_cons.1 h with he | h
        · cases he
          exact fin₁.fetches_steps cat fetches drawn.steps
        · exact later x v h

/-- What the returned values stand for flows to the users. -/
theorem wp_linkReturned_drawn {users : List NodeId} (husers : ∀ u ∈ users, s.graph.Lives p u)
    (vs : List Value) : wp (c.linkReturned p users vs) (fun _ s' =>
      c.Drawn (fun a b => (∃ v ∈ vs, s'.graph.findNode v p = some a) ∧ b ∈ users) s s' ∧
      ∀ v ∈ vs, c.Fetches p v s') c.Stopped s := by
  induction vs generalizing s with
  | nil => exact ⟨(Drawn.refl c s).congr fun a b => by simp, nofun⟩
  | cons v vs ih =>
    rw [linkReturned_cons, wp_bind]
    refine (wp_passReturned cat homed silent fin husers).mono fun _ s₁ ⟨first, fetches⟩ => ?_
    have fin₁ := Moves.finished cat first.steps.moves fin
    refine (ih fin₁ fun u hu => (husers u hu).grows first.steps.grows).mono
      fun _ s' ⟨drawn, later⟩ => ⟨first.trans cat fin₁.toGrounded drawn fun a b => ?_, fun w hw => ?_⟩
    · rw [List.exists_mem_cons_iff, fin₁.findNode_steps cat fetches drawn.steps, or_and_right]
    · rcases List.mem_cons.1 hw with rfl | hw
      · exact fin₁.fetches_steps cat fetches drawn.steps
      · exact later w hw

end Link

/-! ## Splicing one call -/

/-- An argument that is there flows into what a parameter stands for at the end. -/
def Passed (e : NodeId × Routine) (s s' : BuildState) (a b : NodeId) : Prop :=
  s.graph.isLive a = true ∧ ∃ v, (some a, v) ∈ (s.graph.args e.1).zip e.2.params ∧
    s'.graph.findNode v e.2.program = some b

/-- What a returned value stands for at the end flows to a user of the call. -/
def Returned (e : NodeId × Routine) (s s' : BuildState) (a b : NodeId) : Prop :=
  (∃ v ∈ e.2.returned, s'.graph.findNode v e.2.program = some a) ∧ s.graph.Edge e.1 b

/-- A call was replaced by the routine it calls. -/
structure Spliced (c : BuildContext) (e : NodeId × Routine) (s s' : BuildState) : Prop where
  moves : c.Moves s s'
  kind : ∀ m, m < s.graph.slots.size → (s'.graph.node? m).map (·.kind) =
    if m = e.1 then none else (s.graph.node? m).map (·.kind)
  edge : ∀ a b, s'.graph.Edge a b ↔ a ≠ e.1 ∧ b ≠ e.1 ∧
    (s.graph.Edge a b ∨ a ≠ b ∧ (Passed e s s' a b ∨ Returned e s s' a b))
  conserves : s.graph.Conserves s'.graph
  input : ∀ v o i, s'.graph.findInput v o = some i → s.graph.findInput v o = some i
  params : ∀ a v, (some a, v) ∈ (s.graph.args e.1).zip e.2.params → c.Fetches e.2.program v s'
  returned : ∀ v ∈ e.2.returned, c.Fetches e.2.program v s'
  made : ∀ m, s.graph.slots.size ≤ m → s'.graph.isLive m = true → s'.graph.Named m

/-- After the edges are drawn, the call is taken out. -/
theorem Drawn.spliced {e : NodeId × Routine} {y : Node} {g : Graph} (cat : c.programs.Catalogued)
    (fin : c.Finished s') (call : Calls s'.graph e)
    (drawn : c.Drawn (fun a b => Passed e s s' a b ∨ Returned e s s' a b) s s')
    (params : ∀ a v, (some a, v) ∈ (s.graph.args e.1).zip e.2.params → c.Fetches e.2.program v s')
    (returned : ∀ v ∈ e.2.returned, c.Fetches e.2.program v s')
    (removed : s'.graph.removeNode e.1 = .ok (y, g)) :
    c.Spliced e s ⟨g, s'.visited.mapValues fun m => if m = some e.1 then none else m⟩ := by
  obtain ⟨-, r⟩ := Graph.removed_of_removeNode fin.wf.toLinked removed
  have same : ∀ {v m}, g.findNode v e.2.program = some m ↔
      s'.graph.findNode v e.2.program = some m ∧ m ≠ e.1 := fin.findNode_retire cat removed
  -- the call is nothing that was fetched
  have keep : ∀ {v}, c.Fetches e.2.program v s' → c.Fetches e.2.program v
      ⟨g, s'.visited.mapValues fun m => if m = some e.1 then none else m⟩ := by
    intro v fetches hp fetchable
    obtain ⟨m, hm⟩ := Option.isSome_iff_exists.1 (fetches hp fetchable)
    exact Option.isSome_iff_exists.2
      ⟨m, same.2 ⟨hm, (call.ne_fetchable fin.toGrounded fetchable hm).symm⟩⟩
  refine ⟨drawn.steps.moves.tail (.retire removed), fun m hm => ?_, fun a b => ?_,
    drawn.conserves.trans r.conserves, fun v o i hi => ?_, fun a v h => keep (params a v h),
    fun v hv => keep (returned v hv), fun m hle live => ?_⟩
  · rw [← drawn.kind m hm, r.node]
    split
    · rfl
    · rw [Option.map_map]
      rfl
  · have edge : g.Edge a b ↔ a ≠ e.1 ∧ b ≠ e.1 ∧ s'.graph.Edge a b := by
      simp only [Graph.Edge, Graph.hasEdge, r.edgeKind?]
      split
      · next h => simp; tauto
      · next h => simp [not_or.1 h]
    rw [edge, drawn.edge]
    refine and_congr_right fun ha => and_congr_right fun hb => or_congr_right (and_congr_right fun _ => ?_)
    simp only [Passed, Returned, same, ha, hb, ne_eq, not_false_eq_true, and_true]
  · rw [Graph.findInput, r.input, SortedMap.get?_filterValues, Option.filter_eq_some_iff,
      drawn.steps.inputNodes] at hi
    exact hi.1
  · obtain ⟨y, hy⟩ := Graph.isLive_iff.1 live
    obtain ⟨p, v, hv⟩ := drawn.made m hle ((Graph.lt_size_of_node? hy).trans_eq r.size)
    exact ⟨p, v, (fin.findNode_retire cat removed).2 ⟨hv, r.ne_of_isLive live⟩⟩

section Splice

variable (cat : c.programs.Catalogued) (homed : c.programs.Homed) (silent : c.programs.Silent)
  (fin : c.Finished s) {callee : Routine}
include cat homed silent fin

theorem wp_spliceCall_spliced (call : Calls s.graph (n, callee)) :
    wp (c.spliceCall n callee) (fun _ s' => c.Spliced (n, callee) s s') c.Stopped s := by
  obtain ⟨hn, x, info, hx, hkind⟩ := call
  have home : x.program = callee.program := hn.program x hx
  have args : s.graph.args n = info.args := by
    rw [Graph.args, hx, Option.map_some, hkind]
    rfl
  refine wp_spliceCall (fun stale => ?_) (fun y hy other => ?_) fun y info' hy hkind' => ?_
  · rw [hx] at stale
    cases stale
  · rw [hx] at hy
    cases hy
    exact absurd hkind (other info)
  rw [hx] at hy
  cases hy
  rw [hkind] at hkind'
  cases hkind'
  have given : ∀ a v, (some a, v) ∈ info.args.zip callee.params → s.graph.Given callee.program a := by
    intro a v h
    rw [← home]
    refine fin.divided.args n x a hx ?_
    rw [hkind]
    exact (List.of_mem_zip h).1
  have users := fin.lives_users hx hkind
  rw [home] at users
  refine (wp_linkParams_drawn cat homed silent fin given).mono fun _ s₁ ⟨params, fetches⟩ => ?_
  have fin₁ := Moves.finished cat params.steps.moves fin
  refine (wp_linkReturned_drawn cat homed silent fin₁
    (fun u hu => (users u hu).grows params.steps.grows) callee.returned).mono
    fun _ s₂ ⟨returned, fetched⟩ => ?_
  have fin₂ := Moves.finished cat returned.steps.moves fin₁
  rw [← args] at params fetches
  -- parameters stand for the same before and after the returned values are fetched
  have drawn : c.Drawn (fun a b => Passed (n, callee) s s₂ a b ∨ Returned (n, callee) s s₂ a b) s s₂ := by
    refine params.trans cat fin₁.toGrounded returned fun a b => or_congr (and_congr_right fun _ => ?_) ?_
    · refine exists_congr fun v => and_congr_right fun h => ?_
      rw [fin₁.findNode_steps cat (fetches a v h) returned.steps]
    · rw [Graph.mem_successors_iff]
      rfl
  have call : Calls s₂.graph (n, callee) := by
    have kind := drawn.kind n hn.lt
    rw [hx, Option.map_some, hkind] at kind
    obtain ⟨y, hy, hkind'⟩ := Option.map_eq_some_iff.1 kind
    exact ⟨hn.grows drawn.steps.grows, y, info, hy, hkind'⟩
  refine wp_retire (fun y g removed => ?_) fun e error => ?_
  · exact drawn.spliced cat fin₂ call
      (fun a v h => fin₁.fetches_steps cat (fetches a v h) returned.steps) fetched removed
  · obtain ⟨-, y, -, hy, -⟩ := call
    have hy : s₂.graph.node? n = some y := hy
    simp [Graph.removeNode, hy] at error

end Splice

/-! ## Splicing many calls -/

/-- Calls were spliced one after the other. -/
inductive Splices (c : BuildContext) : List (NodeId × Routine) → BuildState → BuildState → Prop
  | nil (s : BuildState) : Splices c [] s s
  | cons {e : NodeId × Routine} {es : List (NodeId × Routine)} {s s₁ s' : BuildState}
      (first : c.Spliced e s s₁) (rest : Splices c es s₁ s') : Splices c (e :: es) s s'

/-- Splicing one call leaves the others. -/
theorem Spliced.calls {e e' : NodeId × Routine} (h : c.Spliced e s s') (inv : c.Grounded s)
    (hne : e'.1 ≠ e.1) (calls : Calls s.graph e') : Calls s'.graph e' := by
  obtain ⟨given, x, info, hx, hkind⟩ := calls
  refine ⟨given.evolves (Graph.Changes.evolves inv.wf (Moves.changes h.moves)), ?_⟩
  have kind := h.kind e'.1 given.lt
  rw [if_neg hne, hx, Option.map_some, hkind] at kind
  obtain ⟨y, hy, hkind'⟩ := Option.map_eq_some_iff.1 kind
  exact ⟨y, info, hy, hkind'⟩

theorem wp_spliceAll_splices (cat : c.programs.Catalogued) (homed : c.programs.Homed)
    (silent : c.programs.Silent) (fin : c.Finished s) {calls : List (NodeId × Routine)}
    (hcalls : ∀ e ∈ calls, Calls s.graph e) (nodup : (calls.map (·.1)).Nodup) :
    wp (c.spliceAll calls) (fun _ s' => c.Splices calls s s') c.Stopped s := by
  induction calls generalizing s with
  | nil => exact .nil s
  | cons e es ih =>
    change wp (c.spliceCall e.1 e.2 >>= fun _ => c.spliceAll es) _ _ s
    rw [List.map_cons, List.nodup_cons] at nodup
    rw [wp_bind]
    refine (wp_spliceCall_spliced cat homed silent fin (hcalls e List.mem_cons_self)).mono
      fun _ s₁ first => ?_
    refine (ih (Moves.finished cat first.moves fin) (fun e' he' => ?_) nodup.2).mono
      fun _ s' rest => .cons first rest
    refine first.calls fin.toGrounded (fun same => nodup.1 ?_) (hcalls e' (List.mem_cons_of_mem e he'))
    exact same ▸ List.mem_map_of_mem he'

theorem Splices.moves {calls : List (NodeId × Routine)} (h : c.Splices calls s s') : c.Moves s s' := by
  induction h with
  | nil s => exact .refl
  | cons first rest ih => exact first.moves.trans ih

theorem Splices.conserves {calls : List (NodeId × Routine)} (h : c.Splices calls s s') :
    s.graph.Conserves s'.graph := by
  induction h with
  | nil s => exact .refl _
  | cons first rest ih => exact first.conserves.trans ih

theorem Splices.input {calls : List (NodeId × Routine)} (h : c.Splices calls s s') {o : Origin} {i : NodeId}
    (hi : s'.graph.findInput v o = some i) : s.graph.findInput v o = some i := by
  induction h with
  | nil s => exact hi
  | cons first rest ih => exact first.input v o i (ih hi)

theorem Splices.calls {calls : List (NodeId × Routine)} {e : NodeId × Routine} (h : c.Splices calls s s')
    (cat : c.programs.Catalogued) (inv : c.Grounded s) (fresh : e.1 ∉ calls.map (·.1))
    (call : Calls s.graph e) : Calls s'.graph e := by
  induction h with
  | nil s => exact call
  | cons first rest ih =>
    rw [List.map_cons, List.mem_cons, not_or] at fresh
    exact ih (Moves.grounded cat first.moves inv) fresh.2 (first.calls inv fresh.1 call)

theorem Splices.snoc {calls : List (NodeId × Routine)} {e : NodeId × Routine} (h : c.Splices calls s s₁)
    (last : c.Spliced e s₁ s') : c.Splices (calls ++ [e]) s s' := by
  induction h with
  | nil s => exact .cons last (.nil s')
  | cons first rest ih => exact .cons first (ih last)

/-- The spliced calls are gone, and what else was there before is of the same kind. -/
theorem Splices.kind {calls : List (NodeId × Routine)} (h : c.Splices calls s s') {m : NodeId}
    (hm : m < s.graph.slots.size) : (s'.graph.node? m).map (·.kind) =
      if m ∈ calls.map (·.1) then none else (s.graph.node? m).map (·.kind) := by
  induction h with
  | nil s => rfl
  | @cons e es s s₁ s' first rest ih =>
    rw [ih (hm.trans_le first.conserves.size_le), first.kind m hm]
    by_cases he : m = e.1
    · simp [he]
    · simp only [he, if_false, List.map_cons, List.mem_cons, false_or]

theorem Splices.isLive {calls : List (NodeId × Routine)} (h : c.Splices calls s s') {m : NodeId}
    (hm : m < s.graph.slots.size) :
    s'.graph.isLive m = true ↔ s.graph.isLive m = true ∧ m ∉ calls.map (·.1) := by
  rw [Graph.isLive, ← Option.isSome_map (f := Node.kind), h.kind hm]
  split
  · next mem => simp [mem]
  · next fresh => simp only [Option.isSome_map, Graph.isLive, fresh, not_false_eq_true, and_true]

/-- What was made while calls were spliced is what a value stands for. -/
theorem Splices.made {calls : List (NodeId × Routine)} (h : c.Splices calls s s')
    (cat : c.programs.Catalogued) (inv : c.Grounded s) {m : NodeId} (hm : s.graph.slots.size ≤ m)
    (live : s'.graph.isLive m = true) : s'.graph.Named m := by
  induction h with
  | nil s =>
    obtain ⟨y, hy⟩ := Graph.isLive_iff.1 live
    exact absurd (Graph.lt_size_of_node? hy) (Nat.not_lt.2 hm)
  | @cons e es s s₁ s' first rest ih =>
    have inv₁ := Moves.grounded cat first.moves inv
    rcases Nat.lt_or_ge m s₁.graph.slots.size with hlt | hle
    · obtain ⟨p, v, hv⟩ := first.made m hm ((rest.isLive hlt).1 live).1
      exact ⟨p, v, Moves.findNode cat rest.moves inv₁ hv live⟩
    · exact ih inv₁ hle live

/-- A node that is none of the calls. -/
theorem not_mem_handles {calls : List (NodeId × Routine)} (other : ∀ e ∈ calls, e.1 ≠ n) :
    n ∉ calls.map (·.1) := by
  intro mem
  obtain ⟨e, he, same⟩ := List.mem_map.1 mem
  exact other e he same

theorem Splices.isLive_of_ne {calls : List (NodeId × Routine)} (h : c.Splices calls s s')
    (lives : s.graph.Lives p n) (other : ∀ e ∈ calls, e.1 ≠ n) : s'.graph.isLive n = true :=
  (h.isLive lives.given.lt).2 ⟨lives.isLive, not_mem_handles other⟩

theorem Splices.args {calls : List (NodeId × Routine)} (h : c.Splices calls s s') {m : NodeId}
    (hm : m < s.graph.slots.size) (fresh : m ∉ calls.map (·.1)) : s'.graph.args m = s.graph.args m := by
  have kind := congrArg (fun k => (k.map NodeKind.args).getD []) (h.kind hm)
  rw [if_neg fresh, Option.map_map, Option.map_map] at kind
  exact kind

end BuildContext

end PeerTaint
