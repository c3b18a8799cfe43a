import PeerTaint.Proofs.Linking
import PeerTaint.Proofs.Walks

/-!
When everything is visited.

Once all operations of the stream were visited, resolving a value expands nothing any more. The value
has a node already, or it gets the node of its alias class, or one of its own if no operation defines
it (`Fetchable`). A value that an operation defines and that has no node is left without one: its node
was taken out. Splicing and attaching inputs only work on such states (`Finished`).
-/

namespace PeerTaint

/-- The arguments of every call are live. -/
def Graph.Supplied (g : Graph) : Prop :=
  ∀ n x a, g.node? n = some x → some a ∈ x.kind.args → g.isLive a = true

/-- What stands for a node that was there before stood for it before. -/
structure Graph.Conserves (g g' : Graph) : Prop where
  size_le : g.slots.size ≤ g'.slots.size
  mem : ∀ p k n, n < g.slots.size → g'.findMem p k = some n → g.findMem p k = some n
  value : ∀ v n, n < g.slots.size → g'.valueNodes.get? v = some n → g.valueNodes.get? v = some n

theorem Graph.Conserves.refl (g : Graph) : g.Conserves g :=
  ⟨le_rfl, fun _ _ _ _ h => h, fun _ _ _ h => h⟩

theorem Graph.Conserves.trans {g₁ g₂ g₃ : Graph} (h : g₁.Conserves g₂) (h' : g₂.Conserves g₃) :
    g₁.Conserves g₃ where
  size_le := h.size_le.trans h'.size_le
  mem p k n hn hm := h.mem p k n hn (h'.mem p k n (hn.trans_le h.size_le) hm)
  value v n hn hv := h.value v n hn (h'.value v n (hn.trans_le h.size_le) hv)

theorem Graph.Removed.conserves {g g' : Graph} {n : NodeId} {x : Node} (r : g.Removed n x g') :
    g.Conserves g' where
  size_le := r.size.ge
  mem p k m _ hm := by
    rw [Graph.findMem, r.mem, SortedMap.get?_filterValues, Option.filter_eq_some_iff] at hm
    exact hm.1
  value v m _ hv := by
    rw [r.value, SortedMap.get?_filterValues, Option.filter_eq_some_iff] at hv
    exact hv.1

namespace BuildContext

open Build

variable {c : BuildContext} {s s' : BuildState} {p : Program} {v : Value} {n : NodeId}

/-! ## Bindings last -/

theorem Step.valueNodes_keep (h : c.Step s s') (hv : s.graph.valueNodes.get? v = some n) :
    s'.graph.valueNodes.get? v = some n := by
  cases h with
  | place id succ pred levels args => rw [valueNodes_place, hv]
  | correlate levels face => rw [(Graph.Quiet.correlate ..).value, hv]
  | flow source target => rw [(Graph.Quiet.connect ..).value, hv]
  | bindValue role defines scalar free due =>
    simp only [Graph.bindValue, SortedMap.get?_insert]
    split
    · next he =>
      rw [he, free] at hv
      cases hv
    · exact hv
  | _ => exact hv

theorem Step.memValues_keep (h : c.Step s s') (inv : c.Grounded s)
    (hv : s.graph.memValues.get? v = some n) : s'.graph.memValues.get? v = some n := by
  cases h with
  | place id succ pred levels args =>
    obtain ⟨_, _, _, _, he⟩ := Graph.place_eq s.graph _
    rw [he, hv]
  | correlate levels face => rw [(Graph.Quiet.correlate ..).memValue, hv]
  | flow source target => rw [(Graph.Quiet.connect ..).memValue, hv]
  | bindMemValue pointer mem =>
    simp only [Graph.bindMemValue, SortedMap.get?_insert]
    split
    · next he =>
      subst he
      obtain ⟨k, hk, hm⟩ := inv.memValue v n hv
      rw [pointer] at hk
      cases hk
      exact mem.symm.trans hm
    · exact hv
  | _ => exact hv

theorem Step.findNode (cat : c.programs.Catalogued) (h : c.Step s s') (inv : c.Grounded s)
    (hn : s.graph.findNode v p = some n) : s'.graph.findNode v p = some n := by
  cases program_of_findNode hn
  have inv' := h.grounded cat inv
  cases hk : c.aliasKey? v with
  | some k =>
    rw [inv.byClass.findNode_of_some hk] at hn
    rw [inv'.byClass.findNode_of_some hk]
    exact h.memValues_keep inv hn
  | none =>
    rw [inv.byClass.findNode_of_none hk] at hn
    rw [inv'.byClass.findNode_of_none hk]
    exact h.valueNodes_keep hn

/-- A value stands for what it stood for, unless that is the node that is taken out. -/
theorem Grounded.findNode_retire {m : NodeId} {x : Node} {g : Graph} (cat : c.programs.Catalogued)
    (inv : c.Grounded s) (removed : s.graph.removeNode m = .ok (x, g)) :
    g.findNode v p = some n ↔ s.graph.findNode v p = some n ∧ n ≠ m := by
  obtain ⟨-, r⟩ := Graph.removed_of_removeNode inv.wf.toLinked removed
  have inv' := Move.grounded cat (.retire removed) inv
  have other : Graph.otherThan m n = true ↔ n ≠ m := decide_eq_true_iff
  by_cases hp : v.program = p
  · subst hp
    cases hk : c.aliasKey? v with
    | some k =>
      rw [inv.byClass.findNode_of_some hk, inv'.byClass.findNode_of_some hk, r.memValue,
        SortedMap.get?_filterValues, Option.filter_eq_some_iff, other]
    | none =>
      rw [inv.byClass.findNode_of_none hk, inv'.byClass.findNode_of_none hk, r.value,
        SortedMap.get?_filterValues, Option.filter_eq_some_iff, other]
  · rw [Graph.findNode, if_neg hp, Graph.findNode, if_neg hp]
    simp

/-- A value stands for a node as long as the node is there. -/
theorem Move.findNode (cat : c.programs.Catalogued) (h : c.Move s s') (inv : c.Grounded s)
    (hn : s.graph.findNode v p = some n) (live : s'.graph.isLive n = true) :
    s'.graph.findNode v p = some n := by
  cases h with
  | step step => exact step.findNode cat inv hn
  | input role fresh => exact hn
  | @retire m x g removed =>
    obtain ⟨-, r⟩ := Graph.removed_of_removeNode inv.wf.toLinked removed
    exact (inv.findNode_retire cat removed).2 ⟨hn, r.ne_of_isLive live⟩

theorem Steps.findNode (cat : c.programs.Catalogued) (h : c.Steps s s') (inv : c.Grounded s)
    (hn : s.graph.findNode v p = some n) : s'.graph.findNode v p = some n := by
  induction h with
  | refl => exact hn
  | tail before step ih => exact step.findNode cat (Steps.grounded cat before inv) ih

theorem Move.findMem {k : AliasKey} (h : c.Move s s') (wf : s.graph.WellFormed)
    (hn : s.graph.findMem p k = some n) (live : s'.graph.isLive n = true) :
    s'.graph.findMem p k = some n := by
  cases h with
  | step step => exact step.grows.extension.mem p k n hn
  | input role fresh => exact hn
  | @retire m x g removed =>
    obtain ⟨-, r⟩ := Graph.removed_of_removeNode wf.toLinked removed
    rw [Graph.findMem, r.mem, SortedMap.get?_filterValues, Option.filter_eq_some_iff]
    exact ⟨hn, decide_eq_true (r.ne_of_isLive live)⟩

/-- What holds as long as a node is there holds after moves that leave the node. -/
theorem Moves.lasting {P : BuildState → Prop} (cat : c.programs.Catalogued) (h : c.Moves s s')
    (inv : c.Grounded s) (lives : s.graph.Lives p n) (live : s'.graph.isLive n = true) (hs : P s)
    (step : ∀ {t t'}, c.Move t t' → c.Grounded t → P t → t'.graph.isLive n = true → P t') : P s' := by
  induction h with
  | refl => exact hs
  | @tail t t' before move ih =>
    have inv' := Moves.grounded cat before inv
    have hlt := lives.given.lt.trans_le (Graph.Changes.evolves inv.wf (Moves.changes before)).size_le
    refine step move inv' (ih ?_) live
    cases ht : t.graph.isLive n with
    | true => rfl
    | false =>
      rw [(Graph.Changes.evolves inv'.wf move.changes).stale n hlt ht] at live
      cases live

theorem Moves.findNode (cat : c.programs.Catalogued) (h : c.Moves s s') (inv : c.Grounded s)
    (hn : s.graph.findNode v p = some n) (live : s'.graph.isLive n = true) :
    s'.graph.findNode v p = some n :=
  Moves.lasting cat h inv (inv.lives_findNode hn) live hn
    fun move inv hn live => move.findNode cat inv hn live

theorem Moves.findMem {k : AliasKey} (cat : c.programs.Catalogued) (h : c.Moves s s') (inv : c.Grounded s)
    (hn : s.graph.findMem p k = some n) (live : s'.graph.isLive n = true) :
    s'.graph.findMem p k = some n :=
  Moves.lasting cat h inv ⟨_, inv.wf.mem _ _ _ hn⟩ live hn fun move inv hn live => move.findMem inv.wf hn live

/-! ## Finished builds -/

/-- A value that gets a node when it is asked for, although there is nothing left to expand: it has an
alias class, or it is known and no operation defines it. -/
def Fetchable (c : BuildContext) (v : Value) : Prop :=
  (c.aliasKey? v).isSome = true ∨
    c.programs.definition? v = none ∧ (c.programs.info? v).isSome = true

/-- The operation binds its result, unless the result has an alias class. -/
def Binds (c : BuildContext) (op : Operation) (v : Value) : Prop :=
  op.opcode ≠ .store ∧ c.excluded op = false ∧ op.result = some v ∧ c.aliasKey? v = none

/-- With silent stores and terminators, every operation binds its result. -/
theorem binds_of_silent (silent : c.programs.Silent) {op : Operation} (he : (p, op) ∈ c.programs.stream)
    (hv : op.result = some v) (scalar : c.aliasKey? v = none) : c.Binds op v := by
  have plain : op.opcode ≠ .store ∧ op.opcode.isTerminator ≠ true := by
    refine not_or.1 fun h => ?_
    have none := silent _ he h
    rw [hv] at none
    cases none
  refine ⟨plain.1, ?_, hv, scalar⟩
  rw [excluded, Bool.eq_false_iff.2 plain.2, Bool.false_and]

/-- Every operation that was visited gave its result a node. -/
def Settled (c : BuildContext) (s : BuildState) : Prop :=
  ∀ e ∈ c.programs.stream, ∀ x, s.noted? e.2 = some x → ∀ v, c.Binds e.2 v →
    x.isSome = true ∧ x = s.graph.valueNodes.get? v

/-- Every operation was visited, and its result stands for the node it was visited with, if that is
still there. -/
structure Finished (c : BuildContext) (s : BuildState) : Prop extends c.Grounded s where
  visited : ∀ e ∈ c.programs.stream, ∃ x, s.noted? e.2 = some x ∧
    ∀ v, c.Binds e.2 v → x = s.graph.valueNodes.get? v

theorem Step.settled (cat : c.programs.Catalogued) (h : c.Step s s') (settled : c.Settled s) :
    c.Settled s' := by
  intro e he x hx v binds
  rcases h.noted? cat he hx with hx | ⟨same, -, bound⟩
  · obtain ⟨some_x, hv⟩ := settled e he x hx v binds
    obtain ⟨n, rfl⟩ := Option.isSome_iff_exists.1 some_x
    exact ⟨rfl, (h.valueNodes_keep hv.symm).symm⟩
  · rw [same]
    exact bound binds.1 binds.2.1 v binds.2.2.1 binds.2.2.2

theorem Steps.settled (cat : c.programs.Catalogued) (h : c.Steps s s') (settled : c.Settled s) :
    c.Settled s' := by
  induction h with
  | refl => exact settled
  | tail _ step ih => exact step.settled cat ih

/-- In a finished build only values that no operation defines get nodes of their own. -/
theorem Finished.undefined_of_step (fin : c.Finished s) (h : c.Step s s')
    (free : s.graph.valueNodes.get? v = none) (hn : s'.graph.valueNodes.get? v = some n) :
    c.programs.definition? v = none ∧ (c.programs.info? v).isSome = true := by
  have unchanged : s'.graph.valueNodes = s.graph.valueNodes → False := by
    intro same
    rw [same, free] at hn
    cases hn
  cases h with
  | place id succ pred levels args => exact (unchanged (valueNodes_place ..)).elim
  | correlate levels face => exact (unchanged (Graph.Quiet.correlate ..).value).elim
  | flow source target => exact (unchanged (Graph.Quiet.connect ..).value).elim
  | bindValue role defines scalar unbound due =>
    simp only [Graph.bindValue, SortedMap.get?_insert] at hn
    split at hn
    · next he =>
      subst he
      rcases due with ⟨undefined, known, -⟩ | ⟨e, he, -, unvisited⟩
      · exact ⟨undefined, known⟩
      · obtain ⟨x, hx, -⟩ := fin.visited e he
        rw [unvisited] at hx
        cases hx
    · rw [free] at hn
      cases hn
  | _ => exact (unchanged rfl).elim

theorem Step.finished (cat : c.programs.Catalogued) (h : c.Step s s') (fin : c.Finished s) :
    c.Finished s' := by
  refine ⟨h.grounded cat fin.toGrounded, fun e he => ?_⟩
  obtain ⟨x, hx, bound⟩ := fin.visited e he
  obtain ⟨y, hy⟩ := Option.isSome_iff_exists.1
    (Steps.isSome_noted? (.single h) (Option.isSome_iff_exists.2 ⟨x, hx⟩))
  refine ⟨y, hy, fun v binds => ?_⟩
  rcases h.noted? cat he hy with hy | ⟨same, -, bound'⟩
  · rw [hx] at hy
    cases hy
    rw [bound v binds]
    cases hv : s.graph.valueNodes.get? v with
    | some n => exact (h.valueNodes_keep hv).symm
    | none =>
      cases hv' : s'.graph.valueNodes.get? v with
      | none => rfl
      | some n =>
        have defined := cat.defined e he v binds.2.2.1
        rw [(fin.undefined_of_step h hv hv').1] at defined
        cases defined
  · rw [same]
    exact (bound' binds.1 binds.2.1 v binds.2.2.1 binds.2.2.2).2

theorem Move.finished (cat : c.programs.Catalogued) (h : c.Move s s') (fin : c.Finished s) :
    c.Finished s' := by
  have inv' := h.grounded cat fin.toGrounded
  cases h with
  | step step => exact step.finished cat fin
  | input role fresh => exact ⟨inv', fin.visited⟩
  | @retire n x g removed =>
    obtain ⟨-, r⟩ := Graph.removed_of_removeNode fin.wf.toLinked removed
    refine ⟨inv', fun e he => ?_⟩
    obtain ⟨y, hy, bound⟩ := fin.visited e he
    refine ⟨_, noted?_retire.2 ⟨y, hy, rfl⟩, fun v binds => ?_⟩
    rw [r.value, SortedMap.get?_filterValues, ← bound v binds]
    cases y with
    | none => rfl
    | some m => by_cases hm : m = n <;> simp [Option.filter, Graph.otherThan, hm]

theorem Moves.finished (cat : c.programs.Catalogued) (h : c.Moves s s') (fin : c.Finished s) :
    c.Finished s' := by
  induction h with
  | refl => exact fin
  | tail _ move ih => exact move.finished cat ih

/-- Values that are not fetched stand for nothing that they did not stand for before. -/
theorem Move.findNode_back (cat : c.programs.Catalogued) (h : c.Move s s') (fin : c.Finished s)
    (hn : s'.graph.findNode v p = some n) : s.graph.findNode v p = some n ∨ c.Fetchable v := by
  cases h with
  | step step =>
    cases program_of_findNode hn
    have inv' := step.grounded cat fin.toGrounded
    cases hk : c.aliasKey? v with
    | some k => exact Or.inr (Or.inl (by rw [hk]; rfl))
    | none =>
      rw [inv'.byClass.findNode_of_none hk] at hn
      rw [fin.byClass.findNode_of_none hk]
      cases hv : s.graph.valueNodes.get? v with
      | none => exact Or.inr (Or.inr (fin.undefined_of_step step hv hn))
      | some m =>
        rw [step.valueNodes_keep hv] at hn
        exact Or.inl hn
  | input role fresh => exact Or.inl hn
  | retire removed => exact Or.inl ((fin.findNode_retire cat removed).1 hn).1

theorem Moves.findNode_back (cat : c.programs.Catalogued) (h : c.Moves s s') (fin : c.Finished s)
    (hn : s'.graph.findNode v p = some n) : s.graph.findNode v p = some n ∨ c.Fetchable v := by
  induction h with
  | refl => exact Or.inl hn
  | tail before move ih =>
    rcases move.findNode_back cat (Moves.finished cat before fin) hn with hn | fetchable
    · exact ih hn
    · exact Or.inr fetchable

/-! ## Resolving in a finished build -/

/-- A node was made and bound if there was none, and nothing else happened. -/
structure Fetched (c : BuildContext) (r : Option NodeId) (s s' : BuildState) : Prop where
  steps : c.Steps s s'
  node : ∀ m, m < s.graph.slots.size → s'.graph.node? m = s.graph.node? m
  edge : ∀ a b, s'.graph.edgeKind? a b = s.graph.edgeKind? a b
  conserves : s.graph.Conserves s'.graph
  made : ∀ m, s.graph.slots.size ≤ m → m < s'.graph.slots.size → r = some m

theorem Fetched.refl (c : BuildContext) (r : Option NodeId) (s : BuildState) : c.Fetched r s s :=
  ⟨.refl, fun _ _ => rfl, fun _ _ => rfl, .refl _, fun _ hle hlt => absurd hlt (Nat.not_lt.2 hle)⟩

theorem fetched_memNode {k : AliasKey} {label : String} {g : Graph} (hk : c.aliasKey? v = some k)
    (hg : s.graph.memNode v.program k label = .ok (n, g)) :
    c.Fetched (some n) s { s with graph := g.bindMemValue v n } := by
  obtain ⟨-, mem⟩ := Graph.Grows.memNode hg
  have steps : c.Steps s { s with graph := g.bindMemValue v n } :=
    (steps_memNode hg).tail (.bindMemValue (s := { s with graph := g }) hk mem)
  rcases Graph.memNode_eq_ok hg with ⟨-, rfl⟩ | ⟨-, rfl, rfl⟩
  · exact ⟨steps, fun _ _ => rfl, fun _ _ => rfl, ⟨le_rfl, fun _ _ _ _ h => h, fun _ _ _ h => h⟩,
      fun _ hle hlt => absurd hlt (Nat.not_lt.2 hle)⟩
  · refine ⟨steps, fun m hm => ?_, fun a b => Graph.edgeKind?_place rfl a b,
      ⟨?_, fun p j m hm hj => ?_, fun w m _ hw => ?_⟩, fun m hle hlt => ?_⟩
    · exact (Graph.node?_place _ _ m).trans (if_neg (Nat.ne_of_lt hm))
    · exact (Nat.le_succ _).trans_eq (Graph.size_place _ _).symm
    · simp only [Graph.findMem, Graph.bindMemValue, SortedMap.get?_insert] at hj
      split at hj
      · cases hj; exact absurd hm (Nat.lt_irrefl _)
      · exact hj
    · exact (congrArg (·.get? w) (valueNodes_place s.graph _)).symm.trans hw
    · exact congrArg some (hle.antisymm (Nat.le_of_lt_succ (hlt.trans_eq (Graph.size_place _ _))))

theorem fetched_var (name : String) (scalar : c.aliasKey? v = none)
    (undefined : c.programs.definition? v = none) (known : (c.programs.info? v).isSome = true)
    (free : s.graph.valueNodes.get? v = none) :
    c.Fetched (some s.graph.slots.size) s
      ⟨(s.graph.place (s.graph.fresh v.program (.var v) name)).bindValue v s.graph.slots.size,
        s.visited⟩ := by
  have placed : c.Step s ⟨s.graph.place (s.graph.fresh v.program (.var v) name), s.visited⟩ :=
    .place rfl rfl rfl rfl rfl
  have values := valueNodes_place s.graph (s.graph.fresh v.program (.var v) name)
  refine ⟨?_, fun m hm => ?_, fun a b => Graph.edgeKind?_place rfl a b, ⟨?_, fun p k m _ hk => ?_,
    fun w m hm hw => ?_⟩, fun m hle hlt => ?_⟩
  · refine .tail (.single placed) (.bindValue (Graph.role?_place_fresh ..) ⟨rfl, nofun⟩ scalar ?_
      (Or.inl ⟨undefined, known, rfl⟩))
    rw [values, free]
  · exact (Graph.node?_place _ _ m).trans (if_neg (Nat.ne_of_lt hm))
  · exact (Nat.le_succ _).trans_eq (Graph.size_place _ _).symm
  · obtain ⟨_, _, _, _, he⟩ := Graph.place_eq s.graph (s.graph.fresh v.program (.var v) name)
    rw [he] at hk
    exact hk
  · simp only [Graph.bindValue, SortedMap.get?_insert, values] at hw
    split at hw
    · cases hw; exact absurd hm (Nat.lt_irrefl _)
    · exact hw
  · exact congrArg some (hle.antisymm (Nat.le_of_lt_succ (hlt.trans_eq (Graph.size_place _ _))))

/-- An operation that was visited is not expanded again. -/
theorem wp_expand_of_noted? {resolve : Program → Value → Build (Option NodeId)} {op : Operation}
    {x : Option NodeId} {Q : Option NodeId → BuildState → Prop} {E : BuildFault → Prop}
    (hx : s.noted? op = some x) : wp (c.expand resolve p op) Q E s ↔ Q x s := by
  have visited : op.id.bind s.visited.get? = some x := hx
  simp only [expand, monadLift_self, enter_eq, pure_bind]
  rw [wp_bind, wp_visited?, visited]
  exact wp_pure x

/-- Resolving expands nothing any more, and a value that can be fetched has its node afterwards. -/
theorem wp_valueNode_finished (cat : c.programs.Catalogued) (homed : c.programs.Homed)
    (silent : c.programs.Silent) (fin : c.Finished s) : wp (c.valueNode p v) (fun r s' =>
      c.Fetched r s s' ∧ r = s'.graph.findNode v p ∧ (v.program = p → c.Fetchable v → r.isSome = true))
      c.Stopped s := by
  simp only [valueNode, nesting, BuildContext.resolve, monadLift_self]
  split
  · next hp => exact ⟨.refl c _ s, (if_neg hp).symm, fun h => absurd h hp⟩
  · next hp =>
    obtain rfl : v.program = p := not_not.1 hp
    rw [wp_bind, wp_graph]
    split
    · next n hn => exact ⟨.refl c _ s, hn.symm, fun _ _ => rfl⟩
    · next unbound =>
      split
      · next k hk =>
        rw [wp_map]
        refine wp_memNodeFor (fun n g hg => ?_) (c.stopped_full _) (c.stopped_inconsistent hk)
        have fetched : c.Fetched (some n) s { s with graph := g.bindMemValue v n } := fetched_memNode hk hg
        refine ⟨fetched, ?_, fun _ _ => rfl⟩
        rw [(fetched.steps.grounded cat fin.toGrounded).byClass.findNode_of_some hk, Graph.bindMemValue,
          SortedMap.get?_insert, if_pos rfl]
      · next scalar =>
        have free := unbound
        rw [fin.byClass.findNode_of_none scalar] at free
        split
        · next op hop =>
          -- the operation was visited, and its result has no node any more
          obtain ⟨he, hv⟩ := cat.mem_of_definition? homed hop
          obtain ⟨x, hx, bound⟩ := fin.visited _ he
          have gone : x = none := (bound v (binds_of_silent silent he hv scalar)).trans free
          rw [wp_bind, wp_expand_of_noted? hx, wp_bind, wp_graph, wp_pure, unbound, gone]
          refine ⟨.refl c _ s, rfl, fun _ fetchable => ?_⟩
          rcases fetchable with aliased | ⟨undefined, -⟩
          · rw [scalar] at aliased; cases aliased
          · rw [hop] at undefined; cases undefined
        · next undefined =>
          split
          · next info hinfo =>
            have known : (c.programs.info? v).isSome = true := by rw [hinfo]; rfl
            refine wp_addVar (fun n g hg => ?_) (c.stopped_full _)
            obtain ⟨rfl, rfl⟩ := Graph.addNode_eq_ok hg
            have fetched := fetched_var info.name scalar undefined known free
            refine ⟨fetched, ?_, fun _ _ => rfl⟩
            rw [(fetched.steps.grounded cat fin.toGrounded).byClass.findNode_of_none scalar, Graph.bindValue,
              SortedMap.get?_insert, if_pos rfl]
          · next unknown =>
            refine ⟨.refl c _ s, unbound.symm, fun _ fetchable => ?_⟩
            rcases fetchable with aliased | ⟨-, known⟩
            · rw [scalar] at aliased; cases aliased
            · rw [unknown] at known; cases known

/-! ## What a build leaves -/

theorem Step.supplied (h : c.Step s s') (sup : s.graph.Supplied) : s'.graph.Supplied := by
  have live : ∀ {a}, s.graph.isLive a = true → s'.graph.isLive a = true :=
    fun ha => h.grows.extension.isLive ha
  have keep : (∀ m, (s'.graph.node? m).map (·.kind) = (s.graph.node? m).map (·.kind)) →
      s'.graph.Supplied := by
    intro same m x a hx ha
    have kind := same m
    rw [hx] at kind
    obtain ⟨y, hy, he⟩ := Option.map_eq_some_iff.1 kind.symm
    exact live (sup m y a hy (he ▸ ha))
  cases h with
  | @place x id succ pred levels args =>
    intro m y a hy ha
    rw [Graph.node?_place] at hy
    split at hy
    · cases hy
      rw [args] at ha
      cases ha
    · exact live (sup m y a hy ha)
  | note n idle =>
    refine keep fun m => Graph.map_node?_modifyNode _ n m fun x => ?_
    obtain ⟨_, _, _, hx⟩ := idle x
    rw [hx]
  | @args p n args d node actual =>
    intro m x a hx ha
    rw [Graph.node?_modifyNode] at hx
    split at hx
    · obtain ⟨y, hy, rfl⟩ := Option.map_eq_some_iff.1 hx
      exact live (actual a (NodeKind.mem_args_mapCallInfo ha)).isLive
    · exact live (sup m x a hx ha)
  | correlate levels face =>
    exact keep fun m => Graph.map_node?_correlate m (fun _ _ => rfl) fun _ _ _ => rfl
  | flow source target => exact keep fun m => Graph.map_node?_connect _ _ _ _ m fun _ _ _ => rfl
  | _ => exact sup

theorem Steps.supplied (h : c.Steps s s') (sup : s.graph.Supplied) : s'.graph.Supplied := by
  induction h with
  | refl => exact sup
  | tail _ step ih => exact step.supplied ih

/-- After a build that ends, all operations were visited, their results have nodes, and the arguments of
calls are live. -/
theorem wp_buildAll_finished (cat : c.programs.Catalogued) (homed : c.programs.Homed) :
    wp c.buildAll (fun _ s => c.Finished s ∧ c.Settled s ∧ s.graph.Supplied ∧
      s.graph.inputNodes = .empty) (fun _ => True) {} := by
  refine (wp_buildAll_steps cat homed grounded_empty).mono fun _ s ⟨steps, noted⟩ => ?_
  have unvisited : ∀ op, BuildState.noted? {} op = none := by
    intro op
    cases h : op.id <;> simp [BuildState.noted?, h]
  have settled : c.Settled s := by
    refine steps.settled cat fun e _ x hx => ?_
    rw [unvisited] at hx
    cases hx
  have supplied : s.graph.Supplied := steps.supplied fun n x a hx => by cases hx
  refine ⟨⟨steps.grounded cat grounded_empty, fun e he => ?_⟩, settled, supplied, steps.inputNodes⟩
  obtain ⟨x, hx⟩ := Option.isSome_iff_exists.1 (noted e he)
  exact ⟨x, hx, fun v binds => (settled e he x hx v binds).2⟩

end BuildContext

end PeerTaint
