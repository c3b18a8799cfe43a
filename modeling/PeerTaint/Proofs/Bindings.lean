import Mathlib.Data.Finset.Card
import PeerTaint.Proofs.Expansion

/-!
The elementary steps of expanding operations.

They are changes of the graph that leave the bindings, a pointer that gets the node of its class, a
value or an operation that gets a new node, and an operation that is remembered. Each keeps `Sound`
and `Keeps`, and what was wired stays wired (`Advances`). The number of operations that were not
visited never grows.
-/

namespace PeerTaint

theorem Graph.bindings_memNode {g g' : Graph} {p : Program} {k : AliasKey} {label : String} {n : NodeId}
    (h : g.memNode p k label = .ok (n, g')) :
    g'.memValues = g.memValues ∧ g'.valueNodes = g.valueNodes := by
  rcases Graph.memNode_eq_ok h with ⟨-, rfl⟩ | ⟨-, -, rfl⟩
  · exact ⟨rfl, rfl⟩
  · obtain ⟨slots, reads, writes, live, he⟩ := Graph.place_eq g (g.fresh p (.mem k) label)
    rw [he]
    exact ⟨rfl, rfl⟩

namespace BuildContext

open Build

/-! ## Elementary steps -/

section Steps

variable {c : BuildContext} {A : Set (Program × Operation)} {N : Set Value} {s : BuildState}

theorem Keeps.quiet {g : Graph} (q : s.graph.Quiet g) : Keeps N s { s with graph := g } where
  graph := q.grows.extension
  memValue v n hv := by rw [q.memValue]; exact hv
  value v n hv := by rw [q.value]; exact hv
  visited _ _ hi := hi
  new v hv := by rw [q.memValue] at hv; exact Or.inl hv

theorem Sound.quiet (h : c.Sound A s) {g : Graph} (q : s.graph.Quiet g) :
    c.Sound A { s with graph := g } where
  wf := q.grows.changes.wellFormed h.wf
  memValue v n hv := by
    rw [q.memValue] at hv
    obtain ⟨k, hk, hm⟩ := h.memValue v n hv
    exact ⟨k, hk, q.grows.extension.mem _ _ _ hm⟩
  value v n hv := by
    rw [q.value] at hv
    exact h.value v n hv
  settled e he v hr hk hx := by
    rw [q.value]
    exact h.settled e he v hr hk hx
  terminator := h.terminator
  started := h.started

section BindMem

variable {v : Value} {k : AliasKey} {label : String} {n : NodeId} {g : Graph}
  (h : c.Sound A s) (hk : c.aliasKey? v = some k)
  (hm : s.graph.memNode v.program k label = .ok (n, g))
include h hk hm

/-- A pointer gets the node of its class. -/
theorem Sound.bindMem : c.Sound A { s with graph := g.bindMemValue v n } := by
  obtain ⟨grows, mem⟩ := Graph.Grows.memNode hm
  obtain ⟨memValues, valueNodes⟩ := Graph.bindings_memNode hm
  have bound : Graph.Grows s.graph (g.bindMemValue v n) := grows.tail (.bindMemValue v mem)
  refine ⟨bound.changes.wellFormed h.wf, fun w m hw => ?_, fun w m hw => ?_,
    fun e he w hr hw hx => ?_, h.terminator, h.started⟩
  · change (g.memValues.insert v n).get? w = some m at hw
    rw [SortedMap.get?_insert, memValues] at hw
    split at hw
    · next hvw =>
      cases hw
      subst hvw
      exact ⟨k, hk, mem⟩
    · obtain ⟨j, hj, hmem⟩ := h.memValue w m hw
      exact ⟨j, hj, bound.extension.mem _ _ _ hmem⟩
  · change g.valueNodes.get? w = some m at hw
    rw [valueNodes] at hw
    exact h.value w m hw
  · change _ ↔ (g.valueNodes.get? w).isSome = true
    rw [valueNodes]
    exact h.settled e he w hr hw hx

theorem Keeps.bindMem (hv : v ∈ N) : Keeps N s { s with graph := g.bindMemValue v n } := by
  obtain ⟨grows, mem⟩ := Graph.Grows.memNode hm
  obtain ⟨memValues, valueNodes⟩ := Graph.bindings_memNode hm
  have get : ∀ w, (g.bindMemValue v n).memValues.get? w =
      if w = v then some n else s.graph.memValues.get? w := by
    intro w
    change (g.memValues.insert v n).get? w = _
    rw [SortedMap.get?_insert, memValues]
  refine ⟨Graph.Grows.extension (grows.tail (.bindMemValue v mem)), fun w m hw => ?_, fun w m hw => ?_,
    fun _ _ hi => hi, fun w hw => ?_⟩
  · rw [get]
    split
    · next hvw =>
      -- the value was bound to the same node before
      subst hvw
      obtain ⟨j, hj, hmem⟩ := h.memValue w m hw
      cases Option.some.inj (hk.symm.trans hj)
      exact mem.symm.trans (grows.extension.mem _ _ _ hmem)
    · exact hw
  · change g.valueNodes.get? w = some m
    rw [valueNodes]
    exact hw
  · rw [get] at hw
    split at hw
    · next hvw => exact Or.inr (hvw ▸ hv)
    · exact Or.inl hw

theorem findNode_bindMem : (g.bindMemValue v n).findNode v v.program = some n ∧
    (g.bindMemValue v n).findMem v.program k = some n := by
  refine ⟨?_, (Graph.Grows.memNode hm).2⟩
  refine ((Sound.bindMem h hk hm).byClass.findNode_of_some hk).trans ?_
  change (g.memValues.insert v n).get? v = some n
  rw [SortedMap.get?_insert, if_pos rfl]

end BindMem

/-- How a new node `n` and what it is bound to enter the graph. -/
structure NewNode (g g' : Graph) (r : Option Value) (n : NodeId) : Prop where
  grows : Graph.Grows g g'
  memValue : g'.memValues = g.memValues
  value : ∀ v, g'.valueNodes.get? v = if r = some v then some n else g.valueNodes.get? v

theorem NewNode.bindResult {g g' : Graph} {r : Option Value} {n : NodeId} {p : Program} {kind : NodeKind}
    (q : g.Quiet g') (role : g'.role? n = some (p, kind)) (hr : ∀ v, r = some v → kind.Defines v) :
    NewNode g (bindResult r n g') r n := by
  cases r with
  | none =>
    refine ⟨q.grows, q.memValue, fun v => ?_⟩
    rw [if_neg nofun, BuildContext.bindResult, q.value]
  | some w =>
    refine ⟨q.grows.tail (.bindValue role (hr w rfl)), q.memValue, fun v => ?_⟩
    change (g'.valueNodes.insert w n).get? v = _
    rw [SortedMap.get?_insert, q.value]
    simp only [Option.some.injEq, eq_comm]

theorem role?_bindResult (r : Option Value) (n m : NodeId) (g : Graph) :
    (BuildContext.bindResult r n g).role? m = g.role? m := by cases r <;> rfl

theorem NewNode.findNode {s' : BuildState} {g : Graph} {r : Option Value} {n : NodeId} {v : Value}
    (new : NewNode g s'.graph r n) (h : c.Sound A s') (hr : r = some v) (hk : c.aliasKey? v = none) :
    s'.graph.findNode v v.program = some n := by
  rw [h.byClass.findNode_of_none hk, new.value, if_pos hr]

theorem NewNode.keeps {g : Graph} {r : Option Value} {n : NodeId} (new : NewNode s.graph g r n)
    (unbound : ∀ v, r = some v → s.graph.valueNodes.get? v = none) :
    Keeps N s { s with graph := g } where
  graph := new.grows.extension
  memValue v m hv := by rw [new.memValue]; exact hv
  value v m hv := by
    rw [new.value, if_neg fun hr => ?_]
    · exact hv
    · rw [unbound v hr] at hv
      cases hv
  visited _ _ hi := hi
  new v hv := by rw [new.memValue] at hv; exact Or.inl hv

/-- The parts of `Sound` that do not mention visited operations. -/
theorem Sound.newNode (h : c.Sound A s) {g : Graph} {r : Option Value} {n : NodeId}
    (new : NewNode s.graph g r n)
    (hr : ∀ v, r = some v → c.aliasKey? v = none ∧ c.barren v.program v = false) :
    g.WellFormed ∧
    (∀ v m, g.memValues.get? v = some m → ∃ k, c.aliasKey? v = some k ∧ g.findMem v.program k = some m) ∧
    ∀ v m, g.valueNodes.get? v = some m → c.aliasKey? v = none ∧ c.barren v.program v = false := by
  refine ⟨new.grows.changes.wellFormed h.wf, fun v m hv => ?_, fun v m hv => ?_⟩
  · rw [new.memValue] at hv
    obtain ⟨k, hk, hm⟩ := h.memValue v m hv
    exact ⟨k, hk, new.grows.extension.mem _ _ _ hm⟩
  · rw [new.value] at hv
    split at hv
    · next hv' => exact hr v hv'
    · exact h.value v m hv

/-- A value that no operation defines gets a node. -/
theorem Sound.newVar (cat : c.programs.Catalogued) (h : c.Sound A s) {v : Value} {g : Graph} {n : NodeId}
    (new : NewNode s.graph g (some v) n) (hk : c.aliasKey? v = none)
    (hd : c.programs.definition? v = none) {info : ValueInfo} (hi : c.programs.info? v = some info) :
    c.Sound A { s with graph := g } := by
  have known : ∀ w, some v = some w → c.aliasKey? w = none ∧ c.barren w.program w = false := by
    intro w hw
    cases hw
    exact ⟨hk, by simp [barren, hd, hi]⟩
  obtain ⟨wf, memValue, value⟩ := h.newNode new known
  refine ⟨wf, memValue, value, fun e he w hr hw hx => ?_, h.terminator, h.started⟩
  change _ ↔ (g.valueNodes.get? w).isSome = true
  rw [new.value, if_neg fun hvw => ?_]
  · exact h.settled e he w hr hw hx
  · have := cat.defined e he w hr
    rw [← Option.some.inj hvw, hd] at this
    cases this

theorem boundResult?_eq_some_iff {op : Operation} {v : Value} :
    c.boundResult? op = some v ↔ op.result = some v ∧ c.aliasKey? v = none := by
  unfold boundResult? pointerResult?
  cases hr : op.result with
  | none => simp
  | some w =>
    cases hk : c.aliasKey? w with
    | none =>
      simp only [Option.bind_some, hk, Option.map_none, Option.some.injEq]
      exact ⟨fun hw => ⟨hw, hw ▸ hk⟩, fun hw => hw.1⟩
    | some k =>
      simp only [Option.bind_some, hk, Option.map_some, Option.some.injEq, reduceCtorEq, false_iff]
      rintro ⟨rfl, hk'⟩
      rw [hk] at hk'
      cases hk'

theorem pointerResult?_eq_some_iff {op : Operation} {v : Value} {k : AliasKey} :
    c.pointerResult? op = some (v, k) ↔ op.result = some v ∧ c.aliasKey? v = some k := by
  unfold pointerResult?
  constructor
  · intro h
    obtain ⟨w, hw, h⟩ := Option.bind_eq_some_iff.1 h
    obtain ⟨j, hj, h⟩ := Option.map_eq_some_iff.1 h
    cases h
    exact ⟨hw, hj⟩
  · rintro ⟨hr, hk⟩
    rw [hr, Option.bind_some, hk, Option.map_some]

theorem noted?_insert (cat : c.programs.Catalogued) {e e' : Program × Operation} {i : Nat}
    {x : Option NodeId} (g : Graph) (he : e ∈ c.programs.stream) (he' : e' ∈ c.programs.stream)
    (hi : e.2.id = some i) : ({ graph := g, visited := s.visited.insert i x } : BuildState).noted? e'.2 =
      if e' = e then some x else s.noted? e'.2 := by
  obtain ⟨j, -, hj⟩ := cat.id e' he'
  unfold BuildState.noted?
  rw [hj, Option.bind_some, Option.bind_some, SortedMap.get?_insert]
  have same : j = i ↔ e' = e := by
    constructor
    · rintro rfl
      exact cat.eq_of_id he' he (hj.trans hi.symm)
    · rintro rfl
      exact Option.some.inj (hj.symm.trans hi)
  simp only [same]

theorem Keeps.remember {op : Operation} {i : Nat} {x : Option NodeId} (hi : op.id = some i)
    (unseen : s.noted? op = none) : Keeps N s { s with visited := s.visited.insert i x } := by
  refine ⟨.refl _, fun _ _ h => h, fun _ _ h => h, fun j y hj => ?_, fun _ h => Or.inl h⟩
  rw [SortedMap.get?_insert, if_neg fun hij => ?_]
  · exact hj
  · subst hij
    rw [BuildState.noted?, hi, Option.bind_some, hj] at unseen
    cases unseen

section Remember

variable {p : Program} {op : Operation} {i : Nat} {n : NodeId} (ord : c.programs.Orderly)
  (h : c.Sound A s) (he : (p, op) ∈ c.programs.stream) (hi : op.id = some i)
  (hA : (p, op) ∈ A ∨ ∃ v, op.result = some v ∧ c.aliasKey? v = none)
include ord h he hi hA

/-- An operation without a result to bind, or an excluded terminator, is remembered. -/
theorem Sound.remember {x : Option NodeId}
    (hx : ∀ v, op.result = some v → c.aliasKey? v = none → c.excluded op = true ∧ x = none) :
    c.Sound A { s with visited := s.visited.insert i x } := by
  have noted : ∀ e ∈ c.programs.stream, _ := fun e he' =>
    noted?_insert (x := x) (s := s) ord.toCatalogued s.graph he he' hi
  refine ⟨h.wf, h.memValue, h.value, fun e he' v hr hk hex => ?_, fun e he' v hr hk hex y hy => ?_,
    fun e he' hs => ?_⟩
  · rw [noted e he']
    split
    · next hee =>
      subst hee
      rw [(hx v hr hk).1] at hex
      cases hex
    · exact h.settled e he' v hr hk hex
  · rw [noted e he'] at hy
    split at hy
    · next hee =>
      subst hee
      cases hy
      exact (hx v hr hk).2
    · exact h.terminator e he' v hr hk hex y hy
  · rw [noted e he'] at hs
    split at hs
    · next hee => subst hee; exact hA
    · exact h.started e he' hs

/-- An operation gets a node, which its result is bound to unless it has an alias class. -/
theorem Sound.newOperation (hex : c.excluded op = false) {g : Graph}
    (new : NewNode s.graph g (c.boundResult? op) n) :
    c.Sound A { graph := g, visited := s.visited.insert i (some n) } := by
  have noted : ∀ e ∈ c.programs.stream, _ := fun e he' =>
    noted?_insert (x := some n) (s := s) ord.toCatalogued g he he' hi
  have known : ∀ v, c.boundResult? op = some v → c.aliasKey? v = none ∧ c.barren v.program v = false := by
    intro v hv
    obtain ⟨hr, hk⟩ := boundResult?_eq_some_iff.1 hv
    exact ⟨hk, by simp [barren, ord.definition?_eq he hr, hex]⟩
  obtain ⟨wf, memValue, value⟩ := h.newNode new known
  refine ⟨wf, memValue, value, fun e he' v hr hk hx => ?_, fun e he' v hr hk hx y hy => ?_,
    fun e he' hs => ?_⟩
  · rw [noted e he']
    change _ ↔ (g.valueNodes.get? v).isSome = true
    rw [new.value]
    by_cases hee : e = (p, op)
    · subst hee
      rw [if_pos rfl, if_pos (boundResult?_eq_some_iff.2 ⟨hr, hk⟩)]
      simp
    · rw [if_neg hee, if_neg fun hv => ?_]
      · exact h.settled e he' v hr hk hx
      · exact hee (ord.unique e he' (p, op) he v hr (boundResult?_eq_some_iff.1 hv).1)
  · rw [noted e he'] at hy
    split at hy
    · next hee =>
      subst hee
      rw [hex] at hx
      cases hx
    · exact h.terminator e he' v hr hk hx y hy
  · rw [noted e he'] at hs
    split at hs
    · next hee => subst hee; exact hA
    · exact h.started e he' hs

omit hi hA ord in
/-- The result of an operation that was not visited is not bound to a node of its own. -/
theorem Sound.unbound (hex : c.excluded op = false) (unseen : s.noted? op = none) (v : Value)
    (hv : c.boundResult? op = some v) : s.graph.valueNodes.get? v = none := by
  obtain ⟨hr, hk⟩ := boundResult?_eq_some_iff.1 hv
  cases hn : s.graph.valueNodes.get? v with
  | none => rfl
  | some m =>
    have := (h.settled (p, op) he v hr hk hex).2 (by rw [hn]; rfl)
    rw [unseen] at this
    cases this

end Remember

end Steps

/-! ## From state to state -/

section Advance

variable {c : BuildContext} {A : Set (Program × Operation)} {D D' : Set Operation} {N : Set Value}
  {s s' s'' : BuildState}

/-- A step to a state in which the visited operations outside `D` are wired. -/
structure Advances (c : BuildContext) (A : Set (Program × Operation)) (D : Set Operation) (N : Set Value)
    (s s' : BuildState) : Prop where
  inv : c.Invariant A D s'
  keeps : Keeps N s s'

theorem Advances.trans (h : c.Advances A D' N s s') (h' : c.Advances A D N s' s'') :
    c.Advances A D N s s'' := ⟨h'.inv, h.keeps.trans h'.keeps⟩

/-- Operations that are newly visited have to be wired later. -/
theorem Invariant.advances (h : c.Invariant A D s) (sound : c.Sound A s') (keeps : Keeps N s s')
    (hD : D ⊆ D') (new : ∀ e ∈ c.programs.stream, (s'.noted? e.2).isSome = true →
      (s.noted? e.2).isSome = true ∨ e.2 ∈ D') : c.Advances A D' N s s' := by
  refine ⟨⟨sound, fun e he hs hn hex => ?_⟩, keeps⟩
  rcases new e he hs with hs | hd
  · exact Wired.keeps h.toSound sound keeps (h.wired e he hs (fun hd => hn (hD hd)) hex)
  · exact absurd hd hn

theorem Invariant.mono {A' : Set (Program × Operation)} (h : c.Invariant A D s) (hA : A ⊆ A')
    (hD : D ⊆ D') :
    c.Invariant A' D' s where
  toSound := { h.toSound with started := fun e he hs => (h.started e he hs).imp_left fun ha => hA ha }
  wired e he hs hn hex := h.wired e he hs (fun hd => hn (hD hd)) hex

theorem Invariant.quiet (h : c.Invariant A D s) {g : Graph} (q : s.graph.Quiet g) :
    c.Advances A D N s { s with graph := g } :=
  h.advances (h.toSound.quiet q) (.quiet q) subset_rfl fun _ _ hs => Or.inl hs

/-- A value has its node after a change that leaves the bindings. -/
theorem Advances.linked {p : Program} {v : Value} {a : NodeId} {link : NodeId → Prop}
    (h : c.Advances A D N s s') (ha : s'.graph.findNode v p = some a) {g : Graph}
    (q : s'.graph.Quiet g) (hl : link a) :
    c.Advances A D N s { s' with graph := g } ∧ c.Resolved g p v link := by
  have step : c.Advances A D N s' { s' with graph := g } := h.inv.quiet q
  exact ⟨h.trans step, Or.inr ⟨a, h.inv.findNode_keeps step.inv.toSound step.keeps ha, hl⟩⟩

theorem Invariant.bindMem (h : c.Invariant A D s) {v : Value} {k : AliasKey} {label : String} {n : NodeId}
    {g : Graph} (hk : c.aliasKey? v = some k) (hm : s.graph.memNode v.program k label = .ok (n, g))
    (hv : v ∈ N) : c.Advances A D N s { s with graph := g.bindMemValue v n } :=
  h.advances (h.toSound.bindMem hk hm) (.bindMem h.toSound hk hm hv) subset_rfl fun _ _ hs => Or.inl hs

/-- An operation is visited, and has to be wired later. -/
theorem Invariant.visit (cat : c.programs.Catalogued) {p : Program} {op : Operation} {i : Nat}
    {g : Graph} {x : Option NodeId} (h : c.Invariant A D s) (he : (p, op) ∈ c.programs.stream)
    (hi : op.id = some i) (sound : c.Sound A { graph := g, visited := s.visited.insert i x })
    (keeps : Keeps N s { graph := g, visited := s.visited.insert i x }) :
    c.Advances A (insert op D) N s { graph := g, visited := s.visited.insert i x } ∧
      ({ graph := g, visited := s.visited.insert i x } : BuildState).noted? op = some x := by
  refine ⟨h.advances sound keeps (Set.subset_insert op D) fun e he' hs => ?_, ?_⟩
  · rw [noted?_insert cat g he he' hi] at hs
    split at hs
    · next hee => exact Or.inr (Set.mem_insert_iff.2 (Or.inl (congrArg Prod.snd hee)))
    · exact Or.inl hs
  · exact (noted?_insert cat g he he hi).trans (if_pos rfl)

/-- The last operation that was not wired is wired. -/
theorem Advances.close (cat : c.programs.Catalogued) {p : Program} {op : Operation}
    (he : (p, op) ∈ c.programs.stream) (h : c.Advances A (insert op D) N s s')
    (hw : c.excluded op = false → c.Wired s' p op) : c.Advances A D N s s' := by
  refine ⟨⟨h.inv.toSound, fun e he' hs hn hex => ?_⟩, h.keeps⟩
  by_cases hee : e.2 = op
  · have : e = (p, op) := cat.eq_of_id he' he (congrArg _ hee)
    subst this
    exact hw hex
  · refine h.inv.wired e he' hs (fun hd => ?_) hex
    rcases hd with hd | hd
    · exact hee hd
    · exact hn hd

/-- How many operations were not visited yet. -/
def unseen (c : BuildContext) (s : BuildState) : Nat :=
  (c.programs.stream.toFinset.filter fun e => s.noted? e.2 = none).card

section Unseen

variable (keeps : ∀ op, (s.noted? op).isSome = true → (s'.noted? op).isSome = true)
include keeps

theorem unseen_subset :
    (c.programs.stream.toFinset.filter fun e => s'.noted? e.2 = none) ⊆
      c.programs.stream.toFinset.filter fun e => s.noted? e.2 = none := by
  intro e he
  obtain ⟨hm, hn⟩ := Finset.mem_filter.1 he
  refine Finset.mem_filter.2 ⟨hm, ?_⟩
  by_contra hs
  have := keeps e.2 (Option.isSome_iff_ne_none.2 hs)
  rw [hn] at this
  cases this

theorem unseen_le : c.unseen s' ≤ c.unseen s := Finset.card_le_card (unseen_subset keeps)

theorem unseen_lt {e : Program × Operation} (he : e ∈ c.programs.stream)
    (before : s.noted? e.2 = none) (after : (s'.noted? e.2).isSome = true) : c.unseen s' < c.unseen s := by
  refine Finset.card_lt_card ((Finset.ssubset_iff_of_subset (unseen_subset keeps)).2 ⟨e, ?_, fun hm => ?_⟩)
  · exact Finset.mem_filter.2 ⟨List.mem_toFinset.2 he, before⟩
  · rw [(Finset.mem_filter.1 hm).2] at after
    cases after

end Unseen

end Advance

end BuildContext

end PeerTaint
