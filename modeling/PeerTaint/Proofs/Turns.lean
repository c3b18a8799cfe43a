import PeerTaint.Proofs.Resolution

/-!
The turns of the operations of a stream.

An operation whose result points to memory is passed over at its turn when the result was resolved
earlier, as the operand of something: the result has the node of its alias class then. Which results
are resolved earlier depends only on the programs (`touched`). `Boundary` says what holds between two
turns, and every turn takes one boundary to the next.
-/

namespace PeerTaint

namespace BuildContext

open Build

/-! ## The stream -/

/-- Expands the operations of a stream in order, and says how many of them have a node. -/
def addStream (c : BuildContext) : List (Program × Operation) → Build Nat
  | [] => return 0
  | e :: es => do
    let n ← c.addOperation e.1 e.2
    let rest ← c.addStream es
    return (if n.isSome then 1 else 0) + rest

section Stream

variable (c : BuildContext)

theorem addStream_append (xs ys : List (Program × Operation)) : c.addStream (xs ++ ys) = do
    let m ← c.addStream xs
    let n ← c.addStream ys
    return m + n := by
  induction xs with
  | nil => simp only [List.nil_append, addStream, pure_bind, Nat.zero_add, bind_pure]
  | cons x xs ih => simp only [List.cons_append, addStream, ih, bind_assoc, pure_bind, Nat.add_assoc]

theorem addOperations_eq (p : Program) (ops : List Operation) :
    c.addOperations p ops = c.addStream (ops.map fun op => (p, op)) := by
  induction ops with
  | nil => rfl
  | cons op ops ih => simp [addOperations, addStream, ih]

theorem buildAll_eq : c.buildAll = c.addStream c.programs.stream := by
  unfold buildAll ProgramPair.stream
  induction c.programs.routines with
  | nil => rfl
  | cons r rs ih =>
    rw [List.flatMap_cons, addStream_append, ← ih, ← addOperations_eq]
    rfl

end Stream

/-! ## Statements -/

section Statements

variable (c : BuildContext)

/-- The values that expanding an operation resolves: what it uses, and what is used by the operations
that define those values. -/
inductive Needs (p : Program) (op : Operation) : Value → Prop
  | use {v : Value} (used : v ∈ c.uses p op) : Needs p op v
  | step {v w : Value} {op' : Operation} (needed : Needs p op v) (program : v.program = p)
      (unaliased : c.aliasKey? v = none) (defined : c.programs.definition? v = some op')
      (included : c.excluded op' = false) (used : w ∈ c.uses p op') : Needs p op w

/-- The values of its program that get a node, at the latest, when an operation is expanded. -/
def reach (p : Program) (op : Operation) : Set Value :=
  {w | w.program = p ∧ (op.result = some w ∨ c.Needs p op w)}

/-- The result of the operation points to memory and is among the given values. -/
def Overtaken (T : Set Value) (op : Operation) : Prop :=
  ∃ v ∈ T, op.result = some v ∧ (c.aliasKey? v).isSome = true

/-- The values with a node after one more operation. -/
def touch (T : Set Value) (e : Program × Operation) : Set Value :=
  {w | w ∈ T ∨ c.excluded e.2 = false ∧ ¬ c.Overtaken T e.2 ∧ w ∈ c.reach e.1 e.2}

/-- The values with a node after the given operations. -/
def touched (ops : List (Program × Operation)) : Set Value := ops.foldl c.touch ∅

/-- The operations that are passed over among the given ones. -/
def skipped (ops : List (Program × Operation)) : Set Operation :=
  {op | ∃ before p after, ops = before ++ (p, op) :: after ∧ c.Overtaken (c.touched before) op}

/-- At its turn, when the operations before it were expanded, the operation is only remembered, with
the node of its result's alias class. -/
def PassedOver (before : List (Program × Operation)) (p : Program) (op : Operation) : Prop :=
  ∃ count s i n, (c.addStream before).run {} = .ok (count, s) ∧ op.id = some i ∧ s.noted? op = none ∧
    s.graph.isMem n = true ∧
    (c.addOperation p op).run s = .ok (some n, { s with visited := s.visited.insert i (some n) })

/-- What holds after the operations `before` of the stream. -/
structure Boundary (before : List (Program × Operation)) (s : BuildState) : Prop where
  inv : c.Invariant {e | e ∈ before} (c.skipped before) s
  noted : ∀ e ∈ before, (s.noted? e.2).isSome = true
  mem : ∀ v, (c.aliasKey? v).isSome = true →
    ((s.graph.memValues.get? v).isSome = true ↔ v ∈ c.touched before)

end Statements

/-! ## What is needed has a node -/

section Needs

variable {c : BuildContext} {A : Set (Program × Operation)} {D : Set Operation} {s : BuildState}
  {p : Program} {op : Operation}

theorem Resolved.barren_or_isSome {g : Graph} {v : Value} {link : NodeId → Prop}
    (h : c.Resolved g p v link) : c.barren p v = true ∨ (g.findNode v p).isSome = true := by
  rcases h with ⟨hb, -⟩ | ⟨a, ha, -⟩
  · exact Or.inl hb
  · rw [ha]
    exact Or.inr rfl

/-- What a wired operation uses has a node. -/
theorem Wired.barren_or_isSome (h : c.Wired s p op) {v : Value} (hv : v ∈ c.uses p op) :
    c.barren p v = true ∨ (s.graph.findNode v p).isSome = true := by
  unfold Wired at h
  unfold uses at hv
  split at h
  · next hs =>
    rw [if_pos hs] at hv
    unfold StoreWired at h
    split at hv
    · next value destination rest ho =>
      rw [ho] at h
      rcases h with ⟨hb, -⟩ | ⟨d, hd, linked⟩
      · rw [if_pos hb, List.mem_singleton] at hv
        rw [hv]
        exact Or.inl hb
      · split at hv
        · next hb =>
          rw [List.mem_singleton] at hv
          rw [hv]
          exact Or.inl hb
        · rcases List.mem_cons.1 hv with rfl | hv
          · rw [hd]
            exact Or.inr rfl
          · rw [List.mem_singleton] at hv
            rw [hv]
            exact linked.barren_or_isSome
    · exact absurd hv List.not_mem_nil
  · next hc =>
    rw [if_neg (by rw [hc]; nofun)] at hv
    obtain ⟨n, -, h⟩ := h
    exact (h.arguments v hv).barren_or_isSome
  · next hs _ =>
    rw [if_neg hs] at hv
    obtain ⟨n, -, h⟩ := h
    exact (h.operands v hv).barren_or_isSome

/-- The result of a wired operation has a node. -/
theorem Wired.isSome_result (ord : c.programs.Orderly) (he : (p, op) ∈ c.programs.stream)
    (h : c.Wired s p op) {v : Value} (hr : op.result = some v) : (s.graph.findNode v p).isSome = true := by
  unfold Wired at h
  split at h
  · next hs =>
    rw [ord.store (p, op) he hs] at hr
    cases hr
  · obtain ⟨n, -, h⟩ := h
    have := h.result v hr
    split at this
    · obtain ⟨m, hm, -⟩ := this
      rw [hm]
      rfl
    · rw [this]
      rfl
  · obtain ⟨n, -, h⟩ := h
    rw [h.result v hr]
    rfl

variable (ord : c.programs.Orderly) (inv : c.Invariant A D s)
  (hD : ∀ op ∈ D, ∃ v, op.result = some v ∧ (c.aliasKey? v).isSome = true)
include ord inv hD

/-- The operations that are not wired define pointers to memory, and so nothing that is needed on the
way to another value. -/
theorem Needs.barren_or_isSome (hw : c.Wired s p op) {v : Value} (hv : c.Needs p op v) :
    c.barren p v = true ∨ (s.graph.findNode v p).isSome = true := by
  induction hv with
  | use used => exact hw.barren_or_isSome used
  | @step v w op' _ program unaliased defined included used ih =>
    subst program
    obtain ⟨he, hr⟩ := ord.mem_of_definition? defined
    have fertile : c.barren v.program v = false := by simp [barren, defined, included]
    have found := ih.resolve_left (Bool.eq_false_iff.1 fertile)
    rw [inv.byClass.findNode_of_none unaliased] at found
    have noted := (inv.settled _ he v hr unaliased included).2 found
    refine (inv.wired _ he noted (fun hd => ?_) included).barren_or_isSome used
    obtain ⟨u, hu, hk⟩ := hD _ hd
    cases Option.some.inj (hr.symm.trans hu)
    rw [unaliased] at hk
    cases hk

/-- A wired operation binds the pointers it reaches to memory. -/
theorem isSome_memValues_of_reach (he : (p, op) ∈ c.programs.stream) (hw : c.Wired s p op) {v : Value}
    (hv : v ∈ c.reach p op) (hk : (c.aliasKey? v).isSome = true) :
    (s.graph.memValues.get? v).isSome = true := by
  obtain ⟨rfl, hv⟩ := hv
  obtain ⟨k, hk⟩ := Option.isSome_iff_exists.1 hk
  rw [← inv.byClass.findNode_of_some hk]
  rcases hv with hr | hv
  · exact hw.isSome_result ord he hr
  · exact (hv.barren_or_isSome ord inv hD hw).resolve_left (by simp [barren, hk])

end Needs

/-! ## One turn -/

section Turn

variable {c : BuildContext} {before after : List (Program × Operation)} {s s' : BuildState} {p : Program}
  {op : Operation} {count : Nat}

theorem touched_append (before : List (Program × Operation)) (e : Program × Operation) :
    c.touched (before ++ [e]) = c.touch (c.touched before) e := by
  simp [touched]

theorem skipped_subset (c : BuildContext) (before : List (Program × Operation)) (e : Program × Operation) :
    c.skipped before ⊆ c.skipped (before ++ [e]) := by
  rintro op ⟨first, q, rest, rfl, ho⟩
  exact ⟨first, q, rest ++ [e], by simp, ho⟩

theorem mem_skipped_of_overtaken (h : c.Overtaken (c.touched before) op) :
    op ∈ c.skipped (before ++ [(p, op)]) := ⟨before, p, [], rfl, h⟩

theorem aliased_of_mem_skipped {ops : List (Program × Operation)} {op : Operation}
    (h : op ∈ c.skipped ops) : ∃ v, op.result = some v ∧ (c.aliasKey? v).isSome = true := by
  obtain ⟨-, -, -, -, v, -, hr, hk⟩ := h
  exact ⟨v, hr, hk⟩

theorem unseen_lt_nesting (c : BuildContext) (s : BuildState) : c.unseen s < c.nesting := by
  have le : c.unseen s ≤ c.programs.stream.length :=
    (Finset.card_filter_le _ _).trans (List.toFinset_card_le _)
  have length : c.programs.stream.length = c.programs.operations.length := by
    simp [ProgramPair.stream, ProgramPair.operations, List.length_flatMap]
  have square := Nat.le_mul_self (c.programs.operations.length + 1)
  unfold nesting
  dsimp only
  omega

/-- An operation reaches the operands that it links. -/
theorem mem_reach_of_operand (hst : op.opcode ≠ .store) {v : Value} (hv : v ∈ op.operands)
    (hp : v.program = p) : v ∈ c.reach p op := by
  refine ⟨hp, Or.inr (.use ?_)⟩
  rw [uses, if_neg hst]
  exact hv

theorem closed_reach (ord : c.programs.Orderly) (he : (p, op) ∈ c.programs.stream) :
    c.Closed p (c.reach p op) := by
  rintro v ⟨hp, hv⟩ hk op' hd hex w hw hwp
  refine ⟨hwp, Or.inr ?_⟩
  rcases hv with hr | hv
  · have := ord.definition?_eq he hr
    rw [hd] at this
    cases this
    exact .use hw
  · exact .step hv hp hk hd hex hw

theorem mem_place (hs : c.programs.stream = before ++ (p, op) :: after) :
    (p, op) ∈ c.programs.stream := by
  rw [hs]
  simp

/-- Whether an operation is passed over is settled at its place. -/
theorem overtaken_of_mem_skipped (cat : c.programs.Catalogued)
    (hs : c.programs.stream = before ++ (p, op) :: after) {ops rest : List (Program × Operation)}
    (hops : c.programs.stream = ops ++ rest) (h : op ∈ c.skipped ops) :
    c.Overtaken (c.touched before) op := by
  obtain ⟨first, q, last, rfl, ho⟩ := h
  rw [List.append_assoc, List.cons_append] at hops
  rw [cat.before_eq hs hops]
  exact ho

variable (ord : c.programs.Orderly) (hs : c.programs.stream = before ++ (p, op) :: after)
  (h : c.Boundary before s)
include ord hs h

/-- What has a node after a turn follows from what the turn adds. -/
theorem Boundary.next {N : Set Value} (adv : c.Advances {e | e ∈ before ++ [(p, op)]}
      (c.skipped (before ++ [(p, op)])) N s s') (noted : (s'.noted? op).isSome = true)
    (hN : ∀ v ∈ N, v ∈ c.touch (c.touched before) (p, op)) :
    c.Boundary (before ++ [(p, op)]) s' := by
  refine ⟨adv.inv, fun e he => ?_, fun v hk => ?_⟩
  · rcases List.mem_append.1 he with he | he
    · exact adv.keeps.isSome_noted? (h.noted e he)
    · rw [List.mem_singleton.1 he]
      exact noted
  · rw [touched_append]
    constructor
    · intro hv
      rcases adv.keeps.new v hv with hv | hv
      · exact Or.inl ((h.mem v hk).1 hv)
      · exact hN v hv
    · rintro (hv | ⟨hex, ho, hv⟩)
      · obtain ⟨n, hn⟩ := Option.isSome_iff_exists.1 ((h.mem v hk).2 hv)
        rw [adv.keeps.memValue v n hn]
        rfl
      · have he := mem_place hs
        have wired := adv.inv.wired (p, op) he noted
          (fun hd => ho (overtaken_of_mem_skipped ord.toCatalogued hs (by simpa using hs) hd)) hex
        exact isSome_memValues_of_reach ord adv.inv (fun _ => aliased_of_mem_skipped) he wired hv hk

/-- A result that points to memory has a node exactly when it was touched. -/
theorem Boundary.overtaken_iff : c.Overtaken (c.touched before) op ↔
    ∃ v n, op.result = some v ∧ (c.aliasKey? v).isSome = true ∧ s.graph.findNode v p = some n := by
  have found : ∀ v, op.result = some v → (c.aliasKey? v).isSome = true →
      s.graph.findNode v p = s.graph.memValues.get? v := by
    intro v hr hk
    obtain ⟨k, hk⟩ := Option.isSome_iff_exists.1 hk
    cases ord.home _ (mem_place hs) v hr
    exact h.inv.byClass.findNode_of_some hk
  constructor
  · rintro ⟨v, hv, hr, hk⟩
    obtain ⟨n, hn⟩ := Option.isSome_iff_exists.1 ((h.mem v hk).2 hv)
    exact ⟨v, n, hr, hk, (found v hr hk).trans hn⟩
  · rintro ⟨v, n, hr, hk, hn⟩
    rw [found v hr hk] at hn
    exact ⟨v, (h.mem v hk).1 (by rw [hn]; rfl), hr, hk⟩

/-- An operation that was visited before its turn has a result without an alias class. -/
theorem Boundary.unaliased_of_noted (noted : (s.noted? op).isSome = true) :
    ∃ v, op.result = some v ∧ c.aliasKey? v = none := by
  rcases h.inv.started _ (mem_place hs) noted with hb | hv
  · exact absurd hb (ord.not_mem_before hs p)
  · exact hv

/-- A result without an alias class has no node while its operation was not visited. -/
theorem Boundary.overtaken_of_findNode (new : s.noted? op = none) {n : NodeId}
    (hn : op.result.bind (s.graph.findNode · p) = some n) : c.Overtaken (c.touched before) op := by
  have he := mem_place hs
  obtain ⟨v, hr, hn⟩ := Option.bind_eq_some_iff.1 hn
  refine (h.overtaken_iff ord hs).2 ⟨v, n, hr, ?_, hn⟩
  cases hk : c.aliasKey? v with
  | some k => rfl
  | none =>
    cases ord.home _ he v hr
    rw [h.inv.byClass.findNode_of_none hk] at hn
    cases hex : c.excluded op with
    | false =>
      have := (h.inv.settled _ he v hr hk hex).2 (by rw [hn]; rfl)
      rw [new] at this
      cases this
    | true =>
      have := (h.inv.value v n hn).2
      simp [barren, hk, ord.definition?_eq he hr, hex] at this

theorem Boundary.passedOver (hrun : (c.addStream before).run {} = .ok (count, s))
    (ho : c.Overtaken (c.touched before) op) : c.PassedOver before p op := by
  have he := mem_place hs
  obtain ⟨i, -, hi⟩ := ord.id _ he
  obtain ⟨v, n, hr, hk, hn⟩ := (h.overtaken_iff ord hs).1 ho
  obtain ⟨k, hk⟩ := Option.isSome_iff_exists.1 hk
  have new : s.noted? op = none := by
    cases hx : s.noted? op with
    | none => rfl
    | some x =>
      obtain ⟨w, hw, hkw⟩ := h.unaliased_of_noted ord hs (by rw [hx]; rfl)
      cases Option.some.inj (hr.symm.trans hw)
      rw [hk] at hkw
      cases hkw
  have mem : s.graph.isMem n = true := by
    cases program_of_findNode hn
    rw [h.inv.byClass.findNode_of_some hk] at hn
    obtain ⟨q, j, role⟩ := h.inv.wf.memValue v n hn
    exact Graph.isMem_of_role? role
  refine ⟨count, s, i, n, hrun, hi, new, mem, ?_⟩
  have found : op.result.bind (s.graph.findNode · p) = some n := by rw [hr]; exact hn
  have bound : ∀ {P : Prop}, op.result.bind (s.graph.findNode · p) = none → P := by
    intro P hn
    rw [found] at hn
    cases hn
  have turn : wp (c.addOperation p op) (fun x s' => x = some n ∧
      s' = { s with visited := s.visited.insert i (some n) }) (fun _ => False) s := by
    refine wp_expand (fun x hx => ?_) (fun m _ hm => ?_) (fun _ hn _ => bound hn) (fun _ hn _ _ => bound hn)
      (fun _ hn _ _ => bound hn) fun _ hn _ _ _ => bound hn
    · rw [new] at hx
      cases hx
    · cases Option.some.inj (found.symm.trans hm)
      rw [wp_remember hi]
      exact ⟨rfl, rfl⟩
  obtain ⟨_, _, hrun', rfl, rfl⟩ := turn.exists_run
  exact hrun'

/-- An operation whose result has a node already is only remembered. -/
theorem Boundary.pass {A : Set (Program × Operation)} {n : NodeId} (hA : (p, op) ∈ A)
    (inv : c.Invariant A (c.skipped (before ++ [(p, op)])) s) (hx : s.noted? op = none)
    (hn : op.result.bind (s.graph.findNode · p) = some n) :
    wp (Build.remember op (some n)) (fun _ s' => c.Advances A (c.skipped (before ++ [(p, op)])) ∅ s s' ∧
      (s'.noted? op).isSome = true) c.Stopped s := by
  have he := mem_place hs
  obtain ⟨i, -, hi⟩ := ord.id _ he
  have ho := h.overtaken_of_findNode ord hs hx hn
  have skip : op ∈ c.skipped (before ++ [(p, op)]) := mem_skipped_of_overtaken ho
  obtain ⟨v, -, hr, hk⟩ := ho
  have sound := inv.toSound.remember (x := some n) ord he hi (Or.inl hA) fun w hw hkw => by
    cases Option.some.inj (hr.symm.trans hw)
    rw [hkw] at hk
    cases hk
  rw [wp_remember hi]
  obtain ⟨adv, noted⟩ := inv.visit (N := ∅) ord.toCatalogued he hi sound (.remember hi hx)
  rw [Set.insert_eq_of_mem skip] at adv
  exact ⟨adv, by rw [noted]; rfl⟩

/-- An operation that is expanded at its turn touches what it reaches. -/
theorem Boundary.reach_subset (hex : c.excluded op = false)
    (hn : op.result.bind (s.graph.findNode · p) = none) :
    ∀ v ∈ c.reach p op, v ∈ c.touch (c.touched before) (p, op) := by
  intro v hv
  refine Or.inr ⟨hex, fun ho => ?_, hv⟩
  obtain ⟨w, n, hw, -, hf⟩ := (h.overtaken_iff ord hs).1 ho
  rw [hw, Option.bind_some, hf] at hn
  cases hn

/-- Every turn takes one boundary to the next. -/
theorem Boundary.turn : wp (c.addOperation p op) (fun _ s' => c.Boundary (before ++ [(p, op)]) s')
    c.Stopped s := by
  have he := mem_place hs
  have inv := h.inv.mono subset_rfl (c.skipped_subset before (p, op))
  have started : insert (p, op) {e | e ∈ before} = {e | e ∈ before ++ [(p, op)]} := by
    ext e
    simp [or_comm]
  have inv' := inv.mono (Set.subset_insert (p, op) _) subset_rfl
  rw [started] at inv'
  have hA : (p, op) ∈ {e | e ∈ before ++ [(p, op)]} := by simp
  have closed := closed_reach ord he
  have hres := resolves_resolve ord c.nesting
  have hk := c.unseen_lt_nesting s
  have hr : ∀ v, op.result = some v → v ∈ c.reach p op := fun v hv => ⟨ord.home _ he v hv, Or.inl hv⟩
  have hN : ∀ v ∈ c.uses p op, v.program = p → v ∈ c.reach p op := fun v hv hp => ⟨hp, Or.inr (.use hv)⟩
  have untouched : ∀ v ∈ (∅ : Set Value), v ∈ c.touch (c.touched before) (p, op) := by
    intro v hv
    cases hv
  refine wp_expand (fun x hx => ?_) (fun n hx hn => ?_) (fun hx _ hex => ?_) (fun hx hn hex hst => ?_)
    (fun hx hn hex hc => ?_) fun hx hn hex hst hc => ?_
  · exact h.next ord hs ⟨inv', .refl _ s⟩ (by rw [hx]; rfl) untouched
  · refine (h.pass ord hs hA inv' hx hn).mono fun _ s' hs' => ?_
    obtain ⟨adv, noted⟩ := hs'
    exact h.next ord hs adv noted untouched
  · refine (wp_rememberTerminator (N := ∅) ord he (Or.inl hA) inv' hx hex).mono fun _ s' hs' => ?_
    obtain ⟨adv, noted⟩ := hs'
    exact h.next ord hs adv noted untouched
  · refine (wp_addStore ord he hst hres closed (ord.not_mem_before hs p) hN inv hk).mono
      fun _ s' hs' => ?_
    obtain ⟨adv, noted⟩ := hs'
    rw [started] at adv
    exact h.next ord hs adv noted (h.reach_subset ord hs hex hn)
  · have hst : op.opcode ≠ .store := by
      rw [hc]
      decide
    refine (wp_addCall ord hres closed he hex (Or.inl hA) (fun _ => mem_reach_of_operand hst) hr inv' hx
      hk.le hc).mono fun _ s' hs' => ?_
    obtain ⟨adv, noted⟩ := hs'
    exact h.next ord hs adv noted (h.reach_subset ord hs hex hn)
  · refine (wp_addPlain ord hres closed he hex (Or.inl hA) (fun _ => mem_reach_of_operand hst) hr inv' hx
      hk.le hst hc).mono fun _ s' hs' => ?_
    obtain ⟨adv, noted⟩ := hs'
    exact h.next ord hs adv noted (h.reach_subset ord hs hex hn)

end Turn

end BuildContext

end PeerTaint
