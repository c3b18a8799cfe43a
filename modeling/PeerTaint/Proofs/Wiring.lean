import PeerTaint.Proofs.Turns

/-!
Which operations a whole build wires.

Building expands the operations of the stream in order. Every one of them is wired in the end, in
whatever order the stream has them, except for excluded terminators and for operations that are passed
over: the operands of those are never linked with their result.
-/

namespace PeerTaint

namespace BuildContext

open Build

/-! ## All turns -/

section Run

variable {c : BuildContext} (ord : c.programs.Orderly)

theorem boundary_nil : c.Boundary [] {} where
  inv := {
    wf := Graph.wellFormed_empty
    memValue := nofun
    value := nofun
    settled := by
      intro e _ v _ _ _
      cases h : e.2.id <;> simp [BuildState.noted?, h, Graph.empty]
    terminator := by
      intro e _ v _ _ _ x hx
      cases h : e.2.id <;> simp [BuildState.noted?, h] at hx
    started := by
      intro e _ hs
      cases h : e.2.id <;> simp [BuildState.noted?, h] at hs
    wired := by
      intro e _ hs
      cases h : e.2.id <;> simp [BuildState.noted?, h] at hs }
  noted := nofun
  mem v _ := ⟨nofun, nofun⟩

include ord

theorem Boundary.run {before rest after : List (Program × Operation)} {s : BuildState}
    (h : c.Boundary before s) (hs : c.programs.stream = before ++ (rest ++ after)) :
    wp (c.addStream rest) (fun _ s' => c.Boundary (before ++ rest) s') c.Stopped s := by
  induction rest generalizing before s with
  | nil =>
    rw [List.append_nil]
    exact h
  | cons e rest ih =>
    rw [addStream, wp_bind]
    refine (h.turn ord hs).mono fun n s₁ h₁ => ?_
    rw [wp_bind]
    refine (ih h₁ (by simpa using hs)).mono fun _ s₂ h₂ => ?_
    rw [wp_pure]
    simpa using h₂

theorem boundary_addStream {before after : List (Program × Operation)}
    (hs : c.programs.stream = before ++ after) :
    wp (c.addStream before) (fun _ s => c.Boundary before s) c.Stopped {} :=
  boundary_nil.run ord hs

/-- When the whole stream runs, so does each part of it from the start. -/
theorem exists_run_before {before after : List (Program × Operation)} {count : Nat} {s : BuildState}
    (hs : c.programs.stream = before ++ after) (hrun : c.buildAll.run {} = .ok (count, s)) :
    ∃ count' s', (c.addStream before).run {} = .ok (count', s') ∧ c.Boundary before s' := by
  have bound := boundary_addStream ord hs
  cases hb : (c.addStream before).run {} with
  | ok r => exact ⟨r.1, r.2, rfl, bound.run hb⟩
  | error f =>
    rw [buildAll_eq, hs, addStream_append, StateT.run_bind, hb] at hrun
    cases hrun

end Run

/-- Building stops only when there are no handles left or the oracle contradicts itself. Otherwise
every operation of the stream but the excluded terminators is wired in the end, unless its result
points to memory and was resolved before its turn: such an operation is passed over. -/
theorem buildAll_wires (c : BuildContext) (registered : c.programs.Registered)
    (single : c.programs.SingleAssignment) :
    (∀ f, c.buildAll.run {} = .error f → c.Stopped f) ∧
    ∀ count s, c.buildAll.run {} = .ok (count, s) → ∀ before p op after,
      c.programs.stream = before ++ (p, op) :: after → c.excluded op = false →
        (¬ c.Overtaken (c.touched before) op → c.Wired s p op) ∧
        (c.Overtaken (c.touched before) op → c.PassedOver before p op) := by
  have ord : c.programs.Orderly := ⟨registered.catalogued, single⟩
  have all : wp c.buildAll (fun _ s => c.Boundary c.programs.stream s) c.Stopped {} := by
    rw [buildAll_eq]
    exact boundary_addStream ord (List.append_nil _).symm
  refine ⟨fun f hrun => all.fault hrun, fun count s hrun before p op after hs hex =>
    ⟨fun ho => ?_, fun ho => ?_⟩⟩
  · have h := all.run hrun
    have he := mem_place hs
    refine h.inv.wired _ he (h.noted _ he) (fun hd => ho ?_) hex
    exact overtaken_of_mem_skipped ord.toCatalogued hs (List.append_nil _).symm hd
  · obtain ⟨count', s', hbefore, h⟩ := exists_run_before ord hs hrun
    exact h.passedOver ord hs hbefore ho

/-- A context with one routine, of the first program. -/
def ofOperations (values : List ValueInfo) (classes : List (List Value)) (ops : List Operation) :
    BuildContext where
  programs := (values.foldl (fun m info => (ProgramPair.addValue m .first info).2) {}).addRoutine
    { name := "main", program := .first, operations := ops }
  oracle := (AliasPartition.ofLists classes).oracle
  naming := {}
  config := {}
  levels := fun _ _ _ => .empty

theorem registered_ofOperations (values : List ValueInfo) (classes : List (List Value))
    (ops : List Operation) : (ofOperations values classes ops).programs.Registered :=
  .addRoutine (List.foldlRecOn values _ .empty fun _ h info _ => .addValue h .first info) _

/-- A loop: `x` is chosen from `n` and `y`, and `y` is computed from `x` later. The pointer `q` is read
before it is computed from `buf` and `x`. -/
def loop : BuildContext :=
  let n : Value := ⟨.first, 0⟩
  let x : Value := ⟨.first, 1⟩
  let y : Value := ⟨.first, 2⟩
  let buf : Value := ⟨.first, 3⟩
  let q : Value := ⟨.first, 4⟩
  let c : Value := ⟨.first, 5⟩
  ofOperations [.scalar "n", .scalar "x", .scalar "y", .pointer "buf", .pointer "q", .scalar "c"] [[buf, q]]
    [{ opcode := .phi, operands := [n, y], result := some x },
      { opcode := .binary, operands := [x, n], result := some y },
      { opcode := .store, operands := [y, buf] },
      { opcode := .load, operands := [q], result := some c },
      { opcode := .call, operands := [c, q], target := some "send" },
      { opcode := .getElementPtr, operands := [buf, x], result := some q }]

/-- In the loop everything but the pointer is wired, although values are used before they are computed. -/
theorem buildAll_wires_loop : loop.programs.Registered ∧ loop.programs.SingleAssignment ∧
    ∃ count s, loop.buildAll.run {} = .ok (count, s) ∧
      ∀ e ∈ loop.programs.stream, e.2.opcode ≠ .getElementPtr → loop.Wired s e.1 e.2 := by
  have registered : loop.programs.Registered := registered_ofOperations ..
  have single : loop.programs.SingleAssignment := by decide +kernel
  obtain ⟨-, wires⟩ := buildAll_wires loop registered single
  have plain : ∀ e ∈ loop.programs.stream, e.2.opcode ≠ .getElementPtr →
      loop.excluded e.2 = false ∧ loop.pointerResult? e.2 = none := by decide +kernel
  refine ⟨registered, single, ?_⟩
  cases hrun : loop.buildAll.run {} with
  | error f =>
    have : (loop.buildAll.run {}).isOk = true := by decide +kernel
    rw [hrun] at this
    cases this
  | ok r =>
    refine ⟨r.1, r.2, rfl, fun e he hop => ?_⟩
    obtain ⟨before, after, hs⟩ := List.append_of_mem he
    obtain ⟨hex, hp⟩ := plain e he hop
    refine (wires r.1 r.2 hrun before e.1 e.2 after hs hex).1 ?_
    rintro ⟨v, -, hr, hk⟩
    obtain ⟨k, hk⟩ := Option.isSome_iff_exists.1 hk
    rw [pointerResult?_eq_some_iff.2 ⟨hr, hk⟩] at hp
    cases hp

/-- The pointer `q` into `buf` at the index `i`. -/
def indexing : Operation :=
  { id := some 2, opcode := .getElementPtr, operands := [⟨.first, 1⟩, ⟨.first, 0⟩],
    result := some ⟨.first, 2⟩ }

/-- The index `i` is used, then the pointer `q` is read, then `q` is computed from `buf` and `i`. -/
def lateIndex : BuildContext :=
  ofOperations [.scalar "i", .pointer "buf", .pointer "q", .scalar "c", .scalar "d"]
    [[⟨.first, 1⟩, ⟨.first, 2⟩]]
    [{ opcode := .binary, operands := [⟨.first, 0⟩], result := some ⟨.first, 4⟩ },
      { opcode := .load, operands := [⟨.first, 2⟩], result := some ⟨.first, 3⟩ },
      indexing]

/-- The index has the node `1` and the pointer the node `3`, but nothing flows from one to the other. -/
theorem lateIndex_not_wired : lateIndex.programs.Registered ∧ lateIndex.programs.SingleAssignment ∧
    (.first, indexing) ∈ lateIndex.programs.stream ∧ lateIndex.excluded indexing = false ∧
    ∃ count s, lateIndex.buildAll.run {} = .ok (count, s) ∧
      s.graph.findNode ⟨.first, 0⟩ .first = some 1 ∧ s.graph.findNode ⟨.first, 2⟩ .first = some 3 ∧
      s.graph.hasEdge 1 3 = false ∧ ¬ lateIndex.Wired s .first indexing := by
  refine ⟨registered_ofOperations .., by decide +kernel, by decide +kernel, by decide +kernel, ?_⟩
  have outcome : ((lateIndex.buildAll : Build Nat).run {}).map (fun r => (r.2.graph.findNode ⟨.first, 0⟩ .first,
      r.2.graph.findNode ⟨.first, 2⟩ .first, r.2.graph.hasEdge 1 3)) = .ok (some 1, some 3, false) := by
    decide +kernel
  cases hrun : lateIndex.buildAll.run {} with
  | error f =>
    rw [hrun] at outcome
    cases outcome
  | ok r =>
    rw [hrun] at outcome
    simp only [Except.map, Except.ok.injEq, Prod.mk.injEq] at outcome
    obtain ⟨index, pointer, lost⟩ := outcome
    refine ⟨r.1, r.2, rfl, index, pointer, lost, ?_⟩
    rintro ⟨n, -, wired⟩
    have hn := wired.result ⟨.first, 2⟩ rfl
    rw [pointer] at hn
    cases hn
    rcases wired.operands ⟨.first, 0⟩ (by decide) with ⟨-, none⟩ | ⟨a, ha, flows⟩
    · rw [index] at none
      cases none
    · rw [index] at ha
      cases ha
      rw [Graph.hasEdge, flows (by decide)] at lost
      cases lost

end BuildContext

end PeerTaint
