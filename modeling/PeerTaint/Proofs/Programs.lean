import Mathlib.Data.List.Nodup
import Mathlib.Data.Option.Basic
import PeerTaint.Program.Pair

/-!
What registration guarantees about a pair of programs.

Operations get numbers of their own, in the order of the stream, and the definition of a value is the
last operation of the stream that has the value as its result.
-/

namespace PeerTaint

/-- An operation without its number. -/
def Operation.unnumbered (op : Operation) : Operation := { op with id := none }

namespace ProgramPair

/-- The operations in stream order, each with the program of its routine. -/
def stream (m : ProgramPair) : List (Program × Operation) :=
  m.routines.flatMap fun r => r.operations.map fun op => (r.program, op)

/-- Programs that were registered value by value and routine by routine. -/
inductive Registered : ProgramPair → Prop
  | empty : Registered {}
  | addValue {m : ProgramPair} (h : Registered m) (p : Program) (info : ValueInfo) :
      Registered (m.addValue p info).2
  | addRoutine {m : ProgramPair} (h : Registered m) (r : Routine) : Registered (m.addRoutine r)

/-- Results belong to the program of their routine. -/
def Homed (m : ProgramPair) : Prop := ∀ e ∈ m.stream, ∀ v, e.2.result = some v → v.program = e.1

instance (m : ProgramPair) : Decidable m.Homed :=
  decidable_of_iff (∀ e ∈ m.stream, e.2.result.all (·.program = e.1) = true) <| by
    refine forall₂_congr fun e he => ?_
    cases e.2.result with
    | none => simp
    | some v => simp

/-- Stores and terminators define no result. -/
def Silent (m : ProgramPair) : Prop :=
  ∀ e ∈ m.stream, e.2.opcode = .store ∨ e.2.opcode.isTerminator = true → e.2.result = none

instance (m : ProgramPair) : Decidable m.Silent :=
  inferInstanceAs (Decidable (∀ e ∈ m.stream, _ → _))

/-- Programs with the given values and routines. -/
def ofRoutines (values : List (Program × ValueInfo)) (routines : List Routine) : ProgramPair :=
  routines.foldl addRoutine (values.foldl (fun m e => (addValue m e.1 e.2).2) {})

theorem registered_ofRoutines (values : List (Program × ValueInfo)) (routines : List Routine) :
    (ofRoutines values routines).Registered :=
  List.foldlRecOn routines _ (List.foldlRecOn values _ .empty fun _ h e _ => .addValue h e.1 e.2)
    fun _ h r _ => .addRoutine h r

/-- Each value is the result of at most one operation, results belong to the program of their routine,
and stores define no result. -/
structure SingleAssignment (m : ProgramPair) : Prop where
  unique : ∀ e ∈ m.stream, ∀ e' ∈ m.stream, ∀ v, e.2.result = some v → e'.2.result = some v → e = e'
  home : ∀ e ∈ m.stream, ∀ v, e.2.result = some v → v.program = e.1
  store : ∀ e ∈ m.stream, e.2.opcode = .store → e.2.result = none

instance (m : ProgramPair) : Decidable m.SingleAssignment :=
  decidable_of_iff
    ((∀ e ∈ m.stream, ∀ e' ∈ m.stream, e.2.result.isSome = true → e.2.result = e'.2.result → e = e') ∧
      (∀ e ∈ m.stream, e.2.result.all (·.program = e.1) = true) ∧
      ∀ e ∈ m.stream, e.2.opcode = .store → e.2.result = none) <| by
    constructor
    · rintro ⟨unique, home, store⟩
      refine ⟨fun e he e' he' v hv hv' => ?_, fun e he v hv => ?_, store⟩
      · exact unique e he e' he' (by rw [hv]; rfl) (hv.trans hv'.symm)
      · have := home e he
        rw [hv] at this
        exact of_decide_eq_true this
    · intro h
      refine ⟨fun e he e' he' hs heq => ?_, fun e he => ?_, h.store⟩
      · obtain ⟨v, hv⟩ := Option.isSome_iff_exists.1 hs
        exact h.unique e he e' he' v hv (heq.symm.trans hv)
      · cases hv : e.2.result with
        | none => rfl
        | some v => exact decide_eq_true (h.home e he v hv)

/-- Operations have numbers of their own below the next one, and definitions are operations of the
stream. -/
structure Catalogued (m : ProgramPair) : Prop where
  id : ∀ e ∈ m.stream, ∃ i < m.nextOperation, e.2.id = some i
  nodup : (m.stream.map (·.2.id)).Nodup
  definition : ∀ v op, m.definition? v = some op → op.result = some v ∧ ∃ p, (p, op) ∈ m.stream
  defined : ∀ e ∈ m.stream, ∀ v, e.2.result = some v → (m.definition? v).isSome = true

/-- What registration and single assignment give together. -/
structure Orderly (m : ProgramPair) : Prop extends Catalogued m, SingleAssignment m

/-! ## Numbers -/

theorem length_numbered (k : Nat) (ops : List Operation) : (numbered k ops).length = ops.length := by
  induction ops generalizing k with
  | nil => rfl
  | cons op ops ih => simp [numbered, ih]

theorem id_numbered (k : Nat) (ops : List Operation) :
    (numbered k ops).map (·.id) = (List.range' k ops.length).map some := by
  induction ops generalizing k with
  | nil => rfl
  | cons op ops ih => simp [numbered, ih, List.range'_succ]

theorem unnumbered_numbered (k : Nat) (ops : List Operation) :
    (numbered k ops).map Operation.unnumbered = ops.map Operation.unnumbered := by
  induction ops generalizing k with
  | nil => rfl
  | cons op ops ih => simp [numbered, Operation.unnumbered, ih]

/-! ## Definitions -/

theorem get?_define {defs : SortedMap Value Operation} {op : Operation} {v : Value} :
    (define defs op).get? v = if op.result = some v then some op else defs.get? v := by
  unfold define
  cases hr : op.result with
  | none => simp
  | some w =>
    rw [SortedMap.get?_insert]
    simp [eq_comm]

/-- The last operation that defines a value counts, before any definition the value had. -/
theorem get?_foldl_define (ops : List Operation) (defs : SortedMap Value Operation) (v : Value) :
    (ops.foldl define defs).get? v = (ops.reverse.find? fun op => op.result = some v).or (defs.get? v) := by
  induction ops generalizing defs with
  | nil => rfl
  | cons op ops ih =>
    rw [List.foldl_cons, ih, get?_define, List.reverse_cons, List.find?_append, Option.or_assoc]
    by_cases hr : op.result = some v <;> simp [hr]

/-! ## Registration -/

theorem operations_addRoutine (m : ProgramPair) (r : Routine) :
    (m.addRoutine r).operations = m.operations ++ numbered m.nextOperation r.operations := by
  simp [operations, addRoutine]

theorem map_snd_stream (m : ProgramPair) : m.stream.map (·.2) = m.operations := by
  simp [stream, operations, List.map_flatMap, Function.comp_def]

/-- Operations are numbered from zero in stream order. -/
theorem Registered.ids {m : ProgramPair} (h : Registered m) :
    m.operations.map (·.id) = (List.range m.nextOperation).map some := by
  induction h with
  | empty => rfl
  | addValue _ p info ih => exact ih
  | @addRoutine m _ r ih =>
    have next : (m.addRoutine r).nextOperation = m.nextOperation + r.operations.length := by
      simp [ProgramPair.addRoutine, length_numbered]
    rw [operations_addRoutine, List.map_append, ih, id_numbered, next, ← List.map_append, List.range_eq_range',
      List.range_eq_range', ← List.range'_append_1, Nat.zero_add]

/-- The definition of a value is found from the end of the stream. -/
theorem Registered.definition?_eq {m : ProgramPair} (h : Registered m) (v : Value) :
    m.definition? v = m.operations.reverse.find? fun op => op.result = some v := by
  induction h with
  | empty => rfl
  | addValue _ p info ih => exact ih
  | addRoutine _ r ih =>
    rw [operations_addRoutine, List.reverse_append, List.find?_append, ← ih]
    exact get?_foldl_define ..

theorem Registered.catalogued {m : ProgramPair} (h : Registered m) : Catalogued m := by
  have ids : m.stream.map (·.2.id) = (List.range m.nextOperation).map some := by
    rw [← h.ids, ← map_snd_stream, List.map_map]
    rfl
  refine ⟨fun e he => ?_, ?_, fun v op hv => ?_, fun e he v hr => ?_⟩
  · have : e.2.id ∈ (List.range m.nextOperation).map some := ids ▸ List.mem_map_of_mem he
    obtain ⟨i, hi, hid⟩ := List.mem_map.1 this
    exact ⟨i, List.mem_range.1 hi, hid.symm⟩
  · rw [ids]
    exact List.nodup_range.map (Option.some_injective _)
  · rw [h.definition?_eq] at hv
    have hop : op ∈ m.stream.map (·.2) := by
      rw [map_snd_stream]
      exact List.mem_reverse.1 (List.mem_of_find?_eq_some hv)
    obtain ⟨e, he, rfl⟩ := List.mem_map.1 hop
    exact ⟨by simpa using List.find?_some hv, e.1, he⟩
  · rw [h.definition?_eq, List.find?_isSome]
    refine ⟨e.2, List.mem_reverse.2 ?_, decide_eq_true hr⟩
    rw [← map_snd_stream]
    exact List.mem_map_of_mem he

/-- Operations with the same number are the same. -/
theorem Catalogued.eq_of_id {m : ProgramPair} (h : Catalogued m) {e e' : Program × Operation}
    (he : e ∈ m.stream) (he' : e' ∈ m.stream) (hid : e.2.id = e'.2.id) : e = e' :=
  List.inj_on_of_nodup_map h.nodup he he' hid

section Place

variable {m : ProgramPair} (h : Catalogued m) {before after : List (Program × Operation)} {p : Program}
  {op : Operation} (hs : m.stream = before ++ (p, op) :: after)
include h hs

theorem Catalogued.not_mem_sides : (p, op) ∉ before ++ after := by
  have nodup : (before ++ (p, op) :: after).Nodup := hs ▸ h.nodup.of_map
  exact (List.nodup_cons.1 (List.nodup_middle.1 nodup)).1

theorem Catalogued.eq_place {q : Program} (hq : (q, op) ∈ m.stream) : (q, op) = (p, op) :=
  h.eq_of_id hq (by rw [hs]; simp) rfl

/-- An operation does not stand before its place in the stream. -/
theorem Catalogued.not_mem_before (q : Program) : (q, op) ∉ before := by
  intro hq
  have same := h.eq_place hs (q := q) (by rw [hs]; exact List.mem_append_left _ hq)
  exact h.not_mem_sides hs (List.mem_append_left _ (same ▸ hq))

/-- The place of an operation in the stream is unique. -/
theorem Catalogued.before_eq {before' after' : List (Program × Operation)} {q : Program}
    (hs' : m.stream = before' ++ (q, op) :: after') : before = before' := by
  have same := h.eq_place hs (q := q) (by rw [hs']; simp)
  have sides := h.not_mem_sides hs
  rw [List.mem_append, not_or] at sides
  rw [same, hs] at hs'
  exact ((List.append_cons_inj_of_notMem sides.1 sides.2).1 hs').1

end Place

/-- An operation that defines a value is its definition, and of the value's program. -/
theorem Orderly.definition?_eq {m : ProgramPair} (h : Orderly m) {e : Program × Operation} {v : Value}
    (he : e ∈ m.stream) (hr : e.2.result = some v) : m.definition? v = some e.2 := by
  obtain ⟨op, hop⟩ := Option.isSome_iff_exists.1 (h.defined e he v hr)
  obtain ⟨hr', p, hp⟩ := h.definition v op hop
  rw [hop, ← h.unique (p, op) hp e he v hr' hr]

theorem Catalogued.mem_of_definition? {m : ProgramPair} (h : Catalogued m) (homed : m.Homed) {v : Value}
    {op : Operation} (hv : m.definition? v = some op) :
    (v.program, op) ∈ m.stream ∧ op.result = some v := by
  obtain ⟨hr, p, hp⟩ := h.definition v op hv
  have home : v.program = p := homed (p, op) hp v hr
  exact ⟨home ▸ hp, hr⟩

theorem Orderly.mem_of_definition? {m : ProgramPair} (h : Orderly m) {v : Value} {op : Operation}
    (hv : m.definition? v = some op) : (v.program, op) ∈ m.stream ∧ op.result = some v :=
  h.toCatalogued.mem_of_definition? h.home hv

end ProgramPair

end PeerTaint
