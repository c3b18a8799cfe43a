import Mathlib.Data.List.Induction
import PeerTaint.Proofs.Programs

/-!
Registering values and routines in any order.

What is registered can be read off the list of entries that were made. The routines are those of the entries,
with numbers for their operations that run through all of them (`Registered.ids`), and the definition of a value
is the last operation of the stream that defines it (`Registered.definition?_eq_some_iff`), since registering a
routine only adds to the end of the stream. A value is numbered by the values its program had before (`Issued`), so that
a new one is never mistaken for an old one and each keeps what it was registered with.
-/

namespace PeerTaint

/-- A routine whose operations have no numbers. -/
def Routine.unnumbered (r : Routine) : Routine := { r with operations := r.operations.map Operation.unnumbered }

/-! ## The stream -/

namespace ProgramPair

variable {m : ProgramPair} {v : Value} {op : Operation}

theorem Registered.nextOperation_eq (h : Registered m) : m.nextOperation = m.operations.length := by
  simpa using (congrArg List.length h.ids).symm

theorem Registered.definition?_eq_some_iff (h : Registered m) : m.definition? v = some op ↔ op.result = some v ∧
    ∃ earlier later, m.operations = earlier ++ op :: later ∧ ∀ x ∈ later, x.result ≠ some v := by
  rw [h.definition?_eq, List.find?_eq_some_iff_append]
  simp only [decide_eq_true_eq, Bool.not_eq_true', decide_eq_false_iff_not]
  refine and_congr_right fun _ => ?_
  constructor
  · rintro ⟨later, earlier, split, free⟩
    refine ⟨earlier.reverse, later.reverse, ?_, by simpa using free⟩
    rw [← List.reverse_reverse m.operations, split]
    simp
  · rintro ⟨earlier, later, split, free⟩
    exact ⟨later.reverse, earlier.reverse, by simp [split], by simpa using free⟩

theorem Registered.definition?_eq_none_iff (h : Registered m) :
    m.definition? v = none ↔ ∀ op ∈ m.operations, op.result ≠ some v := by
  rw [h.definition?_eq, List.find?_eq_none]
  simp

@[simp]
theorem fst_addValue (m : ProgramPair) (p : Program) (info : ValueInfo) :
    (m.addValue p info).1 = ⟨p, m.nextValue.get p⟩ := rfl

@[simp]
theorem info?_addValue (m : ProgramPair) (p : Program) (info : ValueInfo) (v : Value) :
    (m.addValue p info).2.info? v = if v = ⟨p, m.nextValue.get p⟩ then some info else m.info? v :=
  SortedMap.get?_insert

@[simp]
theorem nextValue_addValue (m : ProgramPair) (p q : Program) (info : ValueInfo) :
    (m.addValue p info).2.nextValue.get q = if q = p then m.nextValue.get q + 1 else m.nextValue.get q :=
  PerProgram.get_modify ..

end ProgramPair

/-! ## Entries -/

/-- Something to register. -/
inductive Entry where
  | value (p : Program) (info : ValueInfo)
  | routine (r : Routine)

namespace Entry

/-- The value of an entry: its program, and what is known about it. -/
def value? : Entry → Option (Program × ValueInfo)
  | value p info => some (p, info)
  | routine _ => none

/-- The routine of an entry. -/
def routine? : Entry → Option Routine
  | value .. => none
  | routine r => some r

end Entry

/-- Programs that are being registered, and the values handed out for them, in order. -/
structure Registration where
  programs : ProgramPair := {}
  handed : List Value := []

namespace Registration

variable {s : Registration} {v : Value} {p : Program}

/-- Registers an entry. -/
def register (s : Registration) : Entry → Registration
  | .value p info =>
    let (v, programs) := s.programs.addValue p info
    { programs, handed := s.handed ++ [v] }
  | .routine r => { s with programs := s.programs.addRoutine r }

/-- What registering some entries leads to. -/
def after (es : List Entry) : Registration := es.foldl register {}

/-- The values that were handed out for a program, in order. -/
def handedFor (s : Registration) (p : Program) : List Value := s.handed.filter (·.program = p)

theorem after_concat (es : List Entry) (e : Entry) : after (es ++ [e]) = (after es).register e := by
  simp [after]

theorem registered_after (es : List Entry) : (after es).programs.Registered := by
  induction es using List.reverseRecOn with
  | nil => exact .empty
  | append_singleton es e ih =>
    rw [after_concat]
    cases e with
    | value p info => exact .addValue ih p info
    | routine r => exact .addRoutine ih r

/-- The routines are those of the entries, but for the numbers of their operations. -/
theorem routines_after (es : List Entry) :
    (after es).programs.routines.map Routine.unnumbered = (es.filterMap Entry.routine?).map Routine.unnumbered := by
  induction es using List.reverseRecOn with
  | nil => rfl
  | append_singleton es e ih =>
    rw [after_concat, List.filterMap_append, List.map_append, ← ih]
    cases e with
    | value p info => exact (List.append_nil _).symm
    | routine r =>
      simp [register, ProgramPair.addRoutine, Entry.routine?, Routine.unnumbered, ProgramPair.unnumbered_numbered]

/-! ## Values -/

/-- The values of each program are numbered from zero in the order in which they are handed out, and these are
the values that are known. -/
structure Issued (s : Registration) : Prop where
  numbers : ∀ p, (s.handedFor p).map (·.id) = List.range (s.programs.nextValue.get p)
  known : ∀ v, (s.programs.info? v).isSome = true ↔ v ∈ s.handed

theorem Issued.mem_handed_iff (h : s.Issued) : v ∈ s.handed ↔ v.id < s.programs.nextValue.get v.program := by
  rw [← List.mem_range, ← h.numbers, List.mem_map]
  constructor
  · intro hv
    exact ⟨v, List.mem_filter.2 ⟨hv, decide_eq_true rfl⟩, rfl⟩
  · rintro ⟨w, hw, same⟩
    obtain ⟨hw, home⟩ := List.mem_filter.1 hw
    rwa [← Value.pair_injective (Prod.ext (of_decide_eq_true home) same)]

/-- The next value is a new one. -/
theorem Issued.next_not_mem (h : s.Issued) (p : Program) : (⟨p, s.programs.nextValue.get p⟩ : Value) ∉ s.handed := by
  rw [h.mem_handed_iff]
  exact Nat.lt_irrefl _

theorem Issued.register (h : s.Issued) (e : Entry) : (s.register e).Issued := by
  cases e with
  | routine r => exact ⟨h.numbers, h.known⟩
  | value p info =>
    refine ⟨fun q => ?_, fun v => ?_⟩
    · have handed : (s.register (.value p info)).handedFor q =
          s.handedFor q ++ if q = p then [⟨p, s.programs.nextValue.get p⟩] else [] := by
        simp [Registration.register, handedFor, List.filter_cons, eq_comm]
      rw [handed, List.map_append, h.numbers, Registration.register, ProgramPair.nextValue_addValue]
      split
      · next hq => rw [List.range_succ, hq, List.map_singleton]
      · exact List.append_nil _
    · rw [Registration.register, ProgramPair.info?_addValue, List.mem_append, ← h.known, List.mem_singleton]
      split
      · next hv => simp [hv]
      · next hv => simp [hv]

theorem issued_after (es : List Entry) : (after es).Issued := by
  induction es using List.reverseRecOn with
  | nil => exact ⟨fun p => by cases p <;> rfl, fun v => by simp [after, ProgramPair.info?]⟩
  | append_singleton es e ih =>
    rw [after_concat]
    exact ih.register e

/-- No value is handed out twice. -/
theorem Issued.nodup (h : s.Issued) : s.handed.Nodup := by
  refine List.nodup_iff_count_le_one.2 fun v => ?_
  have distinct : (s.handedFor v.program).Nodup := .of_map (·.id) (by rw [h.numbers]; exact List.nodup_range)
  rw [← List.count_filter (p := (·.program = v.program)) (decide_eq_true rfl)]
  exact List.nodup_iff_count_le_one.1 distinct v

/-- Registering an entry changes nothing about the values there are. -/
theorem Issued.info?_register (h : s.Issued) (e : Entry) (hv : v ∈ s.handed) :
    (s.register e).programs.info? v = s.programs.info? v := by
  cases e with
  | routine r => rfl
  | value p info =>
    have old : v ≠ ⟨p, s.programs.nextValue.get p⟩ := by
      rintro rfl
      exact h.next_not_mem p hv
    rw [Registration.register, ProgramPair.info?_addValue, if_neg old]

/-- Each value that is asked for is of the program asked for, and keeps what it was registered with. -/
theorem values_after (es : List Entry) :
    (after es).handed.map (fun v => (v.program, (after es).programs.info? v)) =
      (es.filterMap Entry.value?).map fun e => (e.1, some e.2) := by
  induction es using List.reverseRecOn with
  | nil => rfl
  | append_singleton es e ih =>
    have kept : (after es).handed.map (fun v => (v.program, ((after es).register e).programs.info? v)) =
        (es.filterMap Entry.value?).map fun e => (e.1, some e.2) := by
      rw [← ih]
      refine List.map_congr_left fun v hv => ?_
      rw [(issued_after es).info?_register e hv]
    rw [after_concat, List.filterMap_append, List.map_append, ← kept]
    cases e with
    | routine r => exact (List.append_nil _).symm
    | value p info => simp [register, Entry.value?]

/-! ## Later entries -/

/-- What is registered stays in its place. -/
theorem extends_after_append (es later : List Entry) :
    (after es).programs.routines <+: (after (es ++ later)).programs.routines ∧
      (after es).handed <+: (after (es ++ later)).handed := by
  induction later using List.reverseRecOn with
  | nil => simp
  | append_singleton later e ih =>
    rw [← List.append_assoc, after_concat]
    cases e with
    | value p info => exact ⟨ih.1, ih.2.trans (List.prefix_append ..)⟩
    | routine r => exact ⟨ih.1.trans (List.prefix_append ..), ih.2⟩

/-- Whatever values and routines are registered, in whatever order: the routines are there as they were given, but
for the numbers of their operations, which run from zero through the whole stream. The definition of a value is
the last operation of the stream that has it as its result, and there is none if no operation has. The values
that are handed out are different from each other, belong to the programs they were asked for, where they are
numbered from zero, and keep what they were registered with; nothing is known about other values. The
counters stand at the totals, so that every number fits into 32 bits as long as the totals do, and later entries
move nothing. -/
theorem after_in_stream_order (es : List Entry) :
    let m := (after es).programs
    let handed := (after es).handed
    m.routines.map Routine.unnumbered = (es.filterMap Entry.routine?).map Routine.unnumbered ∧
    m.operations.map (·.id) = (List.range m.operations.length).map some ∧
    (∀ v op, m.definition? v = some op ↔ op.result = some v ∧
      ∃ before behind, m.operations = before ++ op :: behind ∧ ∀ x ∈ behind, x.result ≠ some v) ∧
    (∀ v, m.definition? v = none ↔ ∀ op ∈ m.operations, op.result ≠ some v) ∧
    handed.Nodup ∧
    handed.map (fun v => (v.program, m.info? v)) = (es.filterMap Entry.value?).map (fun e => (e.1, some e.2)) ∧
    (∀ v, m.info? v = none ↔ v ∉ handed) ∧
    m.nextOperation = m.operations.length ∧
    (∀ p, ((after es).handedFor p).map (·.id) = List.range ((after es).handedFor p).length ∧
      m.nextValue.get p = ((after es).handedFor p).length) ∧
    ∀ later, m.routines <+: (after (es ++ later)).programs.routines ∧ handed <+: (after (es ++ later)).handed := by
  intro m handed
  have registered : m.Registered := registered_after es
  have issued := issued_after es
  have total : ∀ p, m.nextValue.get p = ((after es).handedFor p).length := by
    intro p
    simpa using (congrArg List.length (issued.numbers p)).symm
  refine ⟨routines_after es, ?_, fun v op => registered.definition?_eq_some_iff,
    fun v => registered.definition?_eq_none_iff, issued.nodup, values_after es, fun v => ?_,
    registered.nextOperation_eq, fun p => ⟨?_, total p⟩, extends_after_append es⟩
  · rw [← registered.nextOperation_eq]
    exact registered.ids
  · rw [← issued.known]
    exact Option.not_isSome_iff_eq_none.symm
  · rw [issued.numbers, ← total p]

/-- A value of the first program that both programs define: the second definition counts. -/
example :
    let x : Value := ⟨.first, 0⟩
    let m := (after [.value .first (.scalar "x"), .value .second (.scalar "y"),
      .routine { name := "f", program := .first, operations :=
        [{ id := some 2, opcode := .load, operands := [x], result := some x },
          { id := some 2, opcode := .store, operands := [x, x] }] },
      .routine { name := "g", program := .second, operations :=
        [{ opcode := .cast, operands := [⟨.second, 0⟩], result := some x }] }]).programs
    m.operations.map (·.id) = [some 0, some 1, some 2] ∧ (m.definition? x).map (·.opcode) = some .cast := by
  decide

end Registration

end PeerTaint
