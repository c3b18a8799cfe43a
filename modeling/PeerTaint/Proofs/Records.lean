import PeerTaint.Proofs.Attaching

/-!
What collections of input records hold.

Of the records that are added for a value the first one stays: in the set of its scope the first of that
scope, in the set of all the first of either (`Collected.get?_insertAll`). Merging adds the local records of a
collection before its network records. It therefore keeps the sets of a scope as they are, but in the set of
all it prefers the local record of a value, also where the network record had come first.
-/

namespace PeerTaint

namespace InputSets

variable {s t : InputSets} {r : InputRecord} {p q : Program} {scope : InputScope} {v : Value}

/-- Whether a record is for a value of a program and counts in a scope. -/
def files (p : Program) (scope : InputScope) (v : Value) (r : InputRecord) : Bool :=
  decide (r.program = p) && decide (r.value = v) && (decide (scope = .all) || decide (scope = scopeOf r))

theorem files_iff : files p scope v r = true ↔
    r.program = p ∧ r.value = v ∧ (scope = .all ∨ scope = scopeOf r) := by
  simp [files, and_assoc]

/-- Collections that are made by adding records. -/
inductive Collected : InputSets → Prop
  | empty : Collected .empty
  | insert {s : InputSets} (h : Collected s) (r : InputRecord) : Collected (s.insert r).2

theorem Collected.insertAll (h : s.Collected) (rs : List InputRecord) : (s.insertAll rs).Collected :=
  List.foldlRecOn rs _ h fun _ h r _ => h.insert r

theorem Collected.extend (h : s.Collected) (t : InputSets) : (s.extend t).Collected := h.insertAll t.toList

/-! ## The first record stays -/

theorem get_empty (p : Program) (scope : InputScope) : InputSets.empty.get p scope = .empty := by
  cases scope <;> exact PerProgram.get_both _ p

/-- A value with a record in some scope has one in the set of all. -/
def Covered (s : InputSets) : Prop :=
  ∀ p scope v, ((s.get p scope).get? v).isSome = true → ((s.get p .all).get? v).isSome = true

/-- A record with a new value is added to the set of its scope, and to the set of all unless the value has a
record there. -/
theorem get_insert_of_new (new : (s.get r.program (scopeOf r)).contains r.value ≠ true) :
    (s.insert r).2.get p scope =
      if p = r.program then
        if scope = scopeOf r then (s.get p scope).insert r.value r
        else if scope = .all then (s.get p .all).insertIfNew r.value r
        else s.get p scope
      else s.get p scope := by
  rw [insert, if_neg new]
  cases hn : r.isNetwork <;> cases scope <;> simp [InputSets.get, scopeOf, hn]

/-- Of the records for a value the first one stays. -/
theorem get?_insert (covered : s.Covered) (r : InputRecord) :
    ((s.insert r).2.get p scope).get? v
      = ((s.get p scope).get? v).or (if files p scope v r = true then some r else none) := by
  by_cases seen : (s.get r.program (scopeOf r)).contains r.value = true
  · rw [insert, if_pos seen]
    split
    · next filed =>
      obtain ⟨rfl, rfl, inScope⟩ := files_iff.1 filed
      have there : ((s.get r.program scope).get? r.value).isSome = true := by
        rcases inScope with rfl | rfl
        · exact covered _ _ _ seen
        · exact seen
      obtain ⟨r', hr'⟩ := Option.isSome_iff_exists.1 there
      rw [hr', Option.some_or]
    · rw [Option.or_none]
  · have free : (s.get r.program (scopeOf r)).get? r.value = none := by simpa [SortedMap.contains] using seen
    rw [get_insert_of_new seen]
    by_cases hp : p = r.program
    · subst hp
      by_cases hv : v = r.value
      · subst hv
        by_cases own : scope = scopeOf r
        · subst own
          simp [files, free]
        · by_cases all : scope = .all
          · subst all
            cases hall : (s.get r.program .all).get? r.value <;>
              simp [files, own, SortedMap.insertIfNew, SortedMap.contains, hall]
          · simp [files, own, all]
      · have other : files r.program scope v r = false := by simp [files, Ne.symm hv]
        have kept : ∀ m : RecordSet, (m.insertIfNew r.value r).get? v = m.get? v := by
          intro m
          unfold SortedMap.insertIfNew
          split <;> simp [hv]
        simp only [other, if_true]
        split
        · simp [hv]
        · split
          · next all => simp [kept, all]
          · simp
    · have other : files p scope v r = false := by simp [files, Ne.symm hp]
      simp [hp, other]

theorem Collected.covered (h : s.Collected) : s.Covered := by
  induction h with
  | empty =>
    intro p scope v hv
    rw [get_empty] at hv
    cases hv
  | insert h r ih =>
    intro p scope v hv
    rw [get?_insert ih, Option.isSome_or, Bool.or_eq_true] at hv ⊢
    refine hv.imp (ih p scope v) fun added => ?_
    split at added
    · next filed =>
      obtain ⟨hp, hv, -⟩ := files_iff.1 filed
      simp [files, hp, hv]
    · cases added

/-- A set holds for each value the first record that was added for it. -/
theorem Collected.get?_insertAll (h : s.Collected) (rs : List InputRecord) :
    ((s.insertAll rs).get p scope).get? v = ((s.get p scope).get? v).or (rs.find? (files p scope v)) := by
  induction rs generalizing s with
  | nil =>
    rw [List.find?_nil, Option.or_none]
    rfl
  | cons r rs ih =>
    change (((s.insert r).2.insertAll rs).get p scope).get? v = _
    rw [ih (h.insert r), get?_insert h.covered, Option.or_assoc, List.find?_cons]
    congr 1
    cases files p scope v r <;> simp

/-! ## Merging -/

theorem Collected.files (h : s.Collected) (hr : (s.get p scope).get? v = some r) : files p scope v r = true := by
  induction h with
  | empty =>
    rw [get_empty] at hr
    cases hr
  | insert h r' ih =>
    rw [get?_insert h.covered] at hr
    rcases Option.or_eq_some_iff.1 hr with before | ⟨-, added⟩
    · exact ih before
    · split at added
      · next filed =>
        cases added
        exact filed
      · cases added

/-- What a set lists is what it holds under the record's own value. -/
theorem Collected.mem_records_iff (h : s.Collected) :
    r ∈ s.records p scope ↔ (s.get p scope).get? r.value = some r := by
  constructor
  · intro hr
    obtain ⟨⟨k, r'⟩, he, rfl⟩ := List.mem_map.1 hr
    have found : (s.get p scope).get? k = some r' := SortedMap.get?_eq_some_iff.2 he
    obtain ⟨-, rfl, -⟩ := files_iff.1 (h.files found)
    exact found
  · intro found
    exact List.mem_map.2 ⟨_, SortedMap.get?_eq_some_iff.1 found, rfl⟩

/-- Looking for a value's record of some scope among the records of another one. -/
theorem Collected.find?_records (h : s.Collected) {own : InputScope} (single : own ≠ .all) :
    (s.records q own).find? (InputSets.files p scope v)
      = if q = p ∧ (scope = .all ∨ scope = own) then (s.get q own).get? v else none := by
  have listed : ∀ r ∈ s.records q own, InputSets.files p scope v r = true ↔
      r.value = v ∧ q = p ∧ (scope = .all ∨ scope = own) := by
    intro r hr
    obtain ⟨hq, -, hs⟩ := files_iff.1 (h.files (h.mem_records_iff.1 hr))
    rw [files_iff, hq, hs.resolve_left single]
    exact ⟨fun ⟨a, b, c⟩ => ⟨b, a, c⟩, fun ⟨a, b, c⟩ => ⟨b, a, c⟩⟩
  have sound : q = p ∧ (scope = .all ∨ scope = own) → ∀ r,
      (s.records q own).find? (InputSets.files p scope v) = some r → (s.get q own).get? v = some r := by
    intro meant r found
    have hr := List.mem_of_find?_eq_some found
    obtain ⟨rfl, -⟩ := (listed r hr).1 (List.find?_some found)
    exact h.mem_records_iff.1 hr
  split
  · next meant =>
    refine Option.ext fun r => ⟨sound meant r, fun held => ?_⟩
    obtain ⟨-, rfl, -⟩ := files_iff.1 (h.files held)
    have hr := h.mem_records_iff.2 held
    obtain ⟨r', found⟩ := Option.isSome_iff_exists.1
      (List.find?_isSome.2 ⟨r, hr, (listed r hr).2 ⟨rfl, meant⟩⟩)
    rw [found, ← sound meant r' found, held]
  · next other =>
    rw [List.find?_eq_none]
    exact fun r hr filed => other ((listed r hr).1 filed).2

/-- The record of a value that merging a collection brings in: into the set of all its local record, or else
the one from the network. -/
def offered (t : InputSets) (p : Program) (v : Value) : InputScope → Option InputRecord
  | .all => ((t.get p .local).get? v).or ((t.get p .network).get? v)
  | scope => (t.get p scope).get? v

theorem Collected.find?_toList (h : t.Collected) :
    t.toList.find? (InputSets.files p scope v) = t.offered p v scope := by
  have halves : ∀ q, (t.recordsOf q).find? (InputSets.files p scope v)
      = if q = p then t.offered p v scope else none := by
    intro q
    rw [recordsOf, List.find?_append, h.find?_records (by decide), h.find?_records (by decide)]
    by_cases hq : q = p
    · subst hq
      cases scope <;> simp [offered]
    · simp [hq]
  rw [toList, Program.all, List.flatMap_cons, List.flatMap_cons, List.flatMap_nil, List.append_nil,
    List.find?_append, halves, halves]
  cases p <;> simp

/-- Merging brings in what is offered where nothing is held. -/
theorem Collected.get?_extend (h : s.Collected) (ht : t.Collected) :
    ((s.extend t).get p scope).get? v = ((s.get p scope).get? v).or (t.offered p v scope) := by
  rw [InputSets.extend, h.get?_insertAll, ht.find?_toList]

/-- The record in the set of all is also the one of its own scope. -/
theorem Collected.get?_scopeOf (h : s.Collected) (hr : (s.get p .all).get? v = some r) :
    (s.get p (scopeOf r)).get? v = some r := by
  induction h with
  | empty =>
    rw [get_empty] at hr
    cases hr
  | @insert s h r' ih =>
    rw [get?_insert h.covered] at hr ⊢
    rcases Option.or_eq_some_iff.1 hr with before | ⟨free, added⟩
    · rw [ih before, Option.some_or]
    · split at added
      · next filed =>
        cases added
        obtain ⟨hp, hv, -⟩ := files_iff.1 filed
        have unheld : (s.get p (scopeOf r)).get? v = none := by
          rw [← Option.not_isSome_iff_eq_none]
          intro held
          have := h.covered p _ v held
          rw [free] at this
          cases this
        simp [unheld, InputSets.files, hp, hv]
      · cases added

/-- The records of a program are those of another collection, except that the set of all has the local record
of each value that has one. -/
structure Restates (s t : InputSets) (p : Program) : Prop where
  localRecords : s.records p .local = t.records p .local
  networkRecords : s.records p .network = t.records p .network
  values : (s.get p .all).keys = (t.get p .all).keys
  preferred : ∀ v, (s.get p .all).get? v = ((t.get p .local).get? v).or ((t.get p .network).get? v)
  unchanged : ∀ v, (t.get p .local).get? v = none ∨ (t.get p .network).get? v = none →
    (s.get p .all).get? v = (t.get p .all).get? v

theorem Collected.get?_all_cases (h : t.Collected) (hr : (t.get p .all).get? v = some r) :
    (t.get p .local).get? v = some r ∨ (t.get p .network).get? v = some r := by
  have own := h.get?_scopeOf hr
  unfold scopeOf at own
  split at own
  · exact .inr own
  · exact .inl own

theorem Collected.isSome_offered (h : t.Collected) :
    (t.offered p v .all).isSome = ((t.get p .all).get? v).isSome := by
  rw [Bool.eq_iff_iff, offered, Option.isSome_or, Bool.or_eq_true]
  constructor
  · rintro (held | held)
    · exact h.covered p _ v held
    · exact h.covered p _ v held
  · intro held
    obtain ⟨r, hr⟩ := Option.isSome_iff_exists.1 held
    rcases h.get?_all_cases hr with own | own
    · exact .inl (by rw [own]; rfl)
    · exact .inr (by rw [own]; rfl)

/-- A collection that holds what another one offers restates it. -/
theorem Collected.restates (h : t.Collected)
    (same : ∀ scope v, (s.get p scope).get? v = t.offered p v scope) : s.Restates t p where
  localRecords := congrArg SortedMap.values (SortedMap.ext (same .local))
  networkRecords := congrArg SortedMap.values (SortedMap.ext (same .network))
  values := by
    refine Key.eq_of_mem_iff id (List.pairwise_map.2 (s.get p .all).sorted)
      (List.pairwise_map.2 (t.get p .all).sorted) fun v => ?_
    rw [SortedMap.mem_keys_iff, SortedMap.mem_keys_iff, same .all v, h.isSome_offered]
  preferred := same .all
  unchanged v single := by
    have held := h.isSome_offered (p := p) (v := v)
    rw [same .all v]
    cases hall : (t.get p .all).get? v with
    | none =>
      rw [hall] at held
      exact Option.not_isSome_iff_eq_none.1 (by rw [held]; nofun)
    | some r =>
      rcases single with none | none <;> rcases h.get?_all_cases hall with own | own <;>
        simp_all [offered]

end InputSets

/-! ## Classifying -/

namespace InputClassifier

variable {k : InputClassifier} {m : ProgramPair} {p q : Program}

/-- The records of a routine whose parameters belong to its program do so too. -/
theorem program_of_mem_ofRoutine_home {f : Routine} {r : InputRecord}
    (home : ∀ v ∈ f.params, v.program = f.program) (h : r ∈ k.ofRoutine m f) : r.program = f.program := by
  rw [program_of_mem_ofRoutine h]
  rw [ofRoutine, List.mem_append, List.mem_append, List.mem_flatMap] at h
  rcases h with (h | h) | ⟨op, -, h⟩
  · unfold commandLine at h
    split at h
    · obtain ⟨v, hv, rfl⟩ := List.mem_map.1 h
      exact home v (List.mem_of_getElem? (Option.mem_toList.1 hv))
    · cases h
  · unfold callbackPayload at h
    split at h
    · obtain ⟨v, hv, rfl⟩ := List.mem_map.1 h
      exact home v (List.mem_of_head? (Option.eq_some_of_filter_eq_some (Option.mem_toList.1 hv)))
    · cases h
  · unfold ofOperation at h
    split at h
    · cases h
    · split at h
      · cases h
      · obtain ⟨v, hv, rfl⟩ := List.mem_map.1 h
        have kept := (List.mem_filter.1 hv).2
        rw [Bool.and_eq_true, decide_eq_true_eq] at kept
        exact kept.1

theorem collected_classify (k : InputClassifier) (m : ProgramPair) (p : Program) : (k.classify m p).Collected :=
  InputSets.Collected.empty.insertAll _

theorem collected_classifyAll (k : InputClassifier) (m : ProgramPair) : (k.classifyAll m).Collected :=
  (InputSets.Collected.empty.extend _).extend _

/-- Classifying one program finds nothing for the other. -/
theorem offered_classify_other (home : ∀ f ∈ m.routines, ∀ v ∈ f.params, v.program = f.program)
    (other : q ≠ p) (v : Value) (scope : InputScope) : (k.classify m q).offered p v scope = none := by
  have none : ∀ scope, ((k.classify m q).get p scope).get? v = none := by
    intro scope
    rw [classify, InputSets.Collected.empty.get?_insertAll, InputSets.get_empty, SortedMap.get?_empty,
      Option.none_or, List.find?_eq_none]
    intro r hr filed
    obtain ⟨f, hf, hr⟩ := List.mem_flatMap.1 hr
    obtain ⟨hf, hq⟩ := List.mem_filter.1 hf
    have own := program_of_mem_ofRoutine_home (home f hf) hr
    rw [(InputSets.files_iff.1 filed).1, of_decide_eq_true hq] at own
    exact other own.symm
  cases scope <;> simp [InputSets.offered, none]

/-- Classifying both programs at once finds for each of them the records that classifying it alone finds, and
so does merging a collection into an empty one: local and network records are the same, in the same order,
and in the set of all the same values are listed. There a value has its local record if it has one, and the
one from the network otherwise; that is the record it had before, unless it has both. -/
theorem classifyAll_restates (k : InputClassifier) (m : ProgramPair)
    (home : ∀ f ∈ m.routines, ∀ v ∈ f.params, v.program = f.program) :
    (∀ p, (k.classifyAll m).Restates (k.classify m p) p) ∧
      ∀ t : InputSets, t.Collected → ∀ p, (InputSets.empty.extend t).Restates t p := by
  have first := InputSets.Collected.empty.extend (k.classify m .first)
  refine ⟨fun p => (collected_classify k m p).restates fun scope v => ?_, fun t ht p =>
    ht.restates fun scope v => ?_⟩
  · change (((InputSets.empty.extend (k.classify m .first)).extend (k.classify m .second)).get p scope).get? v = _
    rw [first.get?_extend (collected_classify ..), InputSets.Collected.empty.get?_extend (collected_classify ..),
      InputSets.get_empty, SortedMap.get?_empty, Option.none_or]
    cases p with
    | first => rw [offered_classify_other (q := .second) home (by decide), Option.or_none]
    | second => rw [offered_classify_other (q := .first) home (by decide), Option.none_or]
  · rw [InputSets.Collected.empty.get?_extend ht, InputSets.get_empty, SortedMap.get?_empty, Option.none_or]

/-- The first program receives into `buf` and then reads a line into it, and has a command line. The second
program has a callback that fills `data`. -/
def refilled : ProgramPair := .ofRoutines
  [(.first, .argument "argc" false), (.first, .argument "argv" true), (.first, .pointer "buf"),
    (.second, .argument "data" true)]
  [{ name := "main", program := .first, params := [⟨.first, 0⟩, ⟨.first, 1⟩], operations :=
      [{ opcode := .call, operands := [⟨.first, 2⟩], target := some "recv" },
        { opcode := .call, operands := [⟨.first, 2⟩], target := some "fgets" }] },
    { name := "on_recv_callback", program := .second, params := [⟨.second, 0⟩] }]

/-- Alone, the first program has the network record of `buf` in its set of all; with both programs, it has the
local record. -/
theorem classifyAll_restates_refilled :
    (∀ f ∈ refilled.routines, ∀ v ∈ f.params, v.program = f.program) ∧
      ∃ k, InputClassifier.ofConfig {} {} = .ok k ∧
        (∀ p, (k.classifyAll refilled).Restates (k.classify refilled p) p) ∧
        ((k.classify refilled .first).get .first .all).get? ⟨.first, 2⟩
          = some (.ofValue ⟨.first, 2⟩ true "recv" .networkReceive) ∧
        ((k.classifyAll refilled).get .first .all).get? ⟨.first, 2⟩
          = some (.ofValue ⟨.first, 2⟩ false "fgets" .lineRead) ∧
        (k.classifyAll refilled).records .second .network
          = [.ofValue ⟨.second, 0⟩ true "on_recv_callback" .receiveCallback] := by
  have home : ∀ f ∈ refilled.routines, ∀ v ∈ f.params, v.program = f.program := by decide +kernel
  have found : (InputClassifier.ofConfig {} {}).map (fun k =>
      (((k.classify refilled .first).get .first .all).get? ⟨.first, 2⟩,
        ((k.classifyAll refilled).get .first .all).get? ⟨.first, 2⟩,
        (k.classifyAll refilled).records .second .network)) =
      .ok (some (.ofValue ⟨.first, 2⟩ true "recv" .networkReceive),
        some (.ofValue ⟨.first, 2⟩ false "fgets" .lineRead),
        [.ofValue ⟨.second, 0⟩ true "on_recv_callback" .receiveCallback]) := by decide +kernel
  obtain ⟨k, hk, found⟩ := exists_of_map_eq_ok found
  simp only [Prod.mk.injEq] at found
  exact ⟨home, k, hk, (classifyAll_restates k refilled home).1, found.1, found.2.1, found.2.2⟩

/-- The parameters are where they belong, and still the two ways to classify the first program list different
records, and merging what was found into an empty collection does not give it back. -/
theorem classifyAll_differs_refilled :
    (∀ f ∈ refilled.routines, ∀ v ∈ f.params, v.program = f.program) ∧
      ∃ k, InputClassifier.ofConfig {} {} = .ok k ∧
        (k.classifyAll refilled).records .first .all ≠ (k.classify refilled .first).records .first .all ∧
        InputSets.empty.extend (k.classify refilled .first) ≠ k.classify refilled .first := by
  have found : (InputClassifier.ofConfig {} {}).map (fun k =>
      decide ((k.classifyAll refilled).records .first .all = (k.classify refilled .first).records .first .all) ||
        decide (InputSets.empty.extend (k.classify refilled .first) = k.classify refilled .first)) =
      .ok false := by decide +kernel
  obtain ⟨k, hk, found⟩ := exists_of_map_eq_ok found
  rw [Bool.or_eq_false_iff, decide_eq_false_iff_not, decide_eq_false_iff_not] at found
  exact ⟨by decide +kernel, k, hk, found⟩

end InputClassifier

end PeerTaint
