import PeerTaint.Proofs.Records

/-!
Collections after any changes.

A collection is changed by inserting a record and by merging another collection into it, which inserts the
records of that collection one after the other. So any changes come down to a list of insertions
(`insertions`), and what a collection then holds can be read off that list: each of its sets has for each value
the first of the records that belong there (`get?_after`).
-/

namespace PeerTaint

/-- What tells records apart: the program, the origin and the value. -/
def InputRecord.place (r : InputRecord) : Program × Origin × Value := (r.program, r.origin, r.value)

namespace InputSets

variable {s : InputSets} {r r' : InputRecord} {p : Program} {scope : InputScope} {v : Value}

theorem origin_eq_iff : r.origin = r'.origin ↔ scopeOf r = scopeOf r' := by
  unfold InputRecord.origin scopeOf
  cases r.isNetwork <;> cases r'.isNetwork <;> simp

theorem scopeOf_ne_all (r : InputRecord) : scopeOf r ≠ .all := by
  unfold scopeOf
  split <;> simp

theorem files_place_iff : files r.program (scopeOf r) r.value r' = true ↔ r'.place = r.place := by
  rw [files_iff, InputRecord.place, InputRecord.place, Prod.mk.injEq, Prod.mk.injEq, origin_eq_iff]
  have single := scopeOf_ne_all r
  constructor
  · rintro ⟨hp, hv, hs⟩
    exact ⟨hp, (hs.resolve_left single).symm, hv⟩
  · rintro ⟨hp, hs, hv⟩
    exact ⟨hp, hv, .inr hs.symm⟩

/-! ## Changes -/

/-- A change of a collection. -/
inductive Change where
  | insert (r : InputRecord)
  | extend (t : InputSets)

/-- Makes a change. -/
def change (s : InputSets) : Change → InputSets
  | .insert r => (s.insert r).2
  | .extend t => s.extend t

/-- The records that a change inserts, in order. -/
def Change.insertions : Change → List InputRecord
  | .insert r => [r]
  | .extend t => t.toList

/-- The collection after some changes, from the empty one. -/
def after (cs : List Change) : InputSets := cs.foldl change .empty

/-- The records that some changes insert, in order. -/
def insertions (cs : List Change) : List InputRecord := cs.flatMap Change.insertions

theorem change_eq (s : InputSets) (c : Change) : s.change c = s.insertAll c.insertions := by
  cases c <;> rfl

theorem insertAll_append (s : InputSets) (rs rs' : List InputRecord) :
    s.insertAll (rs ++ rs') = (s.insertAll rs).insertAll rs' := List.foldl_append

theorem foldl_change_eq (s : InputSets) (cs : List Change) :
    cs.foldl change s = s.insertAll (insertions cs) := by
  induction cs generalizing s with
  | nil => rfl
  | cons c cs ih =>
    have split : insertions (c :: cs) = c.insertions ++ insertions cs := List.flatMap_cons
    rw [List.foldl_cons, ih, change_eq, split, insertAll_append]

theorem collected_after (cs : List Change) : (after cs).Collected := by
  rw [after, foldl_change_eq]
  exact Collected.empty.insertAll _

/-- Each set has for each value the first record that was inserted for it. -/
theorem get?_after (cs : List Change) :
    ((after cs).get p scope).get? v = (insertions cs).find? (files p scope v) := by
  rw [after, foldl_change_eq, Collected.empty.get?_insertAll, get_empty, SortedMap.get?_empty, Option.none_or]

/-! ## What is listed -/

theorem Collected.files_of_mem_records (h : s.Collected) (hr : r ∈ s.records p scope) :
    r.program = p ∧ (scope = .all ∨ scope = scopeOf r) := by
  obtain ⟨hp, -, hs⟩ := files_iff.1 (h.files (h.mem_records_iff.1 hr))
  exact ⟨hp, hs⟩

theorem Collected.program_of_mem_recordsOf (h : s.Collected) (hr : r ∈ s.recordsOf p) : r.program = p := by
  rcases List.mem_append.1 hr with hr | hr
  · exact (h.files_of_mem_records hr).1
  · exact (h.files_of_mem_records hr).1

/-- The sets of the origins hold records under their own programs, origins and values. -/
theorem Collected.get?_of_mem_records (h : s.Collected) (single : scope ≠ .all) (hr : r ∈ s.records p scope) :
    (s.get r.program (scopeOf r)).get? r.value = some r := by
  obtain ⟨rfl, hs⟩ := h.files_of_mem_records hr
  rw [← hs.resolve_left single]
  exact h.mem_records_iff.1 hr

/-- What is listed is what the set of its scope holds under the record's own value. -/
theorem Collected.mem_toList_iff (h : s.Collected) :
    r ∈ s.toList ↔ (s.get r.program (scopeOf r)).get? r.value = some r := by
  rw [InputSets.mem_toList_iff]
  change (∃ p, r ∈ s.records p .local ∨ r ∈ s.records p .network) ↔ _
  constructor
  · rintro ⟨p, hr | hr⟩
    · exact h.get?_of_mem_records (by decide) hr
    · exact h.get?_of_mem_records (by decide) hr
  · intro held
    refine ⟨r.program, ?_⟩
    have hr := h.mem_records_iff.2 held
    unfold scopeOf at hr
    split at hr
    · exact .inr hr
    · exact .inl hr

/-- A set lists no value twice. -/
theorem Collected.pairwise_records (h : s.Collected) :
    (s.records p scope).Pairwise fun r r' => r.place ≠ r'.place := by
  have own : ∀ e ∈ (s.get p scope).entries, e.2.value = e.1 := by
    intro e he
    exact (files_iff.1 (h.files (SortedMap.get?_eq_some_iff.2 he))).2.1
  refine List.pairwise_map.2 ((s.get p scope).sorted.imp_of_mem ?_)
  intro e e' he he' before same
  have values : e.2.value = e'.2.value := congrArg (·.2.2) same
  rw [own e he, own e' he'] at values
  exact Key.ne_of_before before values

/-- No two listed records have the program, the origin and the value in common. -/
theorem Collected.pairwise_toList (h : s.Collected) : s.toList.Pairwise fun r r' => r.place ≠ r'.place := by
  have halves : ∀ p, (s.recordsOf p).Pairwise fun r r' => r.place ≠ r'.place := by
    intro p
    refine List.pairwise_append.2 ⟨h.pairwise_records, h.pairwise_records, fun r hr r' hr' same => ?_⟩
    have scopes := origin_eq_iff.1 (congrArg (·.2.1) same)
    rw [← (h.files_of_mem_records hr).2.resolve_left (by decide),
      ← (h.files_of_mem_records hr').2.resolve_left (by decide)] at scopes
    cases scopes
  have apart : ∀ r ∈ s.recordsOf .first, ∀ r' ∈ s.recordsOf .second, r.place ≠ r'.place := by
    intro r hr r' hr' same
    have programs : r.program = r'.program := congrArg (·.1) same
    rw [h.program_of_mem_recordsOf hr, h.program_of_mem_recordsOf hr'] at programs
    cases programs
  refine List.pairwise_flatMap.2 ⟨fun p _ => halves p, List.pairwise_cons.2 ⟨fun q hq => ?_, ?_⟩⟩
  · rw [List.mem_singleton.1 hq]
    exact apart
  · exact List.pairwise_singleton _ _

/-! ## What changes leave -/

/-- A collection holds what a list of insertions leaves. Every record is kept under its own value, in the sets of
its own program and origin. Of the records for a value, each set has the first one that belongs there; so the
set of all has the values of the other two, and for each of them the record of one of these. Inserting is
refused, without effect, exactly for what was inserted before, and what was inserted is listed once. -/
structure Keeps (s : InputSets) (rs : List InputRecord) : Prop where
  union : ∀ p v, v ∈ (s.get p .all).keys ↔ v ∈ (s.get p .local).keys ∨ v ∈ (s.get p .network).keys
  own : ∀ p scope v r, (s.get p scope).get? v = some r → r.value = v ∧ r.program = p
  localOrigin : ∀ p v r, (s.get p .local).get? v = some r → r.isNetwork = false
  networkOrigin : ∀ p v r, (s.get p .network).get? v = some r → r.isNetwork = true
  first : ∀ p scope v, (s.get p scope).get? v = rs.find? (files p scope v)
  either : ∀ p v r, (s.get p .all).get? v = some r →
    (s.get p .local).get? v = some r ∨ (s.get p .network).get? v = some r
  added : ∀ r, (s.insert r).1 = true ↔ r.place ∉ rs.map InputRecord.place
  refused : ∀ r, (s.insert r).1 = false → (s.insert r).2 = s
  once : (s.toList.map InputRecord.place).Nodup
  listed : ∀ k, k ∈ s.toList.map InputRecord.place ↔ k ∈ rs.map InputRecord.place

theorem isNetwork_of_scopeOf (h : scope = .all ∨ scope = scopeOf r) :
    (scope = .local → r.isNetwork = false) ∧ (scope = .network → r.isNetwork = true) := by
  cases hr : r.isNetwork <;> rcases h with rfl | rfl <;> simp [scopeOf, hr]

theorem insert_added_iff (s : InputSets) (r : InputRecord) :
    (s.insert r).1 = true ↔ (s.get r.program (scopeOf r)).get? r.value = none := by
  unfold insert
  split
  · next seen => simpa [SortedMap.contains, Option.isSome_iff_ne_none] using seen
  · next free => simpa [SortedMap.contains] using free

theorem insert_of_refused (h : (s.insert r).1 = false) : (s.insert r).2 = s := by
  unfold insert at h ⊢
  split at h
  · next seen => rw [if_pos seen]
  · cases h

theorem Collected.mem_keys_all_iff (h : s.Collected) :
    v ∈ (s.get p .all).keys ↔ v ∈ (s.get p .local).keys ∨ v ∈ (s.get p .network).keys := by
  simp only [SortedMap.mem_keys_iff]
  constructor
  · intro held
    obtain ⟨r, hr⟩ := Option.isSome_iff_exists.1 held
    rcases h.get?_all_cases hr with own | own
    · exact .inl (by rw [own]; rfl)
    · exact .inr (by rw [own]; rfl)
  · rintro (held | held)
    · exact h.covered p .local v held
    · exact h.covered p .network v held

/-- What was inserted is listed, and nothing else. -/
theorem mem_places_after_iff (cs : List Change) {k : Program × Origin × Value} :
    k ∈ (after cs).toList.map InputRecord.place ↔ k ∈ (insertions cs).map InputRecord.place := by
  have collected := collected_after cs
  rw [List.mem_map, List.mem_map]
  constructor
  · rintro ⟨r, hr, rfl⟩
    rw [collected.mem_toList_iff, get?_after] at hr
    exact ⟨r, List.mem_of_find?_eq_some hr, rfl⟩
  · rintro ⟨r, hr, rfl⟩
    -- of the records with this place the first one is kept
    obtain ⟨r', found⟩ := Option.isSome_iff_exists.1
      (List.find?_isSome.2 ⟨r, hr, files_place_iff.2 (rfl : r.place = r.place)⟩)
    have same : r'.place = r.place := files_place_iff.1 (List.find?_some found)
    obtain ⟨hp, ho, hv⟩ : r'.program = r.program ∧ r'.origin = r.origin ∧ r'.value = r.value := by
      simpa [InputRecord.place] using same
    refine ⟨r', collected.mem_toList_iff.2 ?_, same⟩
    rw [get?_after, hp, hv, origin_eq_iff.1 ho]
    exact found

/-- Whatever records are inserted and whatever collections are merged into an empty collection, in whatever
order, it holds the first of the records that were inserted. -/
theorem after_keeps_first (cs : List Change) : (after cs).Keeps (insertions cs) := by
  have collected := collected_after cs
  have filed : ∀ {p scope v r}, ((after cs).get p scope).get? v = some r →
      r.program = p ∧ r.value = v ∧ (scope = .all ∨ scope = scopeOf r) := fun hr => files_iff.1 (collected.files hr)
  refine {
    union := fun p v => collected.mem_keys_all_iff
    own := fun p scope v r hr => ⟨(filed hr).2.1, (filed hr).1⟩
    localOrigin := fun p v r hr => (isNetwork_of_scopeOf (filed hr).2.2).1 rfl
    networkOrigin := fun p v r hr => (isNetwork_of_scopeOf (filed hr).2.2).2 rfl
    first := fun p scope v => get?_after cs
    either := fun p v r hr => collected.get?_all_cases hr
    added := fun r => ?_
    refused := fun r => insert_of_refused
    once := List.pairwise_map.2 collected.pairwise_toList
    listed := fun k => mem_places_after_iff cs }
  rw [insert_added_iff, get?_after, List.find?_eq_none]
  simp only [files_place_iff, List.mem_map, not_exists, not_and]

end InputSets

end PeerTaint
