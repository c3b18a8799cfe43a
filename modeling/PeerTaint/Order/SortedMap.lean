import PeerTaint.Order.Key

/-!
Finite maps that list their keys in ascending order.

A map is looked at through `get?`: `get?_insert`, `get?_erase` and `get?_filterValues` say what each
operation does to it, and maps with the same look-ups are equal (`SortedMap.ext`).
-/

namespace PeerTaint

/-- A finite map, kept as the list of its entries in ascending order of their keys. -/
structure SortedMap (κ α : Type) [Key κ] where
  entries : List (κ × α)
  sorted : entries.Pairwise fun a b => Key.before a.1 b.1 = true
  deriving DecidableEq

namespace SortedMap

variable {κ α : Type} [Key κ] [DecidableEq κ]

/-- The value of the first entry with key `k`. -/
def find (k : κ) : List (κ × α) → Option α
  | [] => none
  | e :: es => if k = e.1 then some e.2 else find k es

/-- Puts an entry at its place in an ascending list, replacing the value of an equal key. -/
def place (k : κ) (v : α) : List (κ × α) → List (κ × α)
  | [] => [(k, v)]
  | e :: es =>
    if k = e.1 then (k, v) :: es
    else if Key.before k e.1 then (k, v) :: e :: es
    else e :: place k v es

theorem find_place {k x : κ} {v : α} {es : List (κ × α)} :
    find x (place k v es) = if x = k then some v else find x es := by
  induction es with
  | nil => simp [place, find]
  | cons e es ih =>
    by_cases hk : k = e.1
    · simp only [place, if_pos hk, find]
      by_cases hx : x = k <;> simp [hx, ← hk]
    · by_cases hlt : Key.before k e.1 = true
      · simp [place, hk, hlt, find]
      · simp only [place, if_neg hk, if_neg hlt, find, ih]
        by_cases hx : x = e.1
        · simp [hx, Ne.symm hk]
        · simp [hx]

omit [Key κ] in
theorem mem_of_find {k : κ} {v : α} {es : List (κ × α)} (h : find k es = some v) :
    (k, v) ∈ es := by
  induction es with
  | nil => simp [find] at h
  | cons e es ih =>
    by_cases hk : k = e.1
    · simp only [find, if_pos hk, Option.some.injEq] at h
      subst h hk
      exact List.mem_cons_self
    · simp only [find, if_neg hk] at h
      exact List.mem_cons_of_mem _ (ih h)

theorem mem_place {k : κ} {v : α} {e : κ × α} {es : List (κ × α)} (h : e ∈ place k v es) :
    e = (k, v) ∨ e ∈ es := by
  induction es with
  | nil => simpa [place] using h
  | cons d es ih =>
    simp only [place] at h
    split at h
    · rcases List.mem_cons.1 h with h | h
      · exact .inl h
      · exact .inr (List.mem_cons_of_mem _ h)
    · split at h
      · exact List.mem_cons.1 h
      · rcases List.mem_cons.1 h with rfl | h
        · exact .inr List.mem_cons_self
        · exact (ih h).imp id (List.mem_cons_of_mem _)

theorem place_sorted {k : κ} {v : α} {es : List (κ × α)}
    (h : es.Pairwise fun a b => Key.before a.1 b.1 = true) :
    (place k v es).Pairwise fun a b => Key.before a.1 b.1 = true := by
  induction es with
  | nil => simp [place]
  | cons e es ih =>
    obtain ⟨head, tail⟩ := List.pairwise_cons.1 h
    simp only [place]
    split
    · next hk => exact List.pairwise_cons.2 ⟨fun x hx => hk ▸ head x hx, tail⟩
    · next hk =>
      split
      · next hlt =>
        refine List.pairwise_cons.2 ⟨fun x hx => ?_, h⟩
        rcases List.mem_cons.1 hx with rfl | hx
        · exact hlt
        · exact Key.trans hlt (head x hx)
      · next hlt =>
        refine List.pairwise_cons.2 ⟨fun x hx => ?_, ih tail⟩
        rcases mem_place hx with rfl | hx
        · exact Key.before_of_not hk (by simpa using hlt)
        · exact head x hx

/-- The map without entries. -/
def empty : SortedMap κ α := ⟨[], .nil⟩

instance : EmptyCollection (SortedMap κ α) := ⟨empty⟩

instance : Inhabited (SortedMap κ α) := ⟨empty⟩

/-- The value of a key. -/
def get? (m : SortedMap κ α) (k : κ) : Option α := find k m.entries

/-- Whether a key has a value. -/
def contains (m : SortedMap κ α) (k : κ) : Bool := (m.get? k).isSome

/-- Gives a key its value, replacing an earlier one. -/
def insert (m : SortedMap κ α) (k : κ) (v : α) : SortedMap κ α :=
  ⟨place k v m.entries, place_sorted m.sorted⟩

/-- Gives a key its value, unless it has one. -/
def insertIfNew (m : SortedMap κ α) (k : κ) (v : α) : SortedMap κ α :=
  if m.contains k then m else m.insert k v

/-- Takes a key out. -/
def erase (m : SortedMap κ α) (k : κ) : SortedMap κ α :=
  ⟨m.entries.filter fun e => decide (e.1 ≠ k), m.sorted.filter _⟩

/-- Keeps the entries whose value satisfies a test. -/
def filterValues (m : SortedMap κ α) (p : α → Bool) : SortedMap κ α :=
  ⟨m.entries.filter fun e => p e.2, m.sorted.filter _⟩

/-- Applies a function to every value. -/
def mapValues {β : Type} (f : α → β) (m : SortedMap κ α) : SortedMap κ β :=
  ⟨m.entries.map fun e => (e.1, f e.2), List.pairwise_map.2 m.sorted⟩

/-- The keys, ascending. -/
def keys (m : SortedMap κ α) : List κ := m.entries.map (·.1)

/-- The values, in ascending order of their keys. -/
def values (m : SortedMap κ α) : List α := m.entries.map (·.2)

/-- The number of entries. -/
def size (m : SortedMap κ α) : Nat := m.entries.length

/-- Whether there is no entry. -/
def isEmpty (m : SortedMap κ α) : Bool := m.entries.isEmpty

/-- The map of a list of entries, in which a later entry replaces an earlier one of the same key. -/
def ofList (es : List (κ × α)) : SortedMap κ α := es.foldl (fun m e => m.insert e.1 e.2) empty

@[simp]
theorem get?_empty {k : κ} : (empty : SortedMap κ α).get? k = none := rfl

@[simp]
theorem get?_insert {m : SortedMap κ α} {k x : κ} {v : α} :
    (m.insert k v).get? x = if x = k then some v else m.get? x := find_place

omit [Key κ] in
theorem find_filter_ne {k x : κ} {es : List (κ × α)} :
    find x (es.filter fun e => decide (e.1 ≠ k)) = if x = k then none else find x es := by
  induction es with
  | nil => simp [find]
  | cons e es ih =>
    by_cases he : e.1 = k <;> by_cases hx : x = e.1 <;> simp_all [find]

@[simp]
theorem get?_erase {m : SortedMap κ α} {k x : κ} :
    (m.erase k).get? x = if x = k then none else m.get? x := find_filter_ne

/-- A key that is in a sorted list of entries has exactly the value of its entry. -/
theorem find_of_mem {k : κ} {v : α} {es : List (κ × α)}
    (h : es.Pairwise fun a b => Key.before a.1 b.1 = true) (hin : (k, v) ∈ es) :
    find k es = some v := by
  induction es with
  | nil => cases hin
  | cons e es ih =>
    obtain ⟨head, tail⟩ := List.pairwise_cons.1 h
    rcases List.mem_cons.1 hin with rfl | hin
    · simp [find]
    · simp [find, Ne.symm (Key.ne_of_before (head _ hin)), ih tail hin]

theorem get?_eq_some_iff {m : SortedMap κ α} {k : κ} {v : α} :
    m.get? k = some v ↔ (k, v) ∈ m.entries :=
  ⟨mem_of_find, find_of_mem m.sorted⟩

@[simp]
theorem get?_filterValues {m : SortedMap κ α} {p : α → Bool} {x : κ} :
    (m.filterValues p).get? x = (m.get? x).filter p := by
  apply Option.ext
  intro v
  simp [get?_eq_some_iff, filterValues, Option.filter_eq_some_iff]

@[simp]
theorem get?_mapValues {β : Type} {m : SortedMap κ α} {f : α → β} {x : κ} :
    (m.mapValues f).get? x = (m.get? x).map f := by
  apply Option.ext
  intro v
  simp only [get?_eq_some_iff, mapValues, Option.map_eq_some_iff, List.mem_map, Prod.mk.injEq]
  constructor
  · rintro ⟨⟨k, w⟩, hw, rfl, hv⟩
    exact ⟨w, hw, hv⟩
  · rintro ⟨w, hw, hv⟩
    exact ⟨(x, w), hw, rfl, hv⟩

theorem mem_keys_iff {m : SortedMap κ α} {k : κ} : k ∈ m.keys ↔ (m.get? k).isSome := by
  simp [keys, Option.isSome_iff_exists, get?_eq_some_iff]

omit [DecidableEq κ] in
/-- The keys are listed without repetition. -/
theorem nodup_keys (m : SortedMap κ α) : m.keys.Nodup :=
  (List.pairwise_map.2 m.sorted).imp fun h => Key.ne_of_before h

/-- Maps with the same look-ups are equal. -/
theorem ext {m n : SortedMap κ α} (h : ∀ k, m.get? k = n.get? k) : m = n := by
  have same : m.entries = n.entries := Key.eq_of_mem_iff (·.1) m.sorted n.sorted fun e => by
    rw [← get?_eq_some_iff, ← get?_eq_some_iff, h]
  cases m; cases n; cases same; rfl

theorem get?_foldl_insert_of_not_mem {es : List (κ × α)} {m : SortedMap κ α} {k : κ}
    (h : k ∉ es.map (·.1)) : (es.foldl (fun m e => m.insert e.1 e.2) m).get? k = m.get? k := by
  induction es generalizing m with
  | nil => rfl
  | cons e es ih =>
    simp only [List.map_cons, List.mem_cons, not_or] at h
    rw [List.foldl_cons, ih h.2, get?_insert, if_neg h.1]

theorem get?_foldl_insert_of_mem {es : List (κ × α)} (distinct : (es.map (·.1)).Nodup) {m : SortedMap κ α}
    {k : κ} {v : α} (h : (k, v) ∈ es) : (es.foldl (fun m e => m.insert e.1 e.2) m).get? k = some v := by
  induction es generalizing m with
  | nil => cases h
  | cons e es ih =>
    obtain ⟨first, distinct⟩ := List.nodup_cons.1 distinct
    rw [List.foldl_cons]
    rcases List.mem_cons.1 h with rfl | h
    · rw [get?_foldl_insert_of_not_mem first, get?_insert, if_pos rfl]
    · exact ih distinct h

/-- A map made of entries with different keys has exactly these entries. -/
theorem get?_ofList_eq_some_iff {es : List (κ × α)} (distinct : (es.map (·.1)).Nodup) {k : κ} {v : α} :
    (ofList es).get? k = some v ↔ (k, v) ∈ es := by
  constructor
  · intro h
    by_cases hk : k ∈ es.map (·.1)
    · obtain ⟨⟨k, w⟩, he, rfl⟩ := List.mem_map.1 hk
      rw [ofList, get?_foldl_insert_of_mem distinct he] at h
      cases h
      exact he
    · rw [ofList, get?_foldl_insert_of_not_mem hk] at h
      cases h
  · exact get?_foldl_insert_of_mem distinct

/-- A map is made of its own entries. -/
theorem ofList_entries (m : SortedMap κ α) : ofList m.entries = m := by
  apply ext
  intro k
  apply Option.ext
  intro v
  rw [get?_ofList_eq_some_iff m.nodup_keys, get?_eq_some_iff]

end SortedMap

end PeerTaint
