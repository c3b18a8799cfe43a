import PeerTaint.Order.Key

/-!
Finite sets that list their elements in ascending order.

Two sets with the same elements are equal (`SortedSet.ext`), so equality of sets is equality of
what they contain, and listing a set gives one fixed order.
-/

namespace PeerTaint

/-- A finite set, kept as the ascending list of its elements. -/
structure SortedSet (κ : Type) [Key κ] where
  elems : List κ
  sorted : elems.Pairwise fun a b => Key.before a b = true
  deriving DecidableEq

namespace SortedSet

variable {κ : Type} [Key κ] [DecidableEq κ]

/-- Puts `k` at its place in an ascending list, unless it is there already. -/
def place (k : κ) : List κ → List κ
  | [] => [k]
  | a :: as => if k = a then a :: as else if Key.before k a then k :: a :: as else a :: place k as

theorem mem_place {k x : κ} {as : List κ} : x ∈ place k as ↔ x = k ∨ x ∈ as := by
  induction as with
  | nil => simp [place]
  | cons a as ih =>
    simp only [place]
    split
    · next h => subst h; simp
    · split
      · simp
      · simp only [List.mem_cons, ih]; grind

theorem place_sorted {k : κ} {as : List κ} (h : as.Pairwise fun a b => Key.before a b = true) :
    (place k as).Pairwise fun a b => Key.before a b = true := by
  induction as with
  | nil => simp [place]
  | cons a as ih =>
    obtain ⟨head, tail⟩ := List.pairwise_cons.1 h
    simp only [place]
    split
    · exact h
    · next hne =>
      split
      · next hlt =>
        refine List.pairwise_cons.2 ⟨fun x hx => ?_, h⟩
        rcases List.mem_cons.1 hx with rfl | hx
        · exact hlt
        · exact Key.trans hlt (head x hx)
      · next hlt =>
        refine List.pairwise_cons.2 ⟨fun x hx => ?_, ih tail⟩
        rcases mem_place.1 hx with rfl | hx
        · exact Key.before_of_not hne (by simpa using hlt)
        · exact head x hx

instance : Membership κ (SortedSet κ) := ⟨fun s k => k ∈ s.elems⟩

instance (k : κ) (s : SortedSet κ) : Decidable (k ∈ s) :=
  inferInstanceAs (Decidable (k ∈ s.elems))

omit [DecidableEq κ] in
theorem mem_def {k : κ} {s : SortedSet κ} : k ∈ s ↔ k ∈ s.elems := Iff.rfl

/-- The set without elements. -/
def empty : SortedSet κ := ⟨[], .nil⟩

instance : EmptyCollection (SortedSet κ) := ⟨empty⟩

instance : Inhabited (SortedSet κ) := ⟨empty⟩

/-- The set with one more element. -/
def insert (s : SortedSet κ) (k : κ) : SortedSet κ := ⟨place k s.elems, place_sorted s.sorted⟩

/-- The set of the elements of a list. -/
def ofList (ks : List κ) : SortedSet κ := ks.foldl insert empty

/-- The set of all elements of either set. -/
def union (s t : SortedSet κ) : SortedSet κ := t.elems.foldl insert s

/-- The elements that satisfy a test. -/
def filter (p : κ → Bool) (s : SortedSet κ) : SortedSet κ := ⟨s.elems.filter p, s.sorted.filter p⟩

/-- The number of elements. -/
def size (s : SortedSet κ) : Nat := s.elems.length

/-- Whether there is no element. -/
def isEmpty (s : SortedSet κ) : Bool := s.elems.isEmpty

/-- Whether the two sets share an element. -/
def meets (s t : SortedSet κ) : Bool := s.elems.any fun k => decide (k ∈ t)

omit [DecidableEq κ] in
@[simp]
theorem not_mem_empty {k : κ} : ¬ k ∈ (empty : SortedSet κ) := List.not_mem_nil

@[simp]
theorem mem_insert {s : SortedSet κ} {k x : κ} : x ∈ s.insert k ↔ x = k ∨ x ∈ s := mem_place

theorem mem_foldl_insert {ks : List κ} {s : SortedSet κ} {x : κ} :
    x ∈ ks.foldl insert s ↔ x ∈ ks ∨ x ∈ s := by
  induction ks generalizing s with
  | nil => simp
  | cons k ks ih => simp only [List.foldl_cons, ih, mem_insert, List.mem_cons]; grind

@[simp]
theorem mem_ofList {ks : List κ} {x : κ} : x ∈ ofList ks ↔ x ∈ ks := by
  simp [ofList, mem_foldl_insert]

@[simp]
theorem mem_union {s t : SortedSet κ} {x : κ} : x ∈ s.union t ↔ x ∈ s ∨ x ∈ t := by
  simp only [union, mem_foldl_insert, ← mem_def]; grind

omit [DecidableEq κ] in
@[simp]
theorem mem_filter {s : SortedSet κ} {p : κ → Bool} {x : κ} :
    x ∈ s.filter p ↔ x ∈ s ∧ p x = true := List.mem_filter

theorem meets_iff {s t : SortedSet κ} : s.meets t = true ↔ ∃ k, k ∈ s ∧ k ∈ t := by
  simp [meets, mem_def]

omit [DecidableEq κ] in
/-- The elements are listed without repetition. -/
theorem nodup_elems (s : SortedSet κ) : s.elems.Nodup :=
  s.sorted.imp fun h => Key.ne_of_before h

omit [DecidableEq κ] in
/-- Sets with the same elements are equal. -/
theorem ext {s t : SortedSet κ} (h : ∀ x, x ∈ s ↔ x ∈ t) : s = t := by
  cases s with
  | mk as ha => cases t with
    | mk bs hb =>
      have : as = bs := Key.eq_of_mem_iff id ha hb h
      subst this; rfl

/-- A set is made of its own elements. -/
theorem ofList_elems (s : SortedSet κ) : ofList s.elems = s := ext fun _ => mem_ofList

end SortedSet

end PeerTaint
