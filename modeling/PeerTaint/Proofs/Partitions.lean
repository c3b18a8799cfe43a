import Mathlib.Data.List.Induction
import PeerTaint.Proofs.AliasClasses

/-!
Partitions as oracles.

A partition keeps its members twice: as the lists of its classes, and as an index from values to class
numbers. `Exact` says that both tell the same, that every class is a non-empty ascending list under its own
number, and that halving such a list finds exactly what it has. The partitions of lists and of points-to
facts are exact.

Lists are taken in one by one, and of each list only what no earlier one has (`takeIn`). So a value is
numbered at the first list that has it. `firstList` counts these lists, the index counts the classes they
gave; the two run apart where a list gives no class, but they always tell the same values apart (`Agree`).
-/

namespace PeerTaint

/-! ## Halving -/

section Bisect

variable {κ : Type} [Key κ] [DecidableEq κ] {k a : κ} {as : List κ} {m : Nat}

omit [Key κ] [DecidableEq κ] in
theorem mem_iff_of_getElem? (h : as[m]? = some a) : k ∈ as ↔ k ∈ as.take m ∨ k = a ∨ k ∈ as.drop (m + 1) := by
  rw [← List.mem_cons, ← List.mem_append, take_append_cons_drop h]

/-- Halving an ascending list finds exactly what it has. -/
theorem bisect_iff (sorted : as.Pairwise fun a b => Key.before a b = true) : bisect k as = true ↔ k ∈ as := by
  fun_induction bisect k as with
  | case1 as middle =>
    -- only the empty list has nothing in its middle
    have : as.length ≤ as.length / 2 := List.getElem?_eq_none_iff.1 middle
    have : as = [] := List.eq_nil_of_length_eq_zero (by omega)
    simp [this]
  | case2 as middle => simp [List.mem_of_getElem? middle]
  | case3 as a middle ne before ih =>
    rw [← take_append_cons_drop middle, List.pairwise_append, List.pairwise_cons] at sorted
    obtain ⟨lower, ⟨above, -⟩, -⟩ := sorted
    have notAbove : k ∉ as.drop (as.length / 2 + 1) := by
      intro hk
      have := Key.asymm (above k hk)
      rw [before] at this
      cases this
    rw [ih lower, mem_iff_of_getElem? middle]
    simp [ne, notAbove]
  | case4 as a middle ne notBefore ih =>
    rw [← take_append_cons_drop middle, List.pairwise_append, List.pairwise_cons] at sorted
    obtain ⟨-, ⟨-, upper⟩, below⟩ := sorted
    have notBelow : k ∉ as.take (as.length / 2) := by
      intro hk
      exact notBefore (below k hk a List.mem_cons_self)
    rw [ih upper, mem_iff_of_getElem? middle]
    simp [ne, notBelow]

end Bisect

namespace AliasPartition

/-! ## Exact partitions -/

/-- The oracle puts a value into the class that lists it. Classes carry their positions as keys, so keys are
below the number of classes and fit into 32 bits if that does. Members are ascending, are found by halving, and
are in no other class. -/
structure Exact (part : AliasPartition) : Prop where
  answers : ∀ v k, part.oracle.key? v = some k ↔ ∃ vs, part.oracle.members? k = some vs ∧ v ∈ vs
  numbered : ∀ i c, part.class? i = some c → c.key = i
  bounded : ∀ v k, part.oracle.key? v = some k → k < part.classes.length
  inhabited : ∀ c ∈ part.classes, c.members ≠ []
  ascending : ∀ c ∈ part.classes, c.members.Pairwise fun a b => Key.before a b = true
  apart : part.classes.Pairwise fun c d => ∀ v ∈ c.members, v ∉ d.members
  searched : ∀ c ∈ part.classes, ∀ v, c.contains v = true ↔ v ∈ c.members

variable {part : AliasPartition}

theorem Coherent.lt_of_get? (h : part.Coherent) {v : Value} {k : AliasKey} (hv : part.index.get? v = some k) :
    k < part.classes.length := by
  obtain ⟨c, hc, -⟩ := (h.index v k).1 hv
  exact (List.getElem?_eq_some_iff.1 hc).1

theorem Coherent.exact (h : part.Coherent) (inhabited : ∀ c ∈ part.classes, c.members ≠ []) : part.Exact where
  answers v k := by
    have index := h.index v k
    simp only [oracle, Option.map_eq_some_iff]
    rw [index]
    constructor
    · rintro ⟨c, hc, hv⟩
      exact ⟨c.members, ⟨c, hc, rfl⟩, hv⟩
    · rintro ⟨vs, ⟨c, hc, rfl⟩, hv⟩
      exact ⟨c, hc, hv⟩
  numbered := h.key
  bounded v k := h.lt_of_get?
  inhabited := inhabited
  ascending := h.sorted
  apart := by
    rw [List.pairwise_iff_getElem]
    intro i j hi hj hij v hv hv'
    -- the index has one number for a value
    have at_i := (h.index v i).2 ⟨_, List.getElem?_eq_getElem hi, hv⟩
    have at_j := (h.index v j).2 ⟨_, List.getElem?_eq_getElem hj, hv'⟩
    have : i = j := Option.some.inj (at_i.symm.trans at_j)
    omega
  searched c hc v := bisect_iff (h.sorted c hc)

/-! ## Lists -/

/-- Takes in what is new of a list, as a class if there is anything. -/
def takeIn (part : AliasPartition) (vs : List Value) : AliasPartition :=
  let fresh := vs.filter fun v => !part.index.contains v
  if fresh.isEmpty then part else part.push (.ofList fresh) []

theorem ofLists_append (lists : List (List Value)) (vs : List Value) :
    ofLists (lists ++ [vs]) = (ofLists lists).takeIn vs := List.foldl_append

theorem mem_fresh_iff {vs : List Value} {v : Value} :
    v ∈ vs.filter (fun v => !part.index.contains v) ↔ v ∈ vs ∧ part.index.get? v = none := by
  simp [SortedMap.contains]

/-- A list gives the next number to those of its values that have none. -/
theorem get?_index_takeIn (part : AliasPartition) (vs : List Value) (v : Value) :
    (part.takeIn vs).index.get? v =
      (part.index.get? v).or (if v ∈ vs then some part.classes.length else none) := by
  have fresh : v ∈ vs.filter (fun v => !part.index.contains v) ↔ v ∈ vs ∧ part.index.get? v = none :=
    mem_fresh_iff
  unfold takeIn
  dsimp only
  split
  · next nothing =>
    rw [List.isEmpty_iff.1 nothing] at fresh
    cases hv : part.index.get? v with
    | some k => rfl
    | none =>
      have : v ∉ vs := fun mem => List.not_mem_nil (fresh.2 ⟨mem, hv⟩)
      simp [this]
  · rw [get?_index_push]
    simp only [SortedSet.mem_ofList, fresh]
    cases part.index.get? v <;> simp

theorem Coherent.takeIn (h : part.Coherent) (vs : List Value) : (part.takeIn vs).Coherent := by
  unfold AliasPartition.takeIn
  dsimp only
  split
  · exact h
  · refine h.push fun v hv => ?_
    exact (mem_fresh_iff.1 (SortedSet.mem_ofList.1 hv)).2

theorem inhabited_takeIn (h : ∀ c ∈ part.classes, c.members ≠ []) (vs : List Value) :
    ∀ c ∈ (part.takeIn vs).classes, c.members ≠ [] := by
  unfold takeIn
  dsimp only
  split
  · exact h
  · next something =>
    intro c hc
    rcases List.mem_append.1 hc with hc | hc
    · exact h c hc
    · rw [List.mem_singleton.1 hc]
      obtain ⟨v, hv⟩ := List.exists_mem_of_ne_nil _ fun nothing => something (List.isEmpty_iff.2 nothing)
      exact List.ne_nil_of_mem (SortedSet.mem_ofList.2 hv)

theorem coherent_ofLists (lists : List (List Value)) : (ofLists lists).Coherent := by
  induction lists using List.reverseRecOn with
  | nil => exact coherent_empty
  | append_singleton lists vs ih =>
    rw [ofLists_append]
    exact ih.takeIn vs

theorem inhabited_ofLists (lists : List (List Value)) : ∀ c ∈ (ofLists lists).classes, c.members ≠ [] := by
  induction lists using List.reverseRecOn with
  | nil => simp [ofLists]
  | append_singleton lists vs ih =>
    rw [ofLists_append]
    exact inhabited_takeIn ih vs

/-! ## The first list of a value -/

/-- The position of the first list that has a value. -/
def firstList (lists : List (List Value)) (v : Value) : Option Nat := lists.findIdx? fun vs => decide (v ∈ vs)

theorem firstList_append (lists : List (List Value)) (vs : List Value) (v : Value) :
    firstList (lists ++ [vs]) v = (firstList lists v).or (if v ∈ vs then some lists.length else none) := by
  rw [firstList, List.findIdx?_append, ← firstList]
  by_cases hv : v ∈ vs <;> simp [hv]

theorem lt_of_firstList {lists : List (List Value)} {v : Value} {i : Nat} (h : firstList lists v = some i) :
    i < lists.length := (List.findIdx?_eq_some_iff_getElem.1 h).1

theorem firstList_isSome_iff {lists : List (List Value)} {v : Value} :
    (firstList lists v).isSome = true ↔ ∃ vs ∈ lists, v ∈ vs := by
  simp [firstList, List.findIdx?_isSome]

/-- Two numberings number the same values and tell the same ones apart. -/
structure Agree (f g : Value → Option Nat) : Prop where
  none_iff : ∀ v, f v = none ↔ g v = none
  eq_iff : ∀ a b, f a = f b ↔ g a = g b

/-- With a new number for those of some values that have none, two values have the same one exactly when they
had before and, if they had none, both or neither of them got it. -/
theorem eq_next_iff {f : Value → Option Nat} {m : Nat} (new : ∀ v i, f v = some i → i < m) (vs : List Value)
    (a b : Value) : (f a).or (if a ∈ vs then some m else none) = (f b).or (if b ∈ vs then some m else none) ↔
      f a = f b ∧ (f a = none → (a ∈ vs ↔ b ∈ vs)) := by
  cases ha : f a with
  | none =>
    cases hb : f b with
    | none => by_cases hva : a ∈ vs <;> by_cases hvb : b ∈ vs <;> simp [hva, hvb]
    | some j =>
      have : m ≠ j := Nat.ne_of_gt (new b j hb)
      by_cases hva : a ∈ vs <;> simp [hva, this]
  | some i =>
    cases hb : f b with
    | none =>
      have : i ≠ m := Nat.ne_of_lt (new a i ha)
      by_cases hvb : b ∈ vs <;> simp [hvb, this]
    | some j => simp

theorem Agree.next {f g : Value → Option Nat} (h : Agree f g) {m n : Nat} (hf : ∀ v i, f v = some i → i < m)
    (hg : ∀ v i, g v = some i → i < n) (vs : List Value) :
    Agree (fun v => (f v).or (if v ∈ vs then some m else none))
      (fun v => (g v).or (if v ∈ vs then some n else none)) where
  none_iff v := by
    have := h.none_iff v
    by_cases hv : v ∈ vs <;> simp [hv, this]
  eq_iff a b := by rw [eq_next_iff hf, eq_next_iff hg, h.eq_iff, h.none_iff]

/-- The keys of a partition of lists agree with the first lists of the values. -/
theorem agree_ofLists (lists : List (List Value)) : Agree (ofLists lists).index.get? (firstList lists) := by
  induction lists using List.reverseRecOn with
  | nil => exact ⟨fun _ => Iff.rfl, fun _ _ => Iff.rfl⟩
  | append_singleton lists vs ih =>
    have next := ih.next (fun _ _ => (coherent_ofLists lists).lt_of_get?) (fun _ _ => lt_of_firstList) vs
    simp only [← get?_index_takeIn, ← firstList_append, ← ofLists_append] at next
    exact next

/-! ## The partitions that are built -/

/-- Partitions are made from lists of values, or by merging points-to facts. -/
inductive Built : AliasPartition → Prop
  | ofLists (lists : List (List Value)) : Built (.ofLists lists)
  | merge (rows : List (Value × List Value)) : Built (PointsTo.ofRows rows).merge

theorem Built.coherent (h : Built part) : part.Coherent := by
  cases h with
  | ofLists lists => exact coherent_ofLists lists
  | merge rows => exact PointsTo.coherent_merge rows

theorem Built.inhabited (h : Built part) : ∀ c ∈ part.classes, c.members ≠ [] := by
  cases h with
  | ofLists lists => exact inhabited_ofLists lists
  | merge rows =>
    intro c hc
    obtain ⟨-, a, -, members⟩ := PointsTo.mem_members_iff.1 (List.mem_map_of_mem hc)
    exact List.ne_nil_of_mem ((members a).2 (.refl a))

/-- The partition of any lists is exact, and so is the one that merging makes of any points-to facts. The
partition of lists has every value that one of them has, and two values share a key exactly when the first list
that has the one is the first list that has the other. -/
theorem built_partitions_exact : (∀ part : AliasPartition, part.Built → part.Exact) ∧
    ∀ lists : List (List Value),
      (∀ vs ∈ lists, ∀ v ∈ vs, ∃ k, (ofLists lists).oracle.key? v = some k) ∧
      ∀ a b, (∃ k, (ofLists lists).oracle.key? a = some k ∧ (ofLists lists).oracle.key? b = some k) ↔
        ∃ i, firstList lists a = some i ∧ firstList lists b = some i := by
  refine ⟨fun part built => built.coherent.exact built.inhabited, fun lists => ?_⟩
  have agree := agree_ofLists lists
  have known : ∀ v, ((ofLists lists).oracle.key? v).isSome = (firstList lists v).isSome := by
    intro v
    rw [Bool.eq_iff_iff, Option.isSome_iff_ne_none, Option.isSome_iff_ne_none]
    exact not_congr (agree.none_iff v)
  refine ⟨fun vs hvs v hv => ?_, fun a b => ?_⟩
  · rw [← Option.isSome_iff_exists, known, firstList_isSome_iff]
    exact ⟨vs, hvs, hv⟩
  · have same := agree.eq_iff a b
    constructor
    · rintro ⟨k, ha, hb⟩
      obtain ⟨i, hi⟩ := Option.isSome_iff_exists.1 ((known a).symm.trans (by rw [ha]; rfl))
      exact ⟨i, hi, (same.1 (ha.trans hb.symm)).symm.trans hi⟩
    · rintro ⟨i, ha, hb⟩
      obtain ⟨k, hk⟩ := Option.isSome_iff_exists.1 ((known a).trans (by rw [ha]; rfl))
      exact ⟨k, hk, (same.2 (ha.trans hb.symm)).symm.trans hk⟩

-- the second and the third list give no class, so the fourth one gives the class with the key `1`
example : (ofLists [[⟨.first, 2⟩, ⟨.first, 1⟩, ⟨.first, 2⟩], [⟨.first, 1⟩], [],
    [⟨.second, 0⟩, ⟨.first, 1⟩]]).classes = [⟨0, [⟨.first, 1⟩, ⟨.first, 2⟩], []⟩, ⟨1, [⟨.second, 0⟩], []⟩] := by
  decide

end AliasPartition

end PeerTaint
