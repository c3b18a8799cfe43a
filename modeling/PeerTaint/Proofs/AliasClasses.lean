import Mathlib.Data.List.Pairwise
import PeerTaint.Proofs.Merging

/-!
The alias classes of points-to facts.

`Coherent` says that the classes of a partition are numbered in order, list their members in ascending
order, and agree with the index. Merging gives a coherent partition whose classes are the connected
components of the rows, in the order of their smallest members. Nothing else is in the result, so rows
that connect the same values give the same partition, however they are ordered and grouped.
-/

namespace PeerTaint

open Relation (EqvGen)

/-! ## Numbered classes -/

namespace AliasPartition

/-- The classes carry their numbers, their members are ascending, and the index has the number of each
member. -/
structure Coherent (part : AliasPartition) : Prop where
  key : ∀ k c, part.class? k = some c → c.key = k
  sorted : ∀ c ∈ part.classes, c.members.Pairwise fun a b => Key.before a b = true
  index : ∀ v k, part.index.get? v = some k ↔ ∃ c, part.class? k = some c ∧ v ∈ c.members

theorem coherent_empty : Coherent {} := ⟨nofun, nofun, fun _ _ => ⟨nofun, nofun⟩⟩

theorem get?_foldl_insert (vs : List Value) (k : AliasKey) (m : SortedMap Value AliasKey) (v : Value) :
    (vs.foldl (fun m w => m.insert w k) m).get? v = if v ∈ vs then some k else m.get? v := by
  induction vs generalizing m with
  | nil => simp
  | cons w vs ih =>
    rw [List.foldl_cons, ih, SortedMap.get?_insert]
    by_cases hv : v ∈ vs <;> simp [hv]

section Push

variable (part : AliasPartition) (members : SortedSet Value) (pointsTo : List Value)

theorem class?_push (k : AliasKey) : (part.push members pointsTo).class? k =
    if k = part.classes.length then some ⟨k, members.elems, pointsTo⟩ else part.class? k := by
  simp only [class?, push]
  rcases Nat.lt_trichotomy k part.classes.length with hk | hk | hk
  · rw [List.getElem?_append_left hk, if_neg (Nat.ne_of_lt hk)]
  · simp [hk]
  · rw [if_neg (Nat.ne_of_gt hk), List.getElem?_eq_none (by simp; omega), List.getElem?_eq_none (by omega)]

theorem get?_index_push (v : Value) : (part.push members pointsTo).index.get? v =
    if v ∈ members then some part.classes.length else part.index.get? v :=
  get?_foldl_insert members.elems _ _ v

variable {part members pointsTo}

/-- A class of new members goes under the next number. -/
theorem Coherent.push (h : Coherent part) (fresh : ∀ v ∈ members, part.index.get? v = none) :
    Coherent (part.push members pointsTo) := by
  refine ⟨fun k c hc => ?_, fun c hc => ?_, fun v k => ?_⟩
  · rw [class?_push] at hc
    split at hc
    · cases hc
      rfl
    · exact h.key k c hc
  · rcases List.mem_append.1 hc with hc | hc
    · exact h.sorted c hc
    · rw [List.mem_singleton.1 hc]
      exact members.sorted
  · rw [get?_index_push, class?_push]
    by_cases hk : k = part.classes.length
    · -- no older class has this number
      subst hk
      have none : part.index.get? v ≠ some part.classes.length := by
        intro hv
        obtain ⟨c, hc, -⟩ := (h.index v _).1 hv
        simp [class?] at hc
      by_cases hv : v ∈ members
      · simp [hv, ← SortedSet.mem_def]
      · simp [hv, none, ← SortedSet.mem_def]
    · rw [if_neg hk, ← h.index]
      split
      · next hv => simp [fresh v hv, Ne.symm hk]
      · rfl

end Push

/-- A value is in one class only. -/
theorem Coherent.eq_of_mem {part : AliasPartition} (h : Coherent part) {c d : AliasClass}
    (hc : c ∈ part.classes) (hd : d ∈ part.classes) {v : Value} (hv : v ∈ c.members) (hv' : v ∈ d.members) :
    c = d := by
  obtain ⟨i, hi⟩ := List.getElem?_of_mem hc
  obtain ⟨j, hj⟩ := List.getElem?_of_mem hd
  have same := ((h.index v i).2 ⟨c, hi, hv⟩).symm.trans ((h.index v j).2 ⟨d, hj, hv'⟩)
  cases Option.some.inj same
  exact Option.some.inj (hi.symm.trans hj)

/-- Disjoint classes are numbered in their order. -/
theorem coherent_foldl_push {cs : List PendingClass} {part : AliasPartition} (h : Coherent part)
    (disjoint : cs.Pairwise PointsTo.Disjoint)
    (fresh : ∀ c ∈ cs, ∀ v ∈ c.members, part.index.get? v = none) :
    Coherent (cs.foldl (fun part c => part.push c.members c.pointsTo.elems) part) := by
  induction cs generalizing part with
  | nil => exact h
  | cons c cs ih =>
    obtain ⟨apart, rest⟩ := List.pairwise_cons.1 disjoint
    refine ih (h.push (fresh c List.mem_cons_self)) rest fun d hd v hv => ?_
    rw [get?_index_push, if_neg fun hc => apart d hd v hc hv]
    exact fresh d (List.mem_cons_of_mem c hd) v hv

theorem classes_foldl_push {α : Type} (f : List Value → List Value → α) (cs : List PendingClass)
    (part : AliasPartition) :
    (cs.foldl (fun part c => part.push c.members c.pointsTo.elems) part).classes.map
        (fun c => f c.members c.pointsTo) =
      part.classes.map (fun c => f c.members c.pointsTo) ++
        cs.map fun c => f c.members.elems c.pointsTo.elems := by
  induction cs generalizing part with
  | nil => simp
  | cons c cs ih =>
    rw [List.foldl_cons, ih]
    simp [push]

/-- A coherent partition whose classes point to their own members is determined by the members. -/
theorem Coherent.eq_of_members {part part' : AliasPartition} (h : Coherent part) (h' : Coherent part')
    (own : ∀ c ∈ part.classes, c.pointsTo = c.members) (own' : ∀ c ∈ part'.classes, c.pointsTo = c.members)
    (same : part.classes.map (·.members) = part'.classes.map (·.members)) : part = part' := by
  have classes : part.classes = part'.classes := by
    refine List.ext_getElem? fun k => ?_
    have at_k := congrArg (·[k]?) same
    simp only [List.getElem?_map] at at_k
    cases hc : part.classes[k]? with
    | none =>
      rw [hc, Option.map_none, eq_comm, Option.map_eq_none_iff] at at_k
      exact at_k.symm
    | some c =>
      rw [hc, Option.map_some, eq_comm, Option.map_eq_some_iff] at at_k
      obtain ⟨d, hd, members⟩ := at_k
      rw [hd]
      obtain ⟨i, ms, ps⟩ := c
      obtain ⟨j, ns, qs⟩ := d
      cases members
      cases h.key k _ hc
      cases h'.key _ _ hd
      cases own _ (List.mem_of_getElem? hc)
      cases own' _ (List.mem_of_getElem? hd)
      rfl
  have index : part.index = part'.index := by
    refine SortedMap.ext fun v => Option.ext fun k => ?_
    rw [h.index, h'.index, class?, class?, classes]
  cases part
  cases part'
  cases classes
  cases index
  rfl

end AliasPartition

/-! ## Classes that do not meet -/

namespace PointsTo

section Settled

variable {rows : List (Value × List Value)} {cs : List PendingClass} (h : (ofRows rows).Splits cs)
  (apart : cs.Pairwise fun c d => c.meets d = false)
include h apart

/-- Only the class itself points to a member of a class. -/
theorem Splits.eq_of_mem {c d : PendingClass} (hc : c ∈ cs) (hd : d ∈ cs) {v : Value}
    (hv : v ∈ c.members) (hv' : v ∈ d.pointsTo) : c = d := by
  have : Std.Symm fun c d : PendingClass => c.meets d = false :=
    ⟨fun a b hab => (PendingClass.meets_comm b a).trans hab⟩
  by_contra ne
  have apart := apart.forall hc hd ne
  have meet := PendingClass.meets_iff.2 ⟨v, ((h.holds c hc).pointsTo v).2 ⟨v, hv, Or.inl rfl⟩, hv'⟩
  rw [apart] at meet
  cases meet

/-- The targets of a member are members: they are values of the facts, so some class has them. -/
theorem Splits.pointsTo_eq {c : PendingClass} (hc : c ∈ cs) : c.pointsTo = c.members := by
  have holds := h.holds c hc
  refine SortedSet.ext fun b => ⟨fun hb => ?_, fun hb => (holds.pointsTo b).2 ⟨b, hb, Or.inl rfl⟩⟩
  obtain ⟨a, ha, rfl | target⟩ := (holds.pointsTo b).1 hb
  · exact ha
  · obtain ⟨d, hd, hbd⟩ := (h.covers b).1 target.has_target
    cases h.eq_of_mem apart hd hc hbd hb
    exact hbd

/-- Connected values are in the same class. -/
theorem Splits.mem_iff_of_connected {a b : Value} (path : EqvGen (ofRows rows).Targets a b) :
    ∀ c ∈ cs, a ∈ c.members ↔ b ∈ c.members := by
  induction path with
  | rel a b target =>
    have forth : ∀ c ∈ cs, a ∈ c.members → b ∈ c.members := by
      intro c hc ha
      rw [← h.pointsTo_eq apart hc]
      exact ((h.holds c hc).pointsTo b).2 ⟨a, ha, Or.inr target⟩
    refine fun c hc => ⟨forth c hc, fun hb => ?_⟩
    obtain ⟨d, hd, had⟩ := (h.covers a).1 target.has
    have hbd : b ∈ d.pointsTo := by
      rw [h.pointsTo_eq apart hd]
      exact forth d hd had
    cases h.eq_of_mem apart hc hd hb hbd
    exact had
  | refl a => exact fun c hc => Iff.rfl
  | symm a b _ ih => exact fun c hc => (ih c hc).symm
  | trans a b d _ _ ih₁ ih₂ => exact fun c hc => (ih₁ c hc).trans (ih₂ c hc)

end Settled

theorem targets_eq_joins (rows : List (Value × List Value)) : (ofRows rows).Targets = Joins rows := by
  funext a b
  exact propext targets_ofRows

/-! ## The order of the classes -/

theorem listedBefore_trans (c d e : PendingClass) (h : listedBefore c d = true)
    (h' : listedBefore d e = true) : listedBefore c e = true := by
  simp only [listedBefore, Bool.not_eq_true', Bool.eq_false_iff] at h h' ⊢
  intro hec
  by_cases hde : d.members.elems = e.members.elems
  · rw [hde] at h
    exact h hec
  · exact h (Key.trans (Key.before_of_not (Ne.symm hde) (Bool.eq_false_iff.2 h')) hec)

theorem listedBefore_total (c d : PendingClass) : (listedBefore c d || listedBefore d c) = true := by
  simp only [listedBefore, Bool.or_eq_true, Bool.not_eq_true']
  cases h : Key.before d.members.elems c.members.elems with
  | false => exact Or.inl rfl
  | true => exact Or.inr (Key.asymm h)

/-- A class with a smaller first member is before another one. -/
def Precedes (c d : List Value) : Prop :=
  ∃ a b, c.head? = some a ∧ d.head? = some b ∧ Key.before a b = true

theorem Precedes.before {c d : List Value} (h : Precedes c d) : Key.before c d = true := by
  obtain ⟨a, b, ha, hb, hab⟩ := h
  obtain ⟨c, rfl⟩ := List.head?_eq_some_iff.1 ha
  obtain ⟨d, rfl⟩ := List.head?_eq_some_iff.1 hb
  change Key.beforeList (a :: c) (b :: d) = true
  rw [Key.beforeList, if_neg (Key.ne_of_before hab)]
  exact hab

theorem precedes_of_listedBefore {facts : PointsTo} {c d : PendingClass} (hc : facts.Holds c)
    (hd : facts.Holds d) (disjoint : Disjoint c d) (h : listedBefore c d = true) :
    Precedes c.members.elems d.members.elems := by
  obtain ⟨u, hu⟩ := hc.inhabited
  obtain ⟨v, hv⟩ := hd.inhabited
  cases hcm : c.members.elems with
  | nil => rw [SortedSet.mem_def, hcm] at hu; cases hu
  | cons a as =>
    cases hdm : d.members.elems with
    | nil => rw [SortedSet.mem_def, hdm] at hv; cases hv
    | cons b bs =>
      have ne : b ≠ a := by
        rintro rfl
        exact disjoint b (by simp [SortedSet.mem_def, hcm]) (by simp [SortedSet.mem_def, hdm])
      refine ⟨a, b, rfl, rfl, Key.before_of_not ne ?_⟩
      rw [listedBefore, hcm, hdm, Bool.not_eq_true'] at h
      change Key.beforeList (b :: bs) (a :: as) = false at h
      rwa [Key.beforeList, if_neg ne] at h

/-! ## The partition -/

/-- The settled classes, in the order in which they are numbered. -/
def listed (facts : PointsTo) : List PendingClass :=
  (PendingClass.settle facts.singles).1.mergeSort listedBefore

theorem merge_eq (facts : PointsTo) :
    facts.merge = facts.listed.foldl (fun part c => part.push c.members c.pointsTo.elems) {} := rfl

section Listed

variable (rows : List (Value × List Value))

theorem splits_listed : (ofRows rows).Splits (ofRows rows).listed :=
  (splits_singles _).coarsens ((PendingClass.coarsens_settle _).trans (.perm (List.mergeSort_perm _ _).symm))

theorem apart_listed : (ofRows rows).listed.Pairwise fun c d => c.meets d = false :=
  ((List.mergeSort_perm _ listedBefore).pairwise_iff fun h =>
    (PendingClass.meets_comm _ _).trans h).2 (PendingClass.settle_apart _)

theorem precedes_listed :
    (ofRows rows).listed.Pairwise fun c d => Precedes c.members.elems d.members.elems := by
  have splits := splits_listed rows
  have ordered := List.pairwise_mergeSort listedBefore_trans listedBefore_total
    (PendingClass.settle (ofRows rows).singles).1
  refine (ordered.and splits.disjoint).imp_of_mem fun hc hd h => ?_
  exact precedes_of_listedBefore (splits.holds _ hc) (splits.holds _ hd) h.2 h.1

theorem coherent_merge : (ofRows rows).merge.Coherent := by
  rw [merge_eq]
  exact AliasPartition.coherent_foldl_push AliasPartition.coherent_empty (splits_listed rows).disjoint
    fun _ _ _ _ => rfl

/-- The classes have the members of the settled ones, and point to them. -/
theorem classes_merge (rows : List (Value × List Value)) :
    (ofRows rows).merge.classes.map (·.members) = (ofRows rows).listed.map (·.members.elems) ∧
      ∀ c ∈ (ofRows rows).merge.classes, c.pointsTo = c.members := by
  have both := AliasPartition.classes_foldl_push Prod.mk (ofRows rows).listed {}
  rw [← merge_eq, List.map_nil, List.nil_append] at both
  constructor
  · have first := congrArg (List.map Prod.fst) both
    rwa [List.map_map, List.map_map] at first
  · intro c hc
    have : (c.members, c.pointsTo) ∈ (ofRows rows).listed.map fun c => (c.members.elems, c.pointsTo.elems) := by
      rw [← both]
      exact List.mem_map.2 ⟨c, hc, rfl⟩
    obtain ⟨d, hd, he⟩ := List.mem_map.1 this
    obtain ⟨members, pointsTo⟩ := Prod.mk.inj he
    rw [← members, ← pointsTo, (splits_listed rows).pointsTo_eq (apart_listed rows) hd]

variable {rows}

theorem exists_class_iff {P : List Value → Prop} : (∃ c ∈ (ofRows rows).merge.classes, P c.members) ↔
    ∃ c ∈ (ofRows rows).listed, P c.members.elems := by
  have members := (classes_merge rows).1
  constructor
  · rintro ⟨c, hc, hP⟩
    obtain ⟨d, hd, he⟩ := List.mem_map.1 (members ▸ List.mem_map_of_mem hc)
    exact ⟨d, hd, he ▸ hP⟩
  · rintro ⟨d, hd, hP⟩
    obtain ⟨c, hc, he⟩ := List.mem_map.1 (members ▸ List.mem_map_of_mem hd)
    exact ⟨c, hc, he ▸ hP⟩

theorem exists_key_iff {a b : Value} : (∃ k, (ofRows rows).merge.oracle.key? a = some k ∧
      (ofRows rows).merge.oracle.key? b = some k) ↔
    ∃ c ∈ (ofRows rows).merge.classes, a ∈ c.members ∧ b ∈ c.members := by
  have coherent := coherent_merge rows
  simp only [AliasPartition.oracle, coherent.index]
  constructor
  · rintro ⟨k, ⟨c, hc, ha⟩, d, hd, hb⟩
    cases Option.some.inj (hc.symm.trans hd)
    exact ⟨c, List.mem_of_getElem? hc, ha, hb⟩
  · rintro ⟨c, hc, ha, hb⟩
    obtain ⟨k, hk⟩ := List.getElem?_of_mem hc
    exact ⟨k, ⟨c, hk, ha⟩, c, hk, hb⟩

/-- Two values are in one class exactly when the rows mention and connect them. -/
theorem exists_class_iff_connected {a b : Value} :
    (∃ c ∈ (ofRows rows).merge.classes, a ∈ c.members ∧ b ∈ c.members) ↔
      Mentioned rows a ∧ Connected rows a b := by
  have splits := splits_listed rows
  rw [exists_class_iff (P := fun ms => a ∈ ms ∧ b ∈ ms), ← has_ofRows, splits.covers, Connected,
    ← targets_eq_joins]
  constructor
  · rintro ⟨c, hc, ha, hb⟩
    exact ⟨⟨c, hc, ha⟩, (splits.holds c hc).linked a ha b hb⟩
  · rintro ⟨⟨c, hc, ha⟩, path⟩
    exact ⟨c, hc, ha, (splits.mem_iff_of_connected (apart_listed rows) path c hc).1 ha⟩

theorem precedes_classes :
    ((ofRows rows).merge.classes.map (·.members)).Pairwise Precedes := by
  rw [(classes_merge rows).1]
  exact List.pairwise_map.2 (precedes_listed rows)

/-- The lists of members are the ascending lists of everything that is connected with some value. -/
theorem mem_members_iff {ms : List Value} : ms ∈ (ofRows rows).merge.classes.map (·.members) ↔
    ms.Pairwise (fun a b => Key.before a b = true) ∧
      ∃ a, Mentioned rows a ∧ ∀ v, v ∈ ms ↔ Connected rows a v := by
  have coherent := coherent_merge rows
  -- a class has everything that is connected with one of its members
  have whole : ∀ c ∈ (ofRows rows).merge.classes, ∀ a ∈ c.members, ∀ v,
      v ∈ c.members ↔ Connected rows a v := by
    intro c hc a ha v
    have known := (exists_class_iff_connected.1 ⟨c, hc, ha, ha⟩).1
    constructor
    · intro hv
      exact (exists_class_iff_connected.1 ⟨c, hc, ha, hv⟩).2
    · intro path
      obtain ⟨d, hd, had, hvd⟩ := exists_class_iff_connected.2 ⟨known, path⟩
      cases coherent.eq_of_mem hc hd ha had
      exact hvd
  constructor
  · intro hm
    obtain ⟨c, hc, rfl⟩ := List.mem_map.1 hm
    obtain ⟨d, hd, he⟩ := List.mem_map.1 ((classes_merge rows).1 ▸ List.mem_map_of_mem hc)
    obtain ⟨a, ha⟩ := ((splits_listed rows).holds d hd).inhabited
    have ha : a ∈ c.members := he ▸ ha
    exact ⟨coherent.sorted c hc, a, (exists_class_iff_connected.1 ⟨c, hc, ha, ha⟩).1, whole c hc a ha⟩
  · rintro ⟨sorted, a, known, members⟩
    obtain ⟨c, hc, ha, -⟩ := exists_class_iff_connected.2 ⟨known, .refl a⟩
    refine List.mem_map.2 ⟨c, hc, Key.eq_of_mem_iff id (coherent.sorted c hc) sorted fun v => ?_⟩
    rw [members, whole c hc a ha]

end Listed

/-- Two values get the same key exactly when the rows mention and connect them. The classes have exactly
the mentioned values as members, each in one class, and point to their own members. They are numbered from
zero in the order of their smallest members, and list their members in ascending order (`Coherent`). Rows
that mention and connect the same values, in whatever order and grouping, give the same partition. -/
theorem merge_connected (rows : List (Value × List Value)) :
    let part := (ofRows rows).merge
    (∀ a b, (∃ k, part.oracle.key? a = some k ∧ part.oracle.key? b = some k) ↔
        Mentioned rows a ∧ Connected rows a b) ∧
      (∀ v, (∃ c ∈ part.classes, v ∈ c.members) ↔ Mentioned rows v) ∧
      (∀ c ∈ part.classes, ∀ d ∈ part.classes, ∀ v, v ∈ c.members → v ∈ d.members → c = d) ∧
      (∀ c ∈ part.classes, c.members ≠ [] ∧ c.pointsTo = c.members) ∧
      part.Coherent ∧
      (part.classes.map (·.members)).Pairwise Precedes ∧
      ∀ rows', (∀ v, Mentioned rows' v ↔ Mentioned rows v) →
        (∀ a b, Connected rows' a b ↔ Connected rows a b) → (ofRows rows').merge = part := by
  intro part
  have coherent := coherent_merge rows
  refine ⟨fun a b => exists_key_iff.trans exists_class_iff_connected, fun v => ?_,
    fun c hc d hd v hv hv' => coherent.eq_of_mem hc hd hv hv', fun c hc => ⟨?_, (classes_merge rows).2 c hc⟩,
    coherent, precedes_classes, fun rows' mentioned connected => ?_⟩
  · constructor
    · rintro ⟨c, hc, hv⟩
      exact (exists_class_iff_connected.1 ⟨c, hc, hv, hv⟩).1
    · intro hv
      obtain ⟨c, hc, hv, -⟩ := exists_class_iff_connected.2 ⟨hv, .refl v⟩
      exact ⟨c, hc, hv⟩
  · obtain ⟨-, a, -, members⟩ := mem_members_iff.1 (List.mem_map_of_mem hc)
    exact List.ne_nil_of_mem ((members a).2 (.refl a))
  · refine (coherent_merge rows').eq_of_members coherent (classes_merge rows').2 (classes_merge rows).2 ?_
    refine Key.eq_of_mem_iff id (precedes_classes.imp Precedes.before)
      (precedes_classes.imp Precedes.before) fun ms => ?_
    rw [mem_members_iff, mem_members_iff]
    simp only [mentioned, connected]

end PointsTo

end PeerTaint
