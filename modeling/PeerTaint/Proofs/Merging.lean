import Mathlib.Logic.Relation
import PeerTaint.Alias.Merge

/-!
Merging finds the connected values.

A row of points-to facts joins its pointer with each of its targets. Whatever a pass over the classes
does is made of one step: two classes that meet become one (`Coarsens`). Every such step keeps the
classes disjoint, covering and connected (`Splits`), and passes end only when no two classes meet
(`settle_apart`). The classes are then the connected components of the rows, and `merge` numbers them
by their smallest members.
-/

namespace PeerTaint

open Relation (EqvGen)

/-- A list around one of its elements. -/
theorem take_append_cons_drop {α : Type} {as : List α} {a : α} {i : Nat} (h : as[i]? = some a) :
    as.take i ++ a :: as.drop (i + 1) = as := by
  obtain ⟨hi, rfl⟩ := List.getElem?_eq_some_iff.1 h
  rw [← List.drop_eq_getElem_cons hi, List.take_append_drop]

/-! ## Facts -/

namespace PointsTo

/-- A row has the value as its pointer or as a target. -/
def Mentioned (rows : List (Value × List Value)) (v : Value) : Prop :=
  ∃ row ∈ rows, v = row.1 ∨ v ∈ row.2

/-- A row joins a pointer with a target. -/
def Joins (rows : List (Value × List Value)) (a b : Value) : Prop := ∃ row ∈ rows, a = row.1 ∧ b ∈ row.2

/-- The rows, read in both directions, lead from one value to the other. -/
def Connected (rows : List (Value × List Value)) : Value → Value → Prop := EqvGen (Joins rows)

/-- The facts know the value. -/
def Has (facts : PointsTo) (v : Value) : Prop := (facts.targets.get? v).isSome = true

/-- The facts have the value `b` as a target of `a`. -/
def Targets (facts : PointsTo) (a b : Value) : Prop := ∃ ts, facts.targets.get? a = some ts ∧ b ∈ ts

theorem Targets.has {facts : PointsTo} {a b : Value} (h : facts.Targets a b) : facts.Has a := by
  obtain ⟨ts, hts, -⟩ := h
  simp [Has, hts]

theorem get?_foldl_insertIfNew (ts : List Value) (m : SortedMap Value (SortedSet Value)) (v : Value) :
    (ts.foldl (fun m t => m.insertIfNew t .empty) m).get? v =
      (m.get? v).or (if v ∈ ts then some .empty else none) := by
  induction ts generalizing m with
  | nil => simp
  | cons t ts ih =>
    rw [List.foldl_cons, ih, SortedMap.insertIfNew, SortedMap.contains]
    by_cases hv : v = t
    · subst hv
      cases h : m.get? v <;> simp [h]
    · cases h : m.get? t <;> simp [hv]

theorem get?_add (facts : PointsTo) (p : Value) (ts : List Value) (v : Value) :
    (facts.add p ts).targets.get? v =
      if v = p then some (((facts.targets.get? p).getD .empty).union (.ofList ts))
      else (facts.targets.get? v).or (if v ∈ ts then some .empty else none) := by
  simp only [add, SortedMap.get?_insert, get?_foldl_insertIfNew]
  congr 3
  cases facts.targets.get? p <;> simp
  split <;> rfl

theorem has_add {facts : PointsTo} {p v : Value} {ts : List Value} :
    (facts.add p ts).Has v ↔ (v = p ∨ v ∈ ts) ∨ facts.Has v := by
  rw [Has, get?_add, Has]
  by_cases hp : v = p
  · simp [hp]
  · cases h : facts.targets.get? v <;> by_cases ht : v ∈ ts <;> simp [hp, ht]

theorem targets_add {facts : PointsTo} {p a b : Value} {ts : List Value} :
    (facts.add p ts).Targets a b ↔ (a = p ∧ b ∈ ts) ∨ facts.Targets a b := by
  rw [Targets, get?_add, Targets]
  by_cases hp : a = p
  · subst hp
    cases h : facts.targets.get? a <;> simp [or_comm]
  · cases h : facts.targets.get? a <;> by_cases ht : a ∈ ts <;> simp [hp, ht]

theorem has_foldl_add {rows : List (Value × List Value)} {facts : PointsTo} {v : Value} :
    (rows.foldl (fun facts row => facts.add row.1 row.2) facts).Has v ↔ Mentioned rows v ∨ facts.Has v := by
  induction rows generalizing facts with
  | nil => simp [Mentioned]
  | cons row rows ih =>
    simp only [List.foldl_cons, ih, has_add, Mentioned, List.mem_cons, or_and_right, exists_or, exists_eq_left]
    exact or_left_comm.trans or_assoc.symm

theorem targets_foldl_add {rows : List (Value × List Value)} {facts : PointsTo} {a b : Value} :
    (rows.foldl (fun facts row => facts.add row.1 row.2) facts).Targets a b ↔
      Joins rows a b ∨ facts.Targets a b := by
  induction rows generalizing facts with
  | nil => simp [Joins]
  | cons row rows ih =>
    simp only [List.foldl_cons, ih, targets_add, Joins, List.mem_cons, or_and_right, exists_or, exists_eq_left]
    exact or_left_comm.trans or_assoc.symm

theorem has_ofRows {rows : List (Value × List Value)} {v : Value} :
    (ofRows rows).Has v ↔ Mentioned rows v := by
  have none : ¬ ({} : PointsTo).Has v := nofun
  rw [ofRows, has_foldl_add, or_iff_left none]

theorem targets_ofRows {rows : List (Value × List Value)} {a b : Value} :
    (ofRows rows).Targets a b ↔ Joins rows a b := by
  have none : ¬ ({} : PointsTo).Targets a b := nofun
  rw [ofRows, targets_foldl_add, or_iff_left none]

/-- Every target is a mentioned value. -/
theorem Targets.has_target {rows : List (Value × List Value)} {a b : Value}
    (h : (ofRows rows).Targets a b) : (ofRows rows).Has b := by
  obtain ⟨row, hrow, -, hb⟩ := targets_ofRows.1 h
  exact has_ofRows.2 ⟨row, hrow, Or.inr hb⟩

end PointsTo

/-! ## Classes that become one -/

namespace PendingClass

@[simp]
theorem mem_members_join {c d : PendingClass} {v : Value} :
    v ∈ (c.join d).members ↔ v ∈ c.members ∨ v ∈ d.members := SortedSet.mem_union

@[simp]
theorem mem_pointsTo_join {c d : PendingClass} {v : Value} :
    v ∈ (c.join d).pointsTo ↔ v ∈ c.pointsTo ∨ v ∈ d.pointsTo := SortedSet.mem_union

theorem meets_iff {c d : PendingClass} : c.meets d = true ↔ ∃ v, v ∈ c.pointsTo ∧ v ∈ d.pointsTo :=
  SortedSet.meets_iff

theorem meets_comm (c d : PendingClass) : c.meets d = d.meets c := by
  rw [Bool.eq_iff_iff, meets_iff, meets_iff]
  simp [and_comm]

/-- One list of classes arises from another by letting classes that meet become one. -/
inductive Coarsens : List PendingClass → List PendingClass → Prop
  | perm {cs ds : List PendingClass} (same : cs.Perm ds) : Coarsens cs ds
  | merge {c d : PendingClass} (cs : List PendingClass) (meet : c.meets d = true) :
      Coarsens (c :: d :: cs) (c.join d :: cs)
  | trans {cs ds es : List PendingClass} (first : Coarsens cs ds) (second : Coarsens ds es) :
      Coarsens cs es

theorem Coarsens.refl (cs : List PendingClass) : Coarsens cs cs := .perm (.refl cs)

theorem Coarsens.cons {cs ds : List PendingClass} (h : Coarsens cs ds) (c : PendingClass) :
    Coarsens (c :: cs) (c :: ds) := by
  induction h with
  | perm same => exact .perm (same.cons c)
  | @merge a b cs meet =>
    have front : Coarsens (c :: a :: b :: cs) (a :: b :: c :: cs) :=
      .perm ((List.Perm.swap a c _).trans ((List.Perm.swap b c cs).cons a))
    exact front.trans ((Coarsens.merge (c :: cs) meet).trans (.perm (.swap c _ cs)))
  | trans _ _ ih₁ ih₂ => exact ih₁.trans ih₂

theorem coarsens_absorb (c : PendingClass) (ds : List PendingClass) :
    Coarsens (c :: ds) ((absorb c ds).1 :: (absorb c ds).2) := by
  induction ds generalizing c with
  | nil => exact .refl [c]
  | cons d ds ih =>
    rw [absorb]
    split
    · next meet => exact .trans (.merge ds meet) (ih _)
    · -- the class that does not meet stays behind the one that goes on absorbing
      have later : Coarsens (d :: c :: ds) (d :: (absorb c ds).1 :: (absorb c ds).2) := (ih c).cons d
      exact .trans (.perm (.swap d c ds)) (later.trans (.perm (.swap _ d _)))

theorem coarsens_pass (cs : List PendingClass) : Coarsens cs (pass cs) := by
  fun_induction pass cs with
  | case1 => exact .refl []
  | case2 c cs ih => exact (coarsens_absorb c cs).trans (ih.cons _)

theorem coarsens_settle (cs : List PendingClass) : Coarsens cs (settle cs).1 := by
  fun_induction settle cs with
  | case1 cs _ settled passes hs ih =>
    rw [hs] at ih
    exact (coarsens_pass cs).trans ih
  | case2 cs _ => exact coarsens_pass cs

/-! ## When passes end -/

/-- A class that absorbs nothing meets none of the others. -/
theorem absorb_of_length {c : PendingClass} {ds : List PendingClass}
    (h : ds.length ≤ (absorb c ds).2.length) : absorb c ds = (c, ds) ∧ ∀ d ∈ ds, c.meets d = false := by
  induction ds with
  | nil => exact ⟨rfl, nofun⟩
  | cons d ds ih =>
    rw [absorb] at h ⊢
    split
    · next meet =>
      rw [if_pos meet] at h
      have := length_absorb_le (c.join d) ds
      simp only [List.length_cons] at h
      omega
    · next apart =>
      rw [if_neg apart] at h
      simp only [List.length_cons, Nat.add_le_add_iff_right] at h
      obtain ⟨same, others⟩ := ih h
      simp only [same, true_and]
      intro e he
      rcases List.mem_cons.1 he with rfl | he
      · simpa using apart
      · exact others e he

theorem length_pass_le (cs : List PendingClass) : (pass cs).length ≤ cs.length := by
  fun_induction pass cs with
  | case1 => exact Nat.le_refl _
  | case2 c cs ih =>
    have := length_absorb_le c cs
    simp only [List.length_cons]
    omega

/-- A pass that merges nothing finds no two classes that meet. -/
theorem pass_of_length {cs : List PendingClass} (h : cs.length ≤ (pass cs).length) :
    pass cs = cs ∧ cs.Pairwise fun c d => c.meets d = false := by
  fun_induction pass cs with
  | case1 => exact ⟨rfl, .nil⟩
  | case2 c cs ih =>
    have := length_absorb_le c cs
    have := length_pass_le (absorb c cs).2
    simp only [List.length_cons] at h
    have kept : cs.length ≤ (absorb c cs).2.length := by omega
    obtain ⟨same, apart⟩ := absorb_of_length kept
    simp only [same] at ih h ⊢
    obtain ⟨stays, others⟩ := ih (by omega)
    exact ⟨by rw [stays], List.pairwise_cons.2 ⟨apart, others⟩⟩

theorem settle_apart (cs : List PendingClass) : (settle cs).1.Pairwise fun c d => c.meets d = false := by
  fun_induction settle cs with
  | case1 cs _ settled passes hs ih =>
    rw [hs] at ih
    exact ih
  | case2 cs full =>
    obtain ⟨same, apart⟩ := pass_of_length (Nat.not_lt.1 full)
    rw [same]
    exact apart

end PendingClass

/-! ## What merging keeps -/

namespace PointsTo

/-- A class of connected values, with what they point to. -/
structure Holds (facts : PointsTo) (c : PendingClass) : Prop where
  inhabited : ∃ v, v ∈ c.members
  linked : ∀ a ∈ c.members, ∀ b ∈ c.members, EqvGen facts.Targets a b
  pointsTo : ∀ b, b ∈ c.pointsTo ↔ ∃ a ∈ c.members, b = a ∨ facts.Targets a b

/-- Two classes without a common member. -/
def Disjoint (c d : PendingClass) : Prop := ∀ v, v ∈ c.members → v ∉ d.members

/-- Disjoint classes of connected values that make up all values of the facts. -/
structure Splits (facts : PointsTo) (cs : List PendingClass) : Prop where
  covers : ∀ v, facts.Has v ↔ ∃ c ∈ cs, v ∈ c.members
  disjoint : cs.Pairwise Disjoint
  holds : ∀ c ∈ cs, facts.Holds c

theorem Disjoint.symm {c d : PendingClass} (h : Disjoint c d) : Disjoint d c :=
  fun v hd hc => h v hc hd

variable {facts : PointsTo}

theorem Holds.connected {c : PendingClass} (h : facts.Holds c) {a b : Value} (ha : a ∈ c.members)
    (hb : b ∈ c.pointsTo) : EqvGen facts.Targets a b := by
  obtain ⟨m, hm, rfl | target⟩ := (h.pointsTo b).1 hb
  · exact h.linked a ha b hm
  · exact (h.linked a ha m hm).trans _ _ _ (.rel m b target)

/-- Classes that meet are connected through what they both point to. -/
theorem Holds.join {c d : PendingClass} (hc : facts.Holds c) (hd : facts.Holds d)
    (meet : c.meets d = true) : facts.Holds (c.join d) := by
  obtain ⟨v, hv, hv'⟩ := PendingClass.meets_iff.1 meet
  have across : ∀ a ∈ c.members, ∀ b ∈ d.members, EqvGen facts.Targets a b := by
    intro a ha b hb
    exact (hc.connected ha hv).trans _ _ _ ((hd.connected hb hv').symm _ _)
  refine ⟨?_, fun a ha b hb => ?_, fun b => ?_⟩
  · obtain ⟨u, hu⟩ := hc.inhabited
    exact ⟨u, PendingClass.mem_members_join.2 (Or.inl hu)⟩
  · rcases PendingClass.mem_members_join.1 ha with ha | ha <;>
      rcases PendingClass.mem_members_join.1 hb with hb | hb
    · exact hc.linked a ha b hb
    · exact across a ha b hb
    · exact (across b hb a ha).symm _ _
    · exact hd.linked a ha b hb
  · rw [PendingClass.mem_pointsTo_join, hc.pointsTo, hd.pointsTo]
    simp only [PendingClass.mem_members_join]
    constructor
    · rintro (⟨a, ha, h⟩ | ⟨a, ha, h⟩)
      · exact ⟨a, Or.inl ha, h⟩
      · exact ⟨a, Or.inr ha, h⟩
    · rintro ⟨a, ha | ha, h⟩
      · exact Or.inl ⟨a, ha, h⟩
      · exact Or.inr ⟨a, ha, h⟩

theorem Splits.coarsens {cs ds : List PendingClass} (h : facts.Splits cs)
    (step : PendingClass.Coarsens cs ds) : facts.Splits ds := by
  induction step with
  | @perm cs ds same =>
    refine ⟨fun v => ?_, (same.pairwise_iff fun h => h.symm).1 h.disjoint,
      fun c hc => h.holds c (same.mem_iff.2 hc)⟩
    rw [h.covers]
    simp only [same.mem_iff]
  | @merge c d cs meet =>
    obtain ⟨apart, rest⟩ := List.pairwise_cons.1 h.disjoint
    obtain ⟨apart', rest⟩ := List.pairwise_cons.1 rest
    refine ⟨fun v => ?_, List.pairwise_cons.2 ⟨fun e he v hv => ?_, rest⟩, fun e he => ?_⟩
    · rw [h.covers]
      simp only [List.mem_cons, or_and_right, exists_or, exists_eq_left, PendingClass.mem_members_join, or_assoc]
    · rcases PendingClass.mem_members_join.1 hv with hv | hv
      · exact apart e (List.mem_cons_of_mem d he) v hv
      · exact apart' e he v hv
    · rcases List.mem_cons.1 he with rfl | he
      · exact (h.holds c (by simp)).join (h.holds d (by simp)) meet
      · exact h.holds e (by simp [he])
  | trans _ _ ih₁ ih₂ => exact ih₂ (ih₁ h)

theorem splits_singles (facts : PointsTo) : facts.Splits facts.singles := by
  have members : ∀ {v w : Value} {ts : SortedSet Value}, v ∈ (PendingClass.single w ts).members ↔ v = w := by
    intro v w ts
    simp [PendingClass.single]
  refine ⟨fun v => ?_, ?_, fun c hc => ?_⟩
  · simp only [singles, List.mem_map, Has, Option.isSome_iff_exists, SortedMap.get?_eq_some_iff]
    constructor
    · rintro ⟨ts, hts⟩
      exact ⟨_, ⟨(v, ts), hts, rfl⟩, members.2 rfl⟩
    · rintro ⟨_, ⟨row, hrow, rfl⟩, hv⟩
      cases members.1 hv
      exact ⟨row.2, hrow⟩
  · refine List.pairwise_map.2 (facts.targets.sorted.imp fun {a b} before v hv hv' => ?_)
    exact Key.ne_of_before before ((members.1 hv).symm.trans (members.1 hv'))
  · obtain ⟨row, hrow, rfl⟩ := List.mem_map.1 hc
    have get := SortedMap.get?_eq_some_iff.2 hrow
    refine ⟨⟨row.1, members.2 rfl⟩, fun a ha b hb => ?_, fun b => ?_⟩
    · rw [members.1 ha, members.1 hb]
      exact .refl _
    · simp only [members, exists_eq_left, Targets, get, Option.some.injEq, exists_eq_left']
      exact SortedSet.mem_insert

end PointsTo

end PeerTaint
