import Mathlib.Logic.Function.Iterate
import PeerTaint.Proofs.Merging

/-!
Merging classes in place.

Classes can be merged where they stand: every two places are compared in turn, and a class that goes into an
earlier one leaves a gap. A round compares all places, and gaps stay, so that all rounds make the same
comparisons. What survives a round is what a pass leaves (`survivors_round`), and each comparison takes at most
one class away and counts it. So rounds end, and the number of merges limits how many there are. Since a
comparison is a step of `Coarsens`, the survivors are classes of the facts in the middle of a round as well.
-/

namespace PeerTaint

/-- Classes that are merged in place, with gaps for those that went into others, and the number of merges. -/
structure MergeBoard where
  places : List (Option PendingClass)
  merges : Nat := 0
  deriving DecidableEq

namespace MergeBoard

/-- The classes that are left, in order. -/
def survivors (s : MergeBoard) : List PendingClass := s.places.filterMap id

/-- Compares the classes at two places and merges the second into the first if they meet. -/
def compare (s : MergeBoard) (e : Nat × Nat) : MergeBoard :=
  match s.places[e.1]?.join, s.places[e.2]?.join with
  | some c, some d =>
    if c.meets d then ⟨(s.places.set e.1 (some (c.join d))).set e.2 none, s.merges + 1⟩ else s
  | _, _ => s

/-- Makes comparisons in order. -/
def through (s : MergeBoard) (es : List (Nat × Nat)) : MergeBoard := es.foldl compare s

/-- The comparisons of one of `n` places with those after it. -/
def row (n i : Nat) : List (Nat × Nat) := (List.range' (i + 1) (n - (i + 1))).map fun j => (i, j)

/-- All comparisons of `n` places. -/
def comparisons (n : Nat) : List (Nat × Nat) := (List.range' 0 n).flatMap (row n)

/-- Compares all places. -/
def round (s : MergeBoard) : MergeBoard := s.through (comparisons s.places.length)

/-! ## One comparison -/

theorem lt_of_mem_comparisons {n : Nat} {e : Nat × Nat} (h : e ∈ comparisons n) : e.1 < e.2 := by
  simp only [comparisons, row, List.mem_flatMap, List.mem_map, List.mem_range'_1] at h
  obtain ⟨i, -, j, hj, rfl⟩ := h
  exact hj.1

theorem exists_split {α : Type} {l : List α} {i : Nat} {x : α} (h : l[i]? = some x) :
    ∃ front back, l = front ++ x :: back ∧ front.length = i := by
  obtain ⟨hi, -⟩ := List.getElem?_eq_some_iff.1 h
  exact ⟨l.take i, l.drop (i + 1), (take_append_cons_drop h).symm, List.length_take_of_le (Nat.le_of_lt hi)⟩

/-- Two classes, with what stands before, between and behind them. -/
theorem compare_of_split {s : MergeBoard} {front between back : List (Option PendingClass)} {c d : PendingClass}
    (split : s.places = front ++ some c :: (between ++ some d :: back)) :
    s.compare (front.length, front.length + (between.length + 1)) =
      if c.meets d then ⟨front ++ some (c.join d) :: (between ++ none :: back), s.merges + 1⟩ else s := by
  have first : s.places[front.length]?.join = some c := by simp [split]
  have second : s.places[front.length + (between.length + 1)]?.join = some d := by simp [split]
  simp only [compare, first, second]
  split
  · simp [split]
  · rfl

theorem compare_of_gap {s : MergeBoard} {i j : Nat} (gap : s.places[i]?.join = none ∨ s.places[j]?.join = none) :
    s.compare (i, j) = s := by
  unfold compare
  split
  · next hc hd => simp_all
  · rfl

/-- What a comparison does: nothing, or it merges the classes at two places. -/
theorem compare_cases (s : MergeBoard) {e : Nat × Nat} (lt : e.1 < e.2) :
    s.compare e = s ∨ ∃ front c between d back, s.places = front ++ some c :: (between ++ some d :: back) ∧
      c.meets d = true ∧
      s.compare e = ⟨front ++ some (c.join d) :: (between ++ none :: back), s.merges + 1⟩ := by
  obtain ⟨i, j⟩ := e
  by_cases gap : s.places[i]?.join = none ∨ s.places[j]?.join = none
  · exact .inl (compare_of_gap gap)
  · obtain ⟨⟨c, hc⟩, ⟨d, hd⟩⟩ := (not_or.1 gap).imp Option.ne_none_iff_exists'.1 Option.ne_none_iff_exists'.1
    obtain ⟨front, rest, split, rfl⟩ := exists_split (Option.join_eq_some_iff.1 hc)
    obtain ⟨k, rfl⟩ : ∃ k, j = front.length + k + 1 := Nat.exists_eq_add_of_lt lt
    rw [Option.join_eq_some_iff, split, List.getElem?_append_right (by omega),
      show front.length + k + 1 - front.length = k + 1 by omega, List.getElem?_cons_succ] at hd
    obtain ⟨between, back, rfl, rfl⟩ := exists_split hd
    rw [Nat.add_assoc, compare_of_split split]
    by_cases meet : c.meets d = true
    · exact .inr ⟨front, c, between, d, back, split, meet, if_pos meet⟩
    · exact .inl (if_neg meet)

/-- A comparison keeps the places, lets at most two classes that meet become one, and counts it. -/
structure Advances (s s' : MergeBoard) : Prop where
  places : s'.places.length = s.places.length
  coarsens : PendingClass.Coarsens s.survivors s'.survivors
  merges : s'.merges + s'.survivors.length = s.merges + s.survivors.length

theorem Advances.refl (s : MergeBoard) : Advances s s := ⟨rfl, .refl _, rfl⟩

theorem Advances.trans {s s' s'' : MergeBoard} (h : Advances s s') (h' : Advances s' s'') : Advances s s'' :=
  ⟨h'.places.trans h.places, h.coarsens.trans h'.coarsens, h'.merges.trans h.merges⟩

theorem advances_compare (s : MergeBoard) {e : Nat × Nat} (lt : e.1 < e.2) : Advances s (s.compare e) := by
  rcases s.compare_cases lt with same | ⟨front, c, between, d, back, split, meet, merged⟩
  · rw [same]
    exact .refl s
  · have before : s.survivors = front.filterMap id ++ c :: (between.filterMap id ++ d :: back.filterMap id) := by
      simp [survivors, split]
    have after : (s.compare e).survivors =
        front.filterMap id ++ c.join d :: (between.filterMap id ++ back.filterMap id) := by
      simp [survivors, merged]
    refine ⟨by simp [merged, split], ?_, ?_⟩
    · -- the two classes are brought to the front, merged there, and the class is put back
      rw [before, after]
      refine .trans (.perm ?_) (.trans (.merge (front.filterMap id ++ (between.filterMap id ++ back.filterMap id))
        meet) (.perm List.perm_middle.symm))
      refine List.perm_middle.trans (.cons c ?_)
      rw [← List.append_assoc, ← List.append_assoc]
      exact List.perm_middle
    · rw [before, after, merged]
      simp only [List.length_append, List.length_cons]
      omega

theorem advances_through (s : MergeBoard) {es : List (Nat × Nat)} (lt : ∀ e ∈ es, e.1 < e.2) :
    Advances s (s.through es) :=
  List.foldlRecOn (motive := Advances s) es compare (.refl s) fun s' h e he =>
    h.trans (s'.advances_compare (lt e he))

theorem advances_round (s : MergeBoard) : Advances s s.round :=
  s.advances_through fun _ => lt_of_mem_comparisons

/-! ## One round -/

/-- Compared with the places after it, a class absorbs what it meets there. -/
theorem through_row {front : List (Option PendingClass)} (between rest : List (Option PendingClass))
    {s : MergeBoard} {c : PendingClass}
    (split : s.places = front ++ some c :: (between ++ rest)) :
    ∃ rest', (s.through ((List.range' (front.length + (between.length + 1)) rest.length).map
        fun j => (front.length, j))).places =
          front ++ some (PendingClass.absorb c (rest.filterMap id)).1 :: (between ++ rest') ∧
      rest'.filterMap id = (PendingClass.absorb c (rest.filterMap id)).2 ∧ rest'.length = rest.length := by
  induction rest generalizing s c between with
  | nil => exact ⟨[], by simpa [through, PendingClass.absorb] using split, rfl, rfl⟩
  | cons x rest ih =>
    -- the place that was compared belongs to those in between from here on
    have next : ∀ {s' : MergeBoard} {c' : PendingClass} {y : Option PendingClass},
        s.compare (front.length, front.length + (between.length + 1)) = s' →
        s'.places = front ++ some c' :: (between ++ y :: rest) →
        ∃ rest', (s.through ((List.range' (front.length + (between.length + 1)) (x :: rest).length).map
          fun j => (front.length, j))).places =
            front ++ some (PendingClass.absorb c' (rest.filterMap id)).1 :: (between ++ y :: rest') ∧
          rest'.filterMap id = (PendingClass.absorb c' (rest.filterMap id)).2 ∧ rest'.length = rest.length := by
      intro s' c' y compared split'
      obtain ⟨rest', places, left, length⟩ := ih (between ++ [y]) (s := s') (c := c') (by simpa using split')
      refine ⟨rest', ?_, left, length⟩
      rw [List.length_cons, List.range'_succ, List.map_cons, through, List.foldl_cons, compared]
      simpa [through, Nat.add_assoc] using places
    cases x with
    | none =>
      have gap : s.places[front.length + (between.length + 1)]?.join = none := by simp [split]
      obtain ⟨rest', places, left, length⟩ := next (compare_of_gap (.inr gap)) split
      exact ⟨none :: rest', places, by simpa using left, by simpa using length⟩
    | some d =>
      have compared := compare_of_split split
      rw [List.filterMap_cons_some (f := id) (a := some d) rfl, PendingClass.absorb]
      by_cases meet : c.meets d = true
      · rw [if_pos meet] at compared
        rw [if_pos meet]
        obtain ⟨rest', places, left, length⟩ := next compared rfl
        exact ⟨none :: rest', places, by simpa using left, by simpa using length⟩
      · rw [if_neg meet] at compared
        rw [if_neg meet]
        obtain ⟨rest', places, left, length⟩ := next compared split
        exact ⟨some d :: rest', places, by simpa using left, by simpa using length⟩

theorem through_append (s : MergeBoard) (es es' : List (Nat × Nat)) :
    s.through (es ++ es') = (s.through es).through es' := List.foldl_append

theorem through_of_gap {s : MergeBoard} {i : Nat} (gap : s.places[i]?.join = none) (n : Nat) :
    s.through (row n i) = s := by
  refine List.foldlRecOn (motive := fun s' => s' = s) _ compare rfl fun s' same e he => ?_
  obtain ⟨j, -, rfl⟩ := List.mem_map.1 he
  rw [same, compare_of_gap (.inl gap)]

/-- From some place on, the comparisons do what a pass does with the classes there. -/
theorem through_rows (k : Nat) (front rest : List (Option PendingClass)) {s : MergeBoard}
    (split : s.places = front ++ rest) (length : rest.length = k) :
    ∃ rest', (s.through ((List.range' front.length k).flatMap (row (front.length + k)))).places = front ++ rest' ∧
      rest'.filterMap id = PendingClass.pass (rest.filterMap id) := by
  induction k generalizing s front rest with
  | zero =>
    obtain rfl := List.length_eq_zero_iff.1 length
    exact ⟨[], split, by simp [PendingClass.pass]⟩
  | succ k ih =>
    obtain ⟨x, rest, rfl⟩ := List.exists_cons_of_length_eq_add_one length
    rw [List.length_cons, Nat.add_right_cancel_iff] at length
    rw [List.range'_succ, List.flatMap_cons, through_append]
    -- the first place is done with its row, and belongs to the front from here on
    have next : ∀ {y : Option PendingClass} {rest₁ : List (Option PendingClass)},
        (s.through (row (front.length + (k + 1)) front.length)).places = front ++ y :: rest₁ →
        rest₁.length = k →
        ∃ rest', ((s.through (row (front.length + (k + 1)) front.length)).through
            ((List.range' (front.length + 1) k).flatMap (row (front.length + (k + 1))))).places =
              front ++ y :: rest' ∧ rest'.filterMap id = PendingClass.pass (rest₁.filterMap id) := by
      intro y rest₁ places length₁
      obtain ⟨rest', places', left⟩ := ih (front ++ [y]) rest₁ (by simpa using places) length₁
      refine ⟨rest', ?_, left⟩
      simpa [Nat.add_assoc, Nat.add_comm 1 k] using places'
    cases x with
    | none =>
      have stays := through_of_gap (s := s) (i := front.length) (by simp [split]) (front.length + (k + 1))
      obtain ⟨rest', places, left⟩ := next (stays ▸ split) length
      exact ⟨none :: rest', places, by simpa using left⟩
    | some c =>
      obtain ⟨rest₁, places₁, left₁, length₁⟩ := through_row [] rest split
      have rowed : row (front.length + (k + 1)) front.length =
          (List.range' (front.length + 1) rest.length).map fun j => (front.length, j) := by
        rw [row, length]
        congr 2
        omega
      obtain ⟨rest', places, left⟩ := next (rowed ▸ places₁) (length₁.trans length)
      refine ⟨_ :: rest', places, ?_⟩
      rw [List.filterMap_cons_some (f := id) (a := some c) rfl, PendingClass.pass,
        List.filterMap_cons_some (f := id) rfl, left, left₁]

/-- A round leaves what a pass leaves. -/
theorem survivors_round (s : MergeBoard) : s.round.survivors = PendingClass.pass s.survivors := by
  obtain ⟨rest', places, left⟩ := through_rows s.places.length [] s.places (s := s) rfl rfl
  rw [survivors, round, comparisons]
  simp only [List.length_nil, Nat.zero_add, List.nil_append] at places
  rw [places, left]
  rfl

theorem survivors_iterate_round (k : Nat) (s : MergeBoard) :
    (round^[k] s).survivors = PendingClass.pass^[k] s.survivors := by
  induction k generalizing s with
  | zero => rfl
  | succ k ih => rw [Function.iterate_succ_apply, ih, survivors_round, Function.iterate_succ_apply]

theorem advances_iterate_round (k : Nat) (s : MergeBoard) : Advances s (round^[k] s) := by
  induction k with
  | zero => exact .refl s
  | succ k ih =>
    rw [Function.iterate_succ_apply']
    exact ih.trans (advances_round _)

end MergeBoard

/-! ## When rounds end -/

namespace PendingClass

/-- Passes go on as long as they merge something, and the one that merges nothing is the last. -/
theorem settle_eq_iterate (cs : List PendingClass) : ∃ m, settle cs = (pass^[m + 1] cs, m + 1) ∧
    (∀ k < m, (pass^[k + 1] cs).length < (pass^[k] cs).length) ∧ pass^[m + 1] cs = pass^[m] cs := by
  fun_induction settle cs with
  | case1 cs fewer settled passes hs ih =>
    obtain ⟨m, same, goesOn, last⟩ := ih
    rw [hs, Prod.mk.injEq] at same
    refine ⟨m + 1, ?_, fun k hk => ?_, last⟩
    · rw [same.1, same.2]
      rfl
    · cases k with
      | zero => exact fewer
      | succ k => exact goesOn k (by omega)
  | case2 cs full =>
    exact ⟨0, rfl, fun k hk => absurd hk (Nat.not_lt_zero k), (pass_of_length (Nat.not_lt.1 full)).1⟩

/-- A pass that merges something takes a class away. -/
theorem length_iterate_pass_add {cs : List PendingClass} {m : Nat}
    (goesOn : ∀ k < m, (pass^[k + 1] cs).length < (pass^[k] cs).length) :
    (pass^[m] cs).length + m ≤ cs.length := by
  induction m with
  | zero => exact Nat.le_refl _
  | succ m ih =>
    have before := ih fun k hk => goesOn k (by omega)
    have := goesOn m (by omega)
    omega

end PendingClass

namespace PointsTo

/-- What a value points to before anything is merged: itself and its targets. -/
def seed (facts : PointsTo) (v : Value) : SortedSet Value := ((facts.targets.get? v).getD .empty).insert v

/-- The classes of the facts after some rounds of merging in place. -/
def board (facts : PointsTo) (k : Nat) : MergeBoard := MergeBoard.round^[k] { places := facts.singles.map some }

variable (facts : PointsTo)

theorem survivors_board_zero : (facts.board 0).survivors = facts.singles := by
  simp [board, MergeBoard.survivors, List.filterMap_map]

theorem advances_board (k : Nat) : MergeBoard.Advances (facts.board 0) (facts.board k) :=
  MergeBoard.advances_iterate_round k _

theorem survivors_board (k : Nat) : (facts.board k).survivors = PendingClass.pass^[k] facts.singles := by
  rw [← survivors_board_zero]
  exact MergeBoard.survivors_iterate_round k _

/-- All rounds make the same comparisons. -/
theorem board_succ (k : Nat) :
    facts.board (k + 1) = (facts.board k).through (MergeBoard.comparisons facts.ids.length) := by
  have places : (facts.board k).places.length = facts.ids.length := by
    rw [(facts.advances_board k).places, board, Function.iterate_zero_apply, List.length_map, singles, ids,
      SortedMap.keys, List.length_map, List.length_map]
  rw [board, Function.iterate_succ_apply', ← places]
  rfl

theorem merges_board (k : Nat) :
    (facts.board k).merges + (PendingClass.pass^[k] facts.singles).length = facts.ids.length := by
  have kept := (facts.advances_board k).merges
  have start : (facts.board 0).merges = 0 := rfl
  rw [survivors_board, survivors_board_zero, start] at kept
  rw [kept, Nat.zero_add, singles, ids, SortedMap.keys, List.length_map, List.length_map]

/-- In the middle of a round the survivors are classes of the facts. -/
theorem splits_through_board (k : Nat) {steps : List (Nat × Nat)} {n : Nat}
    (started : steps <+: MergeBoard.comparisons n) :
    facts.Splits ((facts.board k).through steps).survivors := by
  have inRound := (facts.board k).advances_through fun e he =>
    MergeBoard.lt_of_mem_comparisons (started.subset he)
  have all := (facts.advances_board k).trans inRound
  refine Splits.coarsens ?_ all.coarsens
  rw [survivors_board_zero]
  exact splits_singles facts

theorem singles_eq : facts.singles = facts.ids.map fun v => ⟨.ofList [v], facts.seed v⟩ := by
  rw [singles, ids, SortedMap.keys, List.map_map]
  refine List.map_congr_left fun row hrow => ?_
  simp [PendingClass.single, seed, SortedMap.get?_eq_some_iff.2 hrow]

theorem Holds.mem_pointsTo_iff {facts : PointsTo} {c : PendingClass} (h : facts.Holds c) (b : Value) :
    b ∈ c.pointsTo ↔ ∃ v ∈ c.members, b ∈ facts.seed v := by
  rw [h.pointsTo]
  refine exists_congr fun v => and_congr_right fun _ => ?_
  rw [seed, SortedSet.mem_insert, Targets]
  cases facts.targets.get? v <;> simp

/-- Merging ends, and it ends as its record says: rounds go on as long as they merge something, the last one
merges nothing, and every merge takes one class away. After every comparison of every round the classes that
are left are disjoint, they make up all values, and each points to what its members pointed to at first, among
them the members themselves. -/
theorem mergeWithStats_in_rounds :
    let stats := facts.mergeWithStats.2
    stats.inputIds = facts.ids.length ∧ stats.classes ≤ stats.inputIds ∧
      stats.merges = stats.inputIds - stats.classes ∧ 1 ≤ stats.passes ∧ stats.passes ≤ stats.merges + 1 ∧
      (facts.board 0).survivors = (facts.ids.map fun v => ⟨.ofList [v], facts.seed v⟩) ∧
      (∀ k, facts.board (k + 1) = (facts.board k).through (MergeBoard.comparisons facts.ids.length)) ∧
      (∀ k, k + 1 < stats.passes → (facts.board k).merges < (facts.board (k + 1)).merges) ∧
      (facts.board stats.passes).merges = (facts.board (stats.passes - 1)).merges ∧
      (facts.board stats.passes).merges = stats.merges ∧
      (facts.board stats.passes).survivors.length = stats.classes ∧
      facts.merge = ((facts.board stats.passes).survivors.mergeSort listedBefore).foldl
        (fun part c => part.push c.members c.pointsTo.elems) {} ∧
      ∀ k < stats.passes, ∀ steps, steps <+: MergeBoard.comparisons facts.ids.length →
        let classes := ((facts.board k).through steps).survivors
        classes.Pairwise (fun c d => ∀ v, v ∈ c.members → v ∉ d.members) ∧
          (∀ v, v ∈ facts.ids ↔ ∃ c ∈ classes, v ∈ c.members) ∧
          ∀ c ∈ classes, (∀ v ∈ c.members, v ∈ c.pointsTo) ∧
            ∀ b, b ∈ c.pointsTo ↔ ∃ v ∈ c.members, b ∈ facts.seed v := by
  obtain ⟨m, settled, goesOn, last⟩ := PendingClass.settle_eq_iterate facts.singles
  have length : facts.singles.length = facts.ids.length := by rw [singles_eq, List.length_map]
  have stats : facts.mergeWithStats.2 = ⟨facts.ids.length, (PendingClass.pass^[m + 1] facts.singles).length,
      m + 1, facts.ids.length - (PendingClass.pass^[m + 1] facts.singles).length⟩ := by
    simp only [mergeWithStats, settled, length]
  have few := PendingClass.length_iterate_pass_add goesOn
  rw [← last, length] at few
  simp only [stats, Nat.add_sub_cancel]
  refine ⟨trivial, ?_, trivial, ?_, ?_, ?_, facts.board_succ, fun k hk => ?_, ?_, ?_, ?_, ?_,
    fun k _ steps started => ?_⟩
  · omega
  · omega
  · omega
  · rw [survivors_board_zero, singles_eq]
  · have := facts.merges_board k
    have := facts.merges_board (k + 1)
    have := goesOn k (by omega)
    omega
  · have := facts.merges_board m
    have after := facts.merges_board (m + 1)
    rw [last] at after
    omega
  · have := facts.merges_board (m + 1)
    omega
  · rw [survivors_board]
  · rw [survivors_board, merge, mergeWithStats, settled]
  · have split := facts.splits_through_board k started
    refine ⟨split.disjoint, fun v => ?_, fun c hc => ?_⟩
    · rw [← split.covers, ids, SortedMap.mem_keys_iff, Has]
    · have holds := split.holds c hc
      exact ⟨fun v hv => (holds.pointsTo v).2 ⟨v, hv, .inl rfl⟩, holds.mem_pointsTo_iff⟩

end PointsTo

end PeerTaint
