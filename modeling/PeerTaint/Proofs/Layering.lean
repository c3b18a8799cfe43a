import PeerTaint.Levels.Layers
import PeerTaint.Proofs.Reach

/-!
Layers are distances.

The distance of a vertex is the number of steps of a shortest walk from an entry (`AtDistance`). `Layered` says
what is known when a layer is about to be placed: it has the vertices at its distance, and the vertices that are
not placed have no walk that short. One step of the layering takes this to the next distance. A layer above has
a vertex with a shorter walk, so no layer is met a second time, and the layering ends only when no vertex is left
at the next distance.
-/

namespace PeerTaint

open Relation (ReflTransGen)

/-! ## Distances -/

section Distance

variable (next : Nat → List Nat) (entries : List Nat)

/-- A walk of `k` steps leads from an entry to a vertex. -/
inductive InSteps : Nat → Nat → Prop
  | entry {v : Nat} (start : v ∈ entries) : InSteps 0 v
  | step {k v w : Nat} (walk : InSteps k v) (edge : w ∈ next v) : InSteps (k + 1) w

/-- A shortest walk from an entry to a vertex has `k` steps. -/
def AtDistance (k v : Nat) : Prop := InSteps next entries k v ∧ ∀ j < k, ¬ InSteps next entries j v

variable {next entries} {j k v w : Nat}

theorem inSteps_zero_iff : InSteps next entries 0 v ↔ v ∈ entries := by
  constructor
  · intro walk
    cases walk with
    | entry start => exact start
  · exact .entry

theorem inSteps_succ_iff : InSteps next entries (k + 1) w ↔ ∃ v, InSteps next entries k v ∧ w ∈ next v := by
  constructor
  · intro walk
    cases walk with
    | step walk edge => exact ⟨_, walk, edge⟩
  · rintro ⟨v, walk, edge⟩
    exact .step walk edge

theorem atDistance_zero_iff : AtDistance next entries 0 v ↔ v ∈ entries := by
  simp [AtDistance, inSteps_zero_iff]

theorem AtDistance.unique (h : AtDistance next entries j v) (h' : AtDistance next entries k v) : j = k := by
  rcases Nat.lt_trichotomy j k with lt | eq | lt
  · exact absurd h.1 (h'.2 j lt)
  · exact eq
  · exact absurd h'.1 (h.2 k lt)

/-- What has a walk has a distance. -/
theorem InSteps.exists_atDistance (h : InSteps next entries k v) : ∃ j ≤ k, AtDistance next entries j v := by
  induction k using Nat.strong_induction_on with
  | _ k ih =>
    by_cases shorter : ∃ j < k, InSteps next entries j v
    · obtain ⟨j, lt, walk⟩ := shorter
      obtain ⟨i, le, distance⟩ := ih j lt walk
      exact ⟨i, le.trans lt.le, distance⟩
    · exact ⟨k, le_rfl, h, fun j lt walk => shorter ⟨j, lt, walk⟩⟩

/-- The next distance: a step from the last one, and no walk so far. -/
theorem atDistance_succ_iff : AtDistance next entries (k + 1) w ↔
    (∃ v, AtDistance next entries k v ∧ w ∈ next v) ∧ ∀ j ≤ k, ¬ InSteps next entries j w := by
  constructor
  · rintro ⟨walk, shortest⟩
    obtain ⟨v, before, edge⟩ := inSteps_succ_iff.1 walk
    refine ⟨⟨v, ⟨before, fun j lt shorter => ?_⟩, edge⟩, fun j le => shortest j (Nat.lt_succ_of_le le)⟩
    exact shortest (j + 1) (Nat.succ_lt_succ lt) (.step shorter edge)
  · rintro ⟨⟨v, ⟨before, -⟩, edge⟩, new⟩
    exact ⟨.step before edge, fun j lt => new j (Nat.le_of_lt_succ lt)⟩

/-- There are no gaps between distances. -/
theorem AtDistance.exists_before (h : AtDistance next entries k v) (le : j ≤ k) :
    ∃ w, AtDistance next entries j w := by
  induction k generalizing v with
  | zero =>
    obtain rfl := Nat.le_zero.1 le
    exact ⟨v, h⟩
  | succ k ih =>
    rcases Nat.le_succ_iff.1 le with le | rfl
    · obtain ⟨⟨w, before, -⟩, -⟩ := atDistance_succ_iff.1 h
      exact ih before le
    · exact ⟨v, h⟩

/-- What has a distance is what the entries lead to. -/
theorem exists_atDistance_iff : (∃ k, AtDistance next entries k v) ↔
    ∃ e ∈ entries, ReflTransGen (fun a b => b ∈ next a) e v := by
  constructor
  · rintro ⟨k, walk, -⟩
    induction walk with
    | entry start => exact ⟨_, start, .refl⟩
    | step walk edge ih =>
      obtain ⟨e, he, path⟩ := ih
      exact ⟨e, he, path.tail edge⟩
  · rintro ⟨e, he, path⟩
    suffices ∃ k, InSteps next entries k v by
      obtain ⟨k, walk⟩ := this
      obtain ⟨j, -, distance⟩ := walk.exists_atDistance
      exact ⟨j, distance⟩
    induction path with
    | refl => exact ⟨0, .entry he⟩
    | tail _ edge ih =>
      obtain ⟨k, walk⟩ := ih
      exact ⟨k + 1, .step walk edge⟩

/-- A vertex that only one vertex leads to, and that is no entry, is one step further away than that vertex. -/
theorem atDistance_of_only {u : Nat} (other : v ∉ entries) (only : ∀ w, v ∈ next w ↔ w = u) :
    AtDistance next entries k v ↔ ∃ j, AtDistance next entries j u ∧ k = j + 1 := by
  have walks : ∀ i, InSteps next entries (i + 1) v ↔ InSteps next entries i u := by
    intro i
    simp only [inSteps_succ_iff, only, exists_eq_right]
  cases k with
  | zero => simp [atDistance_zero_iff, other]
  | succ k =>
    simp only [Nat.add_right_cancel_iff, exists_eq_right', AtDistance, walks]
    refine and_congr_right fun _ => ?_
    constructor
    · intro shortest j lt walk
      exact shortest (j + 1) (Nat.succ_lt_succ lt) ((walks j).2 walk)
    · intro shortest j lt walk
      cases j with
      | zero => exact other (inSteps_zero_iff.1 walk)
      | succ j => exact shortest j (Nat.lt_of_succ_lt_succ lt) ((walks j).1 walk)

end Distance

/-! ## Layering -/

/-- What is known when the layer at distance `k` is about to be placed. -/
structure Layered (n : Nat) (next : Nat → List Nat) (entries : List Nat) (k : Nat) (above : List (List Nat))
    (current unplaced : List Nat) : Prop where
  near : ∀ v, v ∈ current ↔ AtDistance next entries k v
  far : ∀ v, v ∈ unplaced ↔ v < n ∧ ∀ j ≤ k, ¬ InSteps next entries j v
  nearer : ∀ layer ∈ above, ∃ v ∈ layer, ∃ j < k, InSteps next entries j v
  ascending : current.Pairwise (· < ·)
  ascending_unplaced : unplaced.Pairwise (· < ·)

section Layers

variable {n k : Nat} {next : Nat → List Nat} {entries : List Nat} {above : List (List Nat)}
  {current unplaced : List Nat}

/-- No layer is repeated: a layer above has a vertex with a shorter walk. -/
theorem Layered.new (h : Layered n next entries k above current unplaced) : current ∉ above := by
  intro repeated
  obtain ⟨v, hv, j, lt, walk⟩ := h.nearer current repeated
  exact ((h.near v).1 hv).2 j lt walk

/-- Placing a layer leads to the next distance. -/
theorem Layered.place (closed : ∀ v < n, ∀ w ∈ next v, w < n)
    (h : Layered n next entries k above current unplaced) (inside : ∀ v ∈ current, v < n)
    (nonempty : current ≠ []) :
    Layered n next entries (k + 1) (current :: above) (discovered (neighboursOf next current) unplaced)
      (undiscovered (neighboursOf next current) unplaced) := by
  have reached : ∀ w, w ∈ neighboursOf next current ↔ ∃ v, AtDistance next entries k v ∧ w ∈ next v := by
    intro w
    simp only [neighboursOf, List.mem_flatMap, h.near]
  refine ⟨fun w => ?_, fun w => ?_, fun layer hlayer => ?_, h.ascending_unplaced.filter _,
    h.ascending_unplaced.filter _⟩
  · rw [mem_discovered, reached, h.far, atDistance_succ_iff]
    constructor
    · rintro ⟨⟨-, new⟩, step⟩
      exact ⟨step, new⟩
    · rintro ⟨step, new⟩
      obtain ⟨v, hv, edge⟩ := step
      exact ⟨⟨closed v (inside v ((h.near v).2 hv)) w edge, new⟩, v, hv, edge⟩
  · rw [mem_undiscovered, reached, h.far, and_assoc]
    refine and_congr_right fun _ => ?_
    constructor
    · rintro ⟨new, far⟩ j le walk
      rcases Nat.le_succ_iff.1 le with le | rfl
      · exact new j le walk
      · refine far (atDistance_succ_iff.1 ⟨walk, fun j lt => new j (Nat.le_of_lt_succ lt)⟩).1
    · intro new
      refine ⟨fun j le => new j (Nat.le_succ_of_le le), ?_⟩
      rintro ⟨v, ⟨walk, -⟩, edge⟩
      exact new (k + 1) le_rfl (.step walk edge)
  · rcases List.mem_cons.1 hlayer with rfl | hlayer
    · obtain ⟨v, hv⟩ := List.exists_mem_of_ne_nil layer nonempty
      exact ⟨v, hv, k, Nat.lt_succ_self k, ((h.near v).1 hv).1⟩
    · obtain ⟨v, hv, j, lt, walk⟩ := h.nearer layer hlayer
      exact ⟨v, hv, j, Nat.lt_succ_of_lt lt, walk⟩

theorem InSteps.lt {v : Nat} (closed : ∀ v < n, ∀ w ∈ next v, w < n) (inside : ∀ v ∈ entries, v < n)
    (h : InSteps next entries k v) : v < n := by
  induction h with
  | entry start => exact inside _ start
  | step _ edge ih => exact closed _ ih _ edge

/-- From a distance on, layer after layer has the vertices at the next distance, and ends with the last one. -/
theorem Layered.layersFrom (closed : ∀ v < n, ∀ w ∈ next v, w < n) (inside : ∀ v ∈ entries, v < n)
    (h : Layered n next entries k above current unplaced) :
    (∀ i v, v ∈ (layersFrom next above current unplaced)[i]?.getD [] ↔ AtDistance next entries (k + i) v) ∧
      ∀ layer ∈ layersFrom next above current unplaced, layer ≠ [] ∧ layer.Pairwise (· < ·) := by
  fun_induction PeerTaint.layersFrom next above current unplaced generalizing k with
  | case1 above current unplaced stop =>
    -- the guard against a repeated layer does not fire, so the layer is empty
    have empty : current = [] := by
      simpa [h.new] using stop
    refine ⟨fun i v => ?_, by simp⟩
    have none : ¬ AtDistance next entries (k + i) v := by
      intro distance
      obtain ⟨w, hw⟩ := distance.exists_before (Nat.le_add_right k i)
      have := (h.near w).2 hw
      rw [empty] at this
      cases this
    simpa using none
  | case2 above current unplaced go ih =>
    have nonempty : current ≠ [] := by
      intro empty
      simp [empty] at go
    have within : ∀ v ∈ current, v < n := fun v hv => ((h.near v).1 hv).1.lt closed inside
    obtain ⟨layers, shape⟩ := ih (h.place closed within nonempty)
    refine ⟨fun i v => ?_, List.forall_mem_cons.2 ⟨⟨nonempty, h.ascending⟩, shape⟩⟩
    cases i with
    | zero => simpa using h.near v
    | succ i =>
      rw [List.getElem?_cons_succ, layers i v, Nat.add_assoc, Nat.add_comm 1 i]

theorem layered_entries (n : Nat) (next : Nat → List Nat) (entries : List Nat) :
    Layered n next entries 0 [] (SortedSet.ofList entries).elems
      ((List.range n).filter fun v => !entries.contains v) where
  near v := by rw [← SortedSet.mem_def, SortedSet.mem_ofList, atDistance_zero_iff]
  far v := by simp [inSteps_zero_iff]
  nearer := by simp
  ascending := (SortedSet.ofList entries).sorted.imp of_decide_eq_true
  ascending_unplaced := List.pairwise_lt_range.filter _

theorem mem_layers_iff (closed : ∀ v < n, ∀ w ∈ next v, w < n) (inside : ∀ v ∈ entries, v < n) {v : Nat} :
    v ∈ (layers n next entries)[k]?.getD [] ↔ AtDistance next entries k v := by
  have := ((layered_entries n next entries).layersFrom closed inside).1 k v
  rwa [Nat.zero_add] at this

/-- The layers of a graph are its distances from the entries: a layer has the vertices at its distance, and
there is a layer for every distance. So layers are not empty, they share no vertex, and all of them
together have what the entries lead to. -/
theorem layers_are_distances (n : Nat) (next : Nat → List Nat) (closed : ∀ v < n, ∀ w ∈ next v, w < n)
    (entries : List Nat) (inside : ∀ v ∈ entries, v < n) :
    (∀ k v, v ∈ (layers n next entries)[k]?.getD [] ↔ AtDistance next entries k v) ∧
      (∀ k, k < (layers n next entries).length ↔ ∃ v, AtDistance next entries k v) ∧
      (∀ layer ∈ layers n next entries, layer ≠ [] ∧ layer.Pairwise (· < ·)) ∧
      (layers n next entries).Pairwise List.Disjoint ∧
      ∀ v, (∃ layer ∈ layers n next entries, v ∈ layer) ↔
        ∃ e ∈ entries, ReflTransGen (fun a b => b ∈ next a) e v := by
  have distance : ∀ k v, v ∈ (layers n next entries)[k]?.getD [] ↔ AtDistance next entries k v :=
    fun k v => mem_layers_iff closed inside
  have shape : ∀ layer ∈ layers n next entries, layer ≠ [] ∧ layer.Pairwise (· < ·) :=
    ((layered_entries n next entries).layersFrom closed inside).2
  have at_layer : ∀ k (hk : k < (layers n next entries).length) v,
      v ∈ (layers n next entries)[k] ↔ AtDistance next entries k v := by
    intro k hk v
    rw [← distance, List.getElem?_eq_getElem hk, Option.getD_some]
  refine ⟨distance, fun k => ?_, shape, ?_, fun v => ?_⟩
  · constructor
    · intro hk
      obtain ⟨v, hv⟩ := List.exists_mem_of_ne_nil _ (shape _ (List.getElem_mem hk)).1
      exact ⟨v, (at_layer k hk v).1 hv⟩
    · rintro ⟨v, hv⟩
      by_contra beyond
      have := (distance k v).2 hv
      rw [List.getElem?_eq_none (Nat.not_lt.1 beyond)] at this
      cases this
  · refine List.pairwise_iff_getElem.2 fun i j hi hj lt v hv hv' => ?_
    exact lt.ne (((at_layer i hi v).1 hv).unique ((at_layer j hj v).1 hv'))
  · rw [← exists_atDistance_iff]
    constructor
    · rintro ⟨layer, hlayer, hv⟩
      obtain ⟨k, hk, rfl⟩ := List.getElem_of_mem hlayer
      exact ⟨k, (at_layer k hk v).1 hv⟩
    · rintro ⟨k, hv⟩
      have hmem := (distance k v).2 hv
      cases hk : (layers n next entries)[k]? with
      | none => rw [hk] at hmem; cases hmem
      | some layer =>
        rw [hk] at hmem
        exact ⟨layer, List.mem_of_getElem? hk, hmem⟩

end Layers

/-- Two circles through `3`, with a loop at `0`, a repeated edge from there, and a vertex `5` that nothing leads
to. -/
def circles : Nat → List Nat
  | 0 => [0, 1, 1, 2]
  | 1 => [3]
  | 2 => [3, 0]
  | 3 => [1, 4]
  | 4 => [3]
  | 5 => [0]
  | _ => []

/-- The circles end the layering only when they are closed. -/
theorem layers_are_distances_circles : (∀ v < 6, ∀ w ∈ circles v, w < 6) ∧ (∀ v ∈ [0, 0], v < 6) ∧
    layers 6 circles [0, 0] = [[0], [1, 2], [3], [4]] ∧ AtDistance circles [0, 0] 3 4 ∧
    ¬ ∃ e ∈ [0, 0], ReflTransGen (fun a b => b ∈ circles a) e 5 := by
  have closed : ∀ v < 6, ∀ w ∈ circles v, w < 6 := by decide
  have inside : ∀ v ∈ [0, 0], v < 6 := by decide
  have found : layers 6 circles [0, 0] = [[0], [1, 2], [3], [4]] := by decide +kernel
  obtain ⟨distance, -, -, -, reach⟩ := layers_are_distances 6 circles closed [0, 0] inside
  rw [found] at distance reach
  refine ⟨closed, inside, found, (distance 3 4).1 (by decide), fun led => ?_⟩
  obtain ⟨layer, hlayer, h5⟩ := (reach 5).2 led
  revert layer
  decide

end PeerTaint
