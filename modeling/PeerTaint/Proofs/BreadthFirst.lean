import PeerTaint.Proofs.Searches

/-!
Breadth-first search.

`sweep` lists where a breadth-first search looks, in that order, each handle with the path that leads from it back
to where the search started. A handle is looked at once, paths get longer along the list, and a neighbour of a
handle that is looked at is itself looked at, on a path that is longer by one node at most. So no path back is
shorter than the one that the search has found.
-/

namespace PeerTaint

namespace Graph

/-- Where a breadth-first search looks, in that order: each handle with the path from it to where the search
started. -/
def sweep (next : NodeId → List NodeId) :
    List (NodeId × Trail) → List NodeId → List (NodeId × Trail)
  | [], _ => []
  | (n, path) :: agenda, unseen =>
    (n, path) :: sweep next (agenda ++ (discovered (next n) unseen).map fun m => (m, m :: path))
      (undiscovered (next n) unseen)
termination_by agenda unseen => agenda.length + unseen.length
decreasing_by
  have := length_discovered_add (next n) unseen
  simp only [List.length_append, List.length_cons, List.length_map]
  omega

section Sweep

variable {next : NodeId → List NodeId} {agenda : List (NodeId × Trail)} {unseen : List NodeId}

theorem agenda_subset_sweep {e : NodeId × Trail} (h : e ∈ agenda) : e ∈ sweep next agenda unseen := by
  fun_induction sweep next agenda unseen with
  | case1 => exact h
  | case2 n path agenda unseen ih =>
    rcases List.mem_cons.1 h with rfl | h
    · exact List.mem_cons_self
    · exact List.mem_cons_of_mem _ (ih (List.mem_append_left _ h))

/-- A property of the agenda that each step against the neighbours keeps holds wherever the search looks. A step
leads to an unseen handle, which is on no path yet. -/
theorem sweep_induction {S : NodeId → Trail → Prop} (start : ∀ e ∈ agenda, S e.1 e.2)
    (fresh : ∀ e ∈ agenda, ∀ k ∈ e.2, k ∉ unseen)
    (step : ∀ n path m, S n path → m ∈ next n → m ∈ unseen → m ∉ path → S m (m :: path))
    {e : NodeId × Trail} (h : e ∈ sweep next agenda unseen) : S e.1 e.2 := by
  fun_induction sweep next agenda unseen with
  | case1 => cases h
  | case2 n path agenda unseen ih =>
    have first := start (n, path) List.mem_cons_self
    have seen := fresh (n, path) List.mem_cons_self
    rcases List.mem_cons.1 h with rfl | h
    · exact first
    refine ih ?_ ?_ ?_ h
    · intro d hd
      rcases List.mem_append.1 hd with hd | hd
      · exact start d (List.mem_cons_of_mem _ hd)
      · obtain ⟨m, hm, rfl⟩ := List.mem_map.1 hd
        obtain ⟨unseen, near⟩ := mem_discovered.1 hm
        exact step n path m first near unseen fun on => seen m on unseen
    · intro d hd k hk left
      obtain ⟨unseen, far⟩ := mem_undiscovered.1 left
      rcases List.mem_append.1 hd with hd | hd
      · exact fresh d (List.mem_cons_of_mem _ hd) k hk unseen
      · obtain ⟨m, hm, rfl⟩ := List.mem_map.1 hd
        rcases List.mem_cons.1 hk with rfl | hk
        · exact far (mem_discovered.1 hm).2
        · exact seen k hk unseen
    · intro k way m hk near left new
      exact step k way m hk near (mem_undiscovered.1 left).1 new

/-- The search looks only at its agenda and at what it had not seen. -/
theorem sweep_subset {e : NodeId × Trail} (he : e ∈ sweep next agenda unseen) : e ∈ agenda ∨ e.1 ∈ unseen := by
  fun_induction sweep next agenda unseen with
  | case1 => exact .inl he
  | case2 n path agenda unseen ih =>
    rcases List.mem_cons.1 he with rfl | he
    · exact .inl List.mem_cons_self
    rcases ih he with he | he
    · rcases List.mem_append.1 he with he | he
      · exact .inl (List.mem_cons_of_mem _ he)
      · obtain ⟨m, hm, rfl⟩ := List.mem_map.1 he
        exact .inr (mem_discovered.1 hm).1
    · exact .inr (mem_undiscovered.1 he).1

/-- The search looks at no handle twice. -/
theorem nodup_sweep (distinct : (agenda.map (·.1)).Nodup) (fresh : ∀ e ∈ agenda, e.1 ∉ unseen)
    (nodup : unseen.Nodup) : ((sweep next agenda unseen).map (·.1)).Nodup := by
  fun_induction sweep next agenda unseen with
  | case1 => exact .nil
  | case2 n path agenda unseen ih =>
    obtain ⟨first, distinct⟩ := List.nodup_cons.1 distinct
    have seen : n ∉ unseen := fresh (n, path) List.mem_cons_self
    have new : ((discovered (next n) unseen).map fun m => (m, m :: path)).map (·.1) =
        discovered (next n) unseen := by
      rw [List.map_map]
      exact List.map_id _
    refine List.nodup_cons.2 ⟨fun hn => ?_, ih ?_ ?_ (nodup.filter _)⟩
    · obtain ⟨e, he, rfl⟩ := List.mem_map.1 hn
      rcases sweep_subset he with he | he
      · rcases List.mem_append.1 he with he | he
        · exact first (List.mem_map.2 ⟨e, he, rfl⟩)
        · obtain ⟨m, hm, rfl⟩ := List.mem_map.1 he
          exact seen (mem_discovered.1 hm).1
      · exact seen (mem_undiscovered.1 he).1
    · rw [List.map_append, new]
      refine List.nodup_append.2 ⟨distinct, nodup.filter _, ?_⟩
      rintro a ha b hb rfl
      obtain ⟨e, he, rfl⟩ := List.mem_map.1 ha
      exact fresh e (List.mem_cons_of_mem _ he) (mem_discovered.1 hb).1
    · intro e he left
      obtain ⟨unseen, far⟩ := mem_undiscovered.1 left
      rcases List.mem_append.1 he with he | he
      · exact fresh e (List.mem_cons_of_mem _ he) unseen
      · obtain ⟨m, hm, rfl⟩ := List.mem_map.1 he
        exact far (mem_discovered.1 hm).2

/-! ## The order of the search -/

/-- Along the agenda paths get longer, by one node in all. -/
def Staged (agenda : List (NodeId × Trail)) : Prop :=
  agenda.Pairwise fun a b => a.2.length ≤ b.2.length ∧ b.2.length ≤ a.2.length + 1

theorem staged_singleton (e : NodeId × Trail) : Staged [e] := List.pairwise_singleton _ _

/-- A look at the first handle of the agenda keeps its order. -/
theorem Staged.look {n : NodeId} {path : Trail} (h : Staged ((n, path) :: agenda)) (ms : List NodeId) :
    Staged (agenda ++ ms.map fun m => (m, m :: path)) := by
  obtain ⟨first, rest⟩ := List.pairwise_cons.1 h
  refine List.pairwise_append.2 ⟨rest, ?_, ?_⟩
  · refine List.pairwise_map.2 (List.pairwise_of_forall fun a b => ?_)
    simp
  · intro e he d hd
    obtain ⟨m, -, rfl⟩ := List.mem_map.1 hd
    obtain ⟨longer, little⟩ := first e he
    simp only [List.length_cons] at *
    omega

/-- No path that the search finds is shorter than all those on its agenda. -/
theorem le_length_sweep {k : Nat} (long : ∀ e ∈ agenda, k ≤ e.2.length) {e : NodeId × Trail}
    (he : e ∈ sweep next agenda unseen) : k ≤ e.2.length := by
  fun_induction sweep next agenda unseen with
  | case1 => cases he
  | case2 n path agenda unseen ih =>
    have first := long (n, path) List.mem_cons_self
    rcases List.mem_cons.1 he with rfl | he
    · exact first
    refine ih (fun d hd => ?_) he
    rcases List.mem_append.1 hd with hd | hd
    · exact long d (List.mem_cons_of_mem _ hd)
    · obtain ⟨m, -, rfl⟩ := List.mem_map.1 hd
      exact Nat.le_succ_of_le first

/-- What is found after a look at the first handle of the agenda is on no shorter path. -/
theorem Staged.le_length {n : NodeId} {path : Trail} (h : Staged ((n, path) :: agenda)) {ms : List NodeId}
    {e : NodeId × Trail} (he : e ∈ sweep next (agenda ++ ms.map fun m => (m, m :: path)) unseen) :
    path.length ≤ e.2.length := by
  refine le_length_sweep (fun d hd => ?_) he
  rcases List.mem_append.1 hd with hd | hd
  · exact ((List.pairwise_cons.1 h).1 d hd).1
  · obtain ⟨m, -, rfl⟩ := List.mem_map.1 hd
    exact Nat.le_succ _

/-- The search looks at handles in the order of the lengths of their paths. -/
theorem sweep_sorted (staged : Staged agenda) :
    (sweep next agenda unseen).Pairwise fun a b => a.2.length ≤ b.2.length := by
  fun_induction sweep next agenda unseen with
  | case1 => exact .nil
  | case2 n path agenda unseen ih =>
    exact List.pairwise_cons.2 ⟨fun e he => staged.le_length he, ih (staged.look _)⟩

/-- An unseen neighbour of a handle that the search looks at is found, on a path that is longer by one node at
most. -/
theorem sweep_next (staged : Staged agenda) {e : NodeId × Trail} (he : e ∈ sweep next agenda unseen) {m : NodeId}
    (near : m ∈ next e.1) (hm : m ∈ unseen) :
    ∃ path, (m, path) ∈ sweep next agenda unseen ∧ path.length ≤ e.2.length + 1 := by
  fun_induction sweep next agenda unseen with
  | case1 => cases he
  | case2 n path agenda unseen ih =>
    by_cases now : m ∈ next n
    · -- the neighbour goes on the agenda at once, and `e` is not on a shorter path than `n`
      have short : path.length ≤ e.2.length := by
        rcases List.mem_cons.1 he with rfl | he
        · exact le_rfl
        · exact staged.le_length he
      refine ⟨m :: path, List.mem_cons_of_mem _ (agenda_subset_sweep (List.mem_append_right _ ?_)), ?_⟩
      · exact List.mem_map_of_mem (mem_discovered.2 ⟨hm, now⟩)
      · exact Nat.succ_le_succ short
    · rcases List.mem_cons.1 he with rfl | he
      · exact absurd near now
      obtain ⟨way, found, short⟩ := ih (staged.look _) he (mem_undiscovered.2 ⟨hm, now⟩)
      exact ⟨way, List.mem_cons_of_mem _ found, short⟩

/-- Where the search looks depends only on the neighbours of the handles it looks at. -/
theorem sweep_congr {next' : NodeId → List NodeId}
    (same : ∀ e ∈ sweep next agenda unseen, next' e.1 = next e.1) :
    sweep next' agenda unseen = sweep next agenda unseen := by
  fun_induction sweep next agenda unseen with
  | case1 => rw [sweep]
  | case2 n path agenda unseen ih =>
    have first : next' n = next n := same (n, path) List.mem_cons_self
    rw [sweep, first, ih fun e he => same e (List.mem_cons_of_mem _ he)]

end Sweep

end Graph

end PeerTaint
