import PeerTaint.Graph.Search
import PeerTaint.Proofs.Evolution

/-!
What a search finds.

`Reaches` says that a live node leads to another one along the edges. A depth-first search finds
exactly that: what it finds is reachable, its agenda is part of what it finds, and every neighbour of
what it finds is found as well or was seen before the search.
-/

namespace PeerTaint

theorem mem_discovered {ns unseen : List Nat} {n : Nat} :
    n ∈ discovered ns unseen ↔ n ∈ unseen ∧ n ∈ ns := by
  simp [discovered]

theorem mem_undiscovered {ns unseen : List Nat} {n : Nat} :
    n ∈ undiscovered ns unseen ↔ n ∈ unseen ∧ n ∉ ns := by
  simp [undiscovered]

namespace Graph

open Relation (ReflTransGen)

/-- There is an edge between two nodes. -/
def Edge (g : Graph) (a b : NodeId) : Prop := g.hasEdge a b = true

/-- A live node leads to another one along the edges. -/
def Reaches (g : Graph) (a b : NodeId) : Prop := g.isLive a = true ∧ ReflTransGen g.Edge a b

section Reaches

variable {g : Graph} {a b : NodeId}

theorem Reaches.refl (h : g.isLive a = true) : g.Reaches a a := ⟨h, .refl⟩

theorem Reaches.isLive (wf : Linked g) (h : g.Reaches a b) : g.isLive b = true := by
  obtain ⟨live, path⟩ := h
  cases path with
  | refl => exact live
  | tail _ edge => exact (wf.isLive_of_hasEdge edge).2

/-- What contains a node and all successors of its members contains everything that the node
leads to. -/
theorem Reaches.mem_of_closed {S : NodeId → Prop} (h : g.Reaches a b) (start : S a)
    (closed : ∀ m n, S m → g.Edge m n → S n) : S b := by
  obtain ⟨-, path⟩ := h
  induction path with
  | refl => exact start
  | tail _ edge ih => exact closed _ _ ih edge

end Reaches

/-! ## Depth-first search -/

section Explore

variable {next : NodeId → List NodeId} {agenda unseen : List NodeId}

theorem agenda_subset_explore {n : NodeId} (h : n ∈ agenda) : n ∈ explore next agenda unseen := by
  fun_induction explore next agenda unseen with
  | case1 => exact h
  | case2 m agenda unseen ih =>
    rcases List.mem_cons.1 h with rfl | h
    · exact List.mem_cons_self
    · exact List.mem_cons_of_mem _ (ih (List.mem_append_right _ h))

/-- What contains the agenda and all neighbours of its members contains everything that is found. -/
theorem explore_sound {S : NodeId → Prop} (start : ∀ n ∈ agenda, S n)
    (closed : ∀ m, S m → ∀ n ∈ next m, S n) {n : NodeId} (h : n ∈ explore next agenda unseen) : S n := by
  fun_induction explore next agenda unseen with
  | case1 => cases h
  | case2 m agenda unseen ih =>
    have hm : S m := start m List.mem_cons_self
    rcases List.mem_cons.1 h with rfl | h
    · exact hm
    · refine ih (fun k hk => ?_) h
      rcases List.mem_append.1 hk with hk | hk
      · exact closed m hm k (mem_discovered.1 hk).2
      · exact start k (List.mem_cons_of_mem _ hk)

/-- Every neighbour of a node that is found is found too, or was seen before. -/
theorem explore_closed {m n : NodeId} (hm : m ∈ explore next agenda unseen) (hn : n ∈ next m) :
    n ∈ explore next agenda unseen ∨ n ∉ unseen := by
  fun_induction explore next agenda unseen with
  | case1 => cases hm
  | case2 k agenda unseen ih =>
    have found : n ∈ discovered (next k) unseen →
        n ∈ explore next (discovered (next k) unseen ++ agenda) (undiscovered (next k) unseen) :=
      fun h => agenda_subset_explore (List.mem_append_left _ h)
    by_cases hs : n ∈ unseen
    · left
      refine List.mem_cons_of_mem _ ?_
      by_cases hk : n ∈ next k
      · exact found (mem_discovered.2 ⟨hs, hk⟩)
      · rcases List.mem_cons.1 hm with rfl | hm
        · exact absurd hn hk
        · exact (ih hm).resolve_right fun h => h (mem_undiscovered.2 ⟨hs, hk⟩)
    · exact Or.inr hs

end Explore

theorem mem_others_iff {g : Graph} {n m : NodeId} : m ∈ g.others n ↔ g.isLive m = true ∧ m ≠ n := by
  simp [others, mem_handles_iff]

/-- A search finds exactly what its start leads to along the neighbours. -/
theorem mem_reach_iff {g : Graph} {next : NodeId → List NodeId}
    (live : ∀ m, ∀ n ∈ next m, g.isLive n = true) {a n : NodeId} :
    n ∈ g.reach next a ↔ g.isLive a = true ∧ ReflTransGen (fun m k => k ∈ next m) a n := by
  unfold reach
  split
  · next ha =>
    rw [SortedSet.mem_ofList]
    constructor
    · intro h
      refine ⟨ha, explore_sound (fun m hm => ?_) (fun m hm k hk => hm.tail hk) h⟩
      rw [List.mem_singleton.1 hm]
    · rintro ⟨-, path⟩
      induction path with
      | refl => exact agenda_subset_explore List.mem_cons_self
      | @tail m k _ hk found =>
        rcases explore_closed found hk with hk | seen
        · exact hk
        · -- all live nodes but the start were unseen
          have : k = a := by
            by_contra hne
            exact seen (mem_others_iff.2 ⟨live m k hk, hne⟩)
          rw [this]
          exact agenda_subset_explore List.mem_cons_self
  · next stale =>
    exact ⟨fun h => absurd h SortedSet.not_mem_empty, fun h => absurd h.1 stale⟩

/-- A search along the edges finds exactly what its start leads to. -/
theorem mem_forward_iff {g : Graph} (wf : Linked g) {a n : NodeId} :
    n ∈ g.forward a ↔ g.Reaches a n := by
  have edges : (fun m k => k ∈ g.successors m) = g.Edge := by
    funext m k
    exact propext mem_successors_iff
  rw [forward, mem_reach_iff fun m k hk => (wf.isLive_of_hasEdge (mem_successors_iff.1 hk)).2, edges]
  rfl

theorem mem_predecessors_iff {g : Graph} (wf : Linked g) {a b : NodeId} :
    a ∈ g.predecessors b ↔ g.hasEdge a b = true := by
  unfold predecessors hasEdge
  rw [wf.mirror]
  unfold backKind?
  cases g.node? b with
  | none => simp
  | some x => exact SortedMap.mem_keys_iff

/-- A search against the edges finds exactly what leads to its start. -/
theorem mem_backward_iff {g : Graph} (wf : Linked g) {b n : NodeId} :
    n ∈ g.backward b ↔ g.Reaches n b := by
  have edges : (fun m k => k ∈ g.predecessors m) = Function.swap g.Edge := by
    funext m k
    exact propext (mem_predecessors_iff wf)
  rw [backward, mem_reach_iff fun m k hk => (wf.isLive_of_hasEdge ((mem_predecessors_iff wf).1 hk)).1,
    edges, Relation.reflTransGen_swap]
  constructor
  · rintro ⟨live, path⟩
    refine ⟨?_, path⟩
    -- a node is live because the search starts there or because it has an edge
    rcases path.cases_head with rfl | ⟨m, edge, -⟩
    · exact live
    · exact (wf.isLive_of_hasEdge edge).1
  · intro h
    exact ⟨h.isLive wf, h.2⟩

end Graph

end PeerTaint
