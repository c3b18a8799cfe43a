import PeerTaint.Proofs.History
import PeerTaint.Proofs.Paths

/-!
The searches agree.

Whether one node leads to another can be asked in four ways: whether the second is among what the
first leads to, whether the first is among what leads to the second, by a search that stops as soon as
it meets the second, and by asking for a path. `Walk` says what the question means; the main result is
that all four answer it, for live and for stale handles, and what the search that stops early has seen.
-/

namespace PeerTaint

namespace Graph

open Relation (ReflTransGen)

/-! ## Walks -/

/-- A list of live nodes that leads from `a` to `b` along the edges. -/
structure Walk (g : Graph) (a b : NodeId) (path : List NodeId) : Prop where
  head : path.head? = some a
  last : path.getLast? = some b
  chain : path.IsChain g.Edge
  live : ∀ n ∈ path, g.isLive n = true

section Walk

variable {g : Graph} {a b : NodeId}

theorem Walk.eq_cons {path : List NodeId} (h : g.Walk a b path) : ∃ rest, path = a :: rest :=
  List.head?_eq_some_iff.1 h.head

/-- A walk keeps to what its start leads to and what leads to its end. -/
theorem Walk.between {path : List NodeId} (h : g.Walk a b path) {n : NodeId} (hn : n ∈ path) :
    g.Reaches a n ∧ g.Reaches n b := by
  have live := h.live
  obtain ⟨rest, rfl⟩ := h.eq_cons
  have last : (a :: rest).getLast (List.cons_ne_nil a rest) = b := by
    have := h.last
    rwa [List.getLast?_eq_some_getLast (List.cons_ne_nil a rest), Option.some.injEq] at this
  refine ⟨⟨live a List.mem_cons_self, ?_⟩, live n hn, ?_⟩
  · exact h.chain.induction (ReflTransGen g.Edge a) _ (fun x y edge path => path.tail edge)
      (fun _ => .refl) n hn
  · exact h.chain.backwards_cons_induction (ReflTransGen g.Edge · b) rest last
      (fun x y edge path => path.head edge) .refl n hn

/-- What leads somewhere does so by a walk. -/
theorem Reaches.exists_walk (wf : Linked g) (h : g.Reaches a b) : ∃ path, g.Walk a b path := by
  obtain ⟨live, path⟩ := h
  obtain ⟨rest, chain, last⟩ := List.exists_isChain_cons_of_relationReflTransGen path
  refine ⟨a :: rest, rfl, ?_, chain, fun n hn => ?_⟩
  · rw [List.getLast?_eq_some_getLast (List.cons_ne_nil a rest), last]
  · rcases List.mem_cons.1 hn with rfl | hn
    · exact live
    · exact List.IsChain.cons_induction (g.isLive · = true) rest chain
        (fun x y edge _ => (wf.isLive_of_hasEdge edge).2) live n hn

theorem reaches_iff_walk (wf : Linked g) : g.Reaches a b ↔ ∃ path, g.Walk a b path := by
  constructor
  · exact fun h => h.exists_walk wf
  · rintro ⟨path, h⟩
    exact (h.between (List.mem_of_head? h.head)).2

end Walk

/-! ## A search that stops early -/

section Seek

variable {next : NodeId → List NodeId} {stop : NodeId} {agenda unseen : List NodeId}

/-- Stopping early does not change what is found. -/
theorem seek_eq_true_iff :
    (seek next stop agenda unseen).1 = true ↔ stop ∈ explore next agenda unseen := by
  fun_induction seek next stop agenda unseen with
  | case1 => simp [explore]
  | case2 agenda unseen => simp [explore]
  | case3 n agenda unseen hne ih =>
    rw [explore, List.mem_cons, ih]
    simp [Ne.symm hne]

theorem unseen_seek_subset {m : NodeId} (h : m ∈ (seek next stop agenda unseen).2) : m ∈ unseen := by
  fun_induction seek next stop agenda unseen with
  | case1 => exact h
  | case2 => exact h
  | case3 n agenda unseen hne ih => exact (mem_undiscovered.1 (ih h)).1

/-- What a search that stops early has seen, the full search finds. -/
theorem mem_explore_of_seen {m : NodeId} (hm : m ∈ unseen)
    (seen : m ∉ (seek next stop agenda unseen).2) : m ∈ explore next agenda unseen := by
  fun_induction seek next stop agenda unseen with
  | case1 => exact absurd hm seen
  | case2 => exact absurd hm seen
  | case3 n agenda unseen hne ih =>
    rw [explore]
    refine List.mem_cons_of_mem _ ?_
    by_cases hn : m ∈ next n
    · exact agenda_subset_explore (List.mem_append_left _ (mem_discovered.2 ⟨hm, hn⟩))
    · exact ih (mem_undiscovered.2 ⟨hm, hn⟩) seen

/-- A search that does not meet its stop has seen everything that the full search finds. -/
theorem not_mem_unseen_of_explored (fresh : ∀ n ∈ agenda, n ∉ unseen)
    (missed : (seek next stop agenda unseen).1 = false) {m : NodeId}
    (hm : m ∈ explore next agenda unseen) : m ∉ (seek next stop agenda unseen).2 := by
  fun_induction seek next stop agenda unseen with
  | case1 => simp [explore] at hm
  | case2 => cases missed
  | case3 n agenda unseen hne ih =>
    rw [explore] at hm
    rcases List.mem_cons.1 hm with rfl | hm
    · intro left
      exact fresh m List.mem_cons_self (mem_undiscovered.1 (unseen_seek_subset left)).1
    · refine ih (fun k hk left => ?_) missed hm
      obtain ⟨unseen, hne⟩ := mem_undiscovered.1 left
      rcases List.mem_append.1 hk with hk | hk
      · exact hne (mem_discovered.1 hk).2
      · exact fresh k (List.mem_cons_of_mem _ hk) unseen

end Seek

section ForwardUntil

variable {g : Graph} {start stop n : NodeId}

theorem forwardUntil_eq_true_iff :
    (g.forwardUntil start stop).1 = true ↔ stop ∈ g.forward start := by
  unfold forwardUntil forward reach
  split
  · rw [SortedSet.mem_ofList]
    exact seek_eq_true_iff
  · exact iff_of_false (by simp) SortedSet.not_mem_empty

/-- The nodes that a search from a live node has seen when it stops. -/
theorem mem_forwardUntil_iff (live : g.isLive start = true) :
    n ∈ (g.forwardUntil start stop).2 ↔
      g.isLive n = true ∧ n ∉ (seek g.successors stop [start] (g.others start)).2 := by
  unfold forwardUntil
  rw [if_pos live]
  simp [SortedSet.mem_ofList, mem_handles_iff]

theorem mem_forward_of_mem_forwardUntil (h : n ∈ (g.forwardUntil start stop).2) :
    n ∈ g.forward start := by
  by_cases live : g.isLive start = true
  · obtain ⟨hn, seen⟩ := (mem_forwardUntil_iff live).1 h
    rw [forward, reach, if_pos live, SortedSet.mem_ofList]
    by_cases same : n = start
    · exact agenda_subset_explore (List.mem_singleton.2 same)
    · exact mem_explore_of_seen (mem_others_iff.2 ⟨hn, same⟩) seen
  · rw [forwardUntil, if_neg live] at h
    exact absurd h SortedSet.not_mem_empty

theorem start_mem_forwardUntil (live : g.isLive start = true) :
    start ∈ (g.forwardUntil start stop).2 := by
  refine (mem_forwardUntil_iff live).2 ⟨live, fun left => ?_⟩
  exact (mem_others_iff.1 (unseen_seek_subset left)).2 rfl

/-- A search that does not meet its stop has seen everything that its start leads to. -/
theorem forwardUntil_eq_forward (wf : Linked g) (missed : (g.forwardUntil start stop).1 = false) :
    (g.forwardUntil start stop).2 = g.forward start := by
  refine SortedSet.ext fun n => ⟨mem_forward_of_mem_forwardUntil, fun h => ?_⟩
  obtain ⟨live, path⟩ := (mem_forward_iff wf).1 h
  refine (mem_forwardUntil_iff live).2 ⟨Reaches.isLive wf ⟨live, path⟩, ?_⟩
  rw [forward, reach, if_pos live, SortedSet.mem_ofList] at h
  rw [forwardUntil, if_pos live] at missed
  refine not_mem_unseen_of_explored (fun m hm hu => ?_) missed h
  exact (mem_others_iff.1 hu).2 (List.mem_singleton.1 hm)

end ForwardUntil

/-! ## All searches answer the same question -/

/-- A search for a path that remembers nothing finds one exactly where there is one. -/
theorem findPath_isSome_iff {g : Graph} (wf : Linked g) (start stop : NodeId) :
    (g.findPath {} start stop).1.isSome = true ↔ g.Reaches start stop := by
  have recalls : Recalls g (({} : PathMemo).sync g.generation) := recalls_of_entries_eq_empty rfl
  rw [(findPath_correct wf recalls start stop).1.isSome_iff]
  constructor
  · rintro ⟨live, -, path⟩
    exact ⟨live, path⟩
  · intro h
    exact ⟨h.1, h.isLive wf, h.2⟩

/-- In a graph whose parts agree, a node is found by a search along the edges exactly when a walk
leads to it, when a search from it against the edges finds the start, when a search that stops there
meets it, and when there is a path for the asking. What the search that stops has seen is part of what
the full search finds; it includes a live start, and is all of it when the stop is not met. -/
theorem searches_agree {g : Graph} (wf : Linked g) (start stop : NodeId) :
    (stop ∈ g.forward start ↔ ∃ path, g.Walk start stop path) ∧
      (stop ∈ g.forward start ↔ start ∈ g.backward stop) ∧
      (stop ∈ g.forward start ↔ (g.forwardUntil start stop).1 = true) ∧
      (stop ∈ g.forward start ↔ (g.findPath {} start stop).1.isSome = true) ∧
      (∀ n ∈ (g.forwardUntil start stop).2, n ∈ g.forward start) ∧
      (g.isLive start = true → start ∈ (g.forwardUntil start stop).2) ∧
      ((g.forwardUntil start stop).1 = false → (g.forwardUntil start stop).2 = g.forward start) := by
  refine ⟨?_, ?_, forwardUntil_eq_true_iff.symm, ?_, fun n => mem_forward_of_mem_forwardUntil,
    start_mem_forwardUntil, forwardUntil_eq_forward wf⟩
  · rw [mem_forward_iff wf, reaches_iff_walk wf]
  · rw [mem_forward_iff wf, mem_backward_iff wf]
  · rw [mem_forward_iff wf, findPath_isSome_iff wf]

/-- Three nodes in a circle, a fourth that leads into it, and the handle of a node that was removed. -/
def circle : List Mutation :=
  [.addNode .first (.mem 0) "a", .addNode .first (.mem 1) "b", .addNode .first (.mem 2) "c",
    .addNode .first (.mem 3) "d", .addNode .first (.mem 4) "e", .connect 0 1 .data,
    .connect 1 2 .control, .connect 2 0 .data, .connect 3 0 .data, .connect 1 4 .data, .removeNode 4]

/-- From the fourth node all searches find the way around the circle, and none finds the way back. -/
theorem searches_agree_circle :
    Linked (after circle) ∧ 2 ∈ (after circle).forward 3 ∧ (∃ path, (after circle).Walk 3 2 path) ∧
      3 ∈ (after circle).backward 2 ∧ ((after circle).findPath {} 3 2).1.isSome = true ∧
      (¬ ∃ path, (after circle).Walk 2 3 path) ∧
      ((after circle).forwardUntil 2 3).2 = (after circle).forward 2 ∧
      ¬ ∃ path, (after circle).Walk 4 4 path := by
  have wf : Linked (after circle) := (wellFormed_after circle).toLinked
  have there : 2 ∈ (after circle).forward 3 := by decide +kernel
  have missed : ((after circle).forwardUntil 2 3).1 = false := by decide +kernel
  have stale : 4 ∉ (after circle).forward 4 := by decide +kernel
  obtain ⟨walk, back, -, path, -⟩ := searches_agree wf 3 2
  obtain ⟨noWalk, -, met, -, -, -, all⟩ := searches_agree wf 2 3
  obtain ⟨staleWalk, -⟩ := searches_agree wf 4 4
  refine ⟨wf, there, walk.1 there, back.1 there, path.1 there, fun h => ?_, all missed,
    fun h => stale (staleWalk.2 h)⟩
  rw [met.1 (noWalk.2 h)] at missed
  cases missed

end Graph

end PeerTaint
