import Mathlib.Data.List.Chain
import Mathlib.Data.List.Nodup
import PeerTaint.Graph.Path
import PeerTaint.Proofs.Reach

/-!
Paths and remembered paths.

A memory is valid for a graph when each remembered path is a path without repetition, each node on it
has a remembered path to the same end, and each remembered failure is one. The second of these lets a
search splice a remembered path onto its own way: the nodes on the way have no remembered path to the
end, so the two parts share none. A valid memory answers rightly and stays valid with what it learns.
-/

namespace PeerTaint

namespace Graph

open Relation (ReflTransGen)

/-! ## Paths without repetition -/

/-- A list of nodes that leads from `a` to `b` along the edges and repeats none. -/
structure SimplePath (g : Graph) (a b : NodeId) (path : List NodeId) : Prop where
  head : path.head? = some a
  last : path.getLast? = some b
  chain : path.IsChain g.Edge
  nodup : path.Nodup

section SimplePath

variable {g : Graph} {a b n : NodeId} {path rest : List NodeId}

theorem SimplePath.singleton (g : Graph) (a : NodeId) : SimplePath g a a [a] :=
  ⟨rfl, rfl, .singleton a, List.nodup_singleton a⟩

theorem SimplePath.eq_cons (h : SimplePath g a b path) : ∃ rest, path = a :: rest :=
  List.head?_eq_some_iff.1 h.head

theorem SimplePath.reaches (h : SimplePath g a b path) (live : g.isLive a = true) : g.Reaches a b := by
  obtain ⟨rest, rfl⟩ := h.eq_cons
  have last : (a :: rest).getLast (List.cons_ne_nil a rest) = b := by
    have := h.last
    rwa [List.getLast?_eq_some_getLast (List.cons_ne_nil a rest), Option.some.injEq] at this
  exact ⟨live, List.relationReflTransGen_of_exists_isChain_cons rest h.chain last⟩

theorem SimplePath.isLive (wf : Linked g) (h : SimplePath g a b path) (live : g.isLive a = true)
    {m : NodeId} (hm : m ∈ path) : g.isLive m = true := by
  obtain ⟨rest, rfl⟩ := h.eq_cons
  rcases List.mem_cons.1 hm with rfl | hm
  · exact live
  · exact List.IsChain.cons_induction (g.isLive · = true) rest h.chain
      (fun x y edge _ => (wf.isLive_of_hasEdge edge).2) live m hm

/-- The rest of a path from one of its nodes on. -/
theorem SimplePath.suffix {before : List NodeId} (h : SimplePath g a b (before ++ n :: rest)) :
    SimplePath g n b (n :: rest) where
  head := rfl
  last := by
    have := h.last
    rwa [List.getLast?_append_cons] at this
  chain := h.chain.right_of_append
  nodup := h.nodup.of_append_right

/-- A way to a node and a path from it on, which share no other node. -/
theorem SimplePath.splice {way : List NodeId} (h : SimplePath g a n (n :: way).reverse)
    (h' : SimplePath g n b rest) (disjoint : ∀ m ∈ way, m ∉ rest) :
    SimplePath g a b (way.reverse ++ rest) := by
  obtain ⟨tail, rfl⟩ := h'.eq_cons
  have chain := h.chain
  have nodup := h.nodup
  have head := h.head
  rw [List.reverse_cons] at chain nodup head
  refine ⟨?_, ?_, List.isChain_split.2 ⟨chain, h'.chain⟩, ?_⟩
  · rw [List.head?_append] at head ⊢; exact head
  · rw [List.getLast?_append_cons]; exact h'.last
  · refine List.nodup_append'.2 ⟨nodup.of_append_left, h'.nodup, fun m hm hm' => ?_⟩
    exact disjoint m (List.mem_reverse.1 hm) hm'

/-- A way continued along an edge. -/
theorem SimplePath.snoc {way : List NodeId} {k : NodeId} (h : SimplePath g a n (n :: way).reverse)
    (edge : g.Edge n k) (hk : k ∉ n :: way) : SimplePath g a k (k :: n :: way).reverse := by
  rw [List.reverse_cons]
  refine ⟨?_, List.getLast?_concat .., ?_, ?_⟩
  · rw [List.head?_append, h.head]; rfl
  · have := h.chain
    rw [List.reverse_cons] at this ⊢
    rw [List.append_assoc]
    exact List.isChain_split.2 ⟨this, .cons_cons edge (.singleton k)⟩
  · refine List.nodup_append'.2 ⟨h.nodup, List.nodup_singleton k, fun m hm hm' => ?_⟩
    rw [List.mem_singleton.1 hm'] at hm
    exact hk (List.mem_reverse.1 hm)

end SimplePath

/-! ## Valid memories -/

/-- What a memory says about the paths of a graph is right. -/
structure Recalls (g : Graph) (memo : PathMemo) : Prop where
  path : ∀ a b path, memo.peek a b = some (some path) → g.isLive a = true ∧ SimplePath g a b path
  /-- Every node on a remembered path has a remembered path itself. -/
  onward : ∀ a b path, memo.peek a b = some (some path) →
    ∀ m ∈ path, ∃ path', memo.peek m b = some (some path')
  failure : ∀ a b, memo.peek a b = some none →
    g.isLive a = true ∧ g.isLive b = true ∧ ¬ g.Reaches a b

theorem recalls_of_entries_eq_empty {g : Graph} {memo : PathMemo} (h : memo.entries = .empty) :
    Recalls g memo := by
  have nothing : ∀ a b, memo.peek a b = none := fun a b => by rw [PathMemo.peek, h]; rfl
  refine ⟨fun a b path hp => ?_, fun a b path hp => ?_, fun a b hp => ?_⟩ <;>
    rw [nothing] at hp <;> cases hp

theorem peek_record (memo : PathMemo) (a b x y : NodeId) (answer : Option (List NodeId)) :
    (memo.record a b answer).peek x y = if (x, y) = (a, b) then some answer else memo.peek x y :=
  SortedMap.get?_insert

theorem peek_recordPath_of_not {stop x y : NodeId} {path : List NodeId} (memo : PathMemo)
    (h : ¬ (y = stop ∧ x ∈ path)) : (memo.recordPath stop path).peek x y = memo.peek x y := by
  induction path generalizing memo with
  | nil => rfl
  | cons n path ih =>
    rw [PathMemo.recordPath, ih _ fun h' => h ⟨h'.1, List.mem_cons_of_mem _ h'.2⟩, peek_record, if_neg]
    rintro hxy
    cases hxy
    exact h ⟨rfl, List.mem_cons_self⟩

theorem peek_recordPath_of_mem {x : NodeId} {path : List NodeId} (memo : PathMemo) (stop : NodeId)
    (h : x ∈ path) : ∃ before rest, path = before ++ x :: rest ∧
      (memo.recordPath stop path).peek x stop = some (some (x :: rest)) := by
  induction path generalizing memo with
  | nil => cases h
  | cons n path ih =>
    by_cases hx : x ∈ path
    · obtain ⟨before, rest, rfl, he⟩ := ih (memo.record n stop (some (n :: path))) hx
      exact ⟨n :: before, rest, rfl, he⟩
    · -- the entry of the last occurrence stays
      obtain rfl : x = n := (List.mem_cons.1 h).resolve_right hx
      refine ⟨[], path, rfl, ?_⟩
      rw [PathMemo.recordPath, peek_recordPath_of_not _ fun h' => hx h'.2, peek_record, if_pos rfl]

theorem peek_recordNone (memo : PathMemo) (stop : NodeId) (ns : List NodeId) (x y : NodeId) :
    (memo.recordNone stop ns).peek x y = if y = stop ∧ x ∈ ns then some none else memo.peek x y := by
  unfold PathMemo.recordNone
  induction ns generalizing memo with
  | nil => simp
  | cons n ns ih =>
    rw [List.foldl_cons, ih, peek_record]
    by_cases hy : y = stop <;> by_cases hx : x = n <;> by_cases hn : x ∈ ns <;> simp [hy, hx, hn]

section Recalls

variable {g : Graph} {memo : PathMemo} {stop : NodeId}

theorem Recalls.recordPath (wf : Linked g) (h : Recalls g memo) {a : NodeId} {path : List NodeId}
    (live : g.isLive a = true) (hp : SimplePath g a stop path) :
    Recalls g (memo.recordPath stop path) := by
  refine ⟨fun x y path' hx => ?_, fun x y path' hx m hm => ?_, fun x y hx => ?_⟩
  · by_cases new : y = stop ∧ x ∈ path
    · obtain ⟨rfl, hmem⟩ := new
      obtain ⟨before, rest, rfl, he⟩ := peek_recordPath_of_mem memo y hmem
      cases he.symm.trans hx
      exact ⟨hp.isLive wf live hmem, hp.suffix⟩
    · rw [peek_recordPath_of_not memo new] at hx
      exact h.path x y path' hx
  · have known : ∀ {m}, m ∈ path →
        ∃ path', (memo.recordPath stop path).peek m stop = some (some path') := by
      intro m hm
      obtain ⟨before, rest, -, he⟩ := peek_recordPath_of_mem memo stop hm
      exact ⟨m :: rest, he⟩
    by_cases new : y = stop ∧ x ∈ path
    · obtain ⟨rfl, hmem⟩ := new
      obtain ⟨before, rest, hpath, he⟩ := peek_recordPath_of_mem memo y hmem
      cases he.symm.trans hx
      exact known (hpath ▸ List.mem_append_right before hm)
    · rw [peek_recordPath_of_not memo new] at hx
      obtain ⟨path'', hm'⟩ := h.onward x y path' hx m hm
      by_cases onPath : y = stop ∧ m ∈ path
      · obtain ⟨rfl, hmem⟩ := onPath
        exact known hmem
      · exact ⟨path'', by rw [peek_recordPath_of_not memo onPath, hm']⟩
  · by_cases new : y = stop ∧ x ∈ path
    · obtain ⟨rfl, hmem⟩ := new
      obtain ⟨before, rest, -, he⟩ := peek_recordPath_of_mem memo y hmem
      cases he.symm.trans hx
    · rw [peek_recordPath_of_not memo new] at hx
      exact h.failure x y hx

theorem Recalls.recordNone (h : Recalls g memo) (live : g.isLive stop = true) {ns : List NodeId}
    (hn : ∀ n ∈ ns, g.isLive n = true ∧ ¬ g.Reaches n stop) : Recalls g (memo.recordNone stop ns) := by
  have kept : ∀ {x y path}, memo.peek x y = some (some path) →
      (memo.recordNone stop ns).peek x y = some (some path) := by
    intro x y path hx
    rw [peek_recordNone, if_neg, hx]
    rintro ⟨rfl, hmem⟩
    obtain ⟨live, simple⟩ := h.path x y path hx
    exact (hn x hmem).2 (simple.reaches live)
  have old : ∀ {x y path}, (memo.recordNone stop ns).peek x y = some (some path) →
      memo.peek x y = some (some path) := by
    intro x y path hx
    rw [peek_recordNone] at hx
    split at hx
    · cases hx
    · exact hx
  refine ⟨fun x y path hx => h.path x y path (old hx), fun x y path hx m hm => ?_, fun x y hx => ?_⟩
  · obtain ⟨path', hm'⟩ := h.onward x y path (old hx) m hm
    exact ⟨path', kept hm'⟩
  · rw [peek_recordNone] at hx
    split at hx
    · next new =>
      obtain ⟨rfl, hmem⟩ := new
      exact ⟨(hn x hmem).1, live, (hn x hmem).2⟩
    · exact h.failure x y hx

end Recalls

/-! ## The search for a path -/

section Seek

variable {g : Graph} {memo : PathMemo} {start stop : NodeId}

/-- An entry of the agenda: the way to the node repeats none, has been seen, and leads over nodes of
which nothing is remembered. -/
structure Pending (g : Graph) (memo : PathMemo) (start stop : NodeId) (unseen : List NodeId)
    (entry : NodeId × List NodeId) : Prop where
  path : SimplePath g start entry.1 (entry.1 :: entry.2).reverse
  seen : ∀ m ∈ entry.1 :: entry.2, m ∉ unseen
  unknown : ∀ m ∈ entry.2, memo.peek m stop = none

/-- For the start nothing is remembered, so asking for it or not is the same. -/
theorem peek_eq_of_lookup {n : NodeId} {answer : Option (Option (List NodeId))}
    (miss : memo.peek start stop = none)
    (h : (if _ : n = start then none else memo.peek n stop) = answer) : memo.peek n stop = answer := by
  split at h
  · next he => rw [he, miss, h]
  · exact h

theorem Pending.mono {unseen unseen' : List NodeId} {entry : NodeId × List NodeId}
    (h : Pending g memo start stop unseen entry) (sub : ∀ m ∈ unseen', m ∈ unseen) :
    Pending g memo start stop unseen' entry :=
  { h with seen := fun m hm hu => h.seen m hm (sub m hu) }

theorem Pending.child {unseen : List NodeId} {n k : NodeId} {way : List NodeId}
    (h : Pending g memo start stop unseen (n, way)) (unknown : memo.peek n stop = none)
    (hk : k ∈ discovered (g.successors n) unseen) :
    Pending g memo start stop (undiscovered (g.successors n) unseen) (k, n :: way) where
  path := h.path.snoc (mem_successors_iff.1 (mem_discovered.1 hk).2) fun hm =>
    h.seen k hm (mem_discovered.1 hk).1
  seen m hm hu := by
    rcases List.mem_cons.1 hm with rfl | hm
    · exact (mem_undiscovered.1 hu).2 (mem_discovered.1 hk).2
    · exact h.seen m hm (mem_undiscovered.1 hu).1
  unknown m hm := by
    rcases List.mem_cons.1 hm with rfl | hm
    · exact unknown
    · exact h.unknown m hm

/-- What the search finds is a path without repetition. -/
theorem seekPath_found (h : Recalls g memo) (miss : memo.peek start stop = none)
    {agenda : List (NodeId × List NodeId)} {unseen path : List NodeId}
    (pending : ∀ entry ∈ agenda, Pending g memo start stop unseen entry)
    (found : g.seekPath memo start stop agenda unseen = .found path) : SimplePath g start stop path := by
  fun_induction seekPath g memo start stop agenda unseen with
  | case1 => cases found
  | case2 way agenda unseen =>
    cases found
    have := (pending _ List.mem_cons_self).path
    rwa [List.reverse_cons] at this
  | case3 n way agenda unseen hne rest lookup =>
    cases found
    have here := pending _ List.mem_cons_self
    have known := peek_eq_of_lookup miss lookup
    -- the nodes on the way have no remembered path, those on the rest have one
    refine here.path.splice (h.path n stop rest known).2 fun m hm hm' => ?_
    obtain ⟨path', hpath'⟩ := h.onward n stop rest known m hm'
    rw [here.unknown m hm] at hpath'
    cases hpath'
  | case4 n way agenda unseen hne lookup ih =>
    exact ih (fun entry he => pending entry (List.mem_cons_of_mem _ he)) found
  | case5 n way agenda unseen hne lookup ih =>
    have here := pending _ List.mem_cons_self
    refine ih (fun entry he => ?_) found
    rcases List.mem_append.1 he with he | he
    · obtain ⟨k, hk, rfl⟩ := List.mem_map.1 he
      exact here.child (peek_eq_of_lookup miss lookup) hk
    · exact (pending entry (List.mem_cons_of_mem _ he)).mono fun m hm => (mem_undiscovered.1 hm).1

/-- The search is done with a node: it is not the stop, and it is known to lead nowhere or all its
successors have been seen. -/
structure Dismissed (g : Graph) (memo : PathMemo) (stop : NodeId) (unseen : List NodeId) (m : NodeId) :
    Prop where
  ne : m ≠ stop
  onward : memo.peek m stop = some none ∨ ∀ k, g.Edge m k → k ∉ unseen

/-- When the search ends without a path, it is done with every node it has seen. -/
theorem seekPath_exhausted (miss : memo.peek start stop = none)
    {agenda : List (NodeId × List NodeId)} {unseen left : List NodeId}
    (seen : ∀ m, g.isLive m = true → m ∉ unseen →
      m ∈ agenda.map (·.1) ∨ Dismissed g memo stop unseen m)
    (exhausted : g.seekPath memo start stop agenda unseen = .exhausted left) :
    ∀ m, g.isLive m = true → m ∉ left → Dismissed g memo stop left m := by
  fun_induction seekPath g memo start stop agenda unseen with
  | case1 unseen =>
    cases exhausted
    exact fun m live hm => (seen m live hm).resolve_left List.not_mem_nil
  | case2 => cases exhausted
  | case3 => cases exhausted
  | case4 n way agenda unseen hne lookup ih =>
    refine ih (fun m live hm => ?_) exhausted
    rcases seen m live hm with hm | hm
    · rcases List.mem_cons.1 hm with rfl | hm
      · exact Or.inr ⟨hne, Or.inl (peek_eq_of_lookup miss lookup)⟩
      · exact Or.inl hm
    · exact Or.inr hm
  | case5 n way agenda unseen hne lookup ih =>
    refine ih (fun m live hm => ?_) exhausted
    rw [List.map_append, List.map_map, List.mem_append]
    by_cases hu : m ∈ unseen
    · have : m ∈ g.successors n := by
        by_contra hs
        exact hm (mem_undiscovered.2 ⟨hu, hs⟩)
      exact Or.inl (Or.inl (List.mem_map.2 ⟨m, mem_discovered.2 ⟨hu, this⟩, rfl⟩))
    · rcases seen m live hu with hm | ⟨ne, onward⟩
      · rcases List.mem_cons.1 hm with rfl | hm
        · refine Or.inr ⟨hne, Or.inr fun k edge hk => ?_⟩
          exact (mem_undiscovered.1 hk).2 (mem_successors_iff.2 edge)
        · exact Or.inl (Or.inr hm)
      · refine Or.inr ⟨ne, onward.imp_right fun h k edge hk => ?_⟩
        exact h k edge (mem_undiscovered.1 hk).1

theorem mem_unseen_of_exhausted {agenda : List (NodeId × List NodeId)} {unseen left : List NodeId}
    (exhausted : g.seekPath memo start stop agenda unseen = .exhausted left) {m : NodeId}
    (hm : m ∈ left) : m ∈ unseen := by
  fun_induction seekPath g memo start stop agenda unseen with
  | case1 => cases exhausted; exact hm
  | case2 => cases exhausted
  | case3 => cases exhausted
  | case4 n way agenda unseen hne lookup ih => exact ih exhausted
  | case5 n way agenda unseen hne lookup ih => exact (mem_undiscovered.1 (ih exhausted)).1

/-- Nodes that a search without success has seen do not lead to the stop. -/
theorem not_reaches_of_dismissed (wf : Linked g) (h : Recalls g memo) {left : List NodeId}
    (dismissed : ∀ m, g.isLive m = true → m ∉ left → Dismissed g memo stop left m) {m : NodeId}
    (hm : m ∉ left) : ¬ g.Reaches m stop := by
  rintro ⟨live, path⟩
  induction path using ReflTransGen.head_induction_on with
  | refl => exact (dismissed stop live hm).ne rfl
  | @head x y edge rest ih =>
    rcases (dismissed x live hm).onward with failure | onward
    · exact (h.failure x stop failure).2.2 ⟨live, rest.head edge⟩
    · exact ih (onward y edge) (wf.isLive_of_hasEdge edge).2

/-- After a search without success from a node, neither it nor what else the search has seen leads to
the stop. -/
theorem not_reaches_of_exhausted (wf : Linked g) (h : Recalls g memo) (miss : memo.peek start stop = none)
    {left : List NodeId}
    (exhausted : g.seekPath memo start stop [(start, [])] (g.others start) = .exhausted left) :
    start ∉ left ∧ ∀ m, m ∉ left → ¬ g.Reaches m stop := by
  constructor
  · intro hm
    exact (mem_others_iff.1 (mem_unseen_of_exhausted exhausted hm)).2 rfl
  · intro m hm
    refine not_reaches_of_dismissed wf h (seekPath_exhausted miss (fun m live hm => ?_) exhausted) hm
    -- at first only the start is seen, and it is on the agenda
    refine Or.inl (List.mem_singleton.2 ?_)
    by_contra hne
    exact hm (mem_others_iff.2 ⟨live, hne⟩)

end Seek

/-! ## Answers -/

/-- The right answer to the question for a path: there is one exactly when both nodes are live and the
first leads to the second, and it is a path without repetition. -/
structure Answers (g : Graph) (a b : NodeId) (answer : Option (List NodeId)) : Prop where
  isSome_iff : answer.isSome = true ↔
    g.isLive a = true ∧ g.isLive b = true ∧ ReflTransGen g.Edge a b
  path : ∀ path, answer = some path → SimplePath g a b path

theorem Answers.of_path {g : Graph} (wf : Linked g) {a b : NodeId} {path : List NodeId}
    (live : g.isLive a = true) (h : SimplePath g a b path) : Answers g a b (some path) where
  isSome_iff := iff_of_true rfl ⟨live, (h.reaches live).isLive wf, (h.reaches live).2⟩
  path p hp := by cases hp; exact h

theorem Answers.of_failure {g : Graph} {a b : NodeId}
    (h : ¬ (g.isLive a = true ∧ g.isLive b = true ∧ ReflTransGen g.Edge a b)) : Answers g a b none where
  isSome_iff := iff_of_false (by simp) h
  path p hp := by cases hp

theorem generation_recordPath (memo : PathMemo) (stop : NodeId) (path : List NodeId) :
    (memo.recordPath stop path).generation = memo.generation := by
  induction path generalizing memo with
  | nil => rfl
  | cons n path ih => exact ih _

theorem generation_recordNone (memo : PathMemo) (stop : NodeId) (ns : List NodeId) :
    (memo.recordNone stop ns).generation = memo.generation := by
  unfold PathMemo.recordNone
  induction ns generalizing memo with
  | nil => rfl
  | cons n ns ih => exact ih _

theorem generation_sync (memo : PathMemo) (k : Nat) : (memo.sync k).generation = some k := by
  unfold PathMemo.sync
  split
  · assumption
  · rfl

/-- A memory that is right answers rightly, and is right with what it learns. -/
theorem findPath_correct {g : Graph} (wf : Linked g) {memo : PathMemo}
    (h : Recalls g (memo.sync g.generation)) (start stop : NodeId) :
    Answers g start stop (g.findPath memo start stop).1 ∧
      Recalls g (g.findPath memo start stop).2 ∧
      (g.findPath memo start stop).2.generation = some g.generation := by
  have current := generation_sync memo g.generation
  unfold findPath
  revert h current
  generalize memo.sync g.generation = memo
  intro h current
  dsimp only
  cases known : memo.peek start stop with
  | some answer =>
    refine ⟨?_, ⟨h.path, h.onward, h.failure⟩, current⟩
    cases answer with
    | some path =>
      obtain ⟨live, simple⟩ := h.path start stop path known
      exact .of_path wf live simple
    | none => exact .of_failure fun ⟨live, _, path⟩ => (h.failure start stop known).2.2 ⟨live, path⟩
  | none =>
    obtain ⟨counted, hc⟩ : ∃ m : PathMemo, m = { memo with misses := memo.misses + 1 } := ⟨_, rfl⟩
    have h : Recalls g counted := by rw [hc]; exact ⟨h.path, h.onward, h.failure⟩
    have current : counted.generation = some g.generation := by rw [hc]; exact current
    have miss : counted.peek start stop = none := by rw [hc]; exact known
    simp only [← hc]
    split
    · next stale =>
      exact ⟨.of_failure fun ⟨ha, hb, _⟩ => stale.elim (absurd ha) (absurd hb), h, current⟩
    · next live =>
      simp only [not_or, not_not] at live
      obtain ⟨ha, hb⟩ := live
      split
      · next same =>
        subst same
        have simple := SimplePath.singleton g start
        exact ⟨.of_path wf ha simple, h.recordPath wf ha simple, current⟩
      · next ne =>
        split
        · next path found =>
          have simple := seekPath_found h miss (fun entry he => ?_) found
          · refine ⟨.of_path wf ha simple, h.recordPath wf ha simple, ?_⟩
            rw [generation_recordPath, current]
          · obtain rfl := List.mem_singleton.1 he
            refine ⟨.singleton g start, fun m hm hu => ?_, fun m hm => absurd hm List.not_mem_nil⟩
            exact (mem_others_iff.1 hu).2 (List.mem_singleton.1 hm)
        · next left exhausted =>
          obtain ⟨begun, hopeless⟩ := not_reaches_of_exhausted wf h miss exhausted
          refine ⟨.of_failure fun ⟨_, _, path⟩ => hopeless start begun ⟨ha, path⟩,
            h.recordNone hb fun n hn => ?_, by rw [generation_recordNone, current]⟩
          rw [List.mem_filter, mem_handles_iff] at hn
          exact ⟨hn.1, hopeless n (by simpa using hn.2)⟩

end Graph

end PeerTaint
