import PeerTaint.Proofs.Passes
import PeerTaint.Proofs.Paths

/-!
The paths that a pass retains.

A pass asks for the path to a node when it counts the node, from the source that led there, so that there is one
whatever the memory of paths has learnt before. It stops asking when it has as many paths as it may keep. Hence
the paths end in different nodes, all of them counted with accesses, and there are as many as such nodes
unless the limit is smaller (`Retains`). What is counted does not depend on any of this.
-/

namespace PeerTaint

theorem SortedSet.size_insert {κ : Type} [Key κ] [DecidableEq κ] {s : SortedSet κ} {k : κ} (new : k ∉ s) :
    (s.insert k).size = s.size + 1 := by
  have same : (s.insert k).elems.Perm (k :: s.elems) := by
    refine (List.perm_ext_iff_of_nodup (nodup_elems _) (List.nodup_cons.2 ⟨new, nodup_elems s⟩)).2 fun x => ?_
    rw [List.mem_cons]
    exact mem_insert
  exact same.length_eq

/-- How many paths a pass may keep. -/
def ReachabilityConfig.limit (c : ReachabilityConfig) : Nat := if c.retainPaths then c.maxPaths else 0

namespace Graph

/-- The nodes of a set that are accessed. -/
def accessed (g : Graph) (counted : SortedSet NodeId) : SortedSet NodeId :=
  counted.filter fun n => decide (0 < g.accessesTo n)

section Accessed

variable {g : Graph} {counted : SortedSet NodeId} {n : NodeId}

theorem mem_accessed : n ∈ g.accessed counted ↔ n ∈ counted ∧ 0 < g.accessesTo n := by
  simp [accessed]

theorem accessed_mono {m : NodeId} (h : m ∈ g.accessed counted) : m ∈ g.accessed (counted.insert n) := by
  rw [mem_accessed] at h ⊢
  exact ⟨SortedSet.mem_insert.2 (Or.inr h.1), h.2⟩

theorem size_accessed_insert {x : Node} (hx : g.node? n = some x) (new : n ∉ counted) :
    (g.accessed (counted.insert n)).size = (g.accessed counted).size + if 0 < x.count then 1 else 0 := by
  have accesses : g.accessesTo n = x.count := by rw [accessesTo, hx, Option.elim_some]
  split
  · next pos =>
    have more : g.accessed (counted.insert n) = (g.accessed counted).insert n := by
      refine SortedSet.ext fun m => ?_
      have : m = n → 0 < g.accessesTo m := by
        rintro rfl
        rwa [accesses]
      rw [mem_accessed, SortedSet.mem_insert, SortedSet.mem_insert, mem_accessed]
      tauto
    rw [more, SortedSet.size_insert fun hn => new (mem_accessed.1 hn).1]
  · next none =>
    have same : g.accessed (counted.insert n) = g.accessed counted := by
      refine SortedSet.ext fun m => ⟨fun hm => ?_, accessed_mono⟩
      obtain ⟨hm, pos⟩ := mem_accessed.1 hm
      refine mem_accessed.2 ⟨(SortedSet.mem_insert.1 hm).resolve_left fun he => ?_, pos⟩
      rw [he, accesses] at pos
      exact none pos
    rw [same]
    rfl

end Accessed

/-- A path is asked for if the node is accessed and there is room for one more. -/
theorem retainPath_eq (g : Graph) (c : ReachabilityConfig) (source : NodeId) (s : CountingPass) (x : Node) :
    g.retainPath c source s x =
      if 0 < x.count ∧ s.found.paths.length < c.limit then
        { s with
          memo := (g.findPath s.memo source x.id).2
          found := { s.found with paths := s.found.paths ++ (g.findPath s.memo source x.id).1.toList } }
      else s := by
  unfold retainPath ReachabilityConfig.limit
  cases c.retainPaths <;> simp

/-! ## The paths so far -/

/-- The memory of a pass is right, and the paths it has kept lead from its sources to nodes that it has counted:
one to each node that is accessed, as far as there was room. -/
structure Retains (g : Graph) (c : ReachabilityConfig) (sources : List NodeId) (s : CountingPass) : Prop where
  memo : Recalls g (s.memo.sync g.generation)
  length : s.found.paths.length = min c.limit (g.accessed s.found.counted).size
  leads : ∀ path ∈ s.found.paths, ∃ a ∈ sources, ∃ n ∈ g.accessed s.found.counted, SimplePath g a n path
  ends : (s.found.paths.map List.getLast?).Nodup

section Retains

variable {g : Graph} {c : ReachabilityConfig} {outside : Option Program} {sources : List NodeId}
  {s : CountingPass} {source n : NodeId}

/-- The answer to a question leaves the memory right for the next one. -/
theorem recalls_findPath (wf : Linked g) {memo : PathMemo} (h : Recalls g (memo.sync g.generation))
    (start stop : NodeId) : Recalls g ((g.findPath memo start stop).2.sync g.generation) := by
  obtain ⟨-, recalls, current⟩ := findPath_correct wf h start stop
  rwa [PathMemo.sync, if_pos current]

/-- Where one node leads to another, a path is found. -/
theorem exists_findPath (wf : Linked g) {memo : PathMemo} (h : Recalls g (memo.sync g.generation))
    (reach : g.Reaches source n) :
    ∃ path, (g.findPath memo source n).1 = some path ∧ SimplePath g source n path := by
  obtain ⟨answers, -⟩ := findPath_correct wf h source n
  obtain ⟨path, found⟩ := Option.isSome_iff_exists.1 (answers.isSome_iff.2 ⟨reach.1, reach.isLive wf, reach.2⟩)
  exact ⟨path, found, answers.path path found⟩

/-- A node is counted for the first time. -/
theorem Retains.retainPath (wf : Linked g) (h : Retains g c sources s) (hsource : source ∈ sources)
    (reach : g.Reaches source n) {x : Node} (hx : g.node? n = some x) (new : n ∉ s.found.counted)
    (visited : SortedSet NodeId) (count : Nat) :
    Retains g c sources (g.retainPath c source
      { s with visited, found := { s.found with count, counted := s.found.counted.insert n } } x) := by
  have length := h.length
  have size := size_accessed_insert hx new
  have leads : ∀ path ∈ s.found.paths, ∃ a ∈ sources, ∃ m ∈ g.accessed (s.found.counted.insert n),
      SimplePath g a m path := by
    intro path hpath
    obtain ⟨a, ha, m, hm, simple⟩ := h.leads path hpath
    exact ⟨a, ha, m, accessed_mono hm, simple⟩
  rw [retainPath_eq, wf.id_eq n x hx]
  split
  · next room =>
    have room : 0 < x.count ∧ s.found.paths.length < c.limit := room
    obtain ⟨path, found, simple⟩ := exists_findPath wf h.memo reach
    have accessed : n ∈ g.accessed (s.found.counted.insert n) := by
      rw [mem_accessed, accessesTo, hx]
      exact ⟨SortedSet.mem_insert.2 (Or.inl rfl), room.1⟩
    dsimp only
    rw [found, Option.toList_some]
    refine ⟨recalls_findPath wf h.memo source n, ?_, fun path' hpath' => ?_, ?_⟩
    · rw [if_pos room.1] at size
      simp only [List.length_append, List.length_singleton]
      omega
    · rcases List.mem_append.1 hpath' with old | last
      · exact leads path' old
      · cases List.mem_singleton.1 last
        exact ⟨source, hsource, n, accessed, simple⟩
    · -- the other paths end in nodes that were counted before
      rw [List.map_append, List.map_singleton, simple.last]
      refine List.nodup_append'.2 ⟨h.ends, List.nodup_singleton _, fun l hl last => ?_⟩
      obtain ⟨path', hpath', rfl⟩ := List.mem_map.1 hl
      obtain ⟨a, -, m, hm, simple'⟩ := h.leads path' hpath'
      rw [simple'.last, List.mem_singleton, Option.some.injEq] at last
      exact new (last ▸ (mem_accessed.1 hm).1)
  · next full =>
    have full : ¬ (0 < x.count ∧ s.found.paths.length < c.limit) := full
    refine ⟨h.memo, ?_, leads, h.ends⟩
    change s.found.paths.length = min c.limit (g.accessed (s.found.counted.insert n)).size
    split at size <;> omega

/-- A node that the source leads to is counted, or passed over. -/
theorem Retains.countNode (wf : Linked g) (h : Retains g c sources s) (weighed : Weighed g s)
    (hsource : source ∈ sources) (reach : g.Reaches source n) :
    Retains g c sources (g.countNode c outside source s n) := by
  unfold Graph.countNode
  cases hx : g.node? n with
  | none => exact h
  | some x =>
    dsimp only
    split
    · exact h
    · next counts =>
      exact h.retainPath wf hsource reach hx (fun old => counts (Or.inr (weighed.visited n old))) _ _

theorem Retains.foldl_countNode (wf : Linked g) (h : Retains g c sources s) (weighed : Weighed g s)
    (hsource : source ∈ sources) {ns : List NodeId} (reach : ∀ n ∈ ns, g.Reaches source n) :
    Retains g c sources (ns.foldl (g.countNode c outside source) s) := by
  induction ns generalizing s with
  | nil => exact h
  | cons n ns ih =>
    refine ih (h.countNode wf weighed hsource (reach n List.mem_cons_self)) ?_ fun m hm =>
      reach m (List.mem_cons_of_mem n hm)
    exact (weighed.countNode c outside source n).1

theorem Retains.countSource (wf : Linked g) (h : Retains g c sources s) (weighed : Weighed g s)
    (hsource : source ∈ sources) : Retains g c sources (g.countSource c outside s source) := by
  unfold Graph.countSource
  split
  · exact h
  · have begun : Retains g c sources { s with visited := s.visited.insert source } :=
      ⟨h.memo, h.length, h.leads, h.ends⟩
    refine begun.foldl_countNode wf ⟨weighed.count, fun n hn => ?_⟩ hsource fun n hn => ?_
    · exact SortedSet.mem_insert.2 (Or.inr (weighed.visited n hn))
    · exact (mem_forward_iff wf).1 (SortedSet.mem_def.2 hn)

/-- What a pass keeps, if its memory was right at the start. -/
theorem retains_countChecks (wf : Linked g) {memo : PathMemo} (right : Recalls g (memo.sync g.generation))
    (c : ReachabilityConfig) (visited : SortedSet NodeId) (outside : Option Program) (sources : List NodeId) :
    Retains g c sources (g.countChecks c memo visited outside sources) := by
  -- over the first sources of the pass, so that those before a source are through
  suffices ∀ first, (∀ a ∈ first, a ∈ sources) →
      Retains g c sources (g.countChecks c memo visited outside first) from this sources fun _ ha => ha
  intro first
  induction first using List.reverseRecOn with
  | nil => exact fun _ => ⟨right, (Nat.min_zero _).symm, fun path hpath => absurd hpath List.not_mem_nil, .nil⟩
  | append_singleton first a ih =>
    intro part
    have before := ih fun b hb => part b (List.mem_append_left _ hb)
    have weighed := (through_countChecks wf c memo visited outside first).toWeighed
    unfold countChecks
    rw [List.foldl_append]
    exact before.countSource wf weighed (part a (List.mem_append_right _ List.mem_cons_self))

end Retains

theorem Countable.isMem {g : Graph} {outside : Option Program} {n : NodeId} (h : g.Countable outside n) :
    g.isMem n = true := by
  obtain ⟨x, hx, counts⟩ := h
  rw [Graph.isMem, hx]
  exact (Bool.and_eq_true_iff.1 counts).1

/-! ## Pass after pass -/

/-- What a pass is asked for. -/
structure CountRequest where
  sources : List NodeId
  outside : Option Program
  visited : SortedSet NodeId

/-- The memory that passes over one graph leave, the first of which started with an empty one. -/
def memoAfter (g : Graph) (c : ReachabilityConfig) (earlier : List CountRequest) : PathMemo :=
  earlier.foldl (fun memo r => (g.countChecks c memo r.visited r.outside r.sources).memo) {}

theorem recalls_memoAfter {g : Graph} (wf : Linked g) (c : ReachabilityConfig) (earlier : List CountRequest) :
    Recalls g ((g.memoAfter c earlier).sync g.generation) := by
  unfold memoAfter
  induction earlier using List.reverseRecOn with
  | nil => exact recalls_of_entries_eq_empty rfl
  | append_singleton earlier r ih =>
    rw [List.foldl_append]
    exact (retains_countChecks wf ih c r.visited r.outside r.sources).memo

/-- Whatever passes ran before, a pass that retains paths keeps one to each accessed node that it counts, as many as
it may; they lead from its sources and repeat no node. What it counts and visits is the same whether and how many
paths are kept, and whatever is remembered. -/
theorem retained_paths (ms : List Mutation) (c : ReachabilityConfig) (earlier : List CountRequest)
    (visited : SortedSet NodeId) (outside : Option Program) (sources : List NodeId) :
    let g := after ms
    let pass := g.countChecks c (g.memoAfter c earlier) visited outside sources
    (c.retainPaths = true →
      pass.found.paths.length = min c.maxPaths (g.accessed pass.found.counted).size ∧
      (∀ path ∈ pass.found.paths, ∃ a ∈ sources, ∃ n ∈ pass.found.counted,
        g.isMem n = true ∧ 0 < g.accessesTo n ∧ SimplePath g a n path) ∧
      (pass.found.paths.map List.getLast?).Nodup) ∧
    (c.retainPaths = false → pass.found.paths = []) ∧
    ∀ c' memo',
      let pass' := g.countChecks c' memo' visited outside sources
      pass'.found.count = pass.found.count ∧ pass'.found.counted = pass.found.counted ∧
        pass'.visited = pass.visited := by
  intro g pass
  have wf : Linked g := (wellFormed_after ms).toLinked
  have retains := retains_countChecks wf (recalls_memoAfter wf c earlier) c visited outside sources
  have through := through_countChecks wf c (g.memoAfter c earlier) visited outside sources
  refine ⟨fun keep => ⟨?_, fun path hpath => ?_, retains.ends⟩, fun drop => ?_, ?_⟩
  · have limit : c.limit = c.maxPaths := if_pos keep
    rw [← limit]
    exact retains.length
  · obtain ⟨a, ha, n, hn, simple⟩ := retains.leads path hpath
    obtain ⟨counted, accessed⟩ := mem_accessed.1 hn
    exact ⟨a, ha, n, counted, ((through.counted n).1 counted).1.isMem, accessed, simple⟩
  · have limit : c.limit = 0 := if_neg (by rw [drop]; exact Bool.false_ne_true)
    have length := retains.length
    rw [limit, Nat.zero_min] at length
    exact List.length_eq_zero_iff.1 length
  · intro c' memo' pass'
    have through' := through_countChecks wf c' memo' visited outside sources
    have counted : pass'.found.counted = pass.found.counted :=
      SortedSet.ext fun n => by rw [through'.counted, through.counted]
    refine ⟨?_, counted, SortedSet.ext fun n => ?_⟩
    · rw [through'.count, through.count, counted]
    · rw [through'.seen, through.seen, counted]

end Graph

end PeerTaint
