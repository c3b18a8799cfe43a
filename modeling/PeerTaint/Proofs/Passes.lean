import PeerTaint.Proofs.Counts

/-!
What a pass counts, whatever it starts at.

Sources and counted nodes share one set of visited nodes. A node of memory that is itself among the sources is
therefore counted only if an earlier source leads to it; met as a source first, it is marked and never counted
(`Led`). A source that is passed over hides nothing: what it leads to, the source that it was met from leads to
as well. `Through` says this after every source. Whether memory of a program is left out has no part in
it, so that leaving it out only takes nodes away.
-/

namespace PeerTaint

namespace Graph

/-- A source that was not visited before leads to the node, and the node is no source up to there. -/
def Led (g : Graph) (V : Set NodeId) (sources : List NodeId) (n : NodeId) : Prop :=
  ∃ before a after, sources = before ++ a :: after ∧ n ∉ before ∧ n ≠ a ∧ a ∉ V ∧ g.Reaches a n

section Led

variable {g : Graph} {V : Set NodeId} {sources : List NodeId} {a b n : NodeId}

theorem not_led_nil : ¬ g.Led V [] n := by
  rintro ⟨before, a, after, split, -⟩
  simp at split

/-- One more source at the end leads to what is no source itself. -/
theorem led_concat :
    g.Led V (sources ++ [a]) n ↔ g.Led V sources n ∨ n ∉ sources ∧ n ≠ a ∧ a ∉ V ∧ g.Reaches a n := by
  constructor
  · rintro ⟨before, b, after, split, fresh, ne, new, reach⟩
    rcases List.eq_nil_or_concat after with rfl | ⟨rest, last, rfl⟩
    · obtain ⟨rfl, same⟩ := List.append_inj' split rfl
      cases same
      exact Or.inr ⟨fresh, ne, new, reach⟩
    · rw [List.concat_eq_append, ← List.cons_append, ← List.append_assoc] at split
      obtain ⟨rfl, -⟩ := List.append_inj' split rfl
      exact Or.inl ⟨before, b, rest, rfl, fresh, ne, new, reach⟩
  · rintro (⟨before, b, after, rfl, fresh, ne, new, reach⟩ | ⟨fresh, ne, new, reach⟩)
    · exact ⟨before, b, after ++ [a], by simp, fresh, ne, new, reach⟩
    · exact ⟨sources, a, [], rfl, fresh, ne, new, reach⟩

/-- What is no source is led to from any source that leads there. -/
theorem led_of_mem (ha : a ∈ sources) (new : a ∉ V) (fresh : n ∉ sources) (reach : g.Reaches a n) :
    g.Led V sources n := by
  obtain ⟨before, after, rfl⟩ := List.append_of_mem ha
  refine ⟨before, a, after, rfl, fun h => fresh (List.mem_append_left _ h), ?_, new, reach⟩
  rintro rfl
  exact fresh (List.mem_append_right _ List.mem_cons_self)

theorem Led.exists_mem (h : g.Led V sources n) : ∃ a ∈ sources, a ∉ V ∧ g.Reaches a n := by
  obtain ⟨before, a, after, rfl, -, -, new, reach⟩ := h
  exact ⟨a, List.mem_append_right _ List.mem_cons_self, new, reach⟩

theorem Reaches.trans (h : g.Reaches a b) (h' : g.Reaches b n) : g.Reaches a n := ⟨h.1, h.2.trans h'.2⟩

end Led

/-! ## The sources of a pass -/

/-- A pass that began with the nodes of `V` visited is through with some sources. -/
structure Through (g : Graph) (outside : Option Program) (V : Set NodeId) (sources : List NodeId)
    (s : CountingPass) : Prop extends Weighed g s where
  counted : ∀ n, n ∈ s.found.counted ↔ g.Countable outside n ∧ n ∉ V ∧ g.Led V sources n
  /-- Nothing is visited but what was at the start, the sources and the counted nodes. -/
  seen : ∀ n, n ∈ s.visited ↔ n ∈ V ∨ (n ∈ sources ∧ g.isLive n = true) ∨ n ∈ s.found.counted

section Through

variable {g : Graph} {c : ReachabilityConfig} {outside : Option Program} {V : Set NodeId}
  {sources : List NodeId} {s : CountingPass} {a n : NodeId}

theorem Countable.isLive (h : g.Countable outside n) : g.isLive n = true := by
  obtain ⟨x, hx, -⟩ := h
  exact isLive_of_node? hx

/-- Everything that a visited node leads to and that can be counted was counted, was visited at the start or
is a source. -/
theorem Through.led_of_seen (h : Through g outside V sources s) (seen : a ∈ s.visited) (new : a ∉ V)
    (fresh : n ∉ sources) (reach : g.Reaches a n) : g.Led V sources n := by
  rcases (h.seen a).1 seen with old | ⟨source, -⟩ | counted
  · exact absurd old new
  · exact led_of_mem source new fresh reach
  · -- the source that the node was counted from leads on
    obtain ⟨b, hb, newb, reachb⟩ := ((h.counted a).1 counted).2.2.exists_mem
    exact led_of_mem hb newb fresh (reachb.trans reach)

/-- A source that is passed over adds nothing. -/
theorem Through.skip (h : Through g outside V sources s) (skip : g.isLive a = false ∨ a ∈ s.visited) :
    Through g outside V (sources ++ [a]) s := by
  have counted : ∀ n, n ∈ s.found.counted ↔ g.Countable outside n ∧ n ∉ V ∧ g.Led V (sources ++ [a]) n := by
    intro n
    rw [h.counted, led_concat]
    refine and_congr_right fun _ => and_congr_right fun _ => ⟨Or.inl, ?_⟩
    rintro (led | ⟨fresh, -, new, reach⟩)
    · exact led
    · rcases skip with stale | seen
      · rw [reach.1] at stale
        cases stale
      · exact h.led_of_seen seen new fresh reach
  refine { h with counted, seen := fun n => ?_ }
  rw [h.seen, List.mem_append, List.mem_singleton]
  constructor
  · exact fun seen => seen.imp_right (Or.imp_left (And.imp_left Or.inl))
  · rintro (old | ⟨source | rfl, live⟩ | counted)
    · exact Or.inl old
    · exact Or.inr (Or.inl ⟨source, live⟩)
    · rcases skip with stale | seen
      · rw [live] at stale
        cases stale
      · exact (h.seen n).1 seen
    · exact Or.inr (Or.inr counted)

/-- A source that is not passed over is marked, and what it leads to is counted unless it was visited. -/
theorem Through.enter (wf : Linked g) (h : Through g outside V sources s) (live : g.isLive a = true)
    (unseen : a ∉ s.visited) :
    Through g outside V (sources ++ [a]) ((g.forward a).elems.foldl (g.countNode c outside a)
      { s with visited := s.visited.insert a }) := by
  have begun : Weighed g { s with visited := s.visited.insert a } :=
    ⟨h.count, fun n hn => SortedSet.mem_insert.2 (Or.inr (h.visited n hn))⟩
  obtain ⟨weighed, visited, counted⟩ := begun.foldl_countNode c outside a (g.forward a).elems
  simp only [SortedSet.mem_insert, ← SortedSet.mem_def, mem_forward_iff wf] at visited counted
  have new : a ∉ V := fun old => unseen ((h.seen a).2 (Or.inl old))
  refine { weighed with counted := fun n => ?_, seen := fun n => ?_ }
  · -- what can be counted is live, so a source that can be counted was visited
    have isLive : g.Countable outside n → g.isLive n = true := Countable.isLive
    rw [counted, led_concat, h.counted, h.seen, h.counted]
    grind
  · have isLive : n = a → g.isLive n = true := by
      rintro rfl
      exact live
    rw [visited, counted, h.seen, List.mem_append, List.mem_singleton]
    grind

theorem Through.countSource (wf : Linked g) (h : Through g outside V sources s) (a : NodeId) :
    Through g outside V (sources ++ [a]) (g.countSource c outside s a) := by
  unfold Graph.countSource
  split
  · next skip => exact h.skip skip
  · next enter =>
    rw [not_or, Bool.not_eq_false] at enter
    exact h.enter wf enter.1 enter.2

/-- A pass is through with its sources. -/
theorem through_countChecks (wf : Linked g) (c : ReachabilityConfig) (memo : PathMemo)
    (visited : SortedSet NodeId) (outside : Option Program) (sources : List NodeId) :
    Through g outside {n | n ∈ visited} sources (g.countChecks c memo visited outside sources) := by
  unfold countChecks
  induction sources using List.reverseRecOn with
  | nil =>
    have nothing : {n | n ∈ (SortedSet.empty : SortedSet NodeId)} = ∅ := by ext n; simp
    refine ⟨⟨?_, fun n hn => absurd hn SortedSet.not_mem_empty⟩, fun n => ?_, fun n => ?_⟩
    · change 0 = g.weight {n | n ∈ (SortedSet.empty : SortedSet NodeId)}
      rw [nothing, weight_empty]
    · exact iff_of_false SortedSet.not_mem_empty fun h => not_led_nil h.2.2
    · simp
  | append_singleton sources a ih =>
    rw [List.foldl_append]
    exact ih.countSource wf a

end Through

/-! ## What passes count -/

section Compare

variable {g : Graph} {n : NodeId}

theorem weight_mono (g : Graph) {S T : Set NodeId} (h : S ⊆ T) : g.weight S ≤ g.weight T := by
  have parts := g.weight_inter_add_diff T S
  rw [Set.inter_eq_right.2 h] at parts
  omega

/-- Leaving a program out takes its nodes away from what can be counted. -/
theorem countable_some_iff {p : Program} : g.Countable (some p) n ↔
    g.Countable none n ∧ (g.node? n).any (fun x => decide (x.program ≠ p)) = true := by
  unfold Countable
  cases g.node? n with
  | none => simp
  | some x => simp [countable]

/-- What is no source is led to exactly if a source leads to it. -/
theorem led_iff {V : Set NodeId} {sources : List NodeId} (fresh : n ∉ sources) :
    g.Led V sources n ↔ ∃ a ∈ sources, a ∉ V ∧ g.Reaches a n := by
  constructor
  · exact Led.exists_mem
  · rintro ⟨a, ha, new, reach⟩
    exact led_of_mem ha new fresh reach

end Compare

/-- From the same start, a pass that leaves a program out counts what another pass counts, less the nodes of that
program. So its count is never the greater one. -/
theorem counted_outside_eq_filter (ms : List Mutation) (c c' : ReachabilityConfig) (memo memo' : PathMemo)
    (visited : SortedSet NodeId) (p : Program) (sources : List NodeId) :
    let g := after ms
    let plain := (g.countChecks c memo visited none sources).found
    let cross := (g.countChecks c' memo' visited (some p) sources).found
    cross.counted = plain.counted.filter (fun n => (g.node? n).any fun x => decide (x.program ≠ p)) ∧
      cross.count ≤ plain.count := by
  intro g plain cross
  have wf : Linked g := (wellFormed_after ms).toLinked
  have hplain := through_countChecks wf c memo visited none sources
  have hcross := through_countChecks wf c' memo' visited (some p) sources
  have part : cross.counted =
      plain.counted.filter fun n => (g.node? n).any fun x => decide (x.program ≠ p) := by
    refine SortedSet.ext fun n => ?_
    rw [SortedSet.mem_filter, hplain.counted, hcross.counted, countable_some_iff]
    tauto
  refine ⟨part, ?_⟩
  calc cross.count = g.weight {n | n ∈ cross.counted} := hcross.count
    _ ≤ g.weight {n | n ∈ plain.counted} := g.weight_mono fun n hn => by
        rw [Set.mem_ofPred_eq, part, SortedSet.mem_filter] at hn
        exact hn.1
    _ = plain.count := hplain.count.symm

/-- A pass counts what sources lead to, except for sources that no source before them leads to. What is no source
is counted exactly if a source leads to it, in whatever order the sources come and however often. All of the
count is so if no source can be counted itself. -/
theorem counted_iff_led (ms : List Mutation) (c : ReachabilityConfig) (memo : PathMemo)
    (visited : SortedSet NodeId) (outside : Option Program) (sources : List NodeId) :
    let g := after ms
    let found := (g.countChecks c memo visited outside sources).found
    (∀ n, n ∈ found.counted ↔
      g.Countable outside n ∧ n ∉ visited ∧ g.Led {a | a ∈ visited} sources n) ∧
    (∀ n, n ∉ sources → (n ∈ found.counted ↔
      g.Countable outside n ∧ n ∉ visited ∧ ∃ a ∈ sources, a ∉ visited ∧ g.Reaches a n)) ∧
    found.count = g.weight {n | n ∈ found.counted} ∧
    ∀ c' memo' sources', (∀ a, a ∈ sources' ↔ a ∈ sources) →
      let found' := (g.countChecks c' memo' visited outside sources').found
      (∀ n, n ∉ sources → (n ∈ found'.counted ↔ n ∈ found.counted)) ∧
      ((∀ a ∈ sources, ¬ g.Countable outside a) →
        found'.counted = found.counted ∧ found'.count = found.count) := by
  intro g found
  have wf : Linked g := (wellFormed_after ms).toLinked
  have law := through_countChecks wf c memo visited outside sources
  have plain : ∀ n, n ∉ sources → (n ∈ found.counted ↔
      g.Countable outside n ∧ n ∉ visited ∧ ∃ a ∈ sources, a ∉ visited ∧ g.Reaches a n) := by
    intro n fresh
    rw [law.counted, led_iff fresh]
    rfl
  refine ⟨law.counted, plain, law.count, ?_⟩
  intro c' memo' sources' same found'
  have law' := through_countChecks wf c' memo' visited outside sources'
  have agree : ∀ n, n ∉ sources → (n ∈ found'.counted ↔ n ∈ found.counted) := by
    intro n fresh
    rw [plain n fresh, law'.counted, led_iff (mt (same n).1 fresh)]
    simp only [same]
    rfl
  refine ⟨agree, fun other => ?_⟩
  have counted : found'.counted = found.counted := by
    refine SortedSet.ext fun n => ?_
    by_cases source : n ∈ sources
    · refine iff_of_false (fun hn => ?_) fun hn => ?_
      · exact other n source ((law'.counted n).1 hn).1
      · exact other n source ((law.counted n).1 hn).1
    · exact agree n source
  exact ⟨counted, by rw [law'.count, law.count, counted]⟩

/-- An input that flows into memory. -/
def tapped : List Mutation :=
  [.inputNode ⟨.first, 0⟩ .local "getenv", .memNode .first 0 "m", .recordAccess 1, .connect 0 1 .data]

/-- Both sources lead to the memory, which is one of them. It is counted when the input comes first, and missed
when it comes first itself. -/
theorem memory_source_missed :
    let g := after tapped
    let count := fun sources => (g.countChecks {} {} .empty none sources).found
    (∀ a ∈ [1, 0], g.isLive a = true) ∧ g.Countable none 1 ∧ g.Reaches 0 1 ∧ g.Reaches 1 1 ∧
      1 ∉ (count [1, 0]).counted ∧ (count [1, 0]).count = 0 ∧
      1 ∈ (count [0, 1]).counted ∧ (count [0, 1]).count = 1 := by
  intro g count
  have live : ∀ a ∈ [1, 0], g.isLive a = true := by decide +kernel
  have edge : g.Edge 0 1 := by
    unfold Edge
    decide +kernel
  refine ⟨live, ?_, ⟨live 0 (by simp), .single edge⟩, .refl (live 1 (by simp)), ?_⟩
  · exact ⟨_, rfl, rfl⟩
  · decide +kernel

end Graph

end PeerTaint
