import PeerTaint.Proofs.History
import PeerTaint.Proofs.Paths

/-!
Questions for paths while the graph changes.

A session is a graph and one memory of paths; mutations and questions follow each other in any order.
Within a generation the nodes and edges that a remembered answer speaks of stay, so the memory stays
right; in a new generation it is emptied before it is asked. The main result says that every answer is
right for the graph as it is, and that no answer of a new generation depends on older entries.
-/

namespace PeerTaint

/-- What happens in a session. -/
inductive Event where
  | mutate (m : Mutation)
  | query (start stop : NodeId)

/-- A graph and a memory of its paths. -/
structure Session where
  graph : Graph := .empty
  memo : PathMemo := {}

namespace PathMemo

/-- Two memories that differ at most in their tallies. -/
structure SameEntries (memo memo' : PathMemo) : Prop where
  generation : memo.generation = memo'.generation
  entries : memo.entries = memo'.entries

theorem SameEntries.peek {memo memo' : PathMemo} (h : memo.SameEntries memo') (a b : NodeId) :
    memo.peek a b = memo'.peek a b := by
  rw [PathMemo.peek, PathMemo.peek, h.entries]

theorem SameEntries.record {memo memo' : PathMemo} (h : memo.SameEntries memo') (a b : NodeId)
    (answer : Option (List NodeId)) : (memo.record a b answer).SameEntries (memo'.record a b answer) :=
  ⟨h.generation, by rw [PathMemo.record, PathMemo.record, h.entries]⟩

theorem SameEntries.recordPath {memo memo' : PathMemo} (h : memo.SameEntries memo') (stop : NodeId)
    (path : List NodeId) : (memo.recordPath stop path).SameEntries (memo'.recordPath stop path) := by
  induction path generalizing memo memo' with
  | nil => exact h
  | cons n path ih => exact ih (h.record n stop _)

theorem SameEntries.recordNone {memo memo' : PathMemo} (h : memo.SameEntries memo') (stop : NodeId)
    (ns : List NodeId) : (memo.recordNone stop ns).SameEntries (memo'.recordNone stop ns) := by
  unfold PathMemo.recordNone
  induction ns generalizing memo memo' with
  | nil => exact h
  | cons n ns ih => exact ih (h.record n stop none)

end PathMemo

namespace Graph

/-- Within a generation a memory stays right. -/
theorem Recalls.evolves {g g' : Graph} {memo : PathMemo} (h : Recalls g memo) (e : Evolves g g')
    (same : g'.generation = g.generation) : Recalls g' memo := by
  have edge : g'.Edge = g.Edge := by
    funext a b
    exact congrArg (· = true) (e.edge same a b)
  refine ⟨fun a b path hp => ?_, h.onward, fun a b hp => ?_⟩
  · obtain ⟨live, simple⟩ := h.path a b path hp
    exact ⟨e.live same a live, { simple with chain := edge ▸ simple.chain }⟩
  · obtain ⟨ha, hb, failure⟩ := h.failure a b hp
    exact ⟨e.live same a ha, e.live same b hb, fun reach => failure ⟨ha, edge ▸ reach.2⟩⟩

/-- A search only looks at the entries of a memory. -/
theorem seekPath_congr {g : Graph} {memo memo' : PathMemo} (h : memo.SameEntries memo')
    (start stop : NodeId) (agenda : List (NodeId × List NodeId)) (unseen : List NodeId) :
    g.seekPath memo start stop agenda unseen = g.seekPath memo' start stop agenda unseen := by
  fun_induction seekPath g memo start stop agenda unseen with
  | case1 => rw [seekPath]
  | case2 way agenda unseen => rw [seekPath, if_pos rfl]
  | case3 n way agenda unseen hne rest lookup =>
    rw [dite_eq_ite] at lookup
    rw [seekPath, if_neg hne, ← h.peek, lookup]
  | case4 n way agenda unseen hne lookup ih =>
    rw [dite_eq_ite] at lookup
    rw [seekPath, if_neg hne, ← h.peek, lookup]
    exact ih
  | case5 n way agenda unseen hne lookup ih =>
    rw [dite_eq_ite] at lookup
    rw [seekPath, if_neg hne, ← h.peek, lookup]
    exact ih

/-- Apart from its tallies, what a question does depends on the entries of the present generation. -/
theorem findPath_congr {g : Graph} {memo memo' : PathMemo}
    (h : (memo.sync g.generation).SameEntries (memo'.sync g.generation)) (start stop : NodeId) :
    (g.findPath memo start stop).1 = (g.findPath memo' start stop).1 ∧
      (g.findPath memo start stop).2.SameEntries (g.findPath memo' start stop).2 := by
  unfold findPath
  revert h
  generalize memo.sync g.generation = memo
  generalize memo'.sync g.generation = memo'
  intro h
  have counted : ({ memo with misses := memo.misses + 1 } : PathMemo).SameEntries
      { memo' with misses := memo'.misses + 1 } := ⟨h.generation, h.entries⟩
  dsimp only
  rw [h.peek]
  cases memo'.peek start stop with
  | some answer => exact ⟨rfl, h.generation, h.entries⟩
  | none =>
    dsimp only
    rw [seekPath_congr counted]
    split
    · exact ⟨rfl, counted⟩
    · split
      · exact ⟨rfl, counted.record start stop _⟩
      · split
        · exact ⟨rfl, counted.recordPath stop _⟩
        · exact ⟨rfl, counted.recordNone stop _⟩

end Graph

namespace Session

open PeerTaint.Graph

/-- The session after an event. -/
def step (s : Session) : Event → Session
  | .mutate m => { s with graph := m.apply s.graph }
  | .query start stop => { s with memo := (s.graph.findPath s.memo start stop).2 }

/-- The session after some events. -/
def run (s : Session) (es : List Event) : Session := es.foldl step s

/-- The answers to the questions among some events. -/
def answers (s : Session) : List Event → List (Option (List NodeId))
  | [] => []
  | .mutate m :: es => (s.step (.mutate m)).answers es
  | .query start stop :: es =>
    (s.graph.findPath s.memo start stop).1 :: (s.step (.query start stop)).answers es

/-! ## The memory of a session is right -/

/-- The memory does not come from a later generation, and is right if it comes from the present
one. -/
structure Sound (s : Session) : Prop where
  wellFormed : WellFormed s.graph
  memo : ∀ k, s.memo.generation = some k →
    k ≤ s.graph.generation ∧ (k = s.graph.generation → Recalls s.graph s.memo)

theorem Sound.recalls_sync {s : Session} (h : Sound s) :
    Recalls s.graph (s.memo.sync s.graph.generation) := by
  unfold PathMemo.sync
  split
  · next current => exact (h.memo _ current).2 rfl
  · exact recalls_of_entries_eq_empty rfl

theorem Sound.step {s : Session} (h : Sound s) (e : Event) : Sound (s.step e) := by
  cases e with
  | mutate m =>
    have changes := changes_apply s.graph m
    have evolves := changes.evolves h.wellFormed
    refine ⟨changes.wellFormed h.wellFormed, fun k hk => ?_⟩
    obtain ⟨le, recalls⟩ := h.memo k hk
    refine ⟨le.trans evolves.generation_le, fun he => ?_⟩
    have same : (m.apply s.graph).generation = s.graph.generation :=
      le_antisymm (he ▸ le) evolves.generation_le
    exact (recalls (he.trans same)).evolves evolves same
  | query start stop =>
    obtain ⟨-, recalls, current⟩ := findPath_correct h.wellFormed.toLinked h.recalls_sync start stop
    refine ⟨h.wellFormed, fun k hk => ?_⟩
    cases current.symm.trans hk
    exact ⟨le_rfl, fun _ => recalls⟩

theorem Sound.run {s : Session} (h : Sound s) (es : List Event) : Sound (s.run es) := by
  induction es generalizing s with
  | nil => exact h
  | cons e es ih => exact ih (h.step e)

theorem sound_empty : Sound {} := ⟨wellFormed_empty, fun k hk => by cases hk⟩

/-! ## What a memory of an earlier generation does not change -/

/-- The memory comes from an earlier generation. -/
def Outdated (g : Graph) (memo : PathMemo) : Prop := ∀ k, memo.generation = some k → k < g.generation

/-- Two memories that answer alike: they have the same entries, or both will be emptied. -/
def Alike (g : Graph) (memo memo' : PathMemo) : Prop :=
  memo.SameEntries memo' ∨ Outdated g memo ∧ Outdated g memo'

theorem Alike.sync {g : Graph} {memo memo' : PathMemo} (h : Alike g memo memo') :
    (memo.sync g.generation).SameEntries (memo'.sync g.generation) := by
  rcases h with ⟨generation, entries⟩ | ⟨outdated, outdated'⟩
  · unfold PathMemo.sync
    rw [generation]
    split <;> [exact ⟨generation, entries⟩; exact ⟨rfl, rfl⟩]
  · have emptied : ∀ {m : PathMemo}, Outdated g m → m.generation ≠ some g.generation :=
      fun h he => Nat.lt_irrefl _ (h _ he)
    unfold PathMemo.sync
    rw [if_neg (emptied outdated), if_neg (emptied outdated')]
    exact ⟨rfl, rfl⟩

theorem Alike.apply {g : Graph} (wf : WellFormed g) {memo memo' : PathMemo} (h : Alike g memo memo')
    (m : Mutation) : Alike (m.apply g) memo memo' := by
  have le := ((changes_apply g m).evolves wf).generation_le
  exact h.imp_right fun ⟨outdated, outdated'⟩ =>
    ⟨fun k hk => (outdated k hk).trans_le le, fun k hk => (outdated' k hk).trans_le le⟩

/-- Sessions with the same graph and memories that answer alike give the same answers. -/
theorem answers_congr {g : Graph} (wf : WellFormed g) {memo memo' : PathMemo} (h : Alike g memo memo')
    (es : List Event) : answers ⟨g, memo⟩ es = answers ⟨g, memo'⟩ es := by
  induction es generalizing g memo memo' with
  | nil => rfl
  | cons e es ih =>
    cases e with
    | mutate m => exact ih ((changes_apply g m).wellFormed wf) (h.apply wf m)
    | query start stop =>
      obtain ⟨same, entries⟩ := findPath_congr h.sync start stop
      change _ :: _ = _ :: _
      rw [same]
      exact congrArg _ (ih wf (Or.inl entries))

/-! ## Every answer is right -/

theorem generation_connect {g : Graph} {a b : NodeId} {kind : EdgeKind}
    (new : (g.connect a b kind).1 = true) : (g.connect a b kind).2.generation = g.generation + 1 := by
  rcases connect_cases g a b kind with ⟨he, -⟩ | ⟨-, -, -, ⟨-, -, he⟩ | ⟨-, he⟩⟩
  · rw [he] at new; cases new
  · rw [he] at new; cases new
  · rw [he]; rfl

theorem generation_removeNode {g : Graph} (wf : Linked g) {n : NodeId} (live : g.isLive n = true) :
    ((Mutation.removeNode n).apply g).generation = g.generation + 1 := by
  obtain ⟨x, hx⟩ := isLive_iff.1 live
  cases hr : g.removeNode n with
  | error e =>
    rw [removeNode, hx] at hr
    cases hr
  | ok r =>
    rw [Mutation.apply, hr]
    exact (removed_of_removeNode wf hr).2.generation

/-- After any events, a question is answered rightly for the graph as it is. A new edge and a removal
start a new generation; then no later answer depends on what was remembered before. A mutation that
starts none leaves every live node live and every edge as it is. -/
theorem answers_current (es : List Event) :
    let s := run {} es
    (∀ a b, Answers s.graph a b (s.graph.findPath s.memo a b).1) ∧
      (∀ a b kind, (s.graph.connect a b kind).1 = true →
        s.graph.generation < ((Mutation.connect a b kind).apply s.graph).generation) ∧
      (∀ n, s.graph.isLive n = true →
        s.graph.generation < ((Mutation.removeNode n).apply s.graph).generation) ∧
      (∀ m : Mutation, s.graph.generation < (m.apply s.graph).generation →
        ∀ es', answers ⟨m.apply s.graph, s.memo⟩ es' = answers ⟨m.apply s.graph, {}⟩ es') ∧
      ∀ m : Mutation, ¬ s.graph.generation < (m.apply s.graph).generation →
        (∀ n, s.graph.isLive n = true → (m.apply s.graph).isLive n = true) ∧
          ∀ a b, (m.apply s.graph).hasEdge a b = s.graph.hasEdge a b := by
  intro s
  have sound : Sound s := sound_empty.run es
  refine ⟨fun a b => ?_, fun a b kind new => ?_, fun n live => ?_, fun m later es' => ?_,
    fun m same => ?_⟩
  · exact (findPath_correct sound.wellFormed.toLinked sound.recalls_sync a b).1
  · exact Nat.lt_of_lt_of_eq (Nat.lt_succ_self _) (generation_connect new).symm
  · exact Nat.lt_of_lt_of_eq (Nat.lt_succ_self _)
      (generation_removeNode sound.wellFormed.toLinked live).symm
  · refine answers_congr ((changes_apply s.graph m).wellFormed sound.wellFormed) (Or.inr ⟨?_, ?_⟩) es'
    · exact fun k hk => (sound.memo k hk).1.trans_lt later
    · exact fun k hk => by cases hk
  · have evolves := (changes_apply s.graph m).evolves sound.wellFormed
    have same := le_antisymm (Nat.not_lt.1 same) evolves.generation_le
    exact ⟨evolves.live same, evolves.edge same⟩

/-- Five nodes with two ways from `1` to `4`, and a question whose answer leads over one of them. -/
def twoWays : List Event :=
  ["s", "a", "b", "c", "t"].map (fun label => .mutate (.addNode .first (.op .other none) label)) ++
    [(0, 1), (0, 2), (1, 2), (1, 3), (2, 4), (3, 4)].map (fun e => .mutate (.connect e.1 e.2 .data)) ++
    [.query 0 4]

/-- A new node starts no generation: the answer after it is one remembered before. -/
theorem remembered_answer_outlives_new_node :
    let s := run {} twoWays
    let g := (Mutation.addNode .first (.op .other none) "x").apply s.graph
    answers ⟨g, s.memo⟩ [.query 1 4] = [some [1, 3, 4]] ∧
      answers ⟨g, {}⟩ [.query 1 4] = [some [1, 2, 4]] := by
  decide +kernel

end Session

end PeerTaint
