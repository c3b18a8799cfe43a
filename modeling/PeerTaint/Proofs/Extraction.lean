import PeerTaint.Proofs.Acts
import PeerTaint.Proofs.Copying
import PeerTaint.Proofs.Searches

/-!
The part of a graph between two nodes.

Extracting that part keeps what depends on the source and leads to the target, numbers it anew in the
same order, and draws all edges in between. The result is the induced subgraph (`Extracted`). Since
whatever lies on a way between two kept nodes is kept, all ways survive, and extracting a second time
changes nothing.
-/

namespace PeerTaint

namespace Graph

open Relation (ReflTransGen)

/-! ## Handles never run out unnoticed -/

theorem size_apply_le {g : Graph} (wf : WellFormed g) (room : g.slots.size ≤ nodeCapacity) (m : Mutation) :
    (m.apply g).slots.size ≤ nodeCapacity := by
  have accepted : ∀ {ε α : Type} {r : Except ε (α × Graph)},
      (∀ a g', r = .ok (a, g') → g'.slots.size ≤ nodeCapacity) →
      (Mutation.accepted g r).slots.size ≤ nodeCapacity := by
    intro ε α r h
    cases r with
    | ok r => exact h r.1 r.2 rfl
    | error e => exact room
  cases m with
  | addNode p kind label => exact accepted fun n g' h => size_addNode_le h
  | memNode p k label => exact accepted fun n g' h => size_memNode_le h room
  | inputNode v o name => exact accepted fun n g' h => size_inputNode_le h room
  | recordAccess n =>
    rw [Mutation.apply, recordAccess, size_modifyNode]
    exact room
  | connect a b kind =>
    rw [Mutation.apply, size_connect]
    exact room
  | removeNode n =>
    refine accepted fun x g' h => ?_
    rw [(removed_of_removeNode wf.toLinked h).2.size]
    exact room
  | insertDetached node =>
    refine accepted fun n g' h => ?_
    by_cases lt : g.slots.size < nodeCapacity
    · obtain ⟨g₁, h₁, inserted⟩ := exists_insertDetached g node lt
      cases h.symm.trans h₁
      rw [inserted.size]
      omega
    · rw [Graph.insertDetached, nodeIdOfSlot, if_neg lt] at h
      cases h
  | build c visited request =>
    refine accepted fun _ g' h => ?_
    cases hr : (request.run c).run { graph := g, visited := visited } with
    | error f => rw [hr] at h; cases h
    | ok r =>
      rw [hr] at h
      cases h
      exact ((BuildContext.wp_request_events wf request).run hr).size_le wf room

theorem size_after_le (ms : List Mutation) : (after ms).slots.size ≤ nodeCapacity := by
  induction ms using List.reverseRecOn with
  | nil => exact Nat.zero_le _
  | append_singleton ms m ih =>
    rw [after_append]
    exact size_apply_le (wellFormed_after ms) ih m

/-! ## What is kept -/

/-- The nodes that depend on `src` and on which `dst` depends, ascending. -/
def kept (g : Graph) (src dst : NodeId) : List NodeId :=
  (g.forward src).elems.filter (decide <| · ∈ g.backward dst)

section Kept

variable {g : Graph} {src dst n : NodeId}

theorem mem_kept_iff : n ∈ g.kept src dst ↔ n ∈ g.forward src ∧ n ∈ g.backward dst := by
  simp [kept, SortedSet.mem_def]

theorem kept_ascending : (g.kept src dst).Pairwise (· < ·) :=
  ((g.forward src).sorted.filter _).imp of_decide_eq_true

theorem nodup_kept : (g.kept src dst).Nodup := kept_ascending.imp Nat.ne_of_lt

variable (wf : Linked g)
include wf

theorem mem_kept_iff_reaches : n ∈ g.kept src dst ↔ g.Reaches src n ∧ g.Reaches n dst := by
  rw [mem_kept_iff, mem_forward_iff wf, mem_backward_iff wf]

theorem isLive_of_mem_kept (h : n ∈ g.kept src dst) : g.isLive n = true :=
  ((mem_kept_iff_reaches wf).1 h).2.1

theorem length_kept_le : (g.kept src dst).length ≤ g.slots.size := by
  have within : g.kept src dst ⊆ List.range g.slots.size := by
    intro n hn
    obtain ⟨x, hx⟩ := isLive_iff.1 (isLive_of_mem_kept wf hn)
    exact List.mem_range.2 (lt_size_of_node? hx)
  simpa using (List.subperm_of_subset nodup_kept within).length_le

end Kept

/-! ## The extracted graph -/

theorem subgraph_eq (g : Graph) (src dst : NodeId) : g.subgraph src dst =
    (g.copyNodes (g.kept src dst)).map fun copy =>
      ⟨copy.wire (g.edgesWithin (g.kept src dst)), g.kept src dst⟩ := by
  unfold subgraph
  change (g.copyNodes (g.kept src dst)).bind _ = _
  cases g.copyNodes (g.kept src dst) <;> rfl

/-- The part of a graph between two nodes, as a graph of its own. -/
structure Extracted (g : Graph) (src dst : NodeId) (sub : Subgraph) : Prop where
  origin : sub.origin = g.kept src dst
  copied : ∃ copy, g.copyNodes sub.origin = .ok copy ∧ Copied g sub.origin copy ∧ Rewired copy sub.graph
  edge : ∀ a b : Nat, sub.graph.edgeKind? a b = g.edgeAt? sub.origin a b

theorem exists_subgraph {g : Graph} (wf : Linked g) (room : g.slots.size ≤ nodeCapacity)
    (src dst : NodeId) : ∃ sub, g.subgraph src dst = .ok sub ∧ Extracted g src dst sub := by
  have live : ∀ n ∈ g.kept src dst, g.isLive n = true := fun n => isLive_of_mem_kept wf
  obtain ⟨copy, run, copied⟩ := exists_copyNodes live ((length_kept_le wf).trans room)
  refine ⟨_, by rw [subgraph_eq, run]; rfl, rfl, ⟨copy, run, copied, copied.rewired.wire _⟩, ?_⟩
  exact copied.edgeKind?_wire wf nodup_kept live

namespace Extracted

variable {g : Graph} {src dst : NodeId} {sub : Subgraph} (h : Extracted g src dst sub)
include h

theorem nodup : sub.origin.Nodup := by
  rw [h.origin]
  exact nodup_kept

theorem local?_eq_some_iff {n : NodeId} {m : Nat} : sub.local? n = some m ↔ sub.origin[m]? = some n :=
  idxOf?_eq_some_iff_getElem? h.nodup

theorem wellFormed : WellFormed sub.graph := by
  obtain ⟨copy, -, -, rewired⟩ := h.copied
  exact rewired.wf

theorem size : sub.graph.slots.size = sub.origin.length := by
  obtain ⟨copy, -, copied, rewired⟩ := h.copied
  rw [rewired.size, copied.size]

/-- Up to handles and edges, nodes are what they were. -/
theorem node (m : Nat) : (sub.graph.node? m).map (·.detached 0) =
    (sub.origin[m]?).bind fun n => (g.node? n).map (·.detached 0) := by
  obtain ⟨copy, -, copied, rewired⟩ := h.copied
  have same := congrArg (Option.map (·.detached 0)) (rewired.node m)
  rw [copied.node] at same
  simpa [Option.map_map, Function.comp_def, Option.map_bind, Node.detached_detached] using same

theorem edgeKind?_eq_some_iff {a b : Nat} {k : EdgeKind} : sub.graph.edgeKind? a b = some k ↔
    ∃ m n, sub.origin[a]? = some m ∧ sub.origin[b]? = some n ∧ g.edgeKind? m n = some k := by
  rw [h.edge, edgeAt?_eq_some_iff]

theorem edge_of {a b : Nat} {m n : NodeId} (hm : sub.origin[a]? = some m) (hn : sub.origin[b]? = some n)
    (edge : g.Edge m n) : sub.graph.Edge a b := by
  obtain ⟨k, hk⟩ := hasEdge_iff.1 edge
  exact hasEdge_iff.2 ⟨k, h.edgeKind?_eq_some_iff.2 ⟨m, n, hm, hn, hk⟩⟩

theorem copyNodes_range :
    sub.graph.copyNodes (List.range sub.origin.length) = g.copyNodes sub.origin := by
  have same : ((List.range sub.origin.length).map fun m => (sub.graph.node? m).map (·.detached 0)) =
      sub.origin.map fun n => (g.node? n).map (·.detached 0) := by
    refine List.ext_getElem (by simp) fun m hm hm' => ?_
    rw [List.length_map] at hm'
    rw [List.getElem_map, List.getElem_map, List.getElem_range, h.node, List.getElem?_eq_getElem hm',
      Option.bind_some]
  rw [copyNodes_eq, copyNodes_eq, same]

variable (wf : Linked g)
include wf

theorem isLive_iff_lt (m : Nat) : sub.graph.isLive m = true ↔ m < sub.origin.length := by
  have live : ∀ n ∈ sub.origin, g.isLive n = true := by
    rw [h.origin]
    exact fun n => isLive_of_mem_kept wf
  constructor
  · intro hm
    obtain ⟨x, hx⟩ := isLive_iff.1 hm
    rw [← h.size]
    exact lt_size_of_node? hx
  · intro hm
    obtain ⟨x, hx⟩ := isLive_iff.1 (live sub.origin[m] (List.getElem_mem hm))
    have node := h.node m
    rw [List.getElem?_eq_getElem hm, Option.bind_some, hx] at node
    obtain ⟨y, hy, -⟩ := Option.map_eq_some_iff.1 node
    exact isLive_of_node? hy

theorem handles : sub.graph.handles = List.range sub.origin.length := by
  rw [Graph.handles, h.size, List.filter_eq_self]
  intro m hm
  exact (h.isLive_iff_lt wf m).2 (List.mem_range.1 hm)

theorem mem_origin_iff {n : NodeId} : n ∈ sub.origin ↔ g.Reaches src n ∧ g.Reaches n dst := by
  rw [h.origin, mem_kept_iff_reaches wf]

/-- A way between two kept nodes keeps to kept nodes. -/
theorem reflTransGen {a b : Nat} {m n : NodeId} (hm : sub.origin[a]? = some m)
    (hn : sub.origin[b]? = some n) (path : ReflTransGen g.Edge m n) :
    ReflTransGen sub.graph.Edge a b := by
  obtain ⟨first, -⟩ := (h.mem_origin_iff wf).1 (List.mem_of_getElem? hm)
  induction path generalizing b with
  | refl =>
    have : a = b := (List.getElem?_inj (List.getElem?_eq_some_iff.1 hm).1 h.nodup).1 (hm.trans hn.symm)
    rw [this]
  | @tail x n before edge ih =>
    obtain ⟨-, last⟩ := (h.mem_origin_iff wf).1 (List.mem_of_getElem? hn)
    have kept : x ∈ sub.origin := (h.mem_origin_iff wf).2
      ⟨⟨first.1, first.2.trans before⟩, (wf.isLive_of_hasEdge edge).1, last.2.head edge⟩
    obtain ⟨i, hi⟩ := List.getElem?_of_mem kept
    exact (ih hi).tail (h.edge_of hi hn edge)

/-- Every walk between the ends survives. -/
theorem walk {path : List NodeId} (hp : g.Walk src dst path) :
    ∃ a b locals, sub.local? src = some a ∧ sub.local? dst = some b ∧
      path.map sub.local? = locals.map some ∧ sub.graph.Walk a b locals := by
  have position : ∀ n ∈ path, sub.origin[sub.origin.idxOf n]? = some n := by
    intro n hn
    have lt := List.idxOf_lt_length_iff.2 ((h.mem_origin_iff wf).2 (hp.between hn))
    rw [List.getElem?_eq_getElem lt, List.getElem_idxOf lt]
  have named : ∀ n ∈ path, sub.local? n = some (sub.origin.idxOf n) :=
    fun n hn => h.local?_eq_some_iff.2 (position n hn)
  refine ⟨_, _, path.map (sub.origin.idxOf ·), named src (List.mem_of_head? hp.head),
    named dst (List.mem_of_getLast? hp.last), ?_, ?_, ?_, ?_, ?_⟩
  · rw [List.map_map]
    exact List.map_congr_left named
  · rw [List.head?_map, hp.head, Option.map_some]
  · rw [List.getLast?_map, hp.last, Option.map_some]
  · rw [List.isChain_map, List.isChain_iff_getElem]
    intro i hi
    exact h.edge_of (position _ (List.getElem_mem _)) (position _ (List.getElem_mem _))
      (List.isChain_iff_getElem.1 hp.chain i hi)
  · intro m hm
    obtain ⟨n, hn, rfl⟩ := List.mem_map.1 hm
    exact (h.isLive_iff_lt wf _).2 (List.getElem?_eq_some_iff.1 (position n hn)).1

/-! ## Extracting twice -/

/-- Between the images of the ends, everything is kept. -/
theorem kept_eq_range {a b : Nat} (ha : sub.local? src = some a) (hb : sub.local? dst = some b) :
    sub.graph.kept a b = List.range sub.origin.length := by
  rw [h.local?_eq_some_iff] at ha hb
  have linked := h.wellFormed.toLinked
  have sorted : ∀ {l : List Nat}, l.Pairwise (· < ·) → l.Pairwise fun i j => Key.before i j = true :=
    fun hl => hl.imp decide_eq_true
  refine Key.eq_of_mem_iff id (sorted kept_ascending) (sorted List.pairwise_lt_range) fun m => ?_
  rw [mem_kept_iff_reaches linked, List.mem_range, ← h.isLive_iff_lt wf]
  constructor
  · exact fun between => between.2.1
  · intro live
    have hm := List.getElem?_eq_getElem ((h.isLive_iff_lt wf m).1 live)
    obtain ⟨before, later⟩ := (h.mem_origin_iff wf).1 (List.mem_of_getElem? hm)
    refine ⟨⟨?_, h.reflTransGen wf ha hm before.2⟩, live, h.reflTransGen wf hm hb later.2⟩
    exact (h.isLive_iff_lt wf a).2 (List.getElem?_eq_some_iff.1 ha).1

/-- Extracting again between the images of the ends gives the same graph. -/
theorem again (room : g.slots.size ≤ nodeCapacity) {a b : Nat} (ha : sub.local? src = some a)
    (hb : sub.local? dst = some b) :
    sub.graph.subgraph a b = .ok ⟨sub.graph, List.range sub.origin.length⟩ := by
  have linked := h.wellFormed.toLinked
  have small : sub.graph.slots.size ≤ nodeCapacity := by
    rw [h.size, h.origin]
    exact (length_kept_le wf).trans room
  obtain ⟨sub', run, h'⟩ := exists_subgraph linked small a b
  have origin : sub'.origin = List.range sub.origin.length := h'.origin.trans (h.kept_eq_range wf ha hb)
  obtain ⟨copy, made, -, rewired⟩ := h.copied
  obtain ⟨copy', made', -, rewired'⟩ := h'.copied
  rw [origin, h.copyNodes_range] at made'
  cases made.symm.trans made'
  have edge : ∀ x y, sub'.graph.edgeKind? x y = sub.graph.edgeKind? x y := by
    intro x y
    refine Option.ext fun k => ?_
    rw [h'.edgeKind?_eq_some_iff, origin]
    constructor
    · rintro ⟨m, n, hm, hn, hk⟩
      obtain ⟨hx, rfl⟩ := List.getElem?_eq_some_iff.1 hm
      obtain ⟨hy, rfl⟩ := List.getElem?_eq_some_iff.1 hn
      rwa [List.getElem_range, List.getElem_range] at hk
    · intro hk
      obtain ⟨m, n, hm, hn, -⟩ := h.edgeKind?_eq_some_iff.1 hk
      exact ⟨x, y, List.getElem?_range (List.getElem?_eq_some_iff.1 hm).1,
        List.getElem?_range (List.getElem?_eq_some_iff.1 hn).1, hk⟩
  have graph := rewired'.ext rewired edge
  rw [run]
  obtain ⟨graph', origin'⟩ := sub'
  cases graph
  cases origin
  rfl

end Extracted

/-! ## The induced subgraph -/

/-- `sub` is `g` restricted to what depends on `src` and leads to `dst`. The handles count up to the
number of nodes, `origin` lists the nodes they stand for, and `local?` finds the way back. -/
structure Induced (g : Graph) (src dst : NodeId) (sub : Subgraph) : Prop where
  handles : sub.graph.handles = List.range sub.origin.length
  ascending : sub.origin.Pairwise (· < ·)
  between : ∀ n, n ∈ sub.origin ↔ n ∈ g.forward src ∧ n ∈ g.backward dst
  inverse : ∀ m n, sub.local? n = some m ↔ sub.origin[m]? = some n
  copy : ∀ m n, sub.origin[m]? = some n → ∃ x y, g.node? n = some x ∧ sub.graph.node? m = some y ∧
    y = { x with id := m, successors := y.successors, predecessors := y.predecessors }
  edge : ∀ a b k, sub.graph.edgeKind? a b = some k ↔
    ∃ m n, sub.origin[a]? = some m ∧ sub.origin[b]? = some n ∧ g.edgeKind? m n = some k

theorem Extracted.induced {g : Graph} {src dst : NodeId} {sub : Subgraph} (h : Extracted g src dst sub)
    (wf : Linked g) : Induced g src dst sub where
  handles := h.handles wf
  ascending := by
    rw [h.origin]
    exact kept_ascending
  between := fun n => by rw [h.origin, mem_kept_iff]
  inverse := fun m n => h.local?_eq_some_iff
  copy := by
    intro m n hn
    obtain ⟨y, hy⟩ := isLive_iff.1 ((h.isLive_iff_lt wf m).2 (List.getElem?_eq_some_iff.1 hn).1)
    have node := h.node m
    rw [hn, hy, Option.map_some, Option.bind_some] at node
    obtain ⟨x, hx, same⟩ := Option.map_eq_some_iff.1 node.symm
    exact ⟨x, y, hx, hy, eq_of_detached_eq same.symm (h.wellFormed.id_eq m y hy) rfl rfl⟩
  edge := fun a b k => h.edgeKind?_eq_some_iff

/-- Between any two handles of any graph that can come about, live or not, the extracted graph is the
induced one. All walks between the ends survive, and a second extraction changes nothing. -/
theorem subgraph_induced (ms : List Mutation) (src dst : NodeId) :
    ∃ sub, (after ms).subgraph src dst = .ok sub ∧ Induced (after ms) src dst sub ∧
      (∀ path, (after ms).Walk src dst path → ∃ a b locals,
        sub.local? src = some a ∧ sub.local? dst = some b ∧
          path.map sub.local? = locals.map some ∧ sub.graph.Walk a b locals) ∧
      ∀ a b, sub.local? src = some a → sub.local? dst = some b → ∃ again,
        sub.graph.subgraph a b = .ok again ∧ again.graph = sub.graph ∧
          again.origin = List.range sub.origin.length := by
  have wf := (wellFormed_after ms).toLinked
  have room := size_after_le ms
  obtain ⟨sub, run, h⟩ := exists_subgraph wf room src dst
  refine ⟨sub, run, h.induced wf, fun path => h.walk wf, ?_⟩
  intro a b ha hb
  exact ⟨_, h.again wf room ha hb, rfl, rfl⟩

end Graph

end PeerTaint
