import Mathlib.Data.Finset.Card
import PeerTaint.Proofs.Copying

/-!
Joining nodes in any order.

An edge is missing, carries control, or carries data, and a request to join two nodes only ever raises it
(`raise`). Raising is commutative and idempotent, so that what many requests make of an edge is the highest
kind that was asked for (`hasEdge_connectAll`, `data_connectAll`), whatever their order and repetitions. The
counters grow with the pairs that get an edge, each of them once.
-/

namespace PeerTaint

namespace Graph

/-- Makes requests to join nodes, in order: the answers, and the graph at the end. -/
def connectAll (g : Graph) : List (NodeId × NodeId × EdgeKind) → List Bool × Graph
  | [] => ([], g)
  | e :: es =>
    let (new, g') := g.connect e.1 e.2.1 e.2.2
    let (answers, last) := g'.connectAll es
    (new :: answers, last)

/-- Two nodes that can be joined: they are live and different. -/
def Joinable (g : Graph) (a b : NodeId) : Prop := a ≠ b ∧ g.isLive a = true ∧ g.isLive b = true

instance (g : Graph) (a b : NodeId) : Decidable (g.Joinable a b) :=
  inferInstanceAs (Decidable (a ≠ b ∧ g.isLive a = true ∧ g.isLive b = true))

/-- One of the requests joins two nodes that can be joined, with the given kind. -/
def Asked (g : Graph) (calls : List (NodeId × NodeId × EdgeKind)) (a b : NodeId) (kind : EdgeKind) : Prop :=
  (a, b, kind) ∈ calls ∧ g.Joinable a b

/-- The pairs without an edge that requests can join. -/
def newPairs (g : Graph) (calls : List (NodeId × NodeId × EdgeKind)) : Finset (NodeId × NodeId) :=
  (calls.map fun e => (e.1, e.2.1)).toFinset.filter fun e => g.Joinable e.1 e.2 ∧ g.edgeKind? e.1 e.2 = none

/-! ## One request -/

/-- What a request makes of an edge: it is raised to the kind that is asked for, and never lowered. -/
def raise : Option EdgeKind → EdgeKind → Option EdgeKind
  | none, kind => some kind
  | some .control, kind => some kind
  | some .data, _ => some .data

section Connect

variable (g : Graph) (a b : NodeId) (kind : EdgeKind)

/-- What joining two nodes does to the edges, seen from both of their ends, and to the counters. -/
structure Joined (g : Graph) (a b : NodeId) (kind : EdgeKind) (r : Bool × Graph) : Prop where
  edge : ∀ c d, r.2.edgeKind? c d =
    if (c, d) = (a, b) ∧ g.Joinable a b then raise (g.edgeKind? a b) kind else g.edgeKind? c d
  back : ∀ c d, r.2.backKind? c d =
    if r.2.edgeKind? c d = g.edgeKind? c d then g.backKind? c d else r.2.edgeKind? c d
  answer : r.1 = decide (g.Joinable a b ∧ g.edgeKind? a b = none)
  edges : r.2.edges = g.edges + r.1.toNat
  generation : r.2.generation = g.generation + r.1.toNat

variable {g a b kind} in
/-- An edge that is written stands on both ends. -/
theorem joined_withEdge (joinable : g.Joinable a b) (raised : raise (g.edgeKind? a b) kind = some kind)
    (lower : g.edgeKind? a b ≠ some kind) (new : Bool) (isNew : new = decide (g.edgeKind? a b = none)) :
    g.Joined a b kind (new, g.withEdge a b kind new.toNat) := by
  have edge : ∀ c d, (g.withEdge a b kind new.toNat).edgeKind? c d =
      if (c, d) = (a, b) then some kind else g.edgeKind? c d := by
    intro c d
    simp only [Prod.mk.injEq]
    exact edgeKind?_setEdge joinable.1 joinable.2.1 c d
  have back : ∀ c d, (g.withEdge a b kind new.toNat).backKind? c d =
      if (c, d) = (a, b) then some kind else g.backKind? c d := by
    intro c d
    simp only [Prod.mk.injEq]
    exact backKind?_setEdge joinable.1 joinable.2.2 c d
  refine ⟨fun c d => ?_, fun c d => ?_, by simp [isNew, joinable], rfl, rfl⟩
  · rw [edge, raised]
    simp [joinable]
  · rw [edge, back]
    split
    · next same =>
      obtain ⟨rfl, rfl⟩ := Prod.mk.inj same
      rw [if_neg (Ne.symm lower)]
    · exact (if_pos rfl).symm

theorem joined_connect : g.Joined a b kind (g.connect a b kind) := by
  rcases connect_cases g a b kind with ⟨he, why⟩ | ⟨hab, ha, hb, ⟨hk, rfl, he⟩ | ⟨hk, he⟩⟩ <;> rw [he]
  · -- nothing is to be raised
    have high : g.Joinable a b → ∃ k, g.edgeKind? a b = some k ∧ raise (some k) kind = some k := by
      rintro ⟨hab, ha, hb⟩
      obtain ⟨k, hk, high⟩ :=
        ((why.resolve_left hab).resolve_left (by simp [ha])).resolve_left (by simp [hb])
      refine ⟨k, hk, ?_⟩
      rcases high with rfl | rfl
      · rfl
      · cases k <;> rfl
    refine ⟨fun c d => ?_, fun c d => (if_pos rfl).symm, ?_, rfl, rfl⟩
    · split
      · next h =>
        obtain ⟨⟨⟩, joinable⟩ := h
        obtain ⟨k, hk, kept⟩ := high joinable
        rw [hk, kept]
      · rfl
    · refine (decide_eq_false ?_).symm
      rintro ⟨joinable, free⟩
      obtain ⟨k, hk, -⟩ := high joinable
      rw [free] at hk
      cases hk
  · exact joined_withEdge ⟨hab, ha, hb⟩ (by rw [hk]; rfl) (by simp [hk]) false (by simp [hk])
  · exact joined_withEdge ⟨hab, ha, hb⟩ (by rw [hk]; rfl) (by simp [hk]) true (by simp [hk])

variable {g a b kind}

theorem Joined.data {r : Bool × Graph} (h : g.Joined a b kind r) (c d : NodeId) :
    r.2.edgeKind? c d = some .data ↔ g.edgeKind? c d = some .data ∨ g.Asked [(a, b, kind)] c d .data := by
  rw [h.edge, Asked, List.mem_singleton]
  split
  · next at_ends =>
    obtain ⟨⟨⟩, joinable⟩ := at_ends
    rcases g.edgeKind? a b with - | k
    · simp [raise, joinable, eq_comm]
    · cases k <;> simp [raise, joinable, eq_comm]
  · next elsewhere =>
    refine ⟨Or.inl, fun h => h.resolve_right ?_⟩
    rintro ⟨⟨⟩, joinable⟩
    exact elsewhere ⟨rfl, joinable⟩

theorem Joined.hasEdge {r : Bool × Graph} (h : g.Joined a b kind r) (c d : NodeId) :
    r.2.hasEdge c d = true ↔ g.hasEdge c d = true ∨ ∃ k, g.Asked [(a, b, kind)] c d k := by
  rw [Graph.hasEdge, h.edge]
  simp only [Asked, List.mem_singleton]
  split
  · next at_ends =>
    obtain ⟨⟨⟩, joinable⟩ := at_ends
    have raised : (raise (g.edgeKind? a b) kind).isSome = true := by
      rcases g.edgeKind? a b with - | k
      · rfl
      · cases k <;> rfl
    exact iff_of_true raised (.inr ⟨kind, rfl, joinable⟩)
  · next elsewhere =>
    refine ⟨Or.inl, fun h => h.resolve_right ?_⟩
    rintro ⟨k, ⟨⟩, joinable⟩
    exact elsewhere ⟨rfl, joinable⟩

end Connect

theorem joinable_connect (g : Graph) (a b c d : NodeId) (kind : EdgeKind) :
    (g.connect a b kind).2.Joinable c d ↔ g.Joinable c d := by
  have live : ∀ n, (g.connect a b kind).2.isLive n = g.isLive n := by
    intro n
    rw [isLive_eq_isSome_role?, isLive_eq_isSome_role?, (Idles.connect g a b kind).role]
  rw [Joinable, Joinable, live, live]

/-! ## Any number of requests -/

section Run

variable (g : Graph) (calls : List (NodeId × NodeId × EdgeKind))

theorem asked_cons (e : NodeId × NodeId × EdgeKind) (c d : NodeId) (k : EdgeKind) :
    g.Asked (e :: calls) c d k ↔
      g.Asked [e] c d k ∨ (g.connect e.1 e.2.1 e.2.2).2.Asked calls c d k := by
  rw [Asked, Asked, Asked, joinable_connect, List.mem_cons, List.mem_singleton, or_and_right]

theorem data_connectAll (a b : NodeId) : (g.connectAll calls).2.edgeKind? a b = some .data ↔
    g.edgeKind? a b = some .data ∨ g.Asked calls a b .data := by
  induction calls generalizing g with
  | nil => simp [connectAll, Asked]
  | cons e es ih => rw [connectAll, ih, (joined_connect g e.1 e.2.1 e.2.2).data, asked_cons g es, or_assoc]

theorem hasEdge_connectAll (a b : NodeId) : (g.connectAll calls).2.hasEdge a b = true ↔
    g.hasEdge a b = true ∨ ∃ k, g.Asked calls a b k := by
  induction calls generalizing g with
  | nil => simp [connectAll, Asked]
  | cons e es ih =>
    simp only [connectAll, ih, (joined_connect g e.1 e.2.1 e.2.2).hasEdge, asked_cons g es, exists_or,
      or_assoc]

/-- Whether there is an edge, and whether it carries data, says what kind of edge there is. -/
theorem edgeKind?_eq_of_iff {g g' : Graph} {a b : NodeId} (edge : g.hasEdge a b = true ↔ g'.hasEdge a b = true)
    (data : g.edgeKind? a b = some .data ↔ g'.edgeKind? a b = some .data) :
    g.edgeKind? a b = g'.edgeKind? a b := by
  unfold hasEdge at edge
  rcases h : g.edgeKind? a b with - | k <;> rcases h' : g'.edgeKind? a b with - | k'
  · rfl
  · simp [h, h'] at edge
  · simp [h, h'] at edge
  · cases k <;> cases k' <;> simp_all

/-- The node where an edge ends knows of every change of the edge. -/
theorem backKind?_connectAll (a b : NodeId) : (g.connectAll calls).2.backKind? a b =
    if (g.connectAll calls).2.edgeKind? a b = g.edgeKind? a b then g.backKind? a b
    else (g.connectAll calls).2.edgeKind? a b := by
  induction calls generalizing g with
  | nil => exact (if_pos rfl).symm
  | cons e es ih =>
    have first := joined_connect g e.1 e.2.1 e.2.2
    rw [connectAll, ih, first.back]
    -- kinds only rise, so an edge that is what it was has been so in between
    have between : ((g.connect e.1 e.2.1 e.2.2).2.connectAll es).2.edgeKind? a b = g.edgeKind? a b →
        (g.connect e.1 e.2.1 e.2.2).2.edgeKind? a b = g.edgeKind? a b := by
      intro same
      refine edgeKind?_eq_of_iff ⟨fun h => ?_, fun h => (first.hasEdge a b).2 (.inl h)⟩
        ⟨fun h => ?_, fun h => (first.data a b).2 (.inl h)⟩
      · have later := (hasEdge_connectAll _ es a b).2 (.inl h)
        rwa [hasEdge, same] at later
      · have later := (data_connectAll _ es a b).2 (.inl h)
        rwa [same] at later
    grind

theorem mem_newPairs {g : Graph} {calls : List (NodeId × NodeId × EdgeKind)} {e : NodeId × NodeId} :
    e ∈ g.newPairs calls ↔ (∃ k, g.Asked calls e.1 e.2 k) ∧ g.hasEdge e.1 e.2 = false := by
  obtain ⟨a, b⟩ := e
  simp only [newPairs, Finset.mem_filter, List.mem_toFinset, List.mem_map, Prod.exists, Prod.mk.injEq, Asked,
    hasEdge, Option.isSome_eq_false_iff, Option.isNone_iff_eq_none]
  constructor
  · rintro ⟨⟨x, y, k, listed, rfl, rfl⟩, joinable, none⟩
    exact ⟨⟨k, listed, joinable⟩, none⟩
  · rintro ⟨⟨k, listed, joinable⟩, none⟩
    exact ⟨⟨a, b, k, listed, rfl, rfl⟩, joinable, none⟩

/-- A request that is answered with a new edge takes its pair out of those that are still without one. -/
theorem card_newPairs_cons (e : NodeId × NodeId × EdgeKind) : (g.newPairs (e :: calls)).card =
    (g.connect e.1 e.2.1 e.2.2).1.toNat + ((g.connect e.1 e.2.1 e.2.2).2.newPairs calls).card := by
  obtain ⟨a, b, kind⟩ := e
  have first := joined_connect g a b kind
  have now : ∀ x, x ∈ g.newPairs ((a, b, kind) :: calls) ↔
      ((∃ k, g.Asked [(a, b, kind)] x.1 x.2 k) ∨ ∃ k, (g.connect a b kind).2.Asked calls x.1 x.2 k) ∧
        g.hasEdge x.1 x.2 = false := by
    intro x
    simp only [mem_newPairs, asked_cons g calls, exists_or]
  have later : ∀ x, x ∈ (g.connect a b kind).2.newPairs calls ↔
      (∃ k, (g.connect a b kind).2.Asked calls x.1 x.2 k) ∧
        g.hasEdge x.1 x.2 = false ∧ ¬ ∃ k, g.Asked [(a, b, kind)] x.1 x.2 k := by
    intro x
    rw [mem_newPairs, ← Bool.not_eq_true, first.hasEdge, not_or, Bool.not_eq_true]
  have single : ∀ x, (∃ k, g.Asked [(a, b, kind)] x.1 x.2 k) ↔ x = (a, b) ∧ g.Joinable a b := by
    rintro ⟨x, y⟩
    simp only [Asked, List.mem_singleton, Prod.mk.injEq]
    constructor
    · rintro ⟨k, ⟨rfl, rfl, rfl⟩, joinable⟩
      exact ⟨⟨rfl, rfl⟩, joinable⟩
    · rintro ⟨⟨rfl, rfl⟩, joinable⟩
      exact ⟨kind, ⟨rfl, rfl, rfl⟩, joinable⟩
  have free : g.edgeKind? a b = none ↔ g.hasEdge a b = false := by
    rw [Graph.hasEdge, Option.isSome_eq_false_iff, Option.isNone_iff_eq_none]
  rw [first.answer]
  by_cases new : g.Joinable a b ∧ g.edgeKind? a b = none
  · have fresh : (a, b) ∉ (g.connect a b kind).2.newPairs calls := fun h =>
      ((later _).1 h).2.2 ((single _).2 ⟨rfl, new.1⟩)
    have taken : g.newPairs ((a, b, kind) :: calls) = insert (a, b) ((g.connect a b kind).2.newPairs calls) := by
      ext x
      rw [Finset.mem_insert, later, now, single]
      by_cases hx : x = (a, b)
      · subst hx
        simp [new.1, free.1 new.2]
      · simp [hx]
    rw [taken, Finset.card_insert_of_notMem fresh, decide_eq_true new]
    exact Nat.add_comm _ _
  · have same : g.newPairs ((a, b, kind) :: calls) = (g.connect a b kind).2.newPairs calls := by
      ext x
      rw [later, now, single]
      by_cases hx : x = (a, b)
      · subst hx
        rw [free] at new
        grind
      · simp [hx]
    rw [same, decide_eq_false new]
    exact (Nat.zero_add _).symm

/-- The answers that tell of a new edge, and the counters, count the pairs that get an edge. -/
theorem counters_connectAll :
    (g.connectAll calls).1.count true = (g.newPairs calls).card ∧
      (g.connectAll calls).2.edges = g.edges + (g.newPairs calls).card ∧
      (g.connectAll calls).2.generation = g.generation + (g.newPairs calls).card := by
  induction calls generalizing g with
  | nil => exact ⟨rfl, rfl, rfl⟩
  | cons e es ih =>
    obtain ⟨count, edges, generation⟩ := ih (g.connect e.1 e.2.1 e.2.2).2
    have first := joined_connect g e.1 e.2.1 e.2.2
    simp only [connectAll, List.count_cons, count, edges, generation, first.edges, first.generation,
      card_newPairs_cons g es e]
    cases (g.connect e.1 e.2.1 e.2.2).1
    · simp
    · refine ⟨Nat.add_comm _ _, ?_, ?_⟩ <;> simp only [Bool.toNat_true] <;> omega

theorem idles_connectAll : g.Idles (g.connectAll calls).2 := by
  induction calls generalizing g with
  | nil => exact .refl g
  | cons e es ih => exact (Idles.connect g e.1 e.2.1 e.2.2).trans (ih _)

/-- Nodes change in nothing but their edges, and none is added or taken out. -/
theorem nodes_connectAll : (g.connectAll calls).2.live = g.live ∧ ∀ n,
    ((g.connectAll calls).2.node? n).map (fun x => x.detached x.id) =
      (g.node? n).map fun x => x.detached x.id := by
  induction calls generalizing g with
  | nil => exact ⟨rfl, fun _ => rfl⟩
  | cons e es ih =>
    obtain ⟨live, node⟩ := ih (g.connect e.1 e.2.1 e.2.2).2
    refine ⟨live.trans ?_, fun n => (node n).trans (map_node?_connect g _ _ _ n fun _ _ _ => rfl)⟩
    rcases connect_cases g e.1 e.2.1 e.2.2 with ⟨he, -⟩ | ⟨-, -, -, ⟨-, -, he⟩ | ⟨-, he⟩⟩ <;> rw [he] <;> rfl

/-- Lists of the same requests make the same graph, whatever their order and repetitions. -/
theorem connectAll_eq_of_mem_iff {calls' : List (NodeId × NodeId × EdgeKind)}
    (same : ∀ e, e ∈ calls' ↔ e ∈ calls) : (g.connectAll calls').2 = (g.connectAll calls).2 := by
  have asked : ∀ a b k, g.Asked calls' a b k ↔ g.Asked calls a b k := fun a b k => by rw [Asked, Asked, same]
  have edge : ∀ a b, (g.connectAll calls').2.edgeKind? a b = (g.connectAll calls).2.edgeKind? a b := by
    intro a b
    refine edgeKind?_eq_of_iff ?_ ?_
    · simp only [hasEdge_connectAll, asked]
    · rw [data_connectAll, data_connectAll, asked]
  have back : ∀ a b, (g.connectAll calls').2.backKind? a b = (g.connectAll calls).2.backKind? a b := by
    intro a b
    rw [backKind?_connectAll, backKind?_connectAll, edge]
  have pairs : g.newPairs calls' = g.newPairs calls := by
    ext e
    simp only [mem_newPairs, asked]
  obtain ⟨live', node'⟩ := nodes_connectAll g calls'
  obtain ⟨live, node⟩ := nodes_connectAll g calls
  have idle' := idles_connectAll g calls'
  have idle := idles_connectAll g calls
  obtain ⟨-, edges', generation'⟩ := counters_connectAll g calls'
  obtain ⟨-, edges, generation⟩ := counters_connectAll g calls
  refine eq_of_slots ?_ ?_ (live'.trans live.symm) ?_ ?_
  · exact slots_eq_of_edges (idle'.size.trans idle.size.symm) (fun n => (node' n).trans (node n).symm) edge back
  · exact ⟨idle'.same.mem.trans idle.same.mem.symm, idle'.same.input.trans idle.same.input.symm,
      idle'.same.value.trans idle.same.value.symm, idle'.same.memValue.trans idle.same.memValue.symm,
      fun p d => (idle'.same.net p d).trans (idle.same.net p d).symm⟩
  · rw [edges', edges, pairs]
  · rw [generation', generation, pairs]

/-- What requests to join nodes make of a graph depends on nothing but which requests there are. Two nodes have
an edge afterwards if they had one or a request joins them, which it does when they are live and different; the
edge carries data if it did or if data was asked for, and control otherwise. The counters, and the answers
that tell of a new edge, count the pairs that got one. -/
theorem connectAll_by_requests :
    (∀ a b, (g.connectAll calls).2.hasEdge a b = true ↔
      g.hasEdge a b = true ∨ ∃ kind, (a, b, kind) ∈ calls ∧ a ≠ b ∧ g.isLive a = true ∧ g.isLive b = true) ∧
    (∀ a b kind, (g.connectAll calls).2.edgeKind? a b = some kind →
      (kind = .data ↔ g.edgeKind? a b = some .data ∨
        (a, b, .data) ∈ calls ∧ a ≠ b ∧ g.isLive a = true ∧ g.isLive b = true)) ∧
    (g.connectAll calls).2.edges = g.edges + (g.newPairs calls).card ∧
    (g.connectAll calls).2.generation = g.generation + (g.newPairs calls).card ∧
    (g.connectAll calls).1.count true = (g.newPairs calls).card ∧
    ∀ calls', (∀ e, e ∈ calls' ↔ e ∈ calls) → (g.connectAll calls').2 = (g.connectAll calls).2 ∧
      (g.connectAll calls').1.count true = (g.connectAll calls).1.count true := by
  obtain ⟨count, edges, generation⟩ := counters_connectAll g calls
  refine ⟨hasEdge_connectAll g calls, fun a b kind hk => ?_, edges, generation, count, fun calls' same => ?_⟩
  · have carried : kind = .data ↔ (g.connectAll calls).2.edgeKind? a b = some .data := by
      rw [hk, Option.some.injEq]
    exact carried.trans (data_connectAll g calls a b)
  · have graph := connectAll_eq_of_mem_iff g calls same
    refine ⟨graph, ?_⟩
    -- the number of new edges can be read off the graph
    obtain ⟨count', edges', -⟩ := counters_connectAll g calls'
    rw [graph, edges] at edges'
    rw [count', count]
    omega

end Run

end Graph

end PeerTaint
