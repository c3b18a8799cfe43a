import Mathlib.Algebra.BigOperators.Group.Finset.Piecewise
import PeerTaint.Proofs.Operations

/-!
Taking a node out keeps a graph well formed.

A removed node disappears from the maps of its neighbours on both sides (`Removed`), so that the
edges left are the old ones that did not touch it, and the counters lose exactly what it had.
-/

namespace PeerTaint

namespace Graph

/-- Changing several nodes only changes the slots. -/
theorem foldl_modifyNode_eq (ks : List NodeId) (f : Node → Node) (g : Graph) :
    ∃ slots, ks.foldl (fun g k => g.modifyNode k f) g = { g with slots := slots } ∧
      slots.size = g.slots.size := by
  induction ks generalizing g with
  | nil => exact ⟨g.slots, rfl, rfl⟩
  | cons k ks ih =>
    obtain ⟨slots, hs, size⟩ := ih (g.modifyNode k f)
    exact ⟨slots, hs, size.trans (size_modifyNode g k f)⟩

theorem node?_foldl_modifyNode {ks : List NodeId} (hk : ks.Nodup) (f : Node → Node) (g : Graph)
    (m : NodeId) : (ks.foldl (fun g k => g.modifyNode k f) g).node? m =
      if m ∈ ks then (g.node? m).map f else g.node? m := by
  induction ks generalizing g with
  | nil => simp
  | cons k ks ih =>
    obtain ⟨notin, nodup⟩ := List.nodup_cons.1 hk
    rw [List.foldl_cons, ih nodup, node?_modifyNode]
    by_cases hm : m = k
    · subst hm; simp [notin]
    · simp [hm]

/-- The node without its edges to and from `n`. -/
def without (n : NodeId) (x : Node) : Node :=
  { x with successors := x.successors.erase n, predecessors := x.predecessors.erase n }

/-- The handles other than `n`. -/
def otherThan (n m : NodeId) : Bool := decide (m ≠ n)

/-- `g'` is `g` after `n`, which was `x`, was taken out. -/
structure Removed (g : Graph) (n : NodeId) (x : Node) (g' : Graph) : Prop where
  size : g'.slots.size = g.slots.size
  node : ∀ m, g'.node? m = if m = n then none else (g.node? m).map (without n)
  mem : g'.memNodes = g.memNodes.filterValues (otherThan n)
  input : g'.inputNodes = g.inputNodes.filterValues (otherThan n)
  value : g'.valueNodes = g.valueNodes.filterValues (otherThan n)
  memValue : g'.memValues = g.memValues.filterValues (otherThan n)
  net : ∀ p d, g'.netNodes p d = (g.netNodes p d).filter (otherThan n)
  edges : g'.edges = g.edges - (x.successors.size + x.predecessors.size)
  live : g'.live = g.live - 1
  generation : g'.generation = g.generation + 1

/-- The neighbours that the removal visits are the ones that know the node. -/
theorem Linked.map_without {g : Graph} (h : Linked g) {n m : NodeId} {x y : Node}
    (hx : g.node? n = some x) (hy : g.node? m = some y) :
    { y with
      successors := if m ∈ x.predecessors.keys then y.successors.erase n else y.successors
      predecessors := if m ∈ x.successors.keys then y.predecessors.erase n else y.predecessors }
      = without n y := by
  have succ : x.successors.get? m = y.predecessors.get? n := by
    have := h.mirror n m
    simpa [edgeKind?, backKind?, hx, hy] using this
  have pred : y.successors.get? n = x.predecessors.get? m := by
    have := h.mirror m n
    simpa [edgeKind?, backKind?, hx, hy] using this
  unfold without
  congr 1
  · split
    · rfl
    · next hm =>
      rw [SortedMap.mem_keys_iff, ← pred, Option.not_isSome_iff_eq_none] at hm
      exact (SortedMap.erase_of_get?_eq_none hm).symm
  · split
    · rfl
    · next hm =>
      rw [SortedMap.mem_keys_iff, succ, Option.not_isSome_iff_eq_none] at hm
      exact (SortedMap.erase_of_get?_eq_none hm).symm

/-- The graph after `n`, which was `x`, has left its slot and the maps of its neighbours. -/
def isolate (g : Graph) (n : NodeId) (x : Node) : Graph :=
  x.predecessors.keys.foldl
    (fun g s => g.modifyNode s fun m => { m with successors := m.successors.erase n })
    (x.successors.keys.foldl
      (fun g s => g.modifyNode s fun m => { m with predecessors := m.predecessors.erase n })
      { g with slots := g.slots.modify n fun _ => none })

theorem isolate_eq (g : Graph) (n : NodeId) (x : Node) :
    ∃ slots, g.isolate n x = { g with slots := slots } ∧ slots.size = g.slots.size := by
  unfold isolate
  obtain ⟨slots₁, h₁, size₁⟩ := foldl_modifyNode_eq x.successors.keys
    (fun m => { m with predecessors := m.predecessors.erase n })
    { g with slots := g.slots.modify n fun _ => none }
  rw [h₁]
  obtain ⟨slots₂, h₂, size₂⟩ := foldl_modifyNode_eq x.predecessors.keys
    (fun m => { m with successors := m.successors.erase n }) { g with slots := slots₁ }
  exact ⟨slots₂, h₂, size₂.trans (size₁.trans Array.size_modify)⟩

theorem node?_isolate {g : Graph} (h : Linked g) {n : NodeId} {x : Node} (hx : g.node? n = some x)
    (m : NodeId) :
    (g.isolate n x).node? m = if m = n then none else (g.node? m).map (without n) := by
  have cleared : ({ g with slots := g.slots.modify n fun _ => none } : Graph).node? m
      = if m = n then none else g.node? m := by
    simp only [node?, Array.getElem?_modify, eq_comm (a := n)]
    split
    · cases g.slots[m]? <;> rfl
    · rfl
  rw [isolate, node?_foldl_modifyNode x.predecessors.nodup_keys,
    node?_foldl_modifyNode x.successors.nodup_keys, cleared]
  by_cases hm : m = n
  · simp [hm]
  · rw [if_neg hm, if_neg hm]
    cases hy : g.node? m with
    | none => simp
    | some y =>
      change _ = some (without n y)
      rw [← h.map_without hx hy]
      by_cases h₁ : m ∈ x.successors.keys <;> by_cases h₂ : m ∈ x.predecessors.keys <;>
        simp [h₁, h₂]

theorem removed_of_removeNode {g g' : Graph} {n : NodeId} {x : Node} (h : Linked g)
    (hr : g.removeNode n = .ok (x, g')) : g.node? n = some x ∧ Removed g n x g' := by
  unfold removeNode at hr
  split at hr
  · cases hr
  · next y hy =>
    obtain ⟨slots, he, size⟩ := isolate_eq g n y
    have node := node?_isolate h hy
    simp only [isolate] at he node
    cases hr
    rw [he] at node ⊢
    exact ⟨hy, size, node, rfl, rfl, rfl, rfl, fun p d => by cases d <;> exact PerProgram.get_map ..,
      rfl, rfl, rfl⟩

/-! ## The parts after a removal -/

section Removed

variable {g g' : Graph} {n : NodeId} {x : Node} (r : Removed g n x g')
include r

theorem Removed.role? (m : NodeId) : g'.role? m = if m = n then none else g.role? m := by
  unfold Graph.role?
  rw [r.node]
  split
  · rfl
  · rw [Option.map_map]; rfl

theorem Removed.ne_of_isLive {m : NodeId} (live : g'.isLive m = true) : m ≠ n := by
  rintro rfl
  rw [isLive, r.node, if_pos rfl] at live
  cases live

theorem Removed.edgeKind? (a b : NodeId) :
    g'.edgeKind? a b = if a = n ∨ b = n then none else g.edgeKind? a b := by
  unfold Graph.edgeKind?
  rw [r.node]
  by_cases ha : a = n
  · simp [ha]
  · cases g.node? a <;> simp [ha, without]

theorem Removed.backKind? (a b : NodeId) :
    g'.backKind? a b = if a = n ∨ b = n then none else g.backKind? a b := by
  unfold Graph.backKind?
  rw [r.node]
  by_cases hb : b = n
  · simp [hb]
  · cases g.node? b <;> simp [hb, without]

/-- What the other nodes lose in a sum over their maps of successors (or of predecessors) are the
edges to the removed node, which it has on its other side. -/
theorem Removed.sum (hx : g.node? n = some x) {side back : Node → SortedMap NodeId EdgeKind}
    (hside : ∀ y, side (without n y) = (side y).erase n)
    (hself : (side x).get? n = none)
    (hback : ∀ m y, g.node? m = some y → (side y).get? n = (back x).get? m)
    (hlive : ∀ m, ((back x).get? m).isSome → g.isLive m = true) :
    (g'.nodes.map fun y => (side y).size).sum + ((side x).size + (back x).size)
      = (g.nodes.map fun y => (side y).size).sum := by
  have mem := Finset.mem_range.2 (lt_size_of_node? hx)
  -- one for every node on the other side of the removed one
  have known : (back x).size = ∑ m ∈ (Finset.range g.slots.size).erase n,
      if ((back x).get? m).isSome then 1 else 0 := by
    rw [← SortedMap.length_keys, ← List.toFinset_card_of_nodup (back x).nodup_keys,
      ← Finset.card_filter]
    congr 1
    ext m
    simp only [List.mem_toFinset, SortedMap.mem_keys_iff, Finset.mem_filter, Finset.mem_erase,
      Finset.mem_range]
    constructor
    · intro hm
      obtain ⟨y, hy⟩ := isLive_iff.1 (hlive m hm)
      refine ⟨⟨fun he => ?_, lt_size_of_node? hy⟩, hm⟩
      subst he
      rw [← hback m x hx, hself] at hm
      cases hm
    · exact fun hm => hm.2
  have others : ∀ m ∈ (Finset.range g.slots.size).erase n,
      ((g'.node? m).elim 0 fun y => (side y).size) + (if ((back x).get? m).isSome then 1 else 0)
        = (g.node? m).elim 0 fun y => (side y).size := by
    intro m hm
    rw [r.node, if_neg (Finset.ne_of_mem_erase hm)]
    cases hy : g.node? m with
    | none =>
      have : ¬ ((back x).get? m).isSome = true := fun hs => by
        obtain ⟨y, hy'⟩ := isLive_iff.1 (hlive m hs)
        rw [hy] at hy'; cases hy'
      simp [this]
    | some y =>
      rw [Option.map_some, Option.elim_some, Option.elim_some, hside, ← hback m y hy]
      exact SortedMap.size_erase_add (side y) n
  rw [sum_nodes, sum_nodes, r.size, ← Finset.add_sum_erase _ _ mem, ← Finset.add_sum_erase _ _ mem,
    ← Finset.sum_congr rfl others, Finset.sum_add_distrib, ← known, r.node, if_pos rfl, hx]
  simp only [Option.elim_none, Option.elim_some]
  omega

theorem Removed.sums (h : Linked g) (hx : g.node? n = some x) :
    (g'.nodes.map (·.successors.size)).sum + (x.successors.size + x.predecessors.size) = g.edges ∧
      (g'.nodes.map (·.predecessors.size)).sum + (x.predecessors.size + x.successors.size) = g.edges := by
  have succ : ∀ m y, g.node? m = some y → y.successors.get? n = x.predecessors.get? m := by
    intro m y hy
    simpa [Graph.edgeKind?, Graph.backKind?, hx, hy] using h.mirror m n
  have pred : ∀ m y, g.node? m = some y → y.predecessors.get? n = x.successors.get? m := by
    intro m y hy
    simpa [Graph.edgeKind?, Graph.backKind?, hx, hy] using (h.mirror n m).symm
  have self : x.successors.get? n = none := by
    simpa [Graph.edgeKind?, hx] using h.irrefl n
  constructor
  · rw [h.edges_eq]
    refine r.sum hx (fun _ => rfl) self succ fun m hm => ?_
    obtain ⟨k, hk⟩ := Option.isSome_iff_exists.1 hm
    have back : g.backKind? m n = some k := backKind?_eq_some_iff.2 ⟨x, hx, hk⟩
    rw [← h.mirror] at back
    exact (h.isLive_of_hasEdge (hasEdge_iff.2 ⟨k, back⟩)).1
  · rw [h.edges_eq_back]
    refine r.sum hx (fun _ => rfl) (by rw [pred n x hx, self]) pred fun m hm => ?_
    obtain ⟨k, hk⟩ := Option.isSome_iff_exists.1 hm
    exact (h.isLive_of_hasEdge (hasEdge_iff.2 ⟨k, edgeKind?_eq_some_iff.2 ⟨x, hx, hk⟩⟩)).2

theorem Removed.length_nodes (hx : g.node? n = some x) : g'.nodes.length + 1 = g.nodes.length := by
  have mem := Finset.mem_range.2 (lt_size_of_node? hx)
  rw [Graph.length_nodes, Graph.length_nodes, r.size, ← Finset.add_sum_erase _ _ mem,
    ← Finset.add_sum_erase _ _ mem, r.node, if_pos rfl, hx]
  have others : ∀ m ∈ (Finset.range g.slots.size).erase n,
      ((g'.node? m).elim 0 fun _ => 1) = (g.node? m).elim 0 fun _ => 1 := by
    intro m hm
    rw [r.node, if_neg (Finset.ne_of_mem_erase hm)]
    cases g.node? m <;> rfl
  rw [Finset.sum_congr rfl others]
  simp only [Option.elim_none, Option.elim_some]
  omega

theorem Removed.linked (h : Linked g) (hx : g.node? n = some x) : Linked g' := by
  obtain ⟨hs, hp⟩ := r.sums h hx
  have hl := r.length_nodes hx
  refine ⟨fun m y hy => ?_, fun a b => ?_, fun a => ?_, ?_, ?_, ?_⟩
  · rw [r.node] at hy
    split at hy
    · cases hy
    · obtain ⟨z, hz, rfl⟩ := Option.map_eq_some_iff.1 hy
      exact h.id_eq m z hz
  · rw [r.edgeKind?, r.backKind?, h.mirror]
  · rw [r.edgeKind?, h.irrefl, ite_self]
  · rw [r.live, h.live_eq]; omega
  · rw [r.edges]; omega
  · rw [r.edges]; omega

theorem Removed.indexed (h : Indexed g) : Indexed g' := by
  have old : ∀ {m ρ}, g.role? m = some ρ → m ≠ n → g'.role? m = some ρ := by
    intro m ρ hm hne
    rw [r.role?, if_neg hne, hm]
  refine ⟨fun p k m hm => ?_, fun v o m hm => ?_, fun v m hm => ?_, fun v m hm => ?_, fun p d m => ?_,
    fun p d => ?_⟩
  · rw [r.mem, SortedMap.get?_filterValues, Option.filter_eq_some_iff] at hm
    exact old (h.mem p k m hm.1) (of_decide_eq_true hm.2)
  · rw [r.input, SortedMap.get?_filterValues, Option.filter_eq_some_iff] at hm
    obtain ⟨p, name, hr⟩ := h.input v o m hm.1
    exact ⟨p, name, old hr (of_decide_eq_true hm.2)⟩
  · rw [r.value, SortedMap.get?_filterValues, Option.filter_eq_some_iff] at hm
    obtain ⟨p, kind, hr, hk⟩ := h.value v m hm.1
    exact ⟨p, kind, old hr (of_decide_eq_true hm.2), hk⟩
  · rw [r.memValue, SortedMap.get?_filterValues, Option.filter_eq_some_iff] at hm
    obtain ⟨p, k, hr⟩ := h.memValue v m hm.1
    exact ⟨p, k, old hr (of_decide_eq_true hm.2)⟩
  · rw [r.net, List.mem_filter, h.net, r.role?]
    by_cases hm : m = n
    · simp [hm, otherThan]
    · simp [hm, otherThan]
  · rw [r.net]; exact (h.net_sorted p d).filter _

end Removed

theorem WellFormed.removeNode {g g' : Graph} {n : NodeId} {x : Node} (h : WellFormed g)
    (hr : g.removeNode n = .ok (x, g')) : WellFormed g' := by
  obtain ⟨hx, r⟩ := removed_of_removeNode h.toLinked hr
  exact ⟨r.linked h.toLinked hx, r.indexed h.toIndexed⟩

/-- A live node takes no more out of the counters than they hold. -/
theorem WellFormed.counters_cover {g : Graph} (h : WellFormed g) {n : NodeId} {x : Node}
    (hx : g.node? n = some x) :
    x.successors.size + x.predecessors.size ≤ g.edges ∧ 1 ≤ g.live := by
  obtain ⟨y, g', hr⟩ : ∃ y g', g.removeNode n = .ok (y, g') := by
    unfold Graph.removeNode
    rw [hx]
    exact ⟨_, _, rfl⟩
  obtain ⟨hy, r⟩ := removed_of_removeNode h.toLinked hr
  rw [hx] at hy
  cases hy
  obtain ⟨hs, -⟩ := r.sums h.toLinked hx
  have hl := r.length_nodes hx
  rw [h.live_eq]
  omega

end Graph

end PeerTaint
