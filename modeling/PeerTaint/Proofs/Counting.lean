import Mathlib.Algebra.BigOperators.Group.Finset.Basic
import Mathlib.Algebra.BigOperators.Group.List.Basic
import Mathlib.Algebra.GroupWithZero.Nat
import PeerTaint.Graph.Stats

/-!
Counting: sizes and sums of sorted maps, and sums over the nodes of a graph.

The counters of a graph are sums over its nodes. `sum_nodes` turns such a sum into one over the
slots, where a change of one slot can be followed.
-/

namespace PeerTaint

namespace SortedMap

variable {κ α : Type} [Key κ] [DecidableEq κ]

/-- A list of entries in ascending order. -/
abbrev Ascending (es : List (κ × α)) : Prop := es.Pairwise fun a b => Key.before a.1 b.1 = true

theorem place_perm (k : κ) (v : α) {es : List (κ × α)} (h : Ascending es) :
    (place k v es).Perm ((k, v) :: es.filter fun e => decide (e.1 ≠ k)) := by
  induction es with
  | nil => exact .refl _
  | cons e es ih =>
    obtain ⟨head, tail⟩ := List.pairwise_cons.1 h
    have later : ∀ {x : κ}, (x = e.1 ∨ Key.before x e.1 = true) →
        es.filter (fun e => decide (e.1 ≠ x)) = es := by
      intro x hx
      refine List.filter_eq_self.2 fun d hd => decide_eq_true fun hd' => ?_
      subst hd'
      rcases hx with hx | hx
      · exact Key.ne_of_before (head d hd) hx.symm
      · exact Key.ne_of_before (Key.trans hx (head d hd)) rfl
    simp only [place]
    split
    · next hk =>
      rw [List.filter_cons_of_neg (by simp [hk]), later (Or.inl hk)]
    · next hk =>
      rw [List.filter_cons_of_pos (by simpa using Ne.symm hk)]
      split
      · next hlt => rw [later (Or.inr hlt)]
      · exact ((ih tail).cons e).trans (.swap ..)

theorem entries_insert_perm (m : SortedMap κ α) (k : κ) (v : α) :
    (m.insert k v).entries.Perm ((k, v) :: (m.erase k).entries) :=
  place_perm k v m.sorted

theorem erase_of_get?_eq_none {m : SortedMap κ α} {k : κ} (h : m.get? k = none) :
    m.erase k = m := by
  refine ext fun x => ?_
  rw [get?_erase]
  split
  · next hx => rw [hx, h]
  · rfl

theorem insert_erase_of_get? {m : SortedMap κ α} {k : κ} {v : α} (h : m.get? k = some v) :
    (m.erase k).insert k v = m := by
  refine ext fun x => ?_
  rw [get?_insert, get?_erase]
  split
  · next hx => rw [hx, h]
  · rfl

/-- What a map loses with a key. -/
theorem entries_perm_of_get? {m : SortedMap κ α} {k : κ} {v : α} (h : m.get? k = some v) :
    m.entries.Perm ((k, v) :: (m.erase k).entries) := by
  have erased : (m.erase k).erase k = m.erase k := erase_of_get?_eq_none (by simp)
  have := entries_insert_perm (m.erase k) k v
  rwa [insert_erase_of_get? h, erased] at this

theorem size_erase_add (m : SortedMap κ α) (k : κ) :
    (m.erase k).size + (if (m.get? k).isSome then 1 else 0) = m.size := by
  cases h : m.get? k with
  | none => simp [erase_of_get?_eq_none h]
  | some v => simpa [size] using (entries_perm_of_get? h).length_eq.symm

theorem size_insert_of_none {m : SortedMap κ α} {k : κ} {v : α} (h : m.get? k = none) :
    (m.insert k v).size = m.size + 1 := by
  have := (entries_insert_perm m k v).length_eq
  rwa [erase_of_get?_eq_none h] at this

theorem size_insert_of_some {m : SortedMap κ α} {k : κ} {v w : α} (h : m.get? k = some w) :
    (m.insert k v).size = m.size := by
  have h₁ := (entries_insert_perm m k v).length_eq
  have h₂ := (entries_perm_of_get? h).length_eq
  simp only [List.length_cons] at h₁ h₂
  exact h₁.trans h₂.symm

omit [DecidableEq κ] in
theorem length_keys (m : SortedMap κ α) : m.keys.length = m.size := List.length_map _

/-- Raising the number of one key by one raises the sum of all numbers by one. -/
theorem sum_values_insert_succ (m : SortedMap κ Nat) (k : κ) :
    (m.insert k ((m.get? k).getD 0 + 1)).values.sum = m.values.sum + 1 := by
  have h₁ := ((entries_insert_perm m k ((m.get? k).getD 0 + 1)).map Prod.snd).sum_eq
  rw [List.map_cons, List.sum_cons] at h₁
  refine h₁.trans ?_
  cases h : m.get? k with
  | none => rw [erase_of_get?_eq_none h]; simp [values, Nat.add_comm]
  | some v =>
    have h₂ := ((entries_perm_of_get? h).map Prod.snd).sum_eq
    rw [List.map_cons, List.sum_cons] at h₂
    simp only [values, Option.getD_some, h₂]
    omega

end SortedMap

theorem Node.accesses_eq_sum (xs : List Node) : Node.accesses xs = (xs.map (·.count)).sum := by
  induction xs with
  | nil => rfl
  | cons x xs ih => rw [Node.accesses, ih, List.map_cons, List.sum_cons]

namespace Graph

/-! ## Nodes by handle -/

theorem isLive_iff {g : Graph} {n : NodeId} : g.isLive n = true ↔ ∃ x, g.node? n = some x :=
  Option.isSome_iff_exists

theorem isLive_of_node? {g : Graph} {n : NodeId} {x : Node} (h : g.node? n = some x) :
    g.isLive n = true := isLive_iff.2 ⟨x, h⟩

theorem node?_eq_some_iff {g : Graph} {n : NodeId} {x : Node} :
    g.node? n = some x ↔ g.slots[n]? = some (some x) := Option.join_eq_some_iff

theorem mem_nodes_iff {g : Graph} {x : Node} : x ∈ g.nodes ↔ ∃ n, g.node? n = some x := by
  simp only [nodes, List.mem_filterMap, id, exists_eq_right, Array.mem_toList_iff,
    Array.mem_iff_getElem?, node?_eq_some_iff]

theorem lt_size_of_node? {g : Graph} {n : NodeId} {x : Node} (h : g.node? n = some x) :
    n < g.slots.size :=
  (Array.getElem?_eq_some_iff.1 (node?_eq_some_iff.1 h)).1

theorem node?_of_size_le {g : Graph} {n : NodeId} (h : g.slots.size ≤ n) : g.node? n = none := by
  cases hn : g.node? n with
  | none => rfl
  | some x => exact absurd (lt_size_of_node? hn) (Nat.not_lt.2 h)

theorem mem_handles_iff {g : Graph} {n : NodeId} : n ∈ g.handles ↔ g.isLive n = true := by
  simp only [handles, List.mem_filter, List.mem_range, and_iff_right_iff_imp]
  intro h
  obtain ⟨x, hx⟩ := isLive_iff.1 h
  exact lt_size_of_node? hx

@[simp]
theorem node?_modifyNode (g : Graph) (n m : NodeId) (f : Node → Node) :
    (g.modifyNode n f).node? m = if m = n then (g.node? m).map f else g.node? m := by
  simp only [node?, modifyNode, Array.getElem?_modify, eq_comm (a := n)]
  split
  · rw [Option.join_map_eq_map_join]
  · rfl

@[simp]
theorem node?_pushNode (g : Graph) (x : Node) (m : NodeId) :
    (g.pushNode x).node? m = if m = g.slots.size then some x else g.node? m := by
  simp only [node?, pushNode, Array.getElem?_push]
  split <;> rfl

@[simp]
theorem size_modifyNode (g : Graph) (n : NodeId) (f : Node → Node) :
    (g.modifyNode n f).slots.size = g.slots.size := Array.size_modify

@[simp]
theorem size_pushNode (g : Graph) (x : Node) : (g.pushNode x).slots.size = g.slots.size + 1 := by
  simp [pushNode]

/-! ## Sums over nodes -/

theorem sum_filterMap_id (f : Node → Nat) (l : List (Option Node)) :
    ((l.filterMap id).map f).sum = ∑ n ∈ Finset.range l.length, (l[n]?.join).elim 0 f := by
  induction l with
  | nil => rfl
  | cons o l ih =>
    rw [List.length_cons, Finset.sum_range_succ']
    simp only [List.getElem?_cons_succ, List.getElem?_cons_zero, Option.join_some]
    rw [← ih]
    cases o with
    | none => rfl
    | some x => exact Nat.add_comm ..

/-- A sum over the nodes is a sum over the slots. -/
theorem sum_nodes (g : Graph) (f : Node → Nat) :
    (g.nodes.map f).sum = ∑ n ∈ Finset.range g.slots.size, (g.node? n).elim 0 f := by
  simpa [nodes, node?] using sum_filterMap_id f g.slots.toList

theorem length_nodes (g : Graph) :
    g.nodes.length = ∑ n ∈ Finset.range g.slots.size, (g.node? n).elim 0 fun _ => 1 := by
  rw [← sum_nodes]; simp

/-- Graphs whose nodes weigh the same slot by slot have the same sum. -/
theorem sum_nodes_congr {g g' : Graph} (f : Node → Nat) (size : g'.slots.size = g.slots.size)
    (same : ∀ n, (g'.node? n).elim 0 f = (g.node? n).elim 0 f) :
    (g'.nodes.map f).sum = (g.nodes.map f).sum := by
  rw [sum_nodes, sum_nodes, size]
  exact Finset.sum_congr rfl fun n _ => same n

/-- Only one slot weighs more. -/
theorem sum_nodes_succ {g g' : Graph} (f : Node → Nat) (size : g'.slots.size = g.slots.size)
    {a : NodeId} (ha : a < g.slots.size)
    (at_a : (g'.node? a).elim 0 f = (g.node? a).elim 0 f + 1)
    (same : ∀ n, n ≠ a → (g'.node? n).elim 0 f = (g.node? n).elim 0 f) :
    (g'.nodes.map f).sum = (g.nodes.map f).sum + 1 := by
  have mem : a ∈ Finset.range g.slots.size := Finset.mem_range.2 ha
  rw [sum_nodes, sum_nodes, size, ← Finset.add_sum_erase _ _ mem, ← Finset.add_sum_erase _ _ mem,
    at_a, Finset.sum_congr rfl fun n hn => same n (Finset.ne_of_mem_erase hn)]
  omega

end Graph

end PeerTaint
