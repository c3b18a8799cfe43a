import PeerTaint.Proofs.Counting

/-!
Well-formed graphs.

A graph keeps the same facts in several places: an edge on both of its ends, the number of nodes and
of edges beside the nodes, and five indices that point at nodes. `Linked` says that slots, edges and
counters agree, `Indexed` that the indices point at nodes of the right kind, and `WellFormed` is
both. Every operation of the store keeps graphs well formed.

What an index says about a node never mentions the edges of the node or the arguments of a call, only
its role (`role?`): the program and the kind without the arguments.
-/

namespace PeerTaint

namespace NodeKind

/-- The kind without the arguments of a call, which are filled in after the node was made. -/
def bare (kind : NodeKind) : NodeKind := kind.mapCallInfo ({ · with args := [] })

/-- Whether the node is a variable, an operation or a call that defines a value. -/
def Defines (kind : NodeKind) (v : Value) : Prop := kind.value? = some v ∧ kind.category ≠ .input

@[simp]
theorem bare_mapCallInfo (kind : NodeKind) (args : List (Option NodeId)) :
    (kind.mapCallInfo ({ · with args := args })).bare = kind.bare := by cases kind <;> rfl

@[simp]
theorem direction?_bare (kind : NodeKind) : kind.bare.direction? = kind.direction? := by
  cases kind <;> rfl

@[simp]
theorem isMem_bare (kind : NodeKind) : kind.bare.isMem = kind.isMem := by cases kind <;> rfl

@[simp]
theorem defines_bare {kind : NodeKind} {v : Value} : kind.bare.Defines v ↔ kind.Defines v := by
  cases kind <;> exact Iff.rfl

theorem bare_eq_input_iff {kind : NodeKind} {v : Value} {o : Origin} {name : String} :
    kind.bare = input v o name ↔ kind = input v o name := by
  cases kind <;> simp [bare, mapCallInfo]

end NodeKind

namespace Graph

/-- What a node is to the indices: its program, and its kind without the arguments of a call. -/
def role? (g : Graph) (n : NodeId) : Option (Program × NodeKind) :=
  (g.node? n).map fun x => (x.program, x.kind.bare)

/-- The kind of the edge between two nodes, as the node where it ends has it. -/
def backKind? (g : Graph) (a b : NodeId) : Option EdgeKind :=
  (g.node? b).bind fun node => node.predecessors.get? a

/-- Whether a node is a set of memory cells. -/
def isMem (g : Graph) (n : NodeId) : Bool := (g.node? n).any (·.isMem)

/-- Slots, edges and counters agree. -/
structure Linked (g : Graph) : Prop where
  id_eq : ∀ n x, g.node? n = some x → x.id = n
  /-- Both ends of an edge have it, with the same kind. -/
  mirror : ∀ a b, g.edgeKind? a b = g.backKind? a b
  irrefl : ∀ a, g.edgeKind? a a = none
  live_eq : g.live = g.nodes.length
  edges_eq : g.edges = (g.nodes.map (·.successors.size)).sum
  edges_eq_back : g.edges = (g.nodes.map (·.predecessors.size)).sum

/-- The indices point at live nodes of the right kind, and list all network nodes. -/
structure Indexed (g : Graph) : Prop where
  mem : ∀ p k n, g.memNodes.get? (p, k) = some n → g.role? n = some (p, .mem k)
  input : ∀ v o n, g.inputNodes.get? (v, o) = some n →
    ∃ p name, g.role? n = some (p, .input v o name)
  value : ∀ v n, g.valueNodes.get? v = some n → ∃ p kind, g.role? n = some (p, kind) ∧ kind.Defines v
  memValue : ∀ v n, g.memValues.get? v = some n → ∃ p k, g.role? n = some (p, .mem k)
  net : ∀ p d n, n ∈ g.netNodes p d ↔ ∃ kind, g.role? n = some (p, kind) ∧ kind.direction? = some d
  net_sorted : ∀ p d, (g.netNodes p d).Pairwise (· < ·)

/-- A graph whose parts agree. -/
structure WellFormed (g : Graph) : Prop extends Linked g, Indexed g

/-! ## Roles and edges -/

theorem role?_eq_some_iff {g : Graph} {n : NodeId} {p : Program} {kind : NodeKind} :
    g.role? n = some (p, kind) ↔ ∃ x, g.node? n = some x ∧ x.program = p ∧ x.kind.bare = kind := by
  simp [role?]

theorem isMem_of_role? {g : Graph} {n : NodeId} {p : Program} {kind : NodeKind}
    (h : g.role? n = some (p, kind)) : g.isMem n = kind.isMem := by
  obtain ⟨x, hx, -, rfl⟩ := role?_eq_some_iff.1 h
  simp [isMem, hx, Node.isMem]

theorem lt_size_of_role? {g : Graph} {n : NodeId} {r : Program × NodeKind} (h : g.role? n = some r) :
    n < g.slots.size := by
  obtain ⟨x, hx, -⟩ := Option.map_eq_some_iff.1 h
  exact lt_size_of_node? hx

theorem edgeKind?_eq_some_iff {g : Graph} {a b : NodeId} {k : EdgeKind} :
    g.edgeKind? a b = some k ↔ ∃ x, g.node? a = some x ∧ x.successors.get? b = some k :=
  Option.bind_eq_some_iff

theorem backKind?_eq_some_iff {g : Graph} {a b : NodeId} {k : EdgeKind} :
    g.backKind? a b = some k ↔ ∃ x, g.node? b = some x ∧ x.predecessors.get? a = some k :=
  Option.bind_eq_some_iff

theorem hasEdge_iff {g : Graph} {a b : NodeId} : g.hasEdge a b = true ↔ ∃ k, g.edgeKind? a b = some k :=
  Option.isSome_iff_exists

theorem mem_successors_iff {g : Graph} {a b : NodeId} : b ∈ g.successors a ↔ g.hasEdge a b = true := by
  unfold successors hasEdge edgeKind?
  cases g.node? a with
  | none => simp
  | some x => exact SortedMap.mem_keys_iff

/-- Both ends of an edge are live. -/
theorem Linked.isLive_of_hasEdge {g : Graph} (h : Linked g) {a b : NodeId} (hab : g.hasEdge a b = true) :
    g.isLive a = true ∧ g.isLive b = true := by
  obtain ⟨k, hk⟩ := hasEdge_iff.1 hab
  obtain ⟨x, hx, -⟩ := edgeKind?_eq_some_iff.1 hk
  rw [h.mirror] at hk
  obtain ⟨y, hy, -⟩ := backKind?_eq_some_iff.1 hk
  exact ⟨isLive_of_node? hx, isLive_of_node? hy⟩

theorem wellFormed_empty : WellFormed empty where
  id_eq n x hx := by cases hx
  mirror a b := rfl
  irrefl a := rfl
  live_eq := rfl
  edges_eq := rfl
  edges_eq_back := rfl
  mem p k n hn := by cases hn
  input v o n hn := by cases hn
  value v n hn := by cases hn
  memValue v n hn := by cases hn
  net p d n := by cases p <;> cases d <;> exact ⟨nofun, nofun⟩
  net_sorted p d := by cases p <;> cases d <;> exact .nil

/-! ## Changes that keep the roles -/

/-- The indices of two graphs are the same. -/
structure SameIndices (g g' : Graph) : Prop where
  mem : g'.memNodes = g.memNodes
  input : g'.inputNodes = g.inputNodes
  value : g'.valueNodes = g.valueNodes
  memValue : g'.memValues = g.memValues
  net : ∀ p d, g'.netNodes p d = g.netNodes p d

theorem Indexed.congr {g g' : Graph} (h : Indexed g) (role : ∀ n, g'.role? n = g.role? n)
    (same : SameIndices g g') : Indexed g' where
  mem p k n hn := by rw [role]; exact h.mem p k n (same.mem ▸ hn)
  input v o n hn := by rw [role]; exact h.input v o n (same.input ▸ hn)
  value v n hn := by simp only [role]; exact h.value v n (same.value ▸ hn)
  memValue v n hn := by simp only [role]; exact h.memValue v n (same.memValue ▸ hn)
  net p d n := by rw [same.net, role]; exact h.net p d n
  net_sorted p d := by rw [same.net]; exact h.net_sorted p d

/-- The handle and the edges that a node has itself. -/
def links? (g : Graph) (n : NodeId) :
    Option (NodeId × SortedMap NodeId EdgeKind × SortedMap NodeId EdgeKind) :=
  (g.node? n).map fun x => (x.id, x.successors, x.predecessors)

theorem links?_elim {g : Graph} {n : NodeId}
    (f : SortedMap NodeId EdgeKind → SortedMap NodeId EdgeKind → Nat) :
    ((g.node? n).elim 0 fun x => f x.successors x.predecessors)
      = (g.links? n).elim 0 fun l => f l.2.1 l.2.2 := by
  cases h : g.node? n <;> simp [links?, h]

theorem edgeKind?_eq_links? (g : Graph) (a b : NodeId) :
    g.edgeKind? a b = (g.links? a).bind fun l => l.2.1.get? b := by
  cases h : g.node? a <;> simp [edgeKind?, links?, h]

theorem backKind?_eq_links? (g : Graph) (a b : NodeId) :
    g.backKind? a b = (g.links? b).bind fun l => l.2.2.get? a := by
  cases h : g.node? b <;> simp [backKind?, links?, h]

theorem Linked.congr {g g' : Graph} (h : Linked g) (size : g'.slots.size = g.slots.size)
    (links : ∀ n, g'.links? n = g.links? n) (live : g'.live = g.live) (edges : g'.edges = g.edges) :
    Linked g' where
  id_eq n x hx := by
    have hl : g.links? n = some (x.id, x.successors, x.predecessors) := by
      rw [← links n, links?, hx]; rfl
    obtain ⟨y, hy, he⟩ := Option.map_eq_some_iff.1 hl
    exact (congrArg Prod.fst he).symm.trans (h.id_eq n y hy)
  mirror a b := by
    rw [edgeKind?_eq_links?, backKind?_eq_links?, links, links, ← edgeKind?_eq_links?,
      ← backKind?_eq_links?]
    exact h.mirror a b
  irrefl a := by rw [edgeKind?_eq_links?, links, ← edgeKind?_eq_links?]; exact h.irrefl a
  live_eq := by
    rw [live, h.live_eq, length_nodes, length_nodes, size]
    refine Finset.sum_congr rfl fun n _ => ?_
    rw [links?_elim fun _ _ => 1, links?_elim fun _ _ => 1, links]
  edges_eq := by
    rw [edges, h.edges_eq]
    refine (sum_nodes_congr _ size fun n => ?_).symm
    rw [links?_elim fun s _ => s.size, links?_elim fun s _ => s.size, links]
  edges_eq_back := by
    rw [edges, h.edges_eq_back]
    refine (sum_nodes_congr _ size fun n => ?_).symm
    rw [links?_elim fun _ p => p.size, links?_elim fun _ p => p.size, links]

/-- A change of a node that leaves its handle, its role and its edges. -/
structure Benign (f : Node → Node) : Prop where
  role : ∀ x, ((f x).program, (f x).kind.bare) = (x.program, x.kind.bare)
  links : ∀ x, ((f x).id, (f x).successors, (f x).predecessors) = (x.id, x.successors, x.predecessors)

theorem map_node?_modifyNode (g : Graph) (n m : NodeId) {f : Node → Node} {α : Type} {q : Node → α}
    (hq : ∀ x, q (f x) = q x) : ((g.modifyNode n f).node? m).map q = (g.node? m).map q := by
  rw [node?_modifyNode]
  split
  · rw [Option.map_map]
    exact congrArg (Option.map · _) (funext hq)
  · rfl

theorem role?_modifyNode {f : Node → Node} (hf : Benign f) (g : Graph) (n m : NodeId) :
    (g.modifyNode n f).role? m = g.role? m := map_node?_modifyNode g n m hf.role

theorem links?_modifyNode {f : Node → Node} (hf : Benign f) (g : Graph) (n m : NodeId) :
    (g.modifyNode n f).links? m = g.links? m := map_node?_modifyNode g n m hf.links

theorem WellFormed.modifyNode {g : Graph} (h : WellFormed g) {f : Node → Node} (hf : Benign f)
    (n : NodeId) : WellFormed (g.modifyNode n f) where
  toLinked := h.toLinked.congr (size_modifyNode ..) (links?_modifyNode hf g n) rfl rfl
  toIndexed := h.toIndexed.congr (role?_modifyNode hf g n)
    ⟨rfl, rfl, rfl, rfl, fun _ d => by cases d <;> rfl⟩

/-! ## Index entries -/

section Entries

variable {g : Graph} (h : WellFormed g) {n : NodeId} {p : Program}
include h

theorem WellFormed.bindValue {v : Value} {kind : NodeKind} (role : g.role? n = some (p, kind))
    (hk : kind.Defines v) : WellFormed (g.bindValue v n) where
  toLinked := h.toLinked.congr rfl (fun _ => rfl) rfl rfl
  toIndexed := { h.toIndexed with
    value := fun w m hm => by
      simp only [Graph.bindValue, SortedMap.get?_insert] at hm
      split at hm
      · next hw =>
        cases hm
        exact ⟨p, kind, role, hw ▸ hk⟩
      · exact h.value w m hm }

theorem WellFormed.bindMemValue {v : Value} {k : AliasKey} (role : g.role? n = some (p, .mem k)) :
    WellFormed (g.bindMemValue v n) where
  toLinked := h.toLinked.congr rfl (fun _ => rfl) rfl rfl
  toIndexed := { h.toIndexed with
    memValue := fun w m hm => by
      simp only [Graph.bindMemValue, SortedMap.get?_insert] at hm
      split at hm
      · cases hm; exact ⟨p, k, role⟩
      · exact h.memValue w m hm }

theorem WellFormed.indexMem {k : AliasKey} (role : g.role? n = some (p, .mem k)) :
    WellFormed { g with memNodes := g.memNodes.insert (p, k) n } where
  toLinked := h.toLinked.congr rfl (fun _ => rfl) rfl rfl
  toIndexed := { h.toIndexed with
    mem := fun q j m hm => by
      simp only [SortedMap.get?_insert] at hm
      split at hm
      · next hq => cases hm; cases hq; exact role
      · exact h.mem q j m hm }

theorem WellFormed.indexInput {v : Value} {o : Origin} {name : String}
    (role : g.role? n = some (p, .input v o name)) :
    WellFormed { g with inputNodes := g.inputNodes.insert (v, o) n } where
  toLinked := h.toLinked.congr rfl (fun _ => rfl) rfl rfl
  toIndexed := { h.toIndexed with
    input := fun w q m hm => by
      simp only [SortedMap.get?_insert] at hm
      split at hm
      · next hw => cases hm; cases hw; exact ⟨p, name, role⟩
      · exact h.input w q m hm }

end Entries

end Graph

end PeerTaint
