import PeerTaint.Proofs.WellFormed

/-!
The operations of the store keep graphs well formed.

Each operation is first described by what it does to every slot (`node?_setEdge`, `Removed`), and
the parts of `WellFormed` follow from that description.
-/

namespace PeerTaint

namespace Graph

/-! ## New nodes -/

theorem netNodes_indexNet (g : Graph) (p q : Program) (kind : NodeKind) (n : NodeId) (d : Direction) :
    (g.indexNet p kind n).netNodes q d =
      if q = p ∧ kind.direction? = some d then g.netNodes q d ++ [n] else g.netNodes q d := by
  unfold indexNet
  cases hk : kind.direction? with
  | none => simp
  | some e => cases e <;> cases d <;> simp [netNodes]

/-- Entering a network node in its index changes nothing else. -/
theorem indexNet_eq (g : Graph) (p : Program) (kind : NodeKind) (n : NodeId) :
    ∃ reads writes, g.indexNet p kind n = { g with netReads := reads, netWrites := writes } := by
  unfold indexNet
  split
  · exact ⟨_, g.netWrites, rfl⟩
  · exact ⟨g.netReads, _, rfl⟩
  · exact ⟨g.netReads, g.netWrites, rfl⟩

/-- Puts a node into the next slot and enters it in the index of network nodes. -/
def place (g : Graph) (x : Node) : Graph := (g.indexNet x.program x.kind g.slots.size).pushNode x

section Place

variable (g : Graph) (x : Node)

theorem node?_place (m : NodeId) :
    (g.place x).node? m = if m = g.slots.size then some x else g.node? m := by
  obtain ⟨reads, writes, h⟩ := indexNet_eq g x.program x.kind g.slots.size
  rw [place, h]
  exact node?_pushNode _ x m

theorem size_place : (g.place x).slots.size = g.slots.size + 1 := by
  obtain ⟨reads, writes, h⟩ := indexNet_eq g x.program x.kind g.slots.size
  rw [place, h]
  exact size_pushNode _ x

theorem nodes_place : (g.place x).nodes = g.nodes ++ [x] := by
  obtain ⟨reads, writes, h⟩ := indexNet_eq g x.program x.kind g.slots.size
  rw [place, h]
  simp [pushNode, nodes]

theorem role?_place (m : NodeId) :
    (g.place x).role? m = if m = g.slots.size then some (x.program, x.kind.bare) else g.role? m := by
  unfold role?
  rw [node?_place]
  split <;> rfl

theorem netNodes_place (p : Program) (d : Direction) :
    (g.place x).netNodes p d =
      if p = x.program ∧ x.kind.direction? = some d then g.netNodes p d ++ [g.slots.size]
      else g.netNodes p d := by
  rw [← netNodes_indexNet]
  cases d <;> rfl

/-- The indices other than that of network nodes, the edges and the generation stay. -/
theorem place_eq : ∃ slots reads writes live, g.place x =
    { g with slots := slots, netReads := reads, netWrites := writes, live := live } := by
  obtain ⟨reads, writes, h⟩ := indexNet_eq g x.program x.kind g.slots.size
  exact ⟨_, reads, writes, _, by rw [place, h]; rfl⟩

theorem live_place : (g.place x).live = g.live + 1 := by
  obtain ⟨reads, writes, h⟩ := indexNet_eq g x.program x.kind g.slots.size
  rw [place, h]; rfl

variable {g x}

theorem edgeKind?_place (hs : x.successors = .empty) (a b : NodeId) :
    (g.place x).edgeKind? a b = g.edgeKind? a b := by
  unfold edgeKind?
  rw [node?_place]
  split
  · next ha => rw [ha, node?_of_size_le le_rfl, Option.bind_some, hs]; rfl
  · rfl

theorem backKind?_place (hp : x.predecessors = .empty) (a b : NodeId) :
    (g.place x).backKind? a b = g.backKind? a b := by
  unfold backKind?
  rw [node?_place]
  split
  · next hb => rw [hb, node?_of_size_le le_rfl, Option.bind_some, hp]; rfl
  · rfl

theorem Linked.place (h : Linked g) (hid : x.id = g.slots.size) (hs : x.successors = .empty)
    (hp : x.predecessors = .empty) : Linked (g.place x) := by
  obtain ⟨slots, reads, writes, live, he⟩ := place_eq g x
  have edges : (g.place x).edges = g.edges := by rw [he]
  refine ⟨fun n y hy => ?_, fun a b => ?_, fun a => ?_, ?_, ?_, ?_⟩
  · rw [node?_place] at hy
    split at hy
    · next hn => cases hy; rw [hid, hn]
    · exact h.id_eq n y hy
  · rw [edgeKind?_place hs, backKind?_place hp, h.mirror]
  · rw [edgeKind?_place hs, h.irrefl]
  · rw [live_place, nodes_place, h.live_eq, List.length_append, List.length_singleton]
  · rw [edges, nodes_place, h.edges_eq]; simp [hs, SortedMap.size, SortedMap.empty]
  · rw [edges, nodes_place, h.edges_eq_back]; simp [hp, SortedMap.size, SortedMap.empty]

theorem Indexed.place (h : Indexed g) : Indexed (g.place x) := by
  obtain ⟨slots, reads, writes, live, he⟩ := place_eq g x
  have old : ∀ {n r}, g.role? n = some r → (g.place x).role? n = some r := by
    intro n r hr
    rw [role?_place, if_neg (Nat.ne_of_lt (lt_size_of_role? hr)), hr]
  refine ⟨fun p k n hn => ?_, fun v o n hn => ?_, fun v n hn => ?_, fun v n hn => ?_, fun p d n => ?_,
    fun p d => ?_⟩
  · exact old (h.mem p k n (by simpa [he] using hn))
  · obtain ⟨p, name, hr⟩ := h.input v o n (by simpa [he] using hn)
    exact ⟨p, name, old hr⟩
  · obtain ⟨p, kind, hr, hk⟩ := h.value v n (by simpa [he] using hn)
    exact ⟨p, kind, old hr, hk⟩
  · obtain ⟨p, k, hr⟩ := h.memValue v n (by simpa [he] using hn)
    exact ⟨p, k, old hr⟩
  · have hlt : n ∈ g.netNodes p d → n ≠ g.slots.size := fun hn => by
      obtain ⟨kind, hr, -⟩ := (h.net p d n).1 hn
      exact Nat.ne_of_lt (lt_size_of_role? hr)
    rw [netNodes_place, role?_place]
    by_cases hn : n = g.slots.size
    · subst hn
      have : g.slots.size ∉ g.netNodes p d := fun hn => hlt hn rfl
      split
      · next hc => simpa using ⟨hc.1.symm, hc.2⟩
      · next hc => simpa [this] using fun h₁ h₂ => hc ⟨h₁.symm, h₂⟩
    · rw [if_neg hn, ← h.net]
      split <;> simp [hn]
  · rw [netNodes_place]
    split
    · refine List.pairwise_append.2 ⟨h.net_sorted p d, List.pairwise_singleton .., fun a ha b hb => ?_⟩
      obtain ⟨kind, hr, -⟩ := (h.net p d a).1 ha
      rw [List.mem_singleton.1 hb]
      exact lt_size_of_role? hr
    · exact h.net_sorted p d

theorem WellFormed.place (h : WellFormed g) (hid : x.id = g.slots.size) (hs : x.successors = .empty)
    (hp : x.predecessors = .empty) : WellFormed (g.place x) :=
  ⟨h.toLinked.place hid hs hp, h.toIndexed.place⟩

end Place

/-! ## Edges -/

section Edge

variable {g : Graph} {a b : NodeId} {kind : EdgeKind}

theorem node?_setEdge (hab : a ≠ b) (m : NodeId) : (g.setEdge a b kind).node? m =
    if m = a then (g.node? m).map fun x => { x with successors := x.successors.insert b kind }
    else if m = b then (g.node? m).map fun x => { x with predecessors := x.predecessors.insert a kind }
    else g.node? m := by
  simp only [setEdge, node?_modifyNode]
  by_cases hma : m = a
  · simp [hma, hab]
  · simp [hma]

theorem role?_setEdge (m : NodeId) : (g.setEdge a b kind).role? m = g.role? m := by
  unfold role? setEdge
  rw [map_node?_modifyNode _ b m (by intro; rfl), map_node?_modifyNode _ a m (by intro; rfl)]

theorem edgeKind?_setEdge (hab : a ≠ b) (ha : g.isLive a = true) (c d : NodeId) :
    (g.setEdge a b kind).edgeKind? c d = if c = a ∧ d = b then some kind else g.edgeKind? c d := by
  obtain ⟨x, hx⟩ := isLive_iff.1 ha
  unfold edgeKind?
  rw [node?_setEdge hab]
  by_cases hca : c = a
  · subst hca
    simp [hx]
  · by_cases hcb : c = b
    · subst hcb
      cases g.node? c <;> simp [hca]
    · simp [hca, hcb]

theorem backKind?_setEdge (hab : a ≠ b) (hb : g.isLive b = true) (c d : NodeId) :
    (g.setEdge a b kind).backKind? c d = if c = a ∧ d = b then some kind else g.backKind? c d := by
  obtain ⟨y, hy⟩ := isLive_iff.1 hb
  unfold backKind?
  rw [node?_setEdge hab]
  by_cases hda : d = a
  · subst hda
    cases g.node? d <;> simp [hab]
  · by_cases hdb : d = b
    · subst hdb
      simp [hda, hy]
    · simp [hda, hdb]

/-- When one node gets an entry in a map and the maps of the others stay, the sizes grow by one for a
new key. -/
theorem sum_nodes_insert {g' : Graph} (side : Node → SortedMap NodeId EdgeKind) {n m : NodeId}
    {x x' : Node} (size : g'.slots.size = g.slots.size) (hx : g.node? n = some x)
    (hx' : g'.node? n = some x') (entry : side x' = (side x).insert m kind)
    (same : ∀ i, i ≠ n → (g'.node? i).elim 0 (fun y => (side y).size)
      = (g.node? i).elim 0 (fun y => (side y).size)) :
    (g'.nodes.map fun y => (side y).size).sum
      = (g.nodes.map fun y => (side y).size).sum + (if ((side x).get? m).isSome then 0 else 1) := by
  cases hk : (side x).get? m with
  | none =>
    refine sum_nodes_succ _ size (lt_size_of_node? hx) ?_ same
    rw [hx', hx, Option.elim_some, Option.elim_some, entry]
    exact SortedMap.size_insert_of_none hk
  | some k =>
    refine sum_nodes_congr _ size fun i => ?_
    by_cases hi : i = n
    · rw [hi, hx', hx, Option.elim_some, Option.elim_some, entry]
      exact SortedMap.size_insert_of_some hk
    · exact same i hi

/-- Writing an edge that is new adds one to the sizes of the maps of successors, and to those of
predecessors; otherwise the sizes stay. -/
theorem sum_setEdge (kind : EdgeKind) (h : Linked g) (hab : a ≠ b) (ha : g.isLive a = true)
    (hb : g.isLive b = true) :
    ((g.setEdge a b kind).nodes.map (·.successors.size)).sum
        = g.edges + (if (g.edgeKind? a b).isSome then 0 else 1) ∧
      ((g.setEdge a b kind).nodes.map (·.predecessors.size)).sum
        = g.edges + (if (g.edgeKind? a b).isSome then 0 else 1) := by
  obtain ⟨x, hx⟩ := isLive_iff.1 ha
  obtain ⟨y, hy⟩ := isLive_iff.1 hb
  have size : (g.setEdge a b kind).slots.size = g.slots.size := by simp [setEdge]
  have hx' : (g.setEdge a b kind).node? a
      = some { x with successors := x.successors.insert b kind } := by simp [node?_setEdge hab, hx]
  have hy' : (g.setEdge a b kind).node? b
      = some { y with predecessors := y.predecessors.insert a kind } := by
    simp [node?_setEdge hab, Ne.symm hab, hy]
  have hs : g.edgeKind? a b = x.successors.get? b := by rw [edgeKind?, hx]; rfl
  have hp : g.edgeKind? a b = y.predecessors.get? a := by rw [h.mirror, backKind?, hy]; rfl
  constructor
  · rw [hs, h.edges_eq]
    refine sum_nodes_insert (·.successors) size hx hx' rfl fun n hn => ?_
    rw [node?_setEdge hab, if_neg hn]
    split
    · cases g.node? n <;> rfl
    · rfl
  · rw [hp, h.edges_eq_back]
    refine sum_nodes_insert (·.predecessors) size hy hy' rfl fun n hn => ?_
    rw [node?_setEdge hab, if_neg hn]
    split
    · cases g.node? n <;> rfl
    · rfl

/-- The graph with an edge written on both ends, and how much the counters grow. -/
def withEdge (g : Graph) (a b : NodeId) (kind : EdgeKind) (new : Nat) : Graph :=
  { g.setEdge a b kind with edges := g.edges + new, generation := g.generation + new }

/-- What joining two nodes does: nothing, a new edge, or data in place of control. -/
theorem connect_cases (g : Graph) (a b : NodeId) (kind : EdgeKind) :
    (g.connect a b kind = (false, g) ∧
      (a = b ∨ g.isLive a = false ∨ g.isLive b = false ∨
        ∃ k, g.edgeKind? a b = some k ∧ (k = .data ∨ kind = .control))) ∨
    (a ≠ b ∧ g.isLive a = true ∧ g.isLive b = true ∧
      ((g.edgeKind? a b = some .control ∧ kind = .data ∧
          g.connect a b kind = (false, g.withEdge a b kind 0)) ∨
        (g.edgeKind? a b = none ∧ g.connect a b kind = (true, g.withEdge a b kind 1)))) := by
  unfold connect
  by_cases hc : a = b ∨ ¬ g.isLive a = true ∨ ¬ g.isLive b = true
  · rw [if_pos hc]
    refine Or.inl ⟨rfl, ?_⟩
    simp only [Bool.not_eq_true] at hc
    tauto
  · rw [if_neg hc]
    simp only [not_or, not_not] at hc
    obtain ⟨hab, ha, hb⟩ := hc
    cases hk : g.edgeKind? a b with
    | none => exact Or.inr ⟨hab, ha, hb, Or.inr ⟨rfl, rfl⟩⟩
    | some k =>
      cases k <;> cases kind
      · exact Or.inl ⟨rfl, Or.inr (Or.inr (Or.inr ⟨_, rfl, Or.inl rfl⟩))⟩
      · exact Or.inl ⟨rfl, Or.inr (Or.inr (Or.inr ⟨_, rfl, Or.inl rfl⟩))⟩
      · exact Or.inr ⟨hab, ha, hb, Or.inl ⟨rfl, rfl, rfl⟩⟩
      · exact Or.inl ⟨rfl, Or.inr (Or.inr (Or.inr ⟨_, rfl, Or.inr rfl⟩))⟩

/-- Data flows from one live node to another after it was let flow, and elsewhere nothing changes. -/
theorem edgeKind?_flow (g : Graph) (a b c d : NodeId) : (g.connect a b .data).2.edgeKind? c d =
    if c = a ∧ d = b ∧ a ≠ b ∧ g.isLive a = true ∧ g.isLive b = true then some .data
    else g.edgeKind? c d := by
  have written : ∀ new, a ≠ b → g.isLive a = true → g.isLive b = true →
      (g.withEdge a b .data new).edgeKind? c d =
        if c = a ∧ d = b ∧ a ≠ b ∧ g.isLive a = true ∧ g.isLive b = true then some .data
        else g.edgeKind? c d := by
    intro new hab ha hb
    change (g.setEdge a b .data).edgeKind? c d = _
    rw [edgeKind?_setEdge hab ha]
    simp [hab, ha, hb]
  rcases connect_cases g a b .data with ⟨he, hc⟩ | ⟨hab, ha, hb, ⟨-, -, he⟩ | ⟨-, he⟩⟩
  · rw [he]
    split
    · next h =>
      obtain ⟨rfl, rfl, hab, ha, hb⟩ := h
      rcases hc with hc | hc | hc | ⟨k, hk, hc | hc⟩
      · exact absurd hc hab
      · rw [ha] at hc; cases hc
      · rw [hb] at hc; cases hc
      · rw [hk, hc]
      · cases hc
    · rfl
  · rw [he]; exact written 0 hab ha hb
  · rw [he]; exact written 1 hab ha hb

theorem Linked.withEdge (h : Linked g) (hab : a ≠ b) (ha : g.isLive a = true) (hb : g.isLive b = true)
    {new : Nat} (hnew : new = if (g.edgeKind? a b).isSome then 0 else 1) :
    Linked (g.withEdge a b kind new) := by
  obtain ⟨hs, hp⟩ := sum_setEdge kind h hab ha hb
  refine ⟨fun n x hx => ?_, fun c d => ?_, fun c => ?_, ?_, ?_, ?_⟩
  · change (g.setEdge a b kind).node? n = some x at hx
    rw [node?_setEdge hab] at hx
    split at hx
    · obtain ⟨y, hy, rfl⟩ := Option.map_eq_some_iff.1 hx
      exact h.id_eq n y hy
    · split at hx
      · obtain ⟨y, hy, rfl⟩ := Option.map_eq_some_iff.1 hx
        exact h.id_eq n y hy
      · exact h.id_eq n x hx
  · change (g.setEdge a b kind).edgeKind? c d = (g.setEdge a b kind).backKind? c d
    rw [edgeKind?_setEdge hab ha, backKind?_setEdge hab hb, h.mirror]
  · change (g.setEdge a b kind).edgeKind? c c = none
    rw [edgeKind?_setEdge hab ha, if_neg fun hc => hab (hc.1.symm.trans hc.2), h.irrefl]
  · change g.live = (g.setEdge a b kind).nodes.length
    rw [h.live_eq, length_nodes, length_nodes]
    simp only [setEdge, size_modifyNode]
    refine Finset.sum_congr rfl fun n _ => ?_
    change _ = ((g.setEdge a b kind).node? n).elim 0 fun _ => 1
    rw [node?_setEdge hab]
    cases g.node? n <;> split_ifs <;> rfl
  · rw [hnew]; exact hs.symm
  · rw [hnew]; exact hp.symm

theorem WellFormed.connect (h : WellFormed g) (a b : NodeId) (kind : EdgeKind) :
    WellFormed (g.connect a b kind).2 := by
  have joined : ∀ {new}, a ≠ b → g.isLive a = true → g.isLive b = true →
      (new = if (g.edgeKind? a b).isSome then 0 else 1) → WellFormed (g.withEdge a b kind new) :=
    fun hab ha hb hnew =>
      ⟨h.toLinked.withEdge hab ha hb hnew, h.toIndexed.congr (fun n => role?_setEdge n)
        ⟨rfl, rfl, rfl, rfl, fun _ d => by cases d <;> rfl⟩⟩
  rcases connect_cases g a b kind with ⟨he, -⟩ | ⟨hab, ha, hb, ⟨hk, -, he⟩ | ⟨hk, he⟩⟩
  · rw [he]; exact h
  · rw [he]; exact joined hab ha hb (by simp [hk])
  · rw [he]; exact joined hab ha hb (by simp [hk])

end Edge

end Graph

end PeerTaint
