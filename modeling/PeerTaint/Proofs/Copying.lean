import PeerTaint.Graph.Subgraph
import PeerTaint.Proofs.Events

/-!
Copying a part of a graph.

A part of a graph is copied in two rounds. First each of some nodes gets a copy under its position in
the list, without edges (`Copied`). Then the edges between the nodes are drawn between the copies, which
leaves everything but the edges as it is (`Rewired`). What comes out is determined by the nodes and the
edges: two graphs that were wired from the same copies and have the same edges are the same graph.
-/

namespace PeerTaint

theorem Node.detached_detached (x : Node) (m n : NodeId) : (x.detached m).detached n = x.detached n := rfl

namespace Graph

/-! ## Copies of nodes -/

/-- How a copy of a node enters a graph: under the next handle, without edges, and every value that the
node defines resolves to it. -/
structure Inserted (g : Graph) (x : Node) (g' : Graph) : Prop where
  size : g'.slots.size = g.slots.size + 1
  node : ∀ m : Nat, g'.node? m = if m = g.slots.size then some (x.detached m) else g.node? m
  bound : ∀ v, x.kind.Defines v → g'.valueNodes.get? v = some g.slots.size
  other : ∀ v, ¬ x.kind.Defines v → g'.valueNodes.get? v = g.valueNodes.get? v
  memValues : g'.memValues = g.memValues
  edges : g'.edges = g.edges
  generation : g'.generation = g.generation

section Insert

variable (g : Graph) (x : Node)

theorem inserted_place (h : ∀ v, ¬ x.kind.Defines v) : Inserted g x (g.place (x.detached g.slots.size)) := by
  obtain ⟨slots, reads, writes, live, he⟩ := place_eq g (x.detached g.slots.size)
  refine ⟨size_place .., fun m => ?_, fun v hv => absurd hv (h v), fun v _ => ?_, ?_, ?_, ?_⟩
  · rw [node?_place]
    split
    · next hm => rw [hm]
    · rfl
  all_goals rw [he]

theorem inserted_bindValue {v : Value} (h : ∀ w, x.kind.Defines w ↔ w = v) :
    Inserted g x ((g.place (x.detached g.slots.size)).bindValue v g.slots.size) := by
  obtain ⟨slots, reads, writes, live, he⟩ := place_eq g (x.detached g.slots.size)
  have values : (g.place (x.detached g.slots.size)).valueNodes = g.valueNodes := by rw [he]
  refine ⟨size_place .., fun m => ?_, fun w hw => ?_, fun w hw => ?_, ?_, ?_, ?_⟩
  · refine (node?_place g (x.detached g.slots.size) m).trans ?_
    split
    · next hm => rw [hm]
    · rfl
  · simp [bindValue, (h w).1 hw]
  · have : w ≠ v := fun hwv => hw ((h w).2 hwv)
    simp [bindValue, SortedMap.get?_insert, this, values]
  all_goals simp only [bindValue, he]

/-- Inserting a copy succeeds while there are handles left. -/
theorem exists_insertDetached (room : g.slots.size < nodeCapacity) :
    ∃ g', g.insertDetached x = .ok (g.slots.size, g') ∧ Inserted g x g' := by
  have slot : nodeIdOfSlot g.slots.size = .ok g.slots.size := if_pos room
  unfold insertDetached
  rw [slot]
  refine ⟨_, rfl, ?_⟩
  have unbound := inserted_place g x
  have bound : ∀ {v}, _ → _ := @inserted_bindValue g x
  obtain ⟨id, program, label, visible, count, levels, location, netDependent, kind, succ, pred⟩ := x
  cases kind with
  | mem k =>
    have placed := unbound fun v hv => by cases hv.1
    exact ⟨placed.size, placed.node, placed.bound, placed.other, placed.memValues, placed.edges,
      placed.generation⟩
  | input v o name =>
    have placed := unbound fun v hv => hv.2 rfl
    exact ⟨placed.size, placed.node, placed.bound, placed.other, placed.memValues, placed.edges,
      placed.generation⟩
  | var v => exact bound fun w => by simp [NodeKind.Defines, NodeKind.value?, NodeKind.category, eq_comm]
  | op opcode value =>
    cases value with
    | none => exact unbound fun v hv => by cases hv.1
    | some v => exact bound fun w => by simp [NodeKind.Defines, NodeKind.value?, NodeKind.category, eq_comm]
  | call info | netRead info | netWrite info =>
    obtain ⟨target, args, result⟩ := info
    cases result with
    | none => exact unbound fun v hv => by cases hv.1
    | some v => exact bound fun w => by simp [NodeKind.Defines, NodeKind.value?, NodeKind.category, eq_comm]

end Insert

/-- Adds a copy of a node that is there. -/
def insertCopy (copy : Graph) : Option Node → Except GraphError Graph
  | some x => (copy.insertDetached x).map (·.2)
  | none => .ok copy

theorem insertDetached_detached (g : Graph) (x : Node) (m : NodeId) :
    g.insertDetached (x.detached m) = g.insertDetached x := rfl

/-- Copies do not depend on the handles and the edges of the nodes. -/
theorem copyNodes_eq (g : Graph) (ns : List NodeId) :
    g.copyNodes ns = (ns.map fun n => (g.node? n).map (·.detached 0)).foldlM insertCopy empty := by
  unfold copyNodes
  rw [List.foldlM_map]
  congr 1
  funext copy n
  cases g.node? n with
  | none => rfl
  | some x => simp only [insertCopy, Option.map_some, insertDetached_detached]

/-- The newest of some nodes that defines a value, by position. -/
def Newest (g : Graph) (ns : List NodeId) (v : Value) (m : Nat) : Prop :=
  (∃ n x, ns[m]? = some n ∧ g.node? n = some x ∧ x.kind.Defines v) ∧
    ∀ (m' : Nat) n x, ns[m']? = some n → g.node? n = some x → x.kind.Defines v → m' ≤ m

/-- A graph of copies of some nodes of `g`, each under its position. -/
structure Copied (g : Graph) (ns : List NodeId) (copy : Graph) : Prop where
  size : copy.slots.size = ns.length
  node : ∀ m : Nat, copy.node? m = (ns[m]?).bind fun n => (g.node? n).map (·.detached m)
  value : ∀ v m, copy.valueNodes.get? v = some m ↔ g.Newest ns v m
  memValues : copy.memValues = .empty
  edges : copy.edges = 0
  generation : copy.generation = 0
  wf : WellFormed copy

section Copy

variable {g copy copy' : Graph} {ns : List NodeId} {n : NodeId} {x : Node}

theorem copied_nil (g : Graph) : Copied g [] empty where
  size := rfl
  node m := rfl
  value v m := by simp [Newest, empty]
  memValues := rfl
  edges := rfl
  generation := rfl
  wf := wellFormed_empty

theorem newest_snoc_of_defines {v : Value} (hx : g.node? n = some x) (hv : x.kind.Defines v) (m : Nat) :
    g.Newest (ns ++ [n]) v m ↔ m = ns.length := by
  have last : (ns ++ [n])[ns.length]? = some n := by simp
  constructor
  · rintro ⟨⟨k, y, hk, -, -⟩, newest⟩
    have := newest ns.length n x last hx hv
    have := (List.getElem?_eq_some_iff.1 hk).1
    simp at this
    omega
  · rintro rfl
    refine ⟨⟨n, x, last, hx, hv⟩, fun m' k y hk _ _ => ?_⟩
    have := (List.getElem?_eq_some_iff.1 hk).1
    simp at this
    omega

theorem newest_snoc_of_not {v : Value} (hx : g.node? n = some x) (hv : ¬ x.kind.Defines v) (m : Nat) :
    g.Newest (ns ++ [n]) v m ↔ g.Newest ns v m := by
  have old : ∀ (m' : Nat) k y, ((ns ++ [n])[m']? = some k ∧ g.node? k = some y ∧ y.kind.Defines v) ↔
      (ns[m']? = some k ∧ g.node? k = some y ∧ y.kind.Defines v) := by
    intro m' k y
    by_cases hm : m' < ns.length
    · rw [List.getElem?_append_left hm]
    · rw [List.getElem?_append_right (by omega), List.getElem?_eq_none (by omega : ns.length ≤ m')]
      refine iff_of_false ?_ (by simp)
      rintro ⟨hk, hy, hdef⟩
      obtain ⟨rfl, -⟩ : n = k ∧ m' = ns.length := by
        rw [List.getElem?_singleton] at hk
        split at hk
        · exact ⟨Option.some.inj hk, by omega⟩
        · cases hk
      cases hx.symm.trans hy
      exact hv hdef
  unfold Newest
  simp only [old]
  refine and_congr_right fun _ => ?_
  constructor
  · intro h m' k y hk hy hdef
    obtain ⟨hk, hy, hdef⟩ := (old m' k y).2 ⟨hk, hy, hdef⟩
    exact h m' k y hk hy hdef
  · intro h m' k y hk hy hdef
    obtain ⟨hk, hy, hdef⟩ := (old m' k y).1 ⟨hk, hy, hdef⟩
    exact h m' k y hk hy hdef

theorem Copied.insert (h : Copied g ns copy) (hx : g.node? n = some x) (i : Inserted copy x copy')
    (wf : WellFormed copy') : Copied g (ns ++ [n]) copy' where
  size := by simp [i.size, h.size]
  node m := by
    rw [i.node, h.node, h.size]
    split
    · next hm => simp [hm, hx]
    · next hm =>
      by_cases lt : m < ns.length
      · rw [List.getElem?_append_left lt]
      · rw [List.getElem?_eq_none (by omega), List.getElem?_eq_none (by simp; omega)]
  value v m := by
    by_cases hv : x.kind.Defines v
    · rw [i.bound v hv, h.size, newest_snoc_of_defines hx hv, Option.some.injEq, eq_comm]
    · rw [i.other v hv, h.value, newest_snoc_of_not hx hv]
  memValues := i.memValues.trans h.memValues
  edges := i.edges.trans h.edges
  generation := i.generation.trans h.generation
  wf := wf

theorem copyNodes_snoc (g : Graph) (ns : List NodeId) (n : NodeId) :
    g.copyNodes (ns ++ [n]) = (g.copyNodes ns).bind (·.insertCopy (g.node? n)) := by
  rw [copyNodes_eq, copyNodes_eq, List.map_append, List.foldlM_append]
  refine bind_congr fun copy => ?_
  cases hx : g.node? n with
  | none => simp [hx, insertCopy]
  | some x => simp [hx, insertCopy, insertDetached_detached]

/-- Live nodes are copied as long as there are no more of them than handles. -/
theorem exists_copyNodes (live : ∀ n ∈ ns, g.isLive n = true) (room : ns.length ≤ nodeCapacity) :
    ∃ copy, g.copyNodes ns = .ok copy ∧ Copied g ns copy := by
  induction ns using List.reverseRecOn with
  | nil => exact ⟨empty, rfl, copied_nil g⟩
  | append_singleton ns n ih =>
    rw [List.length_append, List.length_singleton] at room
    obtain ⟨copy, run, copied⟩ := ih (fun m hm => live m (List.mem_append_left _ hm)) (by omega)
    obtain ⟨x, hx⟩ := isLive_iff.1 (live n (by simp))
    obtain ⟨copy', made, inserted⟩ := exists_insertDetached copy x (by rw [copied.size]; omega)
    have wf := (Changes.insertDetached made).2.2.wellFormed copied.wf
    refine ⟨copy', ?_, copied.insert hx inserted wf⟩
    rw [copyNodes_snoc, run]
    simp only [Except.bind, hx, insertCopy, made]
    rfl

end Copy

/-! ## Edges between the copies -/

/-- In a list without repetition, each element has one position. -/
theorem idxOf?_eq_some_iff_getElem? {ns : List NodeId} (nodup : ns.Nodup) {n : NodeId} {m : Nat} :
    ns.idxOf? n = some m ↔ ns[m]? = some n := by
  rw [List.idxOf?_eq_some_iff, List.getElem?_eq_some_iff]
  refine exists_congr fun hm => ⟨fun h => h.1, fun h => ⟨h, fun j hj same => ?_⟩⟩
  have := nodup.getElem_inj_iff.1 (same.trans h.symm)
  omega

/-- The kind of the edge between the nodes at two positions. -/
def edgeAt? (g : Graph) (ns : List NodeId) (a b : Nat) : Option EdgeKind :=
  (ns[a]?).bind fun m => (ns[b]?).bind fun n => g.edgeKind? m n

theorem edgeAt?_eq_some_iff {g : Graph} {ns : List NodeId} {a b : Nat} {k : EdgeKind} :
    g.edgeAt? ns a b = some k ↔ ∃ m n, ns[a]? = some m ∧ ns[b]? = some n ∧ g.edgeKind? m n = some k := by
  simp [edgeAt?, Option.bind_eq_some_iff]

theorem mem_edgesWithin_iff {g : Graph} {ns : List NodeId} (nodup : ns.Nodup) {a b : Nat}
    {k : EdgeKind} : (a, b, k) ∈ g.edgesWithin ns ↔ g.edgeAt? ns a b = some k := by
  rw [edgeAt?_eq_some_iff, edgesWithin]
  simp only [List.mem_flatMap, Prod.exists, List.mem_zipIdx_iff_getElem?]
  constructor
  · rintro ⟨m, i, hm, he⟩
    cases hx : g.node? m with
    | none => simp [hx] at he
    | some x =>
      simp only [hx, List.mem_filterMap, Prod.exists, Option.map_eq_some_iff, Prod.mk.injEq] at he
      obtain ⟨n, kind, hn, j, hj, rfl, rfl, rfl⟩ := he
      refine ⟨m, n, hm, (idxOf?_eq_some_iff_getElem? nodup).1 hj, ?_⟩
      exact edgeKind?_eq_some_iff.2 ⟨x, hx, SortedMap.get?_eq_some_iff.2 hn⟩
  · rintro ⟨m, n, hm, hn, edge⟩
    obtain ⟨x, hx, hk⟩ := edgeKind?_eq_some_iff.1 edge
    refine ⟨m, a, hm, ?_⟩
    simp only [hx, List.mem_filterMap, Prod.exists, Option.map_eq_some_iff]
    exact ⟨n, k, SortedMap.get?_eq_some_iff.1 hk, b, (idxOf?_eq_some_iff_getElem? nodup).2 hn, rfl⟩

/-- Draws edges. -/
def wire (g : Graph) (es : List (NodeId × NodeId × EdgeKind)) : Graph :=
  es.foldl (fun g e => (g.connect e.1 e.2.1 e.2.2).2) g

/-- An edge that contradicts none that is there is added. -/
theorem edgeKind?_connect_eq_some_iff {g : Graph} {a b : NodeId} {kind : EdgeKind} (hab : a ≠ b)
    (ha : g.isLive a = true) (hb : g.isLive b = true)
    (compatible : ∀ k, g.edgeKind? a b = some k → k = kind) (x y : NodeId) (k : EdgeKind) :
    (g.connect a b kind).2.edgeKind? x y = some k ↔
      g.edgeKind? x y = some k ∨ (x, y, k) = (a, b, kind) := by
  rcases connect_cases g a b kind with ⟨he, why⟩ | ⟨-, -, -, ⟨control, rfl, -⟩ | ⟨none, he⟩⟩
  · obtain ⟨k', hk', -⟩ := ((why.resolve_left hab).resolve_left (by simp [ha])).resolve_left (by simp [hb])
    rw [he]
    refine ⟨Or.inl, fun h => h.elim id fun h => ?_⟩
    simp only [Prod.mk.injEq] at h
    obtain ⟨rfl, rfl, rfl⟩ := h
    rw [hk', compatible k' hk']
  · cases compatible _ control
  · rw [he]
    change (g.setEdge a b kind).edgeKind? x y = some k ↔ _
    rw [edgeKind?_setEdge hab ha]
    split
    · next same =>
      obtain ⟨rfl, rfl⟩ := same
      simp [none, eq_comm]
    · next other =>
      refine ⟨Or.inl, fun h => h.elim id fun h => ?_⟩
      simp only [Prod.mk.injEq] at h
      exact absurd ⟨h.1, h.2.1⟩ other

/-- Drawing edges that agree on their kinds adds all of them and nothing else. -/
theorem edgeKind?_wire {g : Graph} {es : List (NodeId × NodeId × EdgeKind)}
    {K : NodeId → NodeId → Option EdgeKind} (drawn : ∀ a b k, g.edgeKind? a b = some k → K a b = some k)
    (due : ∀ e ∈ es, e.1 ≠ e.2.1 ∧ g.isLive e.1 = true ∧ g.isLive e.2.1 = true ∧ K e.1 e.2.1 = some e.2.2)
    (a b : NodeId) (k : EdgeKind) :
    (g.wire es).edgeKind? a b = some k ↔ g.edgeKind? a b = some k ∨ (a, b, k) ∈ es := by
  induction es generalizing g with
  | nil => simp [wire]
  | cons e es ih =>
    obtain ⟨x, y, kind⟩ := e
    obtain ⟨hxy, hx, hy, hK⟩ := due _ List.mem_cons_self
    have compatible : ∀ k', g.edgeKind? x y = some k' → k' = kind :=
      fun k' hk' => Option.some.inj ((drawn x y k' hk').symm.trans hK)
    have step := edgeKind?_connect_eq_some_iff hxy hx hy compatible
    have live : ∀ n, (g.connect x y kind).2.isLive n = g.isLive n := by
      intro n
      rw [isLive_eq_isSome_role?, isLive_eq_isSome_role?, (Idles.connect g x y kind).role]
    change ((g.connect x y kind).2.wire es).edgeKind? a b = some k ↔ _
    rw [ih (fun a b k hk => ?_) fun e he => ?_, step, List.mem_cons, or_assoc]
    · rcases (step a b k).1 hk with old | new
      · exact drawn a b k old
      · cases new
        exact hK
    · rw [live, live]
      exact due e (List.mem_cons_of_mem _ he)

theorem Copied.edgeKind?_eq_none {g copy : Graph} {ns : List NodeId} (h : Copied g ns copy) (a b : NodeId) :
    copy.edgeKind? a b = none := by
  unfold edgeKind?
  rw [h.node, Option.bind_eq_none_iff]
  intro y hy
  obtain ⟨n, -, hy⟩ := Option.bind_eq_some_iff.1 hy
  obtain ⟨x, -, rfl⟩ := Option.map_eq_some_iff.1 hy
  rfl

theorem Copied.isLive {g copy : Graph} {ns : List NodeId} (h : Copied g ns copy)
    (live : ∀ n ∈ ns, g.isLive n = true) (m : Nat) : copy.isLive m = true ↔ m < ns.length := by
  constructor
  · intro hm
    obtain ⟨x, hx⟩ := isLive_iff.1 hm
    rw [← h.size]
    exact lt_size_of_node? hx
  · intro hm
    obtain ⟨x, hx⟩ := isLive_iff.1 (live ns[m] (List.getElem_mem hm))
    simp [Graph.isLive, h.node, List.getElem?_eq_getElem hm, hx]

/-- Between the copies, exactly the edges between the nodes are drawn. -/
theorem Copied.edgeKind?_wire {g copy : Graph} {ns : List NodeId} (h : Copied g ns copy) (wf : Linked g)
    (nodup : ns.Nodup) (live : ∀ n ∈ ns, g.isLive n = true) (a b : Nat) :
    (copy.wire (g.edgesWithin ns)).edgeKind? a b = g.edgeAt? ns a b := by
  refine Option.ext fun k => ?_
  rw [Graph.edgeKind?_wire (K := g.edgeAt? ns), h.edgeKind?_eq_none, mem_edgesWithin_iff nodup]
  · simp
  · intro a b k hk
    rw [h.edgeKind?_eq_none] at hk
    cases hk
  · rintro ⟨a, b, k⟩ he
    have edge := (mem_edgesWithin_iff nodup).1 he
    obtain ⟨m, n, hm, hn, hk⟩ := edgeAt?_eq_some_iff.1 edge
    refine ⟨?_, (h.isLive live a).2 ?_, (h.isLive live b).2 ?_, edge⟩
    · intro same
      change a = b at same
      subst same
      cases hm.symm.trans hn
      rw [wf.irrefl] at hk
      cases hk
    · exact (List.getElem?_eq_some_iff.1 hm).1
    · exact (List.getElem?_eq_some_iff.1 hn).1

/-! ## Graphs that differ in their edges -/

/-- A graph with the nodes and indices of another one and edges of its own. -/
structure Rewired (copy g : Graph) : Prop where
  size : g.slots.size = copy.slots.size
  node : ∀ n, (g.node? n).map (·.detached n) = (copy.node? n).map (·.detached n)
  same : SameIndices copy g
  generation : g.generation = g.edges
  wf : WellFormed g

theorem Copied.rewired {g copy : Graph} {ns : List NodeId} (h : Copied g ns copy) : Rewired copy copy where
  size := rfl
  node _ := rfl
  same := (Idles.refl copy).same
  generation := h.generation.trans h.edges.symm
  wf := h.wf

theorem Rewired.connect {copy g : Graph} (h : Rewired copy g) (a b : NodeId) (kind : EdgeKind) :
    Rewired copy (g.connect a b kind).2 where
  size := (size_connect g a b kind).trans h.size
  node n := (map_node?_connect g a b kind n fun _ _ _ => rfl).trans (h.node n)
  same := by
    have idle := (Idles.connect g a b kind).same
    exact ⟨idle.mem.trans h.same.mem, idle.input.trans h.same.input, idle.value.trans h.same.value,
      idle.memValue.trans h.same.memValue, fun p d => (idle.net p d).trans (h.same.net p d)⟩
  generation := by
    rcases connect_cases g a b kind with ⟨he, -⟩ | ⟨-, -, -, ⟨-, -, he⟩ | ⟨-, he⟩⟩ <;> rw [he]
    · exact h.generation
    · exact h.generation
    · exact congrArg (· + 1) h.generation
  wf := h.wf.connect a b kind

theorem Rewired.wire {copy g : Graph} (h : Rewired copy g) (es : List (NodeId × NodeId × EdgeKind)) :
    Rewired copy (g.wire es) :=
  List.foldlRecOn es _ h fun _ h e _ => h.connect e.1 e.2.1 e.2.2

/-- Nodes that agree in everything but their edges are the same when their edges are. -/
theorem eq_of_detached_eq {x y : Node} {n : NodeId} (h : x.detached n = y.detached n) (id : x.id = y.id)
    (succ : x.successors = y.successors) (pred : x.predecessors = y.predecessors) : x = y := by
  obtain ⟨_, _, _, _, _, _, _, _, _, _, _⟩ := x
  obtain ⟨_, _, _, _, _, _, _, _, _, _, _⟩ := y
  simp_all [Node.detached]

/-- Nodes without their edges, and the edges as seen from both ends, determine the slots. -/
theorem slots_eq_of_edges {g g' : Graph} (size : g.slots.size = g'.slots.size)
    (node : ∀ n, (g.node? n).map (fun x => x.detached x.id) = (g'.node? n).map fun x => x.detached x.id)
    (edge : ∀ a b, g.edgeKind? a b = g'.edgeKind? a b) (back : ∀ a b, g.backKind? a b = g'.backKind? a b) :
    g.slots = g'.slots := by
  have node : ∀ n, g.node? n = g'.node? n := by
    intro n
    have alike := node n
    cases hx : g.node? n with
    | none =>
      rw [hx, Option.map_none, eq_comm, Option.map_eq_none_iff] at alike
      exact alike.symm
    | some x =>
      rw [hx, Option.map_some, eq_comm, Option.map_eq_some_iff] at alike
      obtain ⟨y, hy, detached⟩ := alike
      rw [hy]
      have id : x.id = y.id := (congrArg Node.id detached).symm
      rw [← id] at detached
      refine congrArg some (eq_of_detached_eq detached.symm id (SortedMap.ext fun b => ?_)
        (SortedMap.ext fun a => ?_))
      · simpa [edgeKind?, hx, hy] using edge n b
      · simpa [backKind?, hx, hy] using back a n
  refine Array.ext size fun n hn hn' => ?_
  have := node n
  rwa [node?, node?, Array.getElem?_eq_getElem hn, Array.getElem?_eq_getElem hn', Option.join_some,
    Option.join_some] at this

/-- Slots, indices and counters determine a graph. -/
theorem eq_of_slots {g g' : Graph} (slots : g.slots = g'.slots) (same : SameIndices g' g)
    (live : g.live = g'.live) (edges : g.edges = g'.edges) (generation : g.generation = g'.generation) :
    g = g' := by
  have reads : g.netReads = g'.netReads := PerProgram.ext_get fun p => same.net p .recv
  have writes : g.netWrites = g'.netWrites := PerProgram.ext_get fun p => same.net p .send
  obtain ⟨mems, inputs, values, memValues, -⟩ := same
  obtain ⟨_, _, _, _, _, _, _, _, _, _⟩ := g
  obtain ⟨_, _, _, _, _, _, _, _, _, _⟩ := g'
  simp_all

/-- Nodes, indices and edges determine a graph. -/
theorem Rewired.ext {copy g g' : Graph} (h : Rewired copy g) (h' : Rewired copy g')
    (edge : ∀ a b, g.edgeKind? a b = g'.edgeKind? a b) : g = g' := by
  have own : ∀ {g : Graph}, Linked g → ∀ n,
      (g.node? n).map (fun x => x.detached x.id) = (g.node? n).map (·.detached n) := by
    intro g wf n
    cases hx : g.node? n with
    | none => rfl
    | some x => rw [Option.map_some, Option.map_some, wf.id_eq n x hx]
  have slots : g.slots = g'.slots := by
    refine slots_eq_of_edges (h.size.trans h'.size.symm) (fun n => ?_) edge fun a b => ?_
    · rw [own h.wf.toLinked, own h'.wf.toLinked, h.node, h'.node]
    · rw [← h.wf.mirror, ← h'.wf.mirror, edge]
  have nodes : g.nodes = g'.nodes := by rw [Graph.nodes, Graph.nodes, slots]
  have edges : g.edges = g'.edges := by rw [h.wf.edges_eq, h'.wf.edges_eq, nodes]
  refine eq_of_slots slots ⟨h.same.mem.trans h'.same.mem.symm, h.same.input.trans h'.same.input.symm,
    h.same.value.trans h'.same.value.symm, h.same.memValue.trans h'.same.memValue.symm,
    fun p d => (h.same.net p d).trans (h'.same.net p d).symm⟩ ?_ edges ?_
  · rw [h.wf.live_eq, h'.wf.live_eq, nodes]
  · rw [h.generation, h'.generation, edges]

end Graph

end PeerTaint
