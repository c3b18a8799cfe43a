import PeerTaint.Proofs.Attaching
import PeerTaint.Proofs.Events

/-!
Resolving without expanding.

Once the operation that defines a value was visited, resolving the value expands nothing. It may give the
value a node, once, and from then on it answers the same and changes nothing (`Rests`). `Settles` says what
can happen meanwhile, and that does not disturb the values that rest.
-/

namespace PeerTaint

/-! ## Accesses to memory -/

/-- How often a set of memory cells was accessed. Other nodes do not count. -/
def Graph.memAccesses (g : Graph) (m : NodeId) : Nat :=
  ((g.node? m).map fun x => if x.isMem then x.count else 0).getD 0

namespace Graph

/-- No access was recorded on the way. -/
def Unread (g g' : Graph) : Prop := ∀ m, g'.memAccesses m = g.memAccesses m

theorem Unread.trans {g₁ g₂ g₃ : Graph} (h : Unread g₁ g₂) (h' : Unread g₂ g₃) : Unread g₁ g₃ :=
  fun m => (h' m).trans (h m)

theorem unread_modifyNode {f : Node → Node} (g : Graph) (n : NodeId)
    (hf : ∀ x, (f x).isMem = x.isMem ∧ (f x).count = x.count) : Unread g (g.modifyNode n f) := by
  intro m
  unfold memAccesses
  rw [map_node?_modifyNode g n m fun x => by rw [(hf x).1, (hf x).2]]

theorem unread_connect (g : Graph) (a b : NodeId) (kind : EdgeKind) : Unread g (g.connect a b kind).2 := by
  intro m
  unfold memAccesses
  rw [map_node?_connect _ _ _ _ m fun _ _ _ => rfl]

theorem unread_place (g : Graph) {x : Node} (new : x.count = 0) : Unread g (g.place x) := by
  intro m
  unfold memAccesses
  rw [node?_place]
  split
  · next h =>
    rw [h, node?_of_size_le le_rfl]
    simp [new]
  · rfl

theorem unread_memNode {g g' : Graph} {p : Program} {k : AliasKey} {label : String} {n : NodeId}
    (made : g.memNode p k label = .ok (n, g')) : Unread g g' := by
  rcases memNode_eq_ok made with ⟨-, rfl⟩ | ⟨-, -, rfl⟩
  · exact fun _ => rfl
  · exact unread_place g rfl

theorem memAccesses_recordAccess (g : Graph) (n m : NodeId) :
    (g.recordAccess n).memAccesses m = g.memAccesses m + if g.isMem m = true ∧ m = n then 1 else 0 := by
  unfold memAccesses isMem recordAccess
  rw [node?_modifyNode]
  by_cases same : m = n
  · rw [if_pos same]
    cases g.node? m with
    | none => simp
    | some x =>
      cases hx : x.isMem <;> simp_all [Node.isMem]
  · simp [same]

theorem inputNodes_place (g : Graph) (x : Node) : (g.place x).inputNodes = g.inputNodes := by
  obtain ⟨_, _, _, _, he⟩ := place_eq g x
  rw [he]

end Graph

namespace BuildContext

open Build

/-- What happens while values are resolved, and nodes are joined and marked: of the values that can be
fetched, those in `N` may get nodes, and pointers get the nodes of their classes. -/
structure Settles (c : BuildContext) (N : Set Value) (s s' : BuildState) : Prop where
  visited : s'.visited = s.visited
  grows : s.graph.Grows s'.graph
  findNode : ∀ v p n, s.graph.findNode v p = some n → s'.graph.findNode v p = some n
  unbound : ∀ v p, v ∉ N ∨ ¬ c.Fetchable v → s'.graph.findNode v p = s.graph.findNode v p
  pointer : ∀ v k n, c.aliasKey? v = some k → s'.graph.findNode v v.program = some n →
    s.graph.findNode v v.program = some n ∨ s'.graph.findMem v.program k = some n
  input : ∀ v o n, s.graph.findInput v o = some n → s'.graph.findInput v o = some n

/-- Resolving the value answers `t`, and there is nothing to do for it. -/
inductive Rests (c : BuildContext) (s : BuildState) (p : Program) (v : Value) : Option NodeId → Prop
  | foreign (other : v.program ≠ p) : Rests c s p v none
  | found {n : NodeId} (bound : s.graph.findNode v p = some n) : Rests c s p v (some n)
  /-- The operation that defines the value was visited, but did not bind it. -/
  | defined {op : Operation} {x : Option NodeId} (home : v.program = p) (free : s.graph.findNode v p = none)
      (scalar : c.aliasKey? v = none) (defined : c.programs.definition? v = some op)
      (noted : s.noted? op = some x) : Rests c s p v x
  | unknown (home : v.program = p) (free : s.graph.findNode v p = none) (scalar : c.aliasKey? v = none)
      (undefined : c.programs.definition? v = none) (unknown : c.programs.info? v = none) : Rests c s p v none

section Settles

variable {c : BuildContext} {N N' : Set Value} {s s' s'' : BuildState} {p : Program} {v : Value}

theorem Settles.refl (c : BuildContext) (N : Set Value) (s : BuildState) : c.Settles N s s :=
  ⟨rfl, .refl, fun _ _ _ h => h, fun _ _ _ => rfl, fun _ _ _ _ h => .inl h, fun _ _ _ h => h⟩

theorem Settles.trans (h : c.Settles N s s') (h' : c.Settles N s' s'') : c.Settles N s s'' where
  visited := h'.visited.trans h.visited
  grows := h.grows.trans h'.grows
  findNode v p n hn := h'.findNode v p n (h.findNode v p n hn)
  unbound v p hv := (h'.unbound v p hv).trans (h.unbound v p hv)
  pointer v k n hk hn := by
    rcases h'.pointer v k n hk hn with before | mem
    · exact (h.pointer v k n hk before).imp_right fun mem => h'.grows.extension.mem _ _ _ mem
    · exact .inr mem
  input v o n hn := h'.input v o n (h.input v o n hn)

theorem Settles.mono (h : c.Settles N s s') (sub : N ⊆ N') : c.Settles N' s s' :=
  { h with unbound := fun v p hv => h.unbound v p (hv.imp_left fun outside inside => outside (sub inside)) }

/-- The value gets a node, or keeps the one that it has. -/
theorem settles_bind {g : Graph} (fetchable : c.Fetchable v) (grows : s.graph.Grows g)
    (other : ∀ w p, w ≠ v → g.findNode w p = s.graph.findNode w p)
    (kept : ∀ n, s.graph.findNode v v.program = some n → g.findNode v v.program = some n)
    (pointer : ∀ k n, c.aliasKey? v = some k → g.findNode v v.program = some n → g.findMem v.program k = some n)
    (input : g.inputNodes = s.graph.inputNodes) : c.Settles {v} s { s with graph := g } where
  visited := rfl
  grows := grows
  findNode w p n hn := by
    by_cases same : w = v
    · subst same
      cases program_of_findNode hn
      exact kept n hn
    · exact (other w p same).trans hn
  unbound w p hw := other w p fun same => hw.elim (fun outside => outside same) fun unfetchable =>
    unfetchable (same ▸ fetchable)
  pointer w k n hk hn := by
    by_cases same : w = v
    · subst same
      exact .inr (pointer k n hk hn)
    · exact .inl ((other w _ same).symm.trans hn)
  input w o n hn := by
    change g.inputNodes.get? (w, o) = some n
    rwa [input]

/-- A pointer gets the node of its class. If it has one already, that is the one. -/
theorem settles_memory {k : AliasKey} {label : String} {n : NodeId} {g : Graph} (hk : c.aliasKey? v = some k)
    (made : s.graph.memNode v.program k label = .ok (n, g))
    (filed : ∀ m, s.graph.findNode v v.program = some m → s.graph.findMem v.program k = some m) :
    c.Settles {v} s { s with graph := g.bindMemValue v n } := by
  obtain ⟨grows, mem⟩ := Graph.Grows.memNode made
  obtain ⟨memValues, valueNodes⟩ := Graph.bindings_memNode made
  have found : (g.bindMemValue v n).findNode v v.program = some n := by
    simp [Graph.findNode, Graph.bindMemValue, SortedMap.get?_insert]
  refine settles_bind (.inl (by rw [hk]; rfl)) (grows.tail (.bindMemValue v mem)) ?_ (fun m hm => ?_) ?_ ?_
  · intro w p hw
    rw [Graph.findNode_bindMemValue g n p hw, Graph.findNode_congr memValues valueNodes]
  · cases (grows.extension.mem _ _ _ (filed m hm)).symm.trans mem
    exact found
  · intro j m hj hm
    cases hk.symm.trans hj
    cases found.symm.trans hm
    exact mem
  · rcases Graph.memNode_eq_ok made with ⟨-, rfl⟩ | ⟨-, -, rfl⟩
    · rfl
    · exact Graph.inputNodes_place ..

/-- A value that no operation defines gets a node of its own. -/
theorem settles_variable {name : String} {n : NodeId} {g : Graph} (scalar : c.aliasKey? v = none)
    (undefined : c.programs.definition? v = none) (known : (c.programs.info? v).isSome = true)
    (free : s.graph.findNode v v.program = none) (made : s.graph.addNode v.program (.var v) name = .ok (n, g)) :
    c.Settles {v} s { s with graph := g.bindValue v n } := by
  have quiet := Graph.Quiet.addNode made
  have grows := grows_bindResult v.program (some v) made fun w hw => ⟨hw, nofun⟩
  refine settles_bind (.inr ⟨undefined, known⟩) grows ?_ (fun m hm => ?_) (fun k m hk => ?_) ?_
  · intro w p hw
    rw [Graph.findNode_bindValue g n p hw, Graph.findNode_congr quiet.memValue quiet.value]
  · rw [free] at hm
    cases hm
  · rw [scalar] at hk
    cases hk
  · obtain ⟨-, rfl⟩ := Graph.addNode_eq_ok made
    exact Graph.inputNodes_place ..

theorem settles_idle {g : Graph} (idle : s.graph.Idles g) : c.Settles N s { s with graph := g } := by
  have same := Graph.findNode_congr idle.same.memValue idle.same.value
  refine ⟨rfl, idle.grows, fun v p n hn => (same v p).trans hn, fun v p _ => same v p,
    fun v k n _ hn => .inl ((same v _).symm.trans hn), fun v o n hn => ?_⟩
  change g.inputNodes.get? (v, o) = some n
  rwa [idle.same.input]

/-! ## Values that rest -/

theorem Rests.settles {t : Option NodeId} (h : c.Rests s p v t) (e : c.Settles N s s') : c.Rests s' p v t := by
  cases h with
  | foreign other => exact .foreign other
  | found bound => exact .found (e.findNode v p _ bound)
  | defined home free scalar defined noted =>
    refine .defined home ((e.unbound v p (.inr ?_)).trans free) scalar defined ?_
    · simp [Fetchable, scalar, defined]
    · rw [BuildState.noted?, e.visited]
      exact noted
  | unknown home free scalar undefined unknown =>
    refine .unknown home ((e.unbound v p (.inr ?_)).trans free) scalar undefined unknown
    simp [Fetchable, scalar, unknown]

/-- How a value is resolved whose defining operation was visited: it rests already, or it gets the node of its
class or one of its own. -/
inductive Obtains (c : BuildContext) (s : BuildState) (v : Value) :
    Program → Option NodeId → BuildState → Prop
  | rest {p : Program} {t : Option NodeId} (rests : c.Rests s p v t) : Obtains c s v p t s
  | memory {k : AliasKey} {label : String} {n : NodeId} {g : Graph} (key : c.aliasKey? v = some k)
      (free : s.graph.findNode v v.program = none) (made : s.graph.memNode v.program k label = .ok (n, g)) :
      Obtains c s v v.program (some n) { s with graph := g.bindMemValue v n }
  | variable {name : String} {n : NodeId} {g : Graph} (scalar : c.aliasKey? v = none)
      (undefined : c.programs.definition? v = none) (known : (c.programs.info? v).isSome = true)
      (free : s.graph.findNode v v.program = none)
      (made : s.graph.addNode v.program (.var v) name = .ok (n, g)) :
      Obtains c s v v.program (some n) { s with graph := g.bindValue v n }

theorem wp_valueNode_obtains
    (visited : ∀ op, c.programs.definition? v = some op → (s.noted? op).isSome = true) :
    wp (c.valueNode p v) (fun t s' => c.Obtains s v p t s') (fun _ => True) s := by
  simp only [valueNode, nesting, BuildContext.resolve, monadLift_self]
  split
  · next other => exact .rest (.foreign other)
  · next home =>
    obtain rfl : v.program = p := not_not.1 home
    rw [wp_bind, wp_graph]
    split
    · next n bound => exact .rest (.found bound)
    · next free =>
      split
      · next k hk =>
        rw [wp_map]
        exact wp_memNodeFor (fun n g made => .memory hk free made) (fun _ => trivial) fun _ => trivial
      · next scalar =>
        split
        · next op defined =>
          obtain ⟨x, noted⟩ := Option.isSome_iff_exists.1 (visited op defined)
          rw [wp_bind, wp_expand_of_noted? noted, wp_bind, wp_graph, wp_pure, free]
          exact .rest (.defined rfl free scalar defined noted)
        · next undefined =>
          split
          · next info hi =>
            have known : (c.programs.info? v).isSome = true := by rw [hi]; rfl
            exact wp_addVar (fun n g made => .variable scalar undefined known free made) fun _ => trivial
          · next unknown => exact .rest (.unknown rfl free scalar undefined unknown)

section Obtains

variable {t : Option NodeId} (h : c.Obtains s v p t s')
include h

theorem Obtains.settles : c.Settles {v} s s' := by
  cases h with
  | rest => exact .refl c _ s
  | memory key free made =>
    refine settles_memory key made fun m hm => ?_
    rw [free] at hm
    cases hm
  | «variable» scalar undefined known free made => exact settles_variable scalar undefined known free made

theorem Obtains.rests : c.Rests s' p v t := by
  cases h with
  | rest rests => exact rests
  | memory key free made => exact .found (by simp [Graph.findNode, Graph.bindMemValue, SortedMap.get?_insert])
  | «variable» scalar undefined known free made =>
    rw [Graph.findNode, if_pos rfl, Option.or_eq_none_iff] at free
    refine .found ?_
    simp [Graph.findNode, Graph.bindValue, SortedMap.get?_insert, (Graph.Quiet.addNode made).memValue, free.1]

theorem Obtains.unread : s.graph.Unread s'.graph := by
  cases h with
  | rest => exact fun _ => rfl
  | memory key free made => exact fun m => Graph.unread_memNode made m
  | «variable» scalar undefined known free made =>
    obtain ⟨-, rfl⟩ := Graph.addNode_eq_ok made
    exact Graph.unread_place s.graph rfl

/-- No edge is drawn. -/
theorem Obtains.edgeKind? (a b : NodeId) : s'.graph.edgeKind? a b = s.graph.edgeKind? a b := by
  cases h with
  | rest => rfl
  | memory key free made =>
    rcases Graph.memNode_eq_ok made with ⟨-, rfl⟩ | ⟨-, -, rfl⟩
    · rfl
    · exact Graph.edgeKind?_place rfl a b
  | «variable» scalar undefined known free made =>
    obtain ⟨-, rfl⟩ := Graph.addNode_eq_ok made
    exact Graph.edgeKind?_place rfl a b

/-- No input is entered. -/
theorem Obtains.inputNodes : s'.graph.inputNodes = s.graph.inputNodes := by
  cases h with
  | rest => rfl
  | memory key free made =>
    rcases Graph.memNode_eq_ok made with ⟨-, rfl⟩ | ⟨-, -, rfl⟩
    · rfl
    · exact Graph.inputNodes_place ..
  | «variable» scalar undefined known free made =>
    obtain ⟨-, rfl⟩ := Graph.addNode_eq_ok made
    exact Graph.inputNodes_place ..

end Obtains

/-- Once the operation that defines a value was visited, the value rests when it was resolved, and nothing
else has happened. -/
theorem wp_valueNode_rests (visited : ∀ op, c.programs.definition? v = some op → (s.noted? op).isSome = true) :
    wp (c.valueNode p v)
      (fun t s' => c.Settles {v} s s' ∧ s.graph.Unread s'.graph ∧ c.Rests s' p v t) (fun _ => True) s :=
  (wp_valueNode_obtains visited).mono fun _ _ h => ⟨h.settles, h.unread, h.rests⟩

end Settles

end BuildContext

end PeerTaint
