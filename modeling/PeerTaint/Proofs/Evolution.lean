import Mathlib.Logic.Relation
import PeerTaint.Build.Expand
import PeerTaint.Proofs.Removal

/-!
How graphs change.

Everything that is ever done to a graph is made of a few elementary changes: those that only add
(`Growth`), the removal of a node, and letting an alias key point at another node (`Change`). Each
of them keeps graphs well formed, gives no handle a second time, and leaves what can be reached from
where alone unless it starts a new generation (`Evolves`). The operations of the store are then
written as such changes, so that nothing has to be said about each of them again.
-/

namespace PeerTaint

namespace Graph

open Relation (ReflTransGen)

/-- An elementary change that only adds to a graph. -/
inductive Growth : Graph → Graph → Prop
  | place {g : Graph} {x : Node} (id : x.id = g.slots.size) (succ : x.successors = .empty)
      (pred : x.predecessors = .empty) : Growth g (g.place x)
  | modify {g : Graph} {f : Node → Node} (n : NodeId) (benign : Benign f) :
      Growth g (g.modifyNode n f)
  | bindValue {g : Graph} {n : NodeId} {p : Program} {kind : NodeKind} {v : Value}
      (role : g.role? n = some (p, kind)) (defines : kind.Defines v) : Growth g (g.bindValue v n)
  | bindMemValue {g : Graph} {n : NodeId} {p : Program} {k : AliasKey} (v : Value)
      (mem : g.findMem p k = some n) : Growth g (g.bindMemValue v n)
  | indexMem {g : Graph} {n : NodeId} {p : Program} {k : AliasKey}
      (role : g.role? n = some (p, .mem k)) (fresh : g.findMem p k = none) :
      Growth g { g with memNodes := g.memNodes.insert (p, k) n }
  | indexInput {g : Graph} {n : NodeId} {p : Program} {v : Value} {o : Origin} {name : String}
      (role : g.role? n = some (p, .input v o name)) :
      Growth g { g with inputNodes := g.inputNodes.insert (v, o) n }
  | connect {g : Graph} (a b : NodeId) (kind : EdgeKind) : Growth g (g.connect a b kind).2

/-- An elementary change of a graph. -/
inductive Change : Graph → Graph → Prop
  | grow {g g' : Graph} (growth : Growth g g') : Change g g'
  | remove {g g' : Graph} {n : NodeId} {x : Node} (removed : g.removeNode n = .ok (x, g')) :
      Change g g'
  /-- The alias key may point at another node already. -/
  | indexMem {g : Graph} {n : NodeId} {p : Program} {k : AliasKey}
      (role : g.role? n = some (p, .mem k)) :
      Change g { g with memNodes := g.memNodes.insert (p, k) n }

/-- Growth, any number of times. -/
abbrev Grows : Graph → Graph → Prop := ReflTransGen Growth

/-- Changes, any number of times. -/
abbrev Changes : Graph → Graph → Prop := ReflTransGen Change

theorem Grows.changes {g g' : Graph} (h : Grows g g') : Changes g g' :=
  ReflTransGen.mono (fun _ _ => Change.grow) _ _ h

/-! ## Well-formedness -/

theorem Growth.wellFormed {g g' : Graph} (h : Growth g g') (wf : WellFormed g) : WellFormed g' := by
  cases h with
  | place id succ pred => exact wf.place id succ pred
  | modify n benign => exact wf.modifyNode benign n
  | bindValue role defines => exact wf.bindValue role defines
  | bindMemValue v mem => exact wf.bindMemValue (wf.mem _ _ _ mem)
  | indexMem role fresh => exact wf.indexMem role
  | indexInput role => exact wf.indexInput role
  | connect a b kind => exact wf.connect a b kind

theorem Change.wellFormed {g g' : Graph} (h : Change g g') (wf : WellFormed g) : WellFormed g' := by
  cases h with
  | grow growth => exact growth.wellFormed wf
  | remove removed => exact wf.removeNode removed
  | indexMem role => exact wf.indexMem role

theorem Changes.wellFormed {g g' : Graph} (h : Changes g g') (wf : WellFormed g) : WellFormed g' := by
  induction h with
  | refl => exact wf
  | tail _ step ih => exact step.wellFormed ih

/-! ## Growth keeps what there is -/

/-- Everything in `g` is still in `g'`. -/
structure Extends (g g' : Graph) : Prop where
  role : ∀ n ρ, g.role? n = some ρ → g'.role? n = some ρ
  edge : ∀ a b, g.hasEdge a b = true → g'.hasEdge a b = true
  data : ∀ a b, g.edgeKind? a b = some .data → g'.edgeKind? a b = some .data
  mem : ∀ p k n, g.findMem p k = some n → g'.findMem p k = some n

theorem Extends.refl (g : Graph) : Extends g g :=
  ⟨fun _ _ h => h, fun _ _ h => h, fun _ _ h => h, fun _ _ _ h => h⟩

theorem Extends.trans {g₁ g₂ g₃ : Graph} (h : Extends g₁ g₂) (h' : Extends g₂ g₃) : Extends g₁ g₃ where
  role n ρ hn := h'.role n ρ (h.role n ρ hn)
  edge a b hab := h'.edge a b (h.edge a b hab)
  data a b hab := h'.data a b (h.data a b hab)
  mem p k n hn := h'.mem p k n (h.mem p k n hn)

/-- The nodes stay as they are, up to changes of what neither indices nor edges know. -/
theorem Extends.of_eq {g g' : Graph} (role : ∀ n, g'.role? n = g.role? n)
    (edge : ∀ a b, g'.edgeKind? a b = g.edgeKind? a b) (mem : g'.memNodes = g.memNodes) : Extends g g' where
  role n ρ hn := by rw [role, hn]
  edge a b hab := by rwa [hasEdge, edge]
  data a b hab := by rw [edge, hab]
  mem p k n hn := by rwa [findMem, mem]

theorem edgeKind?_modifyNode {f : Node → Node} (hf : Benign f) (g : Graph) (n a b : NodeId) :
    (g.modifyNode n f).edgeKind? a b = g.edgeKind? a b := by
  rw [edgeKind?_eq_links?, links?_modifyNode hf, ← edgeKind?_eq_links?]

theorem Growth.extension {g g' : Graph} (h : Growth g g') : Extends g g' := by
  cases h with
  | @place x id succ pred =>
    obtain ⟨slots, reads, writes, live, he⟩ := place_eq g x
    have edge := edgeKind?_place (g := g) succ
    refine ⟨fun n ρ hn => ?_, fun a b hab => ?_, fun a b hab => ?_, fun p k n hn => ?_⟩
    · rw [role?_place, if_neg (Nat.ne_of_lt (lt_size_of_role? hn)), hn]
    · rwa [hasEdge, edge]
    · rw [edge, hab]
    · rw [he]; exact hn
  | modify n benign =>
    exact .of_eq (role?_modifyNode benign g n) (edgeKind?_modifyNode benign g n) rfl
  | bindValue role defines => exact .of_eq (fun _ => rfl) (fun _ _ => rfl) rfl
  | bindMemValue v mem => exact .of_eq (fun _ => rfl) (fun _ _ => rfl) rfl
  | @indexMem n p k role fresh =>
    refine ⟨fun _ _ h => h, fun _ _ h => h, fun _ _ h => h, fun q j m hm => ?_⟩
    unfold findMem at fresh hm ⊢
    rw [SortedMap.get?_insert, if_neg fun hq => ?_, hm]
    rw [hq, fresh] at hm
    cases hm
  | indexInput role => exact .of_eq (fun _ => rfl) (fun _ _ => rfl) rfl
  | connect a b kind =>
    rcases connect_cases g a b kind with ⟨he, -⟩ | ⟨hab, ha, -, ⟨-, hk, he⟩ | ⟨hk, he⟩⟩
    · rw [he]; exact .refl g
    all_goals
      rw [he]
      have edge : ∀ {new} c d, (g.withEdge a b kind new).edgeKind? c d
          = if c = a ∧ d = b then some kind else g.edgeKind? c d := edgeKind?_setEdge hab ha
      refine ⟨fun n ρ hn => (role?_setEdge n).trans hn, fun c d hcd => ?_, fun c d hcd => ?_,
        fun _ _ _ h => h⟩
    · rw [hasEdge, edge]; split <;> [rfl; exact hcd]
    · rw [edge, hk]; split <;> [rfl; exact hcd]
    · rw [hasEdge, edge]; split <;> [rfl; exact hcd]
    · rw [edge, if_neg fun h => ?_, hcd]
      rw [h.1, h.2, hk] at hcd
      cases hcd

theorem Grows.extension {g g' : Graph} (h : Grows g g') : Extends g g' := by
  induction h with
  | refl => exact .refl g
  | tail _ step ih => exact ih.trans step.extension

/-! ## Handles and generations -/

/-- How a graph can differ from an earlier one: a handle that was given out is never given to another
node, and within a generation the nodes of the earlier graph are live and have the same edges. -/
structure Evolves (g g' : Graph) : Prop where
  size_le : g.slots.size ≤ g'.slots.size
  stale : ∀ n, n < g.slots.size → g.isLive n = false → g'.isLive n = false
  role : ∀ n ρ ρ', g.role? n = some ρ → g'.role? n = some ρ' → ρ' = ρ
  generation_le : g.generation ≤ g'.generation
  live : g'.generation = g.generation → ∀ n, g.isLive n = true → g'.isLive n = true
  edge : g'.generation = g.generation → ∀ a b, g'.hasEdge a b = g.hasEdge a b

theorem isLive_eq_isSome_role? (g : Graph) (n : NodeId) : g.isLive n = (g.role? n).isSome := by
  rw [isLive, role?, Option.isSome_map]

theorem Extends.isLive {g g' : Graph} (h : Extends g g') {n : NodeId} (live : g.isLive n = true) :
    g'.isLive n = true := by
  rw [isLive_eq_isSome_role?] at live ⊢
  obtain ⟨ρ, hρ⟩ := Option.isSome_iff_exists.1 live
  rw [h.role n ρ hρ]
  rfl

theorem Evolves.refl (g : Graph) : Evolves g g :=
  ⟨le_rfl, fun _ _ h => h, fun _ _ _ h h' => Option.some.inj (h'.symm.trans h), le_rfl, fun _ _ h => h,
    fun _ _ _ => rfl⟩

theorem Evolves.trans {g₁ g₂ g₃ : Graph} (h : Evolves g₁ g₂) (h' : Evolves g₂ g₃) : Evolves g₁ g₃ where
  size_le := h.size_le.trans h'.size_le
  stale n hn hs := h'.stale n (hn.trans_le h.size_le) (h.stale n hn hs)
  role n ρ ρ' hρ hρ' := by
    cases h₂ : g₂.role? n with
    | some ρ₂ => exact (h'.role n ρ₂ ρ' h₂ hρ').trans (h.role n ρ ρ₂ hρ h₂)
    | none =>
      -- a handle that was stale in between cannot be live at the end
      have hlt := (lt_size_of_role? hρ).trans_le h.size_le
      have := h'.stale n hlt (by rw [isLive_eq_isSome_role?, h₂]; rfl)
      rw [isLive_eq_isSome_role?, hρ'] at this
      cases this
  generation_le := h.generation_le.trans h'.generation_le
  live hg n hn := by
    have := h.generation_le
    have := h'.generation_le
    exact h'.live (by omega) n (h.live (by omega) n hn)
  edge hg a b := by
    have := h.generation_le
    have := h'.generation_le
    exact (h'.edge (by omega) a b).trans (h.edge (by omega) a b)

/-- A change that leaves the slots' number, the roles, the edges and the generation. -/
theorem Evolves.of_eq {g g' : Graph} (size : g'.slots.size = g.slots.size)
    (role : ∀ n, g'.role? n = g.role? n)
    (edge : ∀ a b, (g'.edgeKind? a b).isSome = (g.edgeKind? a b).isSome)
    (generation : g'.generation = g.generation) : Evolves g g' where
  size_le := size.ge
  stale n _ hs := by rwa [isLive_eq_isSome_role?, role, ← isLive_eq_isSome_role?]
  role n ρ ρ' hρ hρ' := by rw [role, hρ] at hρ'; exact (Option.some.inj hρ').symm
  generation_le := generation.ge
  live _ n hn := by rwa [isLive_eq_isSome_role?, role, ← isLive_eq_isSome_role?]
  edge _ a b := edge a b

theorem Growth.evolves {g g' : Graph} (h : Growth g g') : Evolves g g' := by
  cases h with
  | @place x id succ pred =>
    obtain ⟨slots, reads, writes, live, he⟩ := place_eq g x
    have role : ∀ n, n ≠ g.slots.size → (g.place x).role? n = g.role? n := by
      intro n hn
      rw [role?_place, if_neg hn]
    refine ⟨?_, fun n hlt hs => ?_, fun n ρ ρ' hρ hρ' => ?_, by rw [he], fun _ n hn => ?_,
      fun _ a b => ?_⟩
    · rw [size_place]; exact Nat.le_succ _
    · rwa [isLive_eq_isSome_role?, role n (Nat.ne_of_lt hlt), ← isLive_eq_isSome_role?]
    · rw [role n (Nat.ne_of_lt (lt_size_of_role? hρ)), hρ] at hρ'
      exact (Option.some.inj hρ').symm
    · obtain ⟨y, hy⟩ := isLive_iff.1 hn
      rwa [isLive_eq_isSome_role?, role n (Nat.ne_of_lt (lt_size_of_node? hy)), ← isLive_eq_isSome_role?]
    · rw [hasEdge, edgeKind?_place succ]; rfl
  | modify n benign =>
    exact .of_eq (size_modifyNode ..) (role?_modifyNode benign g n)
      (fun a b => by rw [edgeKind?_modifyNode benign]) rfl
  | bindValue role defines => exact .of_eq rfl (fun _ => rfl) (fun _ _ => rfl) rfl
  | bindMemValue v mem => exact .of_eq rfl (fun _ => rfl) (fun _ _ => rfl) rfl
  | indexMem role fresh => exact .of_eq rfl (fun _ => rfl) (fun _ _ => rfl) rfl
  | indexInput role => exact .of_eq rfl (fun _ => rfl) (fun _ _ => rfl) rfl
  | connect a b kind =>
    have size : (g.setEdge a b kind).slots.size = g.slots.size := by simp [setEdge]
    rcases connect_cases g a b kind with ⟨he, -⟩ | ⟨hab, ha, -, ⟨hk, -, he⟩ | ⟨-, he⟩⟩
    · rw [he]; exact .refl g
    · -- data in place of control
      rw [he]
      refine .of_eq size (fun n => role?_setEdge n) (fun c d => ?_) rfl
      change ((g.setEdge a b kind).edgeKind? c d).isSome = _
      rw [edgeKind?_setEdge hab ha]
      split
      · next hcd => rw [hcd.1, hcd.2, hk]; rfl
      · rfl
    · -- a new edge, and with it a new generation
      rw [he]
      have later : (g.withEdge a b kind 1).generation ≠ g.generation := Nat.succ_ne_self _
      have role : ∀ n, (g.withEdge a b kind 1).role? n = g.role? n := fun n => role?_setEdge n
      refine ⟨size.ge, fun n hlt hs => ?_, fun n ρ ρ' hρ hρ' => ?_, Nat.le_succ _,
        fun h => absurd h later, fun h => absurd h later⟩
      · rw [isLive_eq_isSome_role?] at hs ⊢
        rw [role, hs]
      · rw [role, hρ] at hρ'
        exact (Option.some.inj hρ').symm

theorem Change.evolves {g g' : Graph} (wf : WellFormed g) (h : Change g g') : Evolves g g' := by
  cases h with
  | grow growth => exact growth.evolves
  | indexMem role => exact .of_eq rfl (fun _ => rfl) (fun _ _ => rfl) rfl
  | remove removed =>
    obtain ⟨-, r⟩ := removed_of_removeNode wf.toLinked removed
    have later : g'.generation ≠ g.generation := by rw [r.generation]; exact Nat.succ_ne_self _
    refine ⟨r.size.ge, fun m _ hs => ?_, fun m ρ ρ' hρ hρ' => ?_, ?_, fun h => absurd h later,
      fun h => absurd h later⟩
    · rw [isLive_eq_isSome_role?] at hs ⊢
      rw [r.role?]
      split <;> [rfl; exact hs]
    · rw [r.role?] at hρ'
      split at hρ'
      · cases hρ'
      · exact Option.some.inj (hρ'.symm.trans hρ)
    · rw [r.generation]; exact Nat.le_succ _

theorem Changes.evolves {g g' : Graph} (wf : WellFormed g) (h : Changes g g') : Evolves g g' := by
  induction h with
  | refl => exact .refl g
  | tail before step ih => exact ih.trans (step.evolves (Changes.wellFormed before wf))

/-! ## The operations of the store -/

/-- The node that `addNode` makes. -/
def fresh (g : Graph) (p : Program) (kind : NodeKind) (label : String) : Node :=
  { id := g.slots.size, program := p, label, kind }

theorem nodeIdOfSlot_eq_ok {k : Nat} {n : NodeId} (h : nodeIdOfSlot k = .ok n) : n = k := by
  unfold nodeIdOfSlot at h
  split at h <;> cases h
  rfl

theorem addNode_eq_ok {g g' : Graph} {p : Program} {kind : NodeKind} {label : String} {n : NodeId}
    (h : g.addNode p kind label = .ok (n, g')) :
    n = g.slots.size ∧ g' = g.place (g.fresh p kind label) := by
  unfold addNode at h
  cases hs : nodeIdOfSlot g.slots.size with
  | error e => rw [hs] at h; cases h
  | ok m =>
    rw [hs] at h
    cases h
    cases nodeIdOfSlot_eq_ok hs
    exact ⟨rfl, rfl⟩

/-- A node is refused only when there are no handles left. -/
theorem addNode_eq_error {g : Graph} {p : Program} {kind : NodeKind} {label : String} {e : GraphError}
    (h : g.addNode p kind label = .error e) :
    nodeCapacity ≤ g.slots.size ∧ e = .capacityExceeded g.slots.size := by
  unfold addNode nodeIdOfSlot at h
  split at h
  · cases h
  · next hlt =>
    cases h
    exact ⟨Nat.not_lt.1 hlt, rfl⟩

theorem growth_fresh (g : Graph) (p : Program) (kind : NodeKind) (label : String) :
    Growth g (g.place (g.fresh p kind label)) := .place rfl rfl rfl

theorem role?_place_fresh (g : Graph) (p : Program) (kind : NodeKind) (label : String) :
    (g.place (g.fresh p kind label)).role? g.slots.size = some (p, kind.bare) := by
  rw [role?_place, if_pos rfl]
  rfl

theorem memNode_eq_ok {g g' : Graph} {p : Program} {k : AliasKey} {label : String} {n : NodeId}
    (h : g.memNode p k label = .ok (n, g')) :
    (g.findMem p k = some n ∧ g' = g) ∨
    (g.findMem p k = none ∧ n = g.slots.size ∧
      g' = { g.place (g.fresh p (.mem k) label) with memNodes := g.memNodes.insert (p, k) n }) := by
  unfold memNode at h
  cases hm : g.findMem p k with
  | some m => rw [hm] at h; cases h; exact Or.inl ⟨rfl, rfl⟩
  | none =>
    rw [hm] at h
    cases ha : g.addNode p (.mem k) label with
    | error e => rw [ha] at h; cases h
    | ok r =>
      obtain ⟨m, g₁⟩ := r
      rw [ha] at h
      cases h
      obtain ⟨rfl, rfl⟩ := addNode_eq_ok ha
      obtain ⟨slots, reads, writes, live, he⟩ := place_eq g (g.fresh p (.mem k) label)
      exact Or.inr ⟨rfl, rfl, by rw [he]⟩

theorem memNode_eq_error {g : Graph} {p : Program} {k : AliasKey} {label : String} {e : GraphError}
    (h : g.memNode p k label = .error e) :
    nodeCapacity ≤ g.slots.size ∧ e = .capacityExceeded g.slots.size := by
  unfold memNode at h
  cases hm : g.findMem p k with
  | some m => rw [hm] at h; cases h
  | none =>
    rw [hm] at h
    cases ha : g.addNode p (.mem k) label with
    | error e' =>
      rw [ha] at h
      cases h
      exact addNode_eq_error ha
    | ok r => rw [ha] at h; cases h

theorem inputNode_eq_ok {g g' : Graph} {v : Value} {o : Origin} {name : String} {n : NodeId}
    (h : g.inputNode v o name = .ok (n, g')) :
    (g.findInput v o = some n ∧ g' = g) ∨
    (g.findInput v o = none ∧ n = g.slots.size ∧ ∃ label, g' = { g.place (g.fresh v.program (.input v o name) label) with
      inputNodes := g.inputNodes.insert (v, o) n }) := by
  unfold inputNode at h
  cases hm : g.findInput v o with
  | some m => rw [hm] at h; cases h; exact Or.inl ⟨rfl, rfl⟩
  | none =>
    rw [hm] at h
    cases ha : g.addNode v.program (.input v o name) (inputLabel o name) with
    | error e => rw [ha] at h; cases h
    | ok r =>
      obtain ⟨m, g₁⟩ := r
      rw [ha] at h
      cases h
      obtain ⟨rfl, rfl⟩ := addNode_eq_ok ha
      obtain ⟨slots, reads, writes, live, he⟩ :=
        place_eq g (g.fresh v.program (.input v o name) (inputLabel o name))
      exact Or.inr ⟨rfl, rfl, _, by rw [he]⟩

theorem Grows.addNode {g g' : Graph} {p : Program} {kind : NodeKind} {label : String} {n : NodeId}
    (h : g.addNode p kind label = .ok (n, g')) : Grows g g' := by
  obtain ⟨-, rfl⟩ := addNode_eq_ok h
  exact .single (growth_fresh g p kind label)

theorem Grows.memNode {g g' : Graph} {p : Program} {k : AliasKey} {label : String} {n : NodeId}
    (h : g.memNode p k label = .ok (n, g')) : Grows g g' ∧ g'.findMem p k = some n := by
  rcases memNode_eq_ok h with ⟨hm, rfl⟩ | ⟨hm, rfl, rfl⟩
  · exact ⟨.refl, hm⟩
  · obtain ⟨slots, reads, writes, live, he⟩ := place_eq g (g.fresh p (.mem k) label)
    have mem : (g.place (g.fresh p (.mem k) label)).memNodes = g.memNodes := by rw [he]
    have role := role?_place_fresh g p (.mem k) label
    refine ⟨.tail (.single (growth_fresh g p (.mem k) label)) ?_, by simp [findMem]⟩
    rw [← mem]
    exact .indexMem role (by unfold findMem; rw [mem]; exact hm)

theorem Grows.inputNode {g g' : Graph} {v : Value} {o : Origin} {name : String} {n : NodeId}
    (h : g.inputNode v o name = .ok (n, g')) : Grows g g' := by
  rcases inputNode_eq_ok h with ⟨-, rfl⟩ | ⟨-, rfl, label, rfl⟩
  · exact .refl
  · obtain ⟨slots, reads, writes, live, he⟩ := place_eq g (g.fresh v.program (.input v o name) label)
    have input : (g.place (g.fresh v.program (.input v o name) label)).inputNodes = g.inputNodes := by
      rw [he]
    refine .tail (.single (growth_fresh g v.program (.input v o name) label)) ?_
    rw [← input]
    exact .indexInput (role?_place_fresh g v.program (.input v o name) label)

theorem findInput_inputNode {g g' : Graph} {v : Value} {o : Origin} {name : String} {n : NodeId}
    (hg : g.inputNode v o name = .ok (n, g')) : g'.findInput v o = some n := by
  rcases inputNode_eq_ok hg with ⟨found, rfl⟩ | ⟨-, rfl, label, rfl⟩
  · exact found
  · exact SortedMap.get?_insert.trans (if_pos rfl)

/-- A copy is placed like any node; then what it stands for resolves to it. -/
theorem Changes.insertDetached {g g' : Graph} {x : Node} {n : NodeId}
    (h : g.insertDetached x = .ok (n, g')) :
    n = g.slots.size ∧ g'.isLive n = true ∧ Changes g g' := by
  unfold Graph.insertDetached at h
  cases hs : nodeIdOfSlot g.slots.size with
  | error e => rw [hs] at h; cases h
  | ok m =>
    rw [hs] at h
    cases h
    cases nodeIdOfSlot_eq_ok hs
    have placed : Changes g (g.place (x.detached g.slots.size)) := .single (.grow (.place rfl rfl rfl))
    have role : (g.place (x.detached g.slots.size)).role? g.slots.size = some (x.program, x.kind.bare) := by
      rw [role?_place, if_pos rfl]
      rfl
    have live : (g.place (x.detached g.slots.size)).isLive g.slots.size = true := by
      rw [isLive_eq_isSome_role?, role]
      rfl
    have bound : ∀ v, x.kind.Defines v →
        Changes g ((g.place (x.detached g.slots.size)).bindValue v g.slots.size) :=
      fun v hv => placed.tail (.grow (.bindValue role (NodeKind.defines_bare.2 hv)))
    obtain ⟨id, program, label, visible, count, levels, location, netDependent, kind, succ, pred⟩ := x
    cases kind with
    | mem k => exact ⟨rfl, live, placed.tail (.indexMem role)⟩
    | input v o name => exact ⟨rfl, live, placed.tail (.grow (.indexInput role))⟩
    | var v => exact ⟨rfl, live, bound v ⟨rfl, nofun⟩⟩
    | op opcode value =>
      cases value with
      | none => exact ⟨rfl, live, placed⟩
      | some v => exact ⟨rfl, live, bound v ⟨rfl, nofun⟩⟩
    | call info | netRead info | netWrite info =>
      obtain ⟨target, args, result⟩ := info
      cases result with
      | none => exact ⟨rfl, live, placed⟩
      | some v => exact ⟨rfl, live, bound v ⟨rfl, nofun⟩⟩

/-! ## Edges and notes on nodes -/

/-- Growth that leaves the bindings of values and of alias classes. -/
structure Quiet (g g' : Graph) : Prop where
  grows : Grows g g'
  mem : g'.memNodes = g.memNodes
  memValue : g'.memValues = g.memValues
  value : g'.valueNodes = g.valueNodes

theorem Quiet.refl (g : Graph) : Quiet g g := ⟨.refl, rfl, rfl, rfl⟩

theorem Quiet.trans {g₁ g₂ g₃ : Graph} (h : Quiet g₁ g₂) (h' : Quiet g₂ g₃) : Quiet g₁ g₃ :=
  ⟨h.grows.trans h'.grows, h'.mem.trans h.mem, h'.memValue.trans h.memValue, h'.value.trans h.value⟩

theorem Quiet.modify {f : Node → Node} (hf : Benign f) (g : Graph) (n : NodeId) :
    Quiet g (g.modifyNode n f) := ⟨.single (.modify n hf), rfl, rfl, rfl⟩

theorem Quiet.addNode {g g' : Graph} {p : Program} {kind : NodeKind} {label : String} {n : NodeId}
    (h : g.addNode p kind label = .ok (n, g')) : Quiet g g' := by
  have grows := Grows.addNode h
  obtain ⟨-, rfl⟩ := addNode_eq_ok h
  obtain ⟨slots, reads, writes, live, he⟩ := place_eq g (g.fresh p kind label)
  exact ⟨grows, by rw [he], by rw [he], by rw [he]⟩

theorem Quiet.connect (g : Graph) (a b : NodeId) (kind : EdgeKind) : Quiet g (g.connect a b kind).2 := by
  refine ⟨.single (.connect a b kind), ?_, ?_, ?_⟩ <;>
    rcases connect_cases g a b kind with ⟨he, -⟩ | ⟨-, -, -, ⟨-, -, he⟩ | ⟨-, he⟩⟩ <;> rw [he] <;> rfl

theorem Quiet.correlate (g : Graph) (n : NodeId) (p : Program) (d : Direction) (levels : LevelSet) :
    Quiet g (g.correlate n p d levels) := by
  unfold Graph.correlate
  split
  · exact .refl g
  · have start : Quiet g (g.modifyNode n fun node => { node with levels := levels }) :=
      .modify (by exact ⟨fun _ => rfl, fun _ => rfl⟩) g n
    refine List.foldlRecOn _ _ start fun g' h other _ => h.trans ?_
    split
    · exact .refl _
    · split <;> split <;> first | exact .connect _ _ _ _ | exact .refl _

end Graph

end PeerTaint
