import PeerTaint.Proofs.Linking

/-!
Resolving a value expands what it depends on.

Expanding an operation with a resolver that keeps its guarantees wires the operation, and the
induction on the depth of nesting closes the circle: an operation is remembered before its operands
are resolved, so the number of operations that were not visited bounds how deep operations stand
inside each other. Stores, which are remembered later, define no value and are never expanded in
order to resolve one.
-/

namespace PeerTaint

namespace BuildContext

open Build

section Expand

variable {c : BuildContext} {p : Program} {A : Set (Program × Operation)} {D : Set Operation}
  {N : Set Value} {k : Nat} {resolve : Resolver} {s : BuildState} {op : Operation} {n : NodeId}
  {ρ : Program × NodeKind}

section Visit

variable (ord : c.programs.Orderly) (hres : c.Resolves resolve k) (closed : c.Closed p N)
  (he : (p, op) ∈ c.programs.stream) (hex : c.excluded op = false)
  (hA : (p, op) ∈ A ∨ ∃ v, op.result = some v ∧ c.aliasKey? v = none)
  (hN : ∀ v ∈ op.operands, v.program = p → v ∈ N) (hr : ∀ v, op.result = some v → v ∈ N)
  (inv : c.Invariant A D s) (new : s.noted? op = none) (hk : c.unseen s ≤ k)

include ord he inv new hk in
/-- An operation that gets its node is underway. -/
theorem underway_of_visit {i : Nat} {g : Graph} (hi : op.id = some i)
    (sound : c.Sound A { graph := g, visited := s.visited.insert i (some n) })
    (keeps : Keeps N s { graph := g, visited := s.visited.insert i (some n) })
    (role : g.role? n = some ρ) :
    c.Advances A (insert op D) N s { graph := g, visited := s.visited.insert i (some n) } ∧
      c.Underway A D N k { graph := g, visited := s.visited.insert i (some n) } op n ρ
        { graph := g, visited := s.visited.insert i (some n) } := by
  obtain ⟨adv, noted⟩ := inv.visit ord.toCatalogued he hi sound keeps
  refine ⟨adv, ⟨adv.inv, .refl N _⟩, noted, ?_, role⟩
  exact (unseen_lt (fun _ => keeps.isSome_noted?) he new (by rw [noted]; rfl)).trans_le hk

include ord hres closed he hN inv new hk in
/-- Once a plain operation has its node, the operands are linked with it. -/
theorem wp_linkPlain (hs : op.opcode ≠ .store) (hc : op.opcode ≠ .call) {i : Nat} {g : Graph}
    (hi : op.id = some i) (sound : c.Sound A { graph := g, visited := s.visited.insert i (some n) })
    (keeps : Keeps N s { graph := g, visited := s.visited.insert i (some n) })
    (node : c.IsNodeOf g p op n) :
    wp (do
      Build.remember op (some n)
      Build.update (located op.location n)
      linkOperands resolve p op n
      return n) (fun _ s' => c.Advances A D N s s' ∧ (s'.noted? op).isSome = true)
      c.Stopped { s with graph := g } := by
  obtain ⟨ρ, role⟩ := node.role sound.wf
  obtain ⟨adv, start⟩ := underway_of_visit ord he inv new hk hi sound keeps role
  have q : g.Quiet (located op.location n g) := .modify (by exact ⟨fun _ => rfl, fun _ => rfl⟩) g n
  rw [wp_bind, wp_remember hi, wp_bind, wp_update, wp_bind]
  refine (wp_operands hres closed hN (start.quiet q)).mono fun _ s' ⟨h, all⟩ => ?_
  have node' := node.keeps sound h.adv.inv.toSound h.adv.keeps
  refine ⟨(adv.trans h.adv).close ord.toCatalogued he fun _ => ?_, by rw [h.noted]; rfl⟩
  exact (wired_iff_plain hs hc).2 ⟨n, h.noted, node', all⟩

include ord hres closed he hex hA hN hr inv new hk

theorem wp_addPlain (hs : op.opcode ≠ .store) (hc : op.opcode ≠ .call) :
    wp (c.addPlain resolve p op) (fun _ s' => c.Advances A D N s s' ∧ (s'.noted? op).isSome = true)
      c.Stopped s := by
  obtain ⟨i, -, hi⟩ := ord.id (p, op) he
  rw [addPlain_eq, wp_bind]
  refine wp_operationNode (fun v j hp => ?_) (fun n g hp hg => ?_) (c.stopped_full _)
  · -- the node of the result's class
    obtain ⟨hv, hj⟩ := pointerResult?_eq_some_iff.1 hp
    cases ord.home (p, op) he v hv
    refine wp_memNodeFor (fun n g hm => ?_) (c.stopped_full _) (c.stopped_inconsistent hj)
    have bound := Sound.bindMem inv.toSound hj hm
    obtain ⟨found, mem⟩ := findNode_bindMem inv.toSound hj hm
    refine wp_linkPlain ord hres closed he hN inv new hk hs hc hi
      (bound.remember ord he hi hA fun w hw hk => ?_)
      ((Keeps.bindMem inv.toSound hj hm (hr v hv)).trans (.remember hi new)) ⟨?_, fun w hw => ?_⟩
    · rw [hv] at hw
      cases hw
      rw [hj] at hk
      cases hk
    · rw [hp]
      exact mem
    · rw [hv] at hw
      cases hw
      exact found
  · -- a new node
    have role : g.role? n = some (p, .op op.opcode op.result) := by
      obtain ⟨rfl, rfl⟩ := Graph.addNode_eq_ok hg
      exact Graph.role?_place_fresh ..
    have result : c.boundResult? op = op.result := by rw [boundResult?, hp]
    have node : NewNode s.graph (bindResult op.result n g) (c.boundResult? op) n := by
      rw [result]
      exact .bindResult (.addNode hg) role fun v hv => ⟨hv, nofun⟩
    have sound := inv.toSound.newOperation ord he hi hA hex node
    refine wp_linkPlain ord hres closed he hN inv new hk hs hc hi sound
      ((node.keeps (inv.toSound.unbound he hex new)).trans (.remember hi new)) ⟨?_, fun v hv => ?_⟩
    · rw [hp, role?_bindResult]
      exact role
    · have hv' : c.boundResult? op = some v := result.trans hv
      cases ord.home (p, op) he v hv
      exact NewNode.findNode node sound hv' (boundResult?_eq_some_iff.1 hv').2

theorem wp_addCall (hc : op.opcode = .call) :
    wp (c.addCall resolve p op) (fun _ s' => c.Advances A D N s s' ∧ (s'.noted? op).isSome = true)
      c.Stopped s := by
  obtain ⟨i, -, hi⟩ := ord.id (p, op) he
  rw [addCall_eq, wp_bind]
  refine wp_callNode (fun n g hg => ?_) (c.stopped_full _)
  obtain ⟨rfl, rfl⟩ := Graph.addNode_eq_ok hg
  -- the call gets its node and is remembered
  have quiet := (Graph.Quiet.addNode hg).trans
    (.modify (f := fun x => { x with location := x.location.or op.location })
      ⟨fun _ => rfl, fun _ => rfl⟩ _ s.graph.slots.size)
  have role := (role?_located op.location s.graph.slots.size s.graph.slots.size _).trans
    (Graph.role?_place_fresh s.graph p (callKind (callInfo op) (c.callDirection? p op))
      (c.operationLabel op))
  have node := NewNode.bindResult (r := c.boundResult? op) quiet role fun v hv =>
    NodeKind.defines_bare.2 (callKind_defines (boundResult?_eq_some_iff.1 hv).1)
  have sound := inv.toSound.newOperation ord he hi hA hex node
  have keeps : Keeps N s _ := (node.keeps (inv.toSound.unbound he hex new)).trans
    (.remember (x := some s.graph.slots.size) hi new)
  obtain ⟨adv, start⟩ := underway_of_visit ord he inv new hk hi sound keeps
    ((role?_bindResult ..).trans role)
  rw [wp_bind, wp_remember hi, wp_bind, wp_update, wp_bind]
  have notMem : (callKind (callInfo op) (c.callDirection? p op)).bare.isMem = false := by
    rw [NodeKind.isMem_bare]
    exact isMem_callKind ..
  refine (wp_arguments hres closed hN (start.quiet (c.quiet_linkedByLevel ..)) notMem).mono
    fun _ s₂ ⟨h, all⟩ => ?_
  have own : ∀ v, op.result = some v → c.aliasKey? v = none →
      s₂.graph.findNode v p = some s.graph.slots.size := by
    intro v hv hk
    cases ord.home (p, op) he v hv
    refine sound.findNode_keeps h.adv.inv.toSound h.adv.keeps ?_
    exact NewNode.findNode node sound (boundResult?_eq_some_iff.2 ⟨hv, hk⟩) hk
  rw [wp_bind]
  refine (wp_linkResult ord he hr h.adv.inv h.role notMem).mono fun _ s₃ ⟨step, result⟩ => ?_
  have h₃ := h.next step
  refine ⟨(adv.trans h₃.adv).close ord.toCatalogued he fun _ => ?_, by rw [h₃.noted]; rfl⟩
  rw [wired_iff_call hc]
  refine ⟨_, h₃.noted, ?_, fun v hv => ?_, fun v hv => ?_⟩
  · rw [h₃.role, bare_callKind]
  · exact ArgumentLinked.keeps h.adv.inv.toSound step.inv.toSound step.keeps (all v hv)
  · split
    · next j hj => exact result v j hv hj
    · next hj => exact h.adv.inv.findNode_keeps step.inv.toSound step.keeps (own v hv hj)

end Visit

section Store

variable (ord : c.programs.Orderly) (he : (p, op) ∈ c.programs.stream) (hs : op.opcode = .store)
include ord he hs

/-- A store is remembered, whatever its node. -/
theorem Sound.rememberStore {i : Nat} {x : Option NodeId} (hA : (p, op) ∈ A) (hi : op.id = some i)
    (sound : c.Sound A s) : c.Sound A { s with visited := s.visited.insert i x } := by
  refine sound.remember ord he hi (Or.inl hA) fun v hv _ => ?_
  rw [ord.store (p, op) he hs] at hv
  cases hv

/-- A store without a destination is only remembered. -/
theorem wp_rememberStore (hA : (p, op) ∈ A) (inv : c.Invariant A D s) (new : s.noted? op = none)
    (hw : c.StoreWired s.graph p op) :
    wp (do
      Build.remember op none
      return (none : Option NodeId))
      (fun _ s' => c.Advances A D N s s' ∧ (s'.noted? op).isSome = true) c.Stopped s := by
  obtain ⟨i, -, hi⟩ := ord.id (p, op) he
  rw [wp_bind, wp_remember hi]
  obtain ⟨adv, noted⟩ := inv.visit (N := N) ord.toCatalogued he hi
    (Sound.rememberStore ord he hs (x := none) hA hi inv.toSound) (.remember hi new)
  refine ⟨adv.close ord.toCatalogued he fun _ => ?_, by rw [noted]; rfl⟩
  rw [Wired, hs]
  exact hw

/-- A store is not visited before its turn, since it defines nothing. -/
theorem noted?_store (hA : (p, op) ∉ A) (sound : c.Sound A s) : s.noted? op = none := by
  cases hx : s.noted? op with
  | none => rfl
  | some x =>
    rcases sound.started (p, op) he (by rw [hx]; rfl) with ha | ⟨v, hv, -⟩
    · exact absurd ha hA
    · rw [ord.store (p, op) he hs] at hv
      cases hv

/-- A store into a destination with a node: the value is linked with it. -/
theorem wp_storeInto (hres : c.Resolves resolve k) (closed : c.Closed p N) (hA : (p, op) ∈ A)
    {value destination : Value} {rest : List Value} {d : NodeId}
    (ho : op.operands = value :: destination :: rest) (hv : value.program = p → value ∈ N)
    (inv : c.Invariant A D s) (new : s.noted? op = none) (hk : c.unseen s ≤ k)
    (hd : s.graph.findNode destination p = some d) :
    wp (do
      Build.remember op (some d)
      Build.update (·.recordAccess d)
      Build.update (located op.location d)
      linkOperand resolve p d false value
      return some d)
      (fun _ s' => c.Advances A D N s s' ∧ (s'.noted? op).isSome = true) c.Stopped s := by
  obtain ⟨i, -, hi⟩ := ord.id (p, op) he
  obtain ⟨ρ, role⟩ := inv.role?_findNode hd
  obtain ⟨visit, start⟩ := underway_of_visit (N := N) ord he inv new hk hi
    (Sound.rememberStore ord he hs (x := some d) hA hi inv.toSound) (.remember hi new) role
  have q : s.graph.Quiet (located op.location d (s.graph.recordAccess d)) :=
    .trans (.modify (by exact ⟨fun _ => rfl, fun _ => rfl⟩) _ d)
      (.modify (by exact ⟨fun _ => rfl, fun _ => rfl⟩) _ d)
  have h₁ := start.quiet q
  rw [wp_bind, wp_remember hi, wp_bind, wp_update, wp_bind, wp_update, wp_bind]
  refine (wp_linkOperand hres closed hv h₁.adv.inv h₁.fewer h₁.role false).mono
    fun _ s' ⟨step, linked⟩ => ?_
  have h₂ := h₁.next step
  have total : c.Advances A (insert op D) N s s' := visit.trans h₂.adv
  refine ⟨total.close ord.toCatalogued he fun _ => ?_, by rw [h₂.noted]; rfl⟩
  rw [Wired, hs]
  change c.StoreWired s'.graph p op
  rw [StoreWired, ho]
  exact Or.inr ⟨d, inv.findNode_keeps total.inv.toSound total.keeps hd, linked⟩

theorem wp_addStore (hres : c.Resolves resolve k) (closed : c.Closed p N) (hA : (p, op) ∉ A)
    (hN : ∀ v ∈ c.uses p op, v.program = p → v ∈ N) (inv : c.Invariant A D s) (hk : c.unseen s < k) :
    wp (addStore resolve p op)
      (fun _ s' => c.Advances (insert (p, op) A) D N s s' ∧ (s'.noted? op).isSome = true)
      c.Stopped s := by
  have started : (p, op) ∈ insert (p, op) A := Set.mem_insert ..
  have turn : ∀ {s'}, c.Invariant A D s' → c.Invariant (insert (p, op) A) D s' :=
    fun h => h.mono (Set.subset_insert ..) subset_rfl
  by_cases shape : ∃ value destination rest, op.operands = value :: destination :: rest
  · obtain ⟨value, destination, rest, ho⟩ := shape
    have used : c.uses p op = if c.barren p destination then [destination] else [destination, value] := by
      rw [uses, if_pos hs, ho]
    have first : destination.program = p → destination ∈ N := hN destination (by rw [used]; split <;> simp)
    rw [addStore_eq resolve p op ho, wp_bind]
    refine (hres p destination A D N s closed first inv hk).mono fun r s₁ ⟨adv, hr, hb⟩ => ?_
    have new := noted?_store ord he hs hA adv.inv.toSound
    cases r with
    | none =>
      refine (wp_rememberStore (N := N) ord he hs started (turn adv.inv) new ?_).mono
        fun _ s' ⟨step, noted⟩ => ⟨⟨step.inv, adv.keeps.trans step.keeps⟩, noted⟩
      rw [StoreWired, ho]
      exact Or.inl ⟨hb rfl, hr.symm⟩
    | some d =>
      have fertile : c.barren p destination = false := by
        cases hbar : c.barren p destination with
        | false => rfl
        | true =>
          rw [adv.inv.findNode_barren hbar] at hr
          cases hr
      have second : value.program = p → value ∈ N := hN value (by rw [used, fertile]; simp)
      have hk₁ : c.unseen s₁ ≤ k := (unseen_le fun _ => adv.keeps.isSome_noted?).trans hk.le
      exact (wp_storeInto ord he hs hres closed started ho second (turn adv.inv) new hk₁ hr.symm).mono
        fun _ s' ⟨step, noted⟩ => ⟨⟨step.inv, adv.keeps.trans step.keeps⟩, noted⟩
  · have hw : c.StoreWired s.graph p op := by
      unfold StoreWired
      split
      · next ho => exact absurd ⟨_, _, _, ho⟩ shape
      · trivial
    unfold addStore
    split
    · next ho => exact absurd ⟨_, _, _, ho⟩ shape
    · exact wp_rememberStore ord he hs started (turn inv) (noted?_store ord he hs hA inv.toSound) hw

end Store

/-- How expanding an operation ends, by what is known about it. -/
theorem wp_expand {Q : Option NodeId → BuildState → Prop} {E : BuildFault → Prop}
    (seen : ∀ x, s.noted? op = some x → Q x s)
    (bound : ∀ n, s.noted? op = none → op.result.bind (s.graph.findNode · p) = some n →
      wp (Build.remember op (some n)) (fun _ => Q (some n)) E s)
    (terminator : s.noted? op = none → op.result.bind (s.graph.findNode · p) = none →
      c.excluded op = true → wp (Build.remember op none) (fun _ => Q none) E s)
    (store : s.noted? op = none → op.result.bind (s.graph.findNode · p) = none → c.excluded op = false →
      op.opcode = .store → wp (addStore resolve p op) Q E s)
    (call : s.noted? op = none → op.result.bind (s.graph.findNode · p) = none → c.excluded op = false →
      op.opcode = .call → wp (c.addCall resolve p op) (fun n => Q (some n)) E s)
    (plain : s.noted? op = none → op.result.bind (s.graph.findNode · p) = none →
      c.excluded op = false → op.opcode ≠ .store → op.opcode ≠ .call →
        wp (c.addPlain resolve p op) (fun n => Q (some n)) E s) :
    wp (c.expand resolve p op) Q E s := by
  simp only [expand, monadLift_self, enter_eq, pure_bind]
  rw [wp_bind, wp_visited?]
  split
  · next x hx => exact seen x hx
  · next hx =>
    rw [wp_bind, wp_graph]
    split
    · next n hn =>
      rw [wp_bind]
      exact bound n hx hn
    · next hn =>
      split
      · next hex =>
        rw [wp_bind]
        exact terminator hx hn hex
      · next hex =>
        have hex' : c.excluded op = false := Bool.eq_false_iff.2 hex
        split
        · next ho => exact store hx hn hex' ho
        · next ho =>
          rw [wp_map]
          exact call hx hn hex' ho
        · next hs hc =>
          rw [wp_map]
          exact plain hx hn hex' hs hc

/-- A terminator that is excluded is only remembered. -/
theorem wp_rememberTerminator (ord : c.programs.Orderly) (he : (p, op) ∈ c.programs.stream)
    (hA : (p, op) ∈ A ∨ ∃ v, op.result = some v ∧ c.aliasKey? v = none) (inv : c.Invariant A D s)
    (new : s.noted? op = none) (hex : c.excluded op = true) :
    wp (Build.remember op none) (fun _ s' => c.Advances A D N s s' ∧ (s'.noted? op).isSome = true)
      c.Stopped s := by
  obtain ⟨i, -, hi⟩ := ord.id (p, op) he
  rw [wp_remember hi]
  obtain ⟨adv, noted⟩ := inv.visit (N := N) ord.toCatalogued he hi
    (inv.toSound.remember ord he hi hA fun _ _ _ => ⟨hex, rfl⟩) (.remember hi new)
  refine ⟨adv.close ord.toCatalogued he fun h => ?_, by rw [noted]; rfl⟩
  rw [hex] at h
  cases h

/-- Expanding the operation that defines a value gives the value its node. -/
theorem wp_expandDefinition (ord : c.programs.Orderly) (hres : c.Resolves resolve k) {v : Value}
    (closed : c.Closed v.program N) (hv : v ∈ N) (hk₀ : c.aliasKey? v = none)
    (hd : c.programs.definition? v = some op) (hf : s.graph.findNode v v.program = none)
    (inv : c.Invariant A D s) (hk : c.unseen s ≤ k) :
    wp (c.expand resolve v.program op) (fun x s' => c.Advances A D N s s' ∧
      (c.excluded op = false → (s'.graph.findNode v v.program).isSome = true) ∧
      (c.excluded op = true → x = none)) c.Stopped s := by
  obtain ⟨he, hr⟩ := ord.mem_of_definition? hd
  have hA : (v.program, op) ∈ A ∨ ∃ w, op.result = some w ∧ c.aliasKey? w = none :=
    Or.inr ⟨v, hr, hk₀⟩
  have settled : ∀ {s' : BuildState}, c.Invariant A D s' → (s'.noted? op).isSome = true →
      c.excluded op = false → (s'.graph.findNode v v.program).isSome = true := by
    intro s' inv' noted hex
    rw [inv'.byClass.findNode_of_none hk₀]
    exact (inv'.settled _ he v hr hk₀ hex).1 noted
  have wired : ∀ {s' : BuildState} {n : NodeId}, c.excluded op = false →
      (c.Advances A D N s s' ∧ (s'.noted? op).isSome = true) → c.Advances A D N s s' ∧
        (c.excluded op = false → (s'.graph.findNode v v.program).isSome = true) ∧
        (c.excluded op = true → some n = none) := by
    intro s' n hex ⟨adv, noted⟩
    refine ⟨adv, settled adv.inv noted, fun h => ?_⟩
    rw [hex] at h
    cases h
  have used : op.opcode ≠ .store → c.excluded op = false →
      ∀ w ∈ op.operands, w.program = v.program → w ∈ N := by
    intro hs hex w hw
    refine closed v hv hk₀ op hd hex w ?_
    rw [uses, if_neg hs]
    exact hw
  have result : ∀ w, op.result = some w → w ∈ N := by
    intro w hw
    rw [hr] at hw
    cases hw
    exact hv
  refine wp_expand (fun x hx => ?_) (fun n _ hn => ?_) (fun hx _ hex => ?_) (fun _ _ _ ho => ?_)
    (fun hx _ hex ho => ?_) fun hx _ hex hs hc => ?_
  · exact ⟨⟨inv, .refl N s⟩, settled inv (by rw [hx]; rfl), fun hex =>
      inv.terminator _ he v hr hk₀ hex x hx⟩
  · rw [hr, Option.bind_some, hf] at hn
    cases hn
  · refine (wp_rememberTerminator (N := N) ord he hA inv hx hex).mono fun _ s' ⟨adv, noted⟩ => ?_
    exact ⟨adv, settled adv.inv noted, fun _ => rfl⟩
  · have := ord.store _ he ho
    rw [hr] at this
    cases this
  · have hs : op.opcode ≠ .store := by rw [ho]; nofun
    exact (wp_addCall ord hres closed he hex hA (used hs hex) result inv hx hk ho).mono
      fun _ _ h => wired hex h
  · exact (wp_addPlain ord hres closed he hex hA (used hs hex) result inv hx hk hs hc).mono
      fun _ _ h => wired hex h

/-- A value that no operation defines gets a node of its own. -/
theorem wp_newVar (cat : c.programs.Catalogued) {v : Value} {info : ValueInfo} {name : String}
    (hv : c.aliasKey? v = none) (hd : c.programs.definition? v = none)
    (hi : c.programs.info? v = some info) (hf : s.graph.findNode v v.program = none)
    (inv : c.Invariant A D s) :
    wp (do
      let n ← Build.attempt (·.addNode v.program (.var v) name)
      Build.update (·.bindValue v n)
      return some n)
      (fun r s' => c.Advances A D N s s' ∧ r = s'.graph.findNode v v.program ∧ r.isSome = true)
      c.Stopped s := by
  refine wp_addVar (fun n g hg => ?_) (c.stopped_full _)
  have role : g.role? n = some (v.program, .var v) := by
    obtain ⟨rfl, rfl⟩ := Graph.addNode_eq_ok hg
    exact Graph.role?_place_fresh ..
  have node : NewNode s.graph (g.bindValue v n) (some v) n :=
    .bindResult (.addNode hg) role fun w hw => ⟨hw, by simp [NodeKind.category]⟩
  have sound := inv.toSound.newVar cat node hv hd hi
  rw [inv.byClass.findNode_of_none hv] at hf
  refine ⟨inv.advances sound (node.keeps fun w hw => ?_) subset_rfl fun _ _ h => Or.inl h,
    (NewNode.findNode node sound rfl hv).symm, rfl⟩
  cases hw
  exact hf

end Expand

/-! ## Resolving a value -/

theorem resolves_resolve {c : BuildContext} (ord : c.programs.Orderly) (k : Nat) :
    c.Resolves (c.resolve k) k := by
  induction k with
  | zero => exact fun _ _ _ _ _ _ _ _ _ hk => absurd hk (Nat.not_lt_zero _)
  | succ k ih =>
    intro p v A D N s closed hv inv hk
    have stay : c.Advances A D N s s := ⟨inv, .refl N s⟩
    have found : ∀ n : NodeId, some n = none → c.barren p v = true := by
      intro n hn
      cases hn
    simp only [BuildContext.resolve, monadLift_self]
    split
    · next hp =>
      refine ⟨stay, ?_, fun _ => by simp [barren, hp]⟩
      rw [Graph.findNode, if_neg hp]
    · next hp =>
      cases not_not.1 hp
      rw [wp_bind, wp_graph]
      split
      · next n hn => exact ⟨stay, hn.symm, found n⟩
      · next hf =>
        split
        · next j hj =>
          rw [wp_map]
          refine wp_memNodeFor (fun n g hm => ?_) (c.stopped_full _) (c.stopped_inconsistent hj)
          exact ⟨inv.bindMem hj hm (hv rfl), (findNode_bindMem inv.toSound hj hm).1.symm, found n⟩
        · next hj =>
          split
          · next op hd =>
            rw [wp_bind]
            refine (wp_expandDefinition ord ih closed (hv rfl) hj hd hf inv (Nat.lt_succ_iff.1 hk)).mono
              fun x s' hs' => ?_
            obtain ⟨adv, bound, lost⟩ := hs'
            rw [wp_bind, wp_graph, wp_pure]
            cases hex : c.excluded op with
            | false =>
              obtain ⟨n, hn⟩ := Option.isSome_iff_exists.1 (bound hex)
              rw [hn]
              exact ⟨adv, rfl, found n⟩
            | true =>
              have hb : c.barren v.program v = true := by simp [barren, hj, hd, hex]
              rw [lost hex, adv.inv.findNode_barren hb]
              exact ⟨adv, rfl, fun _ => hb⟩
          · next hd =>
            split
            · next info hi =>
              refine (wp_newVar (N := N) ord.toCatalogued hj hd hi hf inv).mono fun r s' hs' => ?_
              obtain ⟨adv, hr, hn⟩ := hs'
              obtain ⟨n, rfl⟩ := Option.isSome_iff_exists.1 hn
              exact ⟨adv, hr, found n⟩
            · next hi =>
              refine ⟨stay, hf.symm, fun _ => ?_⟩
              simp [barren, hj, hd, hi]

end BuildContext

end PeerTaint
