import PeerTaint.Proofs.Extraction

/-!
Looking values up in an extracted graph.

The copy of a node keeps what the node stands for, and the indices of the extracted graph are made from
that alone. A value that resolves to a node of its own still does, since a builder lets a value resolve to
the youngest of the nodes that define it (`Leads`). A pointer that resolves to the node of its class no
longer does, since the node of a class does not say which pointers it was made for. The arguments of a call
are handles, and they are copied as they are, so they mean another node as soon as an older one is left out.
-/

namespace PeerTaint

namespace BuildContext

/-! ## The youngest node of a value -/

/-- Values that resolve to a node of their own have no class, and no younger node defines them. -/
structure Leads (c : BuildContext) (g : Graph) : Prop where
  scalar : ∀ v n, g.valueNodes.get? v = some n → c.aliasKey? v = none
  youngest : ∀ v (n m : Nat) p kind, g.valueNodes.get? v = some n → g.role? m = some (p, kind) →
    kind.Defines v → m ≤ n

section Leads

variable {c : BuildContext} {g g' : Graph}

/-- A new node is the youngest. It has to be bound to what it defines, up to pointers. -/
theorem Leads.step (h : c.Leads g)
    (value : ∀ v n, g'.valueNodes.get? v = some n →
      g.valueNodes.get? v = some n ∨ n = g.slots.size ∧ c.aliasKey? v = none)
    (role : ∀ v m p kind, g'.role? m = some (p, kind) → kind.Defines v → g.role? m = some (p, kind) ∨
      m = g.slots.size ∧ (c.aliasKey? v = none → g'.valueNodes.get? v = some m)) : c.Leads g' := by
  have scalar : ∀ v n, g'.valueNodes.get? v = some n → c.aliasKey? v = none := by
    intro v n hn
    rcases value v n hn with old | ⟨-, hk⟩
    · exact h.scalar v n old
    · exact hk
  refine ⟨scalar, fun v n m p kind hn hm defines => ?_⟩
  rcases role v m p kind hm defines with old | ⟨-, bound⟩
  · rcases value v n hn with hn | ⟨rfl, -⟩
    · exact h.youngest v n m p kind hn old defines
    · exact (Graph.lt_size_of_role? old).le
  · have same := bound (scalar v n hn)
    rw [hn] at same
    exact (Option.some.inj same).ge

theorem Leads.congr (h : c.Leads g) (value : g'.valueNodes = g.valueNodes)
    (role : ∀ n, g'.role? n = g.role? n) : c.Leads g' :=
  h.step (fun _ _ hn => .inl (value ▸ hn)) fun _ m _ _ hm _ => .inl (role m ▸ hm)

/-- A new node that defines nothing changes nothing. -/
theorem Leads.place (h : c.Leads g) {x : Node} (none : ∀ v, ¬ x.kind.Defines v) : c.Leads (g.place x) := by
  refine h.step (fun v n hn => .inl (valueNodes_place g x ▸ hn)) fun v m p kind hm defines => ?_
  rw [Graph.role?_place] at hm
  split at hm
  · cases hm
    exact absurd (NodeKind.defines_bare.1 defines) (none v)
  · exact .inl hm

/-- A new node that is bound to what it defines leads. -/
theorem Leads.bindResult (h : c.Leads g) {p : Program} {kind : NodeKind} {label : String} {r : Option Value}
    {n : NodeId} {g₁ : Graph} (made : g.addNode p kind label = .ok (n, g₁)) (idle : g₁.Idles g')
    (stands : ∀ v, r = some v ↔ kind.Defines v ∧ c.aliasKey? v = none) :
    c.Leads (bindResult r n g') := by
  obtain ⟨rfl, rfl⟩ := Graph.addNode_eq_ok made
  have old : g'.valueNodes = g.valueNodes := idle.same.value.trans (valueNodes_place ..)
  refine h.step (fun v n hn => ?_) fun v m q kind' hm defines => ?_
  · cases r with
    | none => exact .inl (old ▸ hn)
    | some w =>
      change (g'.valueNodes.insert w _).get? v = some n at hn
      rw [SortedMap.get?_insert, old] at hn
      split at hn
      · next same => exact .inr ⟨(Option.some.inj hn).symm, ((stands v).1 (same ▸ rfl)).2⟩
      · exact .inl hn
  · rw [role?_bindResult, idle.role, Graph.role?_place] at hm
    split at hm
    · next new =>
      cases hm
      refine .inr ⟨new, fun hk => ?_⟩
      rw [new]
      exact valueNodes_bindResult ((stands v).2 ⟨NodeKind.defines_bare.1 defines, hk⟩)
    · exact .inl hm

theorem Event.leads {M : Mandate} {s s' : BuildState} (e : c.Event M s s') (wf : s.graph.WellFormed)
    (h : c.Leads s.graph) : c.Leads s'.graph := by
  have silent : ∀ {kind : NodeKind}, kind.category = .mem ∨ kind.category = .input →
      ∀ v, ¬ kind.Defines v := by
    rintro kind hkind v ⟨hv, noInput⟩
    cases kind <;> simp_all [NodeKind.category, NodeKind.value?]
  cases e with
  | touch idle => exact h.congr idle.same.value idle.role
  | memory due pointer made =>
    rcases Graph.memNode_eq_ok made with ⟨-, rfl⟩ | ⟨-, -, rfl⟩
    · exact h.congr rfl fun _ => rfl
    · exact (h.place (silent (.inl rfl))).congr rfl fun _ => rfl
  | operation due new free opcode own made idle =>
    rw [BuildState.graph_note]
    exact h.bindResult made idle fun v => by rw [boundResult?_eq_some_iff, nodeKind_defines_iff]
  | @«variable» v name n g scalar undefined known free made =>
    refine h.bindResult (r := some v) made (.refl g) fun w => ?_
    simp [NodeKind.Defines, NodeKind.value?, NodeKind.category]
    exact fun hw => hw ▸ scalar
  | note => rwa [BuildState.graph_note]
  | input due made =>
    rcases Graph.inputNode_eq_ok made with ⟨-, rfl⟩ | ⟨-, -, label, rfl⟩
    · exact h
    · exact (h.place (silent (.inr rfl))).congr rfl fun _ => rfl
  | @retire n x info g due call removed =>
    obtain ⟨-, r⟩ := Graph.removed_of_removeNode wf.toLinked removed
    refine h.step (fun v m hm => .inl ?_) fun v m p kind hm _ => .inl ?_
    · change g.valueNodes.get? v = some m at hm
      rw [r.value, SortedMap.get?_filterValues] at hm
      exact (Option.filter_eq_some_iff.1 hm).1
    · change g.role? m = some (p, kind) at hm
      rw [r.role?] at hm
      split at hm
      · cases hm
      · exact hm

end Leads

theorem Events.leads {c : BuildContext} {M : Mandate} {s s' : BuildState} (e : c.Events M s s')
    (wf : s.graph.WellFormed) (h : c.Leads s.graph) : c.Leads s'.graph := by
  induction e with
  | refl => exact h
  | tail before step ih => exact step.leads (Events.wellFormed before wf) ih

/-- What builders make of the empty graph that consult `c`, one request after the other. A builder may have
visited any operations before. -/
def built (c : BuildContext) (requests : List (SortedMap Nat (Option NodeId) × BuildRequest)) : Graph :=
  Graph.after (requests.map fun r => .build c r.1 r.2)

theorem leads_built (c : BuildContext) (requests : List (SortedMap Nat (Option NodeId) × BuildRequest)) :
    c.Leads (c.built requests) := by
  induction requests using List.reverseRecOn with
  | nil =>
    constructor
    · intro v n hn
      cases hn
    · intro v n m p kind hn
      cases hn
  | append_singleton requests r ih =>
    have wf : (c.built requests).WellFormed := Graph.wellFormed_after _
    rw [built, List.map_append, Graph.after_append]
    change c.Leads (Mutation.accepted (c.built requests)
      (((r.2.run c : Build Unit).run ⟨c.built requests, r.1⟩).map fun a => ((), a.2.graph)))
    cases run : (r.2.run c).run ⟨c.built requests, r.1⟩ with
    | error f => exact ih
    | ok a => exact Events.leads ((wp_request_events wf r.2).run run) wf ih

end BuildContext

/-! ## Ascending numbers -/

section Ascending

variable {ns : List Nat} (ascending : ns.Pairwise (· < ·))
include ascending

theorem lt_of_ascending {i j a b : Nat} (ha : ns[i]? = some a) (hb : ns[j]? = some b) (lt : i < j) :
    a < b := by
  obtain ⟨hi, rfl⟩ := List.getElem?_eq_some_iff.1 ha
  obtain ⟨hj, rfl⟩ := List.getElem?_eq_some_iff.1 hb
  exact List.pairwise_iff_getElem.1 ascending i j hi hj lt

theorem mem_take_of_ascending {j b : Nat} (hb : ns[j]? = some b) (i : Nat) :
    i ∈ ns.take (j + 1) ↔ i ∈ ns ∧ i ≤ b := by
  constructor
  · intro hi
    refine ⟨List.mem_of_mem_take hi, ?_⟩
    obtain ⟨k, hk⟩ := List.getElem?_of_mem hi
    rw [List.getElem?_take] at hk
    split at hk
    · next lt =>
      rcases Nat.lt_succ_iff_lt_or_eq.1 lt with less | rfl
      · exact (lt_of_ascending ascending hk hb less).le
      · exact (Option.some.inj (hk.symm.trans hb)).le
    · cases hk
  · rintro ⟨hi, le⟩
    obtain ⟨k, hk⟩ := List.getElem?_of_mem hi
    have : ¬ j < k := by
      intro less
      have := lt_of_ascending ascending hb hk less
      omega
    refine List.mem_of_getElem? (i := k) ?_
    rw [List.getElem?_take, if_pos (by omega), hk]

/-- A number stands at its own place exactly when no smaller one is left out. -/
theorem eq_place_iff {j b : Nat} (hb : ns[j]? = some b) : b = j ↔ ∀ i ≤ b, i ∈ ns := by
  -- the numbers up to place `j` are some of those up to `b`, and there are `j + 1` of them
  have length : (ns.take (j + 1)).length = j + 1 := by
    have := (List.getElem?_eq_some_iff.1 hb).1
    rw [List.length_take]
    omega
  have within : (ns.take (j + 1)).Subperm (List.range (b + 1)) := by
    refine List.subperm_of_subset ((ascending.imp Nat.ne_of_lt).sublist (List.take_sublist ..)) fun i hi => ?_
    have := ((mem_take_of_ascending ascending hb i).1 hi).2
    exact List.mem_range.2 (by omega)
  constructor
  · rintro rfl i hi
    have perm := within.perm_of_length_le (by rw [length, List.length_range])
    have hi := perm.mem_iff.2 (List.mem_range.2 (by omega : i < b + 1))
    exact ((mem_take_of_ascending ascending hb i).1 hi).1
  · intro all
    have covers : List.range (b + 1) ⊆ ns.take (j + 1) := by
      intro i hi
      have le : i ≤ b := by
        have := List.mem_range.1 hi
        omega
      exact (mem_take_of_ascending ascending hb i).2 ⟨all i le, le⟩
    have le := within.length_le
    have ge := (List.subperm_of_subset List.nodup_range covers).length_le
    rw [length, List.length_range] at le ge
    omega

end Ascending

/-! ## Looking up in a copy -/

namespace Graph.Extracted

variable {g : Graph} {src dst : NodeId} {sub : Subgraph} (h : Extracted g src dst sub)
include h

/-- In a copy, values resolve to the youngest kept node that defines them. -/
theorem findNode_eq_some_iff {v : Value} {p : Program} {m : Nat} :
    sub.graph.findNode v p = some m ↔ v.program = p ∧ g.Newest sub.origin v m := by
  obtain ⟨copy, -, copied, rewired⟩ := h.copied
  rw [← copied.value, findNode, rewired.same.value, rewired.same.memValue, copied.memValues]
  split
  · next hp => simp [hp]
  · next hp => simp [hp]

theorem args {m : Nat} {n : NodeId} (hm : sub.origin[m]? = some n) : sub.graph.args m = g.args n := by
  have kind : ∀ x : Node, (x.detached 0).kind = x.kind := fun _ => rfl
  have same := congrArg (Option.map fun x : Node => x.kind.args) (h.node m)
  simp only [hm, Option.bind_some, Option.map_map, Function.comp_def, kind] at same
  rw [Graph.args, Graph.args, same]

/-- A kept node still stands for what resolved to it, unless it is the node of a class. -/
theorem findNode_iff {c : BuildContext} (wf : WellFormed g) (leads : c.Leads g) {v : Value} {p : Program}
    {m n : Nat} (hn : g.findNode v p = some n) (hm : sub.origin[m]? = some n) :
    sub.graph.findNode v p = some m ↔ g.isMem n = false := by
  rw [h.findNode_eq_some_iff]
  constructor
  · rintro ⟨-, ⟨n', x, hm', hx, defines⟩, -⟩
    cases hm.symm.trans hm'
    have hkind : x.kind.isMem = false := by
      cases hk : x.kind <;> simp_all [NodeKind.Defines, NodeKind.value?, NodeKind.isMem]
    simp [isMem, hx, Node.isMem, hkind]
  · intro noMem
    rw [findNode] at hn
    split at hn
    · next hp =>
      have value : g.valueNodes.get? v = some n := by
        cases hv : g.memValues.get? v with
        | none => simpa [hv] using hn
        | some n' =>
          obtain ⟨q, k, role⟩ := wf.memValue v n' hv
          have same : n' = n := by simpa [hv] using hn
          rw [← same, isMem_of_role? role] at noMem
          cases noMem
      obtain ⟨q, kind, role, defines⟩ := wf.value v n value
      obtain ⟨x, hx, -, rfl⟩ := role?_eq_some_iff.1 role
      refine ⟨hp, ⟨n, x, hm, hx, NodeKind.defines_bare.1 defines⟩, fun m' n' y hm' hy defines' => ?_⟩
      have le := leads.youngest v n n' _ _ value (role?_eq_some_iff.2 ⟨y, hy, rfl, rfl⟩)
        (NodeKind.defines_bare.2 defines')
      by_contra lt
      have ascending : sub.origin.Pairwise (· < ·) := h.origin ▸ kept_ascending
      have := lt_of_ascending ascending hm hm' (by omega)
      omega
    · cases hn

end Graph.Extracted

namespace BuildContext

/-- Whatever a builder made and whichever part of it is extracted, a value that resolves to a kept node
resolves to its copy exactly when the node is not that of a class. A copied call has the arguments of the
original; one that names a kept node names its copy exactly when no older node is left out. -/
theorem subgraph_lookups (c : BuildContext)
    (requests : List (SortedMap Nat (Option NodeId) × BuildRequest)) (src dst : NodeId) :
    ∃ sub, (c.built requests).subgraph src dst = .ok sub ∧ ∀ n m, sub.local? n = some m →
      (∀ v p, (c.built requests).findNode v p = some n →
        (sub.graph.findNode v p = some m ↔ (c.built requests).isMem n = false)) ∧
      sub.graph.args m = (c.built requests).args n ∧
      ∀ (i : Nat) a b, ((c.built requests).args n)[i]? = some (some a) → sub.local? a = some b →
        ((sub.graph.args m)[i]? = some (some b) ↔ ∀ j ≤ a, j ∈ sub.origin) := by
  have wf : (c.built requests).WellFormed := Graph.wellFormed_after _
  obtain ⟨sub, run, h⟩ := Graph.exists_subgraph wf.toLinked (Graph.size_after_le _) src dst
  refine ⟨sub, run, fun n m hm => ?_⟩
  rw [h.local?_eq_some_iff] at hm
  refine ⟨fun v p hn => h.findNode_iff wf (c.leads_built requests) hn hm, h.args hm, ?_⟩
  intro i a b ha hb
  rw [h.local?_eq_some_iff] at hb
  have ascending : sub.origin.Pairwise (· < ·) := h.origin ▸ Graph.kept_ascending
  rw [h.args hm, ha, Option.some.injEq, Option.some.injEq]
  exact eq_place_iff ascending hb

/-- Something else is computed first. Then `x` is read from `buf` and passed on. -/
def readBuffer : BuildContext where
  programs := .ofRoutines
    [(.first, .pointer "buf"), (.first, .scalar "t"), (.first, .scalar "x"), (.first, .scalar "y")]
    [{ name := "main", program := .first, operations :=
        [{ opcode := .binary, operands := [], result := some ⟨.first, 1⟩ },
          { opcode := .load, operands := [⟨.first, 0⟩], result := some ⟨.first, 2⟩ },
          { opcode := .call, operands := [⟨.first, 2⟩], target := some "use",
            result := some ⟨.first, 3⟩ }] }]
  oracle := (AliasPartition.ofLists [[⟨.first, 0⟩]]).oracle
  naming := {}
  config := {}
  levels := fun _ _ _ => .empty

/-- Between `buf` and the call, the node `2` of `buf` and the node `1` of `x` are kept, as `1` and `0`. But
`buf` resolves to nothing, and the call takes the handle `1` still, which is now that of `buf`. -/
theorem lookup_lost_readBuffer : ∃ sub,
    (readBuffer.built [(.empty, .all)]).subgraph 2 3 = .ok sub ∧
      (readBuffer.built [(.empty, .all)]).findNode ⟨.first, 0⟩ .first = some 2 ∧
      (readBuffer.built [(.empty, .all)]).args 3 = [some 1] ∧
      sub.local? 1 = some 0 ∧ sub.local? 2 = some 1 ∧ sub.local? 3 = some 2 ∧
      sub.graph.findNode ⟨.first, 0⟩ .first = none ∧ sub.graph.args 2 = [some 1] := by
  have outcome : ((readBuffer.built [(.empty, .all)]).subgraph 2 3).map (fun sub =>
      ([1, 2, 3].map sub.local?, sub.graph.findNode ⟨.first, 0⟩ .first, sub.graph.args 2)) =
      .ok ([some 0, some 1, some 2], none, [some 1]) := by decide +kernel
  obtain ⟨sub, run, found⟩ := exists_of_map_eq_ok outcome
  simp only [Prod.mk.injEq, List.map_cons, List.map_nil, List.cons.injEq, and_true] at found
  obtain ⟨⟨local₁, local₂, local₃⟩, lost, args⟩ := found
  exact ⟨sub, run, by decide +kernel, by decide +kernel, local₁, local₂, local₃, lost, args⟩

end BuildContext

end PeerTaint
