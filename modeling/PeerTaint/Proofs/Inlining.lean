import PeerTaint.Proofs.Bypass
import PeerTaint.Proofs.Splicing

/-!
Splicing calls and inlining them.

Inlining all known calls at once is said about the graph before: an argument leads to the parameter,
and a returned value leads to the call (`junction`). Parameters and returned values may have no node
there yet; they have a spot, which gets its node while calls are spliced. Splicing takes one call out
after the other, so what leads where afterwards is what `Junction.Kept` says, and all of what inlining
leads to is kept in an order that is lossless.
-/

namespace PeerTaint

open Relation (ReflTransGen)

/-- A node of a graph, or what a value without a node there gets: the node of its alias class, or one
of its own. -/
inductive Spot where
  | node (n : NodeId)
  | mem (p : Program) (k : AliasKey)
  | var (v : Value)
  deriving DecidableEq

/-- The node of a spot in a later graph. -/
def Spot.node? (g : Graph) : Spot → Option NodeId
  | .node n => some n
  | .mem p k => g.findMem p k
  | .var v => g.valueNodes.get? v

/-- The edges of a graph, as edges between spots. -/
def Graph.SpotEdge (g : Graph) (x y : Spot) : Prop := ∃ a b, x = .node a ∧ y = .node b ∧ g.Edge a b

theorem Graph.mem_args_iff {g : Graph} {n : NodeId} {a : Option NodeId} :
    a ∈ g.args n ↔ ∃ x, g.node? n = some x ∧ a ∈ x.kind.args := by
  unfold args
  cases g.node? n <;> simp

theorem Graph.Supplied.isLive_arg {g : Graph} (h : g.Supplied) {e : NodeId × Routine} {a : NodeId} {v : Value}
    (ha : (some a, v) ∈ (g.args e.1).zip e.2.params) : g.isLive a = true := by
  obtain ⟨x, hx, mem⟩ := Graph.mem_args_iff.1 (List.of_mem_zip ha).1
  exact h e.1 x a hx mem

namespace BuildContext

variable {c : BuildContext} {p : Program} {v : Value} {n : NodeId} {x y : Spot}

/-! ## Spots -/

/-- The spot of a value: the node it stands for, or the one it would get. -/
def spot? (c : BuildContext) (g : Graph) (p : Program) (v : Value) : Option Spot :=
  match g.findNode v p with
  | some n => some (.node n)
  | none =>
    if v.program ≠ p then none
    else
      match c.aliasKey? v with
      | some k => some ((g.findMem p k).elim (.mem p k) .node)
      | none =>
        if c.programs.definition? v = none ∧ (c.programs.info? v).isSome = true then some (.var v)
        else none

/-- A spot of a graph: a live node, or the spot of a value. -/
def IsSpot (c : BuildContext) (g : Graph) (x : Spot) : Prop :=
  (∃ n, x = .node n ∧ g.isLive n = true) ∨ ∃ p v, c.spot? g p v = some x

/-- A call, with the spots of its arguments, of the parameters and of the returned values. -/
def junction (c : BuildContext) (g : Graph) (e : NodeId × Routine) : Junction Spot where
  node := .node e.1
  pass x y := ∃ a v, x = .node a ∧ (some a, v) ∈ (g.args e.1).zip e.2.params ∧
    c.spot? g e.2.program v = some y
  ret x := ∃ v ∈ e.2.returned, c.spot? g e.2.program v = some x

theorem spot?_cases {g : Graph} (h : c.spot? g p v = some x) :
    (∃ n, g.findNode v p = some n ∧ x = .node n) ∨
      (v.program = p ∧ g.findNode v p = none ∧ c.Fetchable v) ∧
        ((∃ k n, g.findMem p k = some n ∧ x = .node n) ∨
          (∃ k, g.findMem p k = none ∧ x = .mem p k) ∨
          (c.aliasKey? v = none ∧ c.programs.definition? v = none) ∧ x = .var v) := by
  unfold spot? at h
  split at h
  · next n hn =>
    cases h
    exact Or.inl ⟨n, hn, rfl⟩
  · next none =>
    split at h
    · cases h
    · next hp =>
      refine Or.inr ?_
      split at h
      · next k hk =>
        cases h
        refine ⟨⟨not_not.1 hp, none, Or.inl (by rw [hk]; rfl)⟩, ?_⟩
        cases hm : g.findMem p k with
        | some n => exact Or.inl ⟨k, n, hm, rfl⟩
        | none => exact Or.inr (Or.inl ⟨k, hm, rfl⟩)
      · next scalar =>
        split at h
        · next undefined =>
          cases h
          exact ⟨⟨not_not.1 hp, none, Or.inr undefined⟩, Or.inr (Or.inr ⟨⟨scalar, undefined.1⟩, rfl⟩)⟩
        · cases h

theorem spot?_of_findNode {g : Graph} (h : g.findNode v p = some n) : c.spot? g p v = some (.node n) := by
  rw [spot?, h]

/-! ## The node of a spot in the spliced graph -/

section Node

variable {start s last : BuildState} {done rest : List (NodeId × Routine)} {b : NodeId}
  (cat : c.programs.Catalogued) (fin : c.Finished start) (before : c.Splices done start s)
  (after : c.Splices rest s last) (hdone : ∀ e ∈ done, Calls start.graph e)
  (hrest : ∀ e ∈ rest, Calls s.graph e)
include cat fin before after hdone hrest

/-- While calls are spliced, a value stands for the node of its spot. -/
theorem node?_spot_of_findNode (hb : s.graph.findNode v p = some b) :
    (c.spot? start.graph p v).bind (Spot.node? last.graph) = some b := by
  have inv := Moves.grounded cat before.moves fin.toGrounded
  rcases Moves.findNode_back cat before.moves fin hb with found | fetchable
  · rw [spot?_of_findNode found]
    rfl
  · have hp := program_of_findNode hb
    -- what no call stands for is still there
    have live : last.graph.isLive b = true :=
      after.isLive_of_ne (inv.lives_findNode hb) fun e he => (hrest e he).ne_fetchable inv fetchable hb
    cases found : start.graph.findNode v p with
    | some m =>
      have still := before.isLive_of_ne (fin.lives_findNode found)
        fun e he => (hdone e he).ne_fetchable fin.toGrounded fetchable found
      have same := Moves.findNode cat before.moves fin.toGrounded found still
      rw [hb] at same
      cases same
      rw [spot?_of_findNode found]
      rfl
    | none =>
      rcases inv.role?_fetchable fetchable hb with ⟨k, hk, hm, role⟩ | ⟨scalar, role⟩
      · cases hm₀ : start.graph.findMem p k with
        | some m =>
          have role₀ := fin.wf.mem _ _ _ hm₀
          have still := before.isLive_of_ne ⟨_, role₀⟩ fun e he => (hdone e he).ne_of_role? role₀ nofun
          have same := Moves.findMem cat before.moves fin.toGrounded hm₀ still
          rw [hm] at same
          cases same
          simp [spot?, found, hp, hk, hm₀, Spot.node?]
        | none =>
          have later := Moves.findMem cat after.moves inv hm live
          simp [spot?, found, hp, hk, hm₀, Spot.node?, later]
      · have undefined := fetchable.resolve_left (by simp [scalar])
        have later := Moves.findNode cat after.moves inv hb live
        subst hp
        rw [(Moves.grounded cat after.moves inv).byClass.findNode_of_none scalar] at later
        simp [spot?, found, scalar, undefined, Spot.node?, later]

theorem findNode_iff_spot (fetches : c.Fetches p v s) : s.graph.findNode v p = some b ↔
    (c.spot? start.graph p v).bind (Spot.node? last.graph) = some b ∧ b ∉ done.map (·.1) := by
  have inv := Moves.grounded cat before.moves fin.toGrounded
  constructor
  · intro hb
    refine ⟨node?_spot_of_findNode cat fin before after hdone hrest hb, fun mem => ?_⟩
    obtain ⟨e, he, rfl⟩ := List.mem_map.1 mem
    have live := (inv.lives_findNode hb).isLive
    exact ((before.isLive (hdone e he).1.lt).1 live).2 mem
  · rintro ⟨hx, fresh⟩
    obtain ⟨x, hspot, hnode⟩ := Option.bind_eq_some_iff.1 hx
    rcases spot?_cases hspot with ⟨m, hm, rfl⟩ | ⟨⟨hp, -, fetchable⟩, -⟩
    · cases hnode
      have lives := fin.lives_findNode hm
      exact Moves.findNode cat before.moves fin.toGrounded hm
        ((before.isLive lives.given.lt).2 ⟨lives.isLive, fresh⟩)
    · obtain ⟨m, hm⟩ := Option.isSome_iff_exists.1 (fetches hp fetchable)
      have same := node?_spot_of_findNode cat fin before after hdone hrest hm
      rw [hx] at same
      cases same
      exact hm

end Node

/-! ## Calls are taken out one after the other -/

/-- A call, with the nodes that the spots of its parameters and returned values get. -/
def nodeJunction (c : BuildContext) (g g' : Graph) (e : NodeId × Routine) : Junction NodeId where
  node := e.1
  pass a b := ∃ v, (some a, v) ∈ (g.args e.1).zip e.2.params ∧
    (c.spot? g e.2.program v).bind (Spot.node? g') = some b
  ret a := ∃ v ∈ e.2.returned, (c.spot? g e.2.program v).bind (Spot.node? g') = some a

/-- A value that a call exchanges with its routine: a parameter that it passes an argument to, or a
returned value. -/
def Exchanges (g : Graph) (e : NodeId × Routine) (v : Value) : Prop :=
  (∃ a, (some a, v) ∈ (g.args e.1).zip e.2.params) ∨ v ∈ e.2.returned

section Sequence

variable {start s last : BuildState} {done rest : List (NodeId × Routine)}
  (cat : c.programs.Catalogued) (fin : c.Finished start) (supplied : start.graph.Supplied)
include cat fin supplied

/-- One more call is taken out. -/
theorem Spliced.bypassed {s₁ : BuildState} {e : NodeId × Routine} (first : c.Spliced e s s₁)
    (before : c.Splices done start s) (after : c.Splices rest s₁ last)
    (hdone : ∀ d ∈ done ++ [e], Calls start.graph d) (hrest : ∀ d ∈ rest, Calls s₁.graph d)
    (fresh : e.1 ∉ done.map (·.1)) :
    (c.nodeJunction start.graph last.graph e).Bypassed (done.map (·.1)) s.graph.Edge s₁.graph.Edge ∧
      ∀ v, Exchanges start.graph e v → c.Fetches e.2.program v s₁ := by
  have call := hdone e (List.mem_append_right _ (List.mem_singleton_self e))
  have args : s.graph.args e.1 = start.graph.args e.1 := before.args call.1.lt fresh
  have fetches : ∀ v, Exchanges start.graph e v → c.Fetches e.2.program v s₁ := by
    rintro v (⟨a, h⟩ | h)
    · exact first.params a v (args ▸ h)
    · exact first.returned v h
  have found : ∀ {v b}, Exchanges start.graph e v → b ≠ e.1 → (s₁.graph.findNode v e.2.program = some b ↔
      (c.spot? start.graph e.2.program v).bind (Spot.node? last.graph) = some b ∧ b ∉ done.map (·.1)) := by
    intro v b exchanged hb
    rw [findNode_iff_spot cat fin (before.snoc first) after hdone hrest (fetches v exchanged), List.map_append,
      List.mem_append, not_or]
    simp [hb]
  refine ⟨fun a b => ?_, fetches⟩
  rw [first.edge]
  refine and_congr_right fun ha => and_congr_right fun hb =>
    or_congr_right (and_congr_right fun _ => or_congr ?_ (and_congr_left fun _ => ?_))
  · have live : ∀ {v}, (some a, v) ∈ (start.graph.args e.1).zip e.2.params →
        (s.graph.isLive a = true ↔ a ∉ done.map (·.1)) := by
      intro v h
      have alive := supplied.isLive_arg h
      obtain ⟨y, hy⟩ := Graph.isLive_iff.1 alive
      rw [before.isLive (Graph.lt_size_of_node? hy), alive, eq_self_iff_true, true_and]
    unfold Passed
    rw [args]
    constructor
    · rintro ⟨alive, v, h, hv⟩
      obtain ⟨hv, target⟩ := (found (Or.inl ⟨a, h⟩) hb).1 hv
      exact ⟨⟨v, h, hv⟩, (live h).1 alive, target⟩
    · rintro ⟨⟨v, h, hv⟩, source, target⟩
      exact ⟨(live h).2 source, v, h, (found (Or.inl ⟨a, h⟩) hb).2 ⟨hv, target⟩⟩
  · constructor
    · rintro ⟨v, h, hv⟩
      obtain ⟨hv, source⟩ := (found (Or.inr h) ha).1 hv
      exact ⟨⟨v, h, hv⟩, source⟩
    · rintro ⟨⟨v, h, hv⟩, source⟩
      exact ⟨v, h, (found (Or.inr h) ha).2 ⟨hv, source⟩⟩

theorem Splices.bypassedAll (before : c.Splices done start s) (after : c.Splices rest s last)
    (hcalls : ∀ e ∈ done ++ rest, Calls start.graph e) (nodup : ((done ++ rest).map (·.1)).Nodup) :
    Junction.BypassedAll (rest.map (c.nodeJunction start.graph last.graph)) (done.map (·.1))
      s.graph.Edge last.graph.Edge ∧
    ∀ e ∈ rest, ∀ v y, Exchanges start.graph e v → c.spot? start.graph e.2.program v = some y →
      (y.node? last.graph).isSome = true := by
  induction after generalizing done with
  | nil s => exact ⟨.nil _ _, nofun⟩
  | @cons e es s s₁ last first tail ih =>
    rw [List.append_cons] at hcalls nodup
    have hdone : ∀ d ∈ done ++ [e], Calls start.graph d := fun d hd => hcalls d (List.mem_append_left _ hd)
    have disjoint := List.disjoint_of_nodup_append (List.map_append ▸ nodup)
    have fresh : e.1 ∉ done.map (·.1) := by
      rw [List.map_append, List.nodup_append, List.map_append, List.nodup_append] at nodup
      exact fun mem => nodup.1.2.2 e.1 mem e.1 (List.mem_singleton_self _) rfl
    have hrest : ∀ d ∈ es, Calls s₁.graph d := fun d hd =>
      (before.snoc first).calls cat fin.toGrounded (fun mem => disjoint mem (List.mem_map_of_mem hd))
        (hcalls d (List.mem_append_right _ hd))
    obtain ⟨bypassed, fetches⟩ := first.bypassed cat fin supplied before tail hdone hrest fresh
    obtain ⟨others, settled⟩ := ih (before.snoc first) hcalls nodup
    rw [List.map_append] at others
    refine ⟨.cons bypassed others, fun d hd v y exchanged hy => ?_⟩
    rcases List.mem_cons.1 hd with rfl | hd
    · rcases spot?_cases hy with ⟨n, -, rfl⟩ | ⟨⟨hp, -, fetchable⟩, -⟩
      · rfl
      · obtain ⟨b, hb⟩ := Option.isSome_iff_exists.1 (fetches v exchanged hp fetchable)
        have node := node?_spot_of_findNode cat fin (before.snoc first) tail hdone hrest hb
        rw [hy, Option.bind_some] at node
        rw [node]
        rfl
    · exact settled d hd v y exchanged hy

end Sequence

/-! ## Spots and their nodes -/

/-- A node of the spliced graph and the spot it is the node of. -/
def Occupies (c : BuildContext) (g g' : Graph) (n : NodeId) (x : Spot) : Prop :=
  c.IsSpot g x ∧ x.node? g' = some n

section Occupies

variable {start last : BuildState} {a b : NodeId} (cat : c.programs.Catalogued) (fin : c.Finished start)

theorem occupies_node {g g' : Graph} (live : g.isLive n = true) : c.Occupies g g' n (.node n) :=
  ⟨Or.inl ⟨n, rfl, live⟩, rfl⟩

theorem occupies_spot? {g g' : Graph} (hx : c.spot? g p v = some x) (hn : x.node? g' = some n) :
    c.Occupies g g' n x := ⟨Or.inr ⟨p, v, hx⟩, hn⟩

include fin

theorem isSpot_cases (h : c.IsSpot start.graph x) :
    (∃ n, x = .node n ∧ start.graph.isLive n = true) ∨
      (∃ p k, x = .mem p k ∧ start.graph.findMem p k = none) ∨
      ∃ v, x = .var v ∧ start.graph.valueNodes.get? v = none ∧ c.programs.definition? v = none := by
  rcases h with h | ⟨p, v, h⟩
  · exact Or.inl h
  · rcases spot?_cases h with ⟨n, hn, rfl⟩ | ⟨⟨rfl, none, -⟩, ⟨k, n, hm, rfl⟩ | ⟨k, hm, rfl⟩ |
      ⟨⟨scalar, undefined⟩, rfl⟩⟩
    · exact Or.inl ⟨n, rfl, (fin.lives_findNode hn).isLive⟩
    · have lives : start.graph.Lives v.program n := ⟨_, fin.wf.mem _ _ _ hm⟩
      exact Or.inl ⟨n, rfl, lives.isLive⟩
    · exact Or.inr (Or.inl ⟨_, k, rfl, hm⟩)
    · rw [fin.byClass.findNode_of_none scalar] at none
      exact Or.inr (Or.inr ⟨v, rfl, none, undefined⟩)

variable (inv : c.Grounded last) (conserves : start.graph.Conserves last.graph)
include inv conserves

/-- A new node says what spot it is the node of. -/
theorem Occupies.cases (h : c.Occupies start.graph last.graph n x) :
    (x = .node n ∧ n < start.graph.slots.size ∧ start.graph.isLive n = true) ∨
      start.graph.slots.size ≤ n ∧ ((∃ p k, x = .mem p k ∧ last.graph.role? n = some (p, .mem k)) ∨
        ∃ v, x = .var v ∧ last.graph.role? n = some (v.program, .var v)) := by
  obtain ⟨spot, node⟩ := h
  rcases isSpot_cases fin spot with ⟨m, rfl, live⟩ | ⟨p, k, rfl, none⟩ | ⟨v, rfl, none, undefined⟩
  · cases node
    obtain ⟨y, hy⟩ := Graph.isLive_iff.1 live
    exact Or.inl ⟨rfl, Graph.lt_size_of_node? hy, live⟩
  · refine Or.inr ⟨Nat.not_lt.1 fun hlt => ?_, Or.inl ⟨p, k, rfl, inv.wf.mem _ _ _ node⟩⟩
    cases none.symm.trans (conserves.mem p k n hlt node)
  · refine Or.inr ⟨Nat.not_lt.1 fun hlt => ?_, Or.inr ⟨v, rfl, ((inv.value v n node).own undefined).2⟩⟩
    cases none.symm.trans (conserves.value v n hlt node)

theorem Occupies.unique (h : c.Occupies start.graph last.graph n x)
    (h' : c.Occupies start.graph last.graph n y) : x = y := by
  rcases h.cases fin inv conserves with ⟨rfl, hlt, -⟩ | ⟨hle, ⟨p, k, rfl, role⟩ | ⟨v, rfl, role⟩⟩ <;>
    rcases h'.cases fin inv conserves with ⟨rfl, hlt', -⟩ | ⟨hle', ⟨q, l, rfl, role'⟩ | ⟨w, rfl, role'⟩⟩
  · rfl
  · exact absurd hlt (Nat.not_lt.2 hle')
  · exact absurd hlt (Nat.not_lt.2 hle')
  · exact absurd hlt' (Nat.not_lt.2 hle)
  · cases role.symm.trans role'
    rfl
  · cases congrArg (·.map Prod.snd) (role.symm.trans role')
  · exact absurd hlt' (Nat.not_lt.2 hle)
  · cases congrArg (·.map Prod.snd) (role.symm.trans role')
  · have kinds := congrArg (·.map Prod.snd) (role.symm.trans role')
    cases kinds
    rfl

/-- The node of a spot is there, unless it is a call that was spliced. -/
theorem Occupies.isLive {calls : List (NodeId × Routine)} (splices : c.Splices calls start last)
    (h : c.Occupies start.graph last.graph n x) (kept : n ∉ calls.map (·.1)) :
    last.graph.isLive n = true := by
  rcases h.cases fin inv conserves with ⟨-, hlt, live⟩ | ⟨-, ⟨p, k, -, role⟩ | ⟨v, -, role⟩⟩
  · exact (splices.isLive hlt).2 ⟨live, kept⟩
  · exact Graph.Lives.isLive ⟨_, role⟩
  · exact Graph.Lives.isLive ⟨_, role⟩

end Occupies

/-! ## What leads where -/

/-- What leads where when the calls are inlined, all at once. -/
def InlinedFlow (c : BuildContext) (g : Graph) (calls : List (NodeId × Routine)) : Spot → Spot → Prop :=
  ReflTransGen (Junction.Inlined (calls.map (c.junction g)) g.SpotEdge)

/-- What leads where when the calls are taken out one after the other. -/
def KeptFlow (c : BuildContext) (g : Graph) (calls : List (NodeId × Routine)) : Spot → Spot → Prop :=
  ReflTransGen (Junction.Kept (calls.map (c.junction g)) [] g.SpotEdge)

section Flow

variable {g : Graph} {calls calls' : List (NodeId × Routine)} (perm : calls.Perm calls')
include perm

/-- Nothing leads anywhere that inlining does not lead to, whatever the order. -/
theorem KeptFlow.inlined (h : c.KeptFlow g calls x y) : c.InlinedFlow g calls' x y :=
  ReflTransGen.mono (fun _ _ kept => kept.inlined.congr fun _ => (perm.map _).mem_iff) _ _ h

/-- In a lossless order, everything that inlining leads to is kept. -/
theorem InlinedFlow.kept (lossless : Junction.Lossless (calls.map (c.junction g)))
    (h : c.InlinedFlow g calls' x y) : c.KeptFlow g calls x y :=
  ReflTransGen.mono (fun _ _ step => lossless.kept (step.congr fun _ => (perm.map _).mem_iff.symm)) _ _ h

end Flow

section Reach

variable {start last : BuildState} {calls : List (NodeId × Routine)} (cat : c.programs.Catalogued)
  (fin : c.Finished start) (supplied : start.graph.Supplied) (splices : c.Splices calls start last)
  (hcalls : ∀ e ∈ calls, Calls start.graph e) (nodup : (calls.map (·.1)).Nodup)
include fin supplied hcalls

theorem translation_spot : Junction.Translation (c.Occupies start.graph last.graph) calls
    (c.nodeJunction start.graph last.graph) (c.junction start.graph) start.graph.Edge
    start.graph.SpotEdge where
  unique h h' := Option.some.inj (h.2.symm.trans h'.2)
  node e he := by
    obtain ⟨-, x, -, hx, -⟩ := hcalls e he
    exact occupies_node (Graph.isLive_of_node? hx)
  pass e he a b := by
    rintro ⟨v, h, hb⟩
    obtain ⟨y, hy, hn⟩ := Option.bind_eq_some_iff.1 hb
    exact ⟨.node a, y, occupies_node (supplied.isLive_arg h), occupies_spot? hy hn, a, v, rfl, h, hy⟩
  ret e he a := by
    rintro ⟨v, h, ha⟩
    obtain ⟨x, hx, hn⟩ := Option.bind_eq_some_iff.1 ha
    exact ⟨x, occupies_spot? hx hn, v, h, hx⟩
  edge a b edge := by
    obtain ⟨ha, hb⟩ := fin.wf.isLive_of_hasEdge edge
    exact ⟨.node a, .node b, occupies_node ha, occupies_node hb, a, b, rfl, rfl, edge⟩

include cat splices nodup

theorem translation_node : Junction.Translation (fun x n => c.Occupies start.graph last.graph n x) calls
    (c.junction start.graph) (c.nodeJunction start.graph last.graph) start.graph.SpotEdge
    start.graph.Edge := by
  obtain ⟨-, settled⟩ := Splices.bypassedAll cat fin supplied (.nil start) splices hcalls nodup
  have inv := Moves.grounded cat splices.moves fin.toGrounded
  refine ⟨fun h h' => h.unique fin inv splices.conserves h', fun e he => ?_, ?_, ?_, ?_⟩
  · obtain ⟨-, x, -, hx, -⟩ := hcalls e he
    exact occupies_node (Graph.isLive_of_node? hx)
  · rintro e he _ y ⟨a, v, rfl, h, hy⟩
    obtain ⟨b, hb⟩ := Option.isSome_iff_exists.1 (settled e he v y (Or.inl ⟨a, h⟩) hy)
    exact ⟨a, b, occupies_node (supplied.isLive_arg h), occupies_spot? hy hb, v, h, by rw [hy]; exact hb⟩
  · rintro e he x ⟨v, h, hx⟩
    obtain ⟨a, ha⟩ := Option.isSome_iff_exists.1 (settled e he v x (Or.inr h) hx)
    exact ⟨a, occupies_spot? hx ha, v, h, by rw [hx]; exact ha⟩
  · rintro _ _ ⟨a, b, rfl, rfl, edge⟩
    obtain ⟨ha, hb⟩ := fin.wf.isLive_of_hasEdge edge
    exact ⟨a, b, occupies_node ha, occupies_node hb, edge⟩

omit supplied nodup in
/-- Every node of the spliced graph is the node of a spot. -/
theorem Splices.occupied (live : last.graph.isLive n = true) :
    ∃ x, c.Occupies start.graph last.graph n x := by
  rcases Nat.lt_or_ge n start.graph.slots.size with hlt | hle
  · exact ⟨.node n, occupies_node ((splices.isLive hlt).1 live).1⟩
  · obtain ⟨p, v, hv⟩ := splices.made cat fin.toGrounded hle live
    have spot := node?_spot_of_findNode cat fin splices (.nil last) hcalls nofun hv
    obtain ⟨x, hx, hn⟩ := Option.bind_eq_some_iff.1 spot
    exact ⟨x, occupies_spot? hx hn⟩

/-- What leads where in the spliced graph is what the calls keep. -/
theorem Splices.reaches_iff {u w : NodeId} (hu : c.Occupies start.graph last.graph u x)
    (hw : c.Occupies start.graph last.graph w y) (ku : u ∉ calls.map (·.1)) (kw : w ∉ calls.map (·.1)) :
    last.graph.Reaches u w ↔ c.KeptFlow start.graph calls x y := by
  have inv := Moves.grounded cat splices.moves fin.toGrounded
  obtain ⟨bypassed, -⟩ := Splices.bypassedAll cat fin supplied (.nil start) splices hcalls nodup
  have nodes : (calls.map (c.nodeJunction start.graph last.graph)).map (·.node) = calls.map (·.1) := by
    rw [List.map_map]
    rfl
  have other : ∀ {n}, n ∉ calls.map (·.1) →
      ∀ j ∈ calls.map (c.nodeJunction start.graph last.graph), j.node ≠ n := by
    rintro n hn j hj rfl
    exact hn (nodes ▸ List.mem_map_of_mem hj)
  have live := hu.isLive fin inv splices.conserves splices ku
  rw [Graph.Reaches, and_iff_right live, bypassed.reflTransGen_iff (nodes ▸ nodup) (other ku) (other kw)]
  constructor
  · exact (translation_spot fin supplied hcalls).reflTransGen
      (fun h h' => h.unique fin inv splices.conserves h') hu hw
  · exact (translation_node cat fin supplied splices hcalls nodup).reflTransGen
      (fun h h' => Option.some.inj (h.2.symm.trans h'.2)) hu hw

end Reach

/-- However the known calls are ordered, splicing them one after the other stops early only when no
handles are left or the oracle is inconsistent. Every node is then the node of one spot, and what leads
where is exactly what taking the calls out in that order keeps. This is part of what inlining all calls at
once leads to, and all of it if the order is lossless. -/
theorem spliceAll_inlines (c : BuildContext) (registered : c.programs.Registered)
    (homed : c.programs.Homed) (silent : c.programs.Silent) (count : Nat) (built : BuildState)
    (run : c.buildAll.run {} = .ok (count, built)) :
    (c.spliceKnownCalls.run built =
      ((fun _ => (c.knownCalls built.graph).length) <$> c.spliceAll (c.knownCalls built.graph)).run built) ∧
    ∀ calls, calls.Perm (c.knownCalls built.graph) →
      (∀ fault, (c.spliceAll calls).run built = .error fault → c.Stopped fault) ∧
      ∀ s, (c.spliceAll calls).run built = .ok ((), s) →
        (∀ u, s.graph.isLive u = true → ∃! x, c.Occupies built.graph s.graph u x) ∧
        ∀ u v x y, c.Occupies built.graph s.graph u x → c.Occupies built.graph s.graph v y →
          (∀ e ∈ calls, e.1 ≠ u) → (∀ e ∈ calls, e.1 ≠ v) →
          (s.graph.Reaches u v ↔ c.KeptFlow built.graph calls x y) ∧
          (s.graph.Reaches u v → c.InlinedFlow built.graph (c.knownCalls built.graph) x y) ∧
          (Junction.Lossless (calls.map (c.junction built.graph)) →
            c.InlinedFlow built.graph (c.knownCalls built.graph) x y → s.graph.Reaches u v) := by
  have cat := registered.catalogued
  obtain ⟨fin, -, supplied, -⟩ := (wp_buildAll_finished cat homed).run run
  refine ⟨rfl, fun calls perm => ?_⟩
  have hcalls : ∀ e ∈ calls, Calls built.graph e :=
    fun e he => calls_of_mem_knownCalls fin.wf.toLinked (perm.mem_iff.1 he)
  have nodup : (calls.map (·.1)).Nodup :=
    (perm.map _).nodup_iff.2 ((c.knownCalls_ascending fin.wf.toLinked).imp Nat.ne_of_lt)
  have spliced := wp_spliceAll_splices cat homed silent fin hcalls nodup
  refine ⟨fun fault failed => spliced.fault failed, fun s ran => ?_⟩
  have splices : c.Splices calls built s := spliced.run ran
  have inv := Moves.grounded cat splices.moves fin.toGrounded
  refine ⟨fun u live => ?_, fun u v x y hu hv ku kv => ?_⟩
  · obtain ⟨x, hx⟩ := splices.occupied cat fin hcalls live
    exact ⟨x, hx, fun y hy => hy.unique fin inv splices.conserves hx⟩
  have keeps := splices.reaches_iff cat fin supplied hcalls nodup hu hv (not_mem_handles ku)
    (not_mem_handles kv)
  exact ⟨keeps, fun reach => (keeps.1 reach).inlined perm,
    fun lossless inlined => keeps.2 (inlined.kept perm lossless)⟩

/-- A routine that returns its parameter. -/
def relay : Routine := { name := "relay", program := .first, params := [⟨.first, 3⟩], operations :=
  [{ opcode := .ret, operands := [⟨.first, 3⟩], id := some 2 }] }

/-- A routine that computes something from its parameter. -/
def consume : Routine := { name := "consume", program := .first, params := [⟨.first, 4⟩], operations :=
  [{ opcode := .binary, operands := [⟨.first, 4⟩], result := some ⟨.first, 5⟩, id := some 3 }] }

/-- `x = relay(a)`, and then `consume(x)`. -/
def nested : BuildContext where
  programs := .ofRoutines
    [(.first, .scalar "a"), (.first, .scalar "x"), (.first, .scalar "y"), (.first, .argument "p" false),
      (.first, .argument "q" false), (.first, .scalar "z")]
    [{ name := "main", program := .first, operations :=
        [{ opcode := .call, operands := [⟨.first, 0⟩], target := some "relay", result := some ⟨.first, 1⟩ },
          { opcode := .call, operands := [⟨.first, 1⟩], target := some "consume",
            result := some ⟨.first, 2⟩ }] },
      relay, consume]
  oracle := (AliasPartition.ofLists []).oracle
  naming := {}
  config := {}
  levels := fun _ _ _ => .empty

/-- What is built for it: the node `1` of `a` is passed to `relay`, the call `0` of `relay` is passed to
`consume`, and the node `3` is computed from the parameter of `consume`. -/
def Relayed (g : Graph) : Prop :=
  nested.knownCalls g = [(0, relay), (2, consume)] ∧ (g.args 0 = [some 1] ∧ g.args 2 = [some 0]) ∧
    (nested.spot? g .first ⟨.first, 3⟩ = some (.var ⟨.first, 3⟩) ∧
      nested.spot? g .first ⟨.first, 4⟩ = some (.node 4)) ∧
    g.hasEdge 4 3 = true ∧ g.isLive 1 = true ∧ g.isLive 3 = true

instance (g : Graph) : Decidable (Relayed g) := inferInstanceAs (Decidable (_ ∧ _))

theorem relayed_nested : ∃ count built, nested.buildAll.run {} = .ok (count, built) ∧ Relayed built.graph := by
  have relayed : ((nested.buildAll : Build Nat).run {}).map (fun r => decide (Relayed r.2.graph)) = .ok true := by
    decide +kernel
  obtain ⟨r, run, relayed⟩ := exists_of_map_eq_ok relayed
  exact ⟨r.1, r.2, run, of_decide_eq_true relayed⟩

/-- Inlined, `a` leads to what is computed from it. -/
theorem Relayed.inlined {g : Graph} (h : Relayed g) :
    nested.InlinedFlow g (nested.knownCalls g) (.node 1) (.node 3) := by
  obtain ⟨known, args, spots, edge, -⟩ := h
  have relays : nested.junction g (0, relay) ∈ (nested.knownCalls g).map (nested.junction g) :=
    List.mem_map_of_mem (by simp [known])
  have consumes : nested.junction g (2, consume) ∈ (nested.knownCalls g).map (nested.junction g) :=
    List.mem_map_of_mem (by simp [known])
  have pass : Junction.Inlined _ g.SpotEdge (.node 1) (.var ⟨.first, 3⟩) :=
    .pass relays ⟨1, ⟨.first, 3⟩, rfl, by simp [args, relay], spots.1⟩
  have back : Junction.Inlined _ g.SpotEdge (.var ⟨.first, 3⟩) (.node 0) :=
    .ret relays ⟨⟨.first, 3⟩, by decide, spots.1⟩
  have on : Junction.Inlined _ g.SpotEdge (.node 0) (.node 4) :=
    .pass consumes ⟨0, ⟨.first, 4⟩, rfl, by simp [args, consume], spots.2⟩
  refine .tail (.tail (.tail (.single pass) back) on) (.edge ⟨4, 3, rfl, rfl, edge⟩ ?_)
  simp [known, junction]

/-- With the outer call first, the inner one is still there when it is passed on. -/
theorem Relayed.lossless {g : Graph} (h : Relayed g) : Junction.Lossless
    ([(2, consume), (0, relay)].map (nested.junction g)) := by
  obtain ⟨-, args, spots, -⟩ := h
  constructor
  · simp [junction, args, relay, Routine.returned, spots]
  · simp [junction, args, relay, consume]
  · simp [junction, args, relay, consume, spots]

/-- If the outer call is spliced before the call that it takes the result of, `a` leads to what is
computed from it. -/
theorem spliceAll_inlines_nested : nested.programs.Registered ∧ nested.programs.Homed ∧
    nested.programs.Silent ∧ ∃ count built s, nested.buildAll.run {} = .ok (count, built) ∧
      (nested.spliceAll [(2, consume), (0, relay)]).run built = .ok ((), s) ∧ s.graph.Reaches 1 3 := by
  have registered : nested.programs.Registered := ProgramPair.registered_ofRoutines ..
  have homed : nested.programs.Homed := by decide +kernel
  have silent : nested.programs.Silent := by decide +kernel
  have ends : ((nested.buildAll >>= fun _ => nested.spliceAll [(2, consume), (0, relay)]).run {}).map
      (fun _ => true) = .ok true := by decide +kernel
  obtain ⟨count, built, run, relayed⟩ := relayed_nested
  obtain ⟨-, orders⟩ := spliceAll_inlines nested registered homed silent count built run
  have swapped : [(2, consume), (0, relay)].Perm (nested.knownCalls built.graph) :=
    relayed.1 ▸ List.Perm.swap ..
  obtain ⟨-, reaches⟩ := orders _ swapped
  rw [StateT.run_bind, run] at ends
  obtain ⟨r, spliced, -⟩ := exists_of_map_eq_ok (x := (nested.spliceAll _).run built) ends
  obtain ⟨-, reaches⟩ := reaches r.2 spliced
  have ⟨_, _, _, _, live₁, live₃⟩ := relayed
  obtain ⟨-, -, lossless⟩ := reaches 1 3 (.node 1) (.node 3) (occupies_node live₁) (occupies_node live₃)
    (by simp) (by simp)
  exact ⟨registered, homed, silent, count, built, r.2, run, spliced,
    lossless relayed.lossless relayed.inlined⟩

/-- The inner call is known first. It is gone when the outer call is spliced, and `a` leads nowhere but to
the parameter of `relay`. -/
theorem flow_lost_nested : nested.programs.Homed ∧ nested.programs.Silent ∧
    ∃ count built spliced s, nested.buildAll.run {} = .ok (count, built) ∧
      nested.spliceKnownCalls.run built = .ok (spliced, s) ∧ s.graph.isLive 1 = true ∧
      s.graph.isLive 3 = true ∧ ¬ s.graph.Reaches 1 3 ∧
      nested.InlinedFlow built.graph (nested.knownCalls built.graph) (.node 1) (.node 3) := by
  have lost : ((nested.buildAll >>= fun _ => nested.spliceKnownCalls : Build Nat).run {}).map
      (fun r => ([1, 3].map r.2.graph.isLive, [1, 5].map r.2.graph.successors)) =
      .ok ([true, true], [[5], []]) := by decide +kernel
  obtain ⟨count, built, run, relayed⟩ := relayed_nested
  rw [StateT.run_bind, run] at lost
  obtain ⟨r, spliced, lost⟩ := exists_of_map_eq_ok (x := nested.spliceKnownCalls.run built) lost
  simp only [Prod.mk.injEq, List.map_cons, List.map_nil, List.cons.injEq, and_true] at lost
  obtain ⟨⟨live₁, live₃⟩, next₁, next₅⟩ := lost
  refine ⟨by decide +kernel, by decide +kernel, count, built, r.1, r.2, run, spliced, live₁, live₃,
    fun reach => ?_, relayed.inlined⟩
  have stays : (3 : NodeId) = 1 ∨ (3 : NodeId) = 5 := by
    refine reach.mem_of_closed (S := fun n => n = 1 ∨ n = 5) (Or.inl rfl) ?_
    rintro m n (rfl | rfl) edge
    · have mem := Graph.mem_successors_iff.2 edge
      rw [next₁] at mem
      exact Or.inr (List.mem_singleton.1 mem)
    · have mem := Graph.mem_successors_iff.2 edge
      rw [next₅] at mem
      cases mem
  simp at stays

end BuildContext

end PeerTaint
