import Mathlib.Data.List.Nodup
import PeerTaint.Proofs.Crossing
import PeerTaint.Proofs.Levels

/-!
Which send meets which receive.

Every network node of a built graph stands for a network call of the programs (`Sited`): it has the call's
kind, its location and the levels that are known there. When locations tell the network calls of a program and
direction apart, and no routine has blocks, these levels say which call of its routine it is, and no more. So
the first send of a routine is linked with the first receive of every routine of the other program, the second
with the second, and so on.
-/

namespace PeerTaint

/-- What tells a network node from others: its role, its levels and its location. -/
def Node.site (x : Node) : (Program × NodeKind) × LevelSet × Option Location :=
  ((x.program, x.kind.bare), x.levels, x.location)

theorem Node.direction?_of_site {x y : Node} (same : x.site = y.site) : x.kind.direction? = y.kind.direction? := by
  rw [← NodeKind.direction?_bare, ← NodeKind.direction?_bare y.kind]
  exact congrArg (fun s => s.1.2.direction?) same

namespace BuildContext

variable {c : BuildContext}

/-- A node stands for a network call of a direction. -/
structure Stands (c : BuildContext) (d : Direction) (op : Operation) (x : Node) : Prop where
  listed : (x.program, op) ∈ c.programs.stream
  direction : c.callDirection? x.program op = some d
  kind : x.kind.bare = callKind (callInfo op) (some d)
  levels : x.levels = c.callLevels x.program op d
  location : ∀ loc, op.location = some loc → x.location = some loc

/-- Every network node stands for a network call. -/
def Sited (c : BuildContext) (g : Graph) : Prop :=
  ∀ n x d, g.node? n = some x → x.kind.direction? = some d → ∃ op, c.Stands d op x

/-! ## Changes that keep nodes sited -/

theorem Stands.congr {d : Direction} {op : Operation} {x y : Node} (h : c.Stands d op x)
    (same : y.site = x.site) : c.Stands d op y := by
  simp only [Node.site, Prod.mk.injEq] at same
  obtain ⟨⟨program, kind⟩, levels, location⟩ := same
  exact ⟨program ▸ h.listed, program ▸ h.direction, kind.trans h.kind, by rw [levels, program, h.levels],
    location ▸ h.location⟩

section Sited

variable {g g' : Graph} (h : c.Sited g)
include h

theorem Sited.congr (same : ∀ n, (g'.node? n).map Node.site = (g.node? n).map Node.site) : c.Sited g' := by
  intro n y d hy hd
  have before := same n
  rw [hy, Option.map_some, eq_comm] at before
  obtain ⟨x, hx, site⟩ := Option.map_eq_some_iff.1 before
  obtain ⟨op, stands⟩ := h n x d hx (by rw [Node.direction?_of_site site, hd])
  exact ⟨op, stands.congr site.symm⟩

theorem Sited.place {x : Node} (plain : x.kind.direction? = none) : c.Sited (g.place x) := by
  intro n y d hy hd
  rw [Graph.node?_place] at hy
  split at hy
  · cases hy
    rw [plain] at hd
    cases hd
  · exact h n y d hy hd

/-- A location is only filled in where there is none. -/
theorem Sited.located (loc : Option Location) (n : NodeId) : c.Sited (located loc n g) := by
  intro m y d hy hd
  unfold BuildContext.located at hy
  rw [Graph.node?_modifyNode] at hy
  split at hy
  · obtain ⟨x, hx, rfl⟩ := Option.map_eq_some_iff.1 hy
    obtain ⟨op, stands⟩ := h m x d hx hd
    refine ⟨op, stands.listed, stands.direction, stands.kind, stands.levels, fun l hl => ?_⟩
    change x.location.or loc = some l
    rw [stands.location l hl, Option.some_or]
  · exact h m y d hy hd

end Sited

/-! ## A new network node -/

theorem site_correlate {g : Graph} {n : NodeId} {p : Program} {d : Direction} {levels : LevelSet} {x : Node}
    (hx : g.node? n = some x) (fresh : x.levels = .empty) (m : NodeId) :
    ((g.correlate n p d levels).node? m).map Node.site =
      if m = n then some ((x.program, x.kind.bare), levels, x.location) else (g.node? m).map Node.site := by
  rw [Graph.correlate_eq]
  split
  · next none =>
    have empty : levels = .empty := by
      refine SortedSet.ext fun l => ?_
      rw [SortedSet.mem_def, List.isEmpty_iff.1 none]
      rfl
    split
    · next here => rw [here, hx, Option.map_some, Node.site, fresh, empty]
    · rfl
  · rw [Graph.map_node?_foldl_linkLevel _ _ fun _ _ _ => rfl, Graph.leveled, Graph.node?_modifyNode]
    split
    · next here => rw [here, hx]; rfl
    · rfl

theorem node?_bindResult (result : Option Value) (n m : NodeId) (g : Graph) :
    (bindResult result n g).node? m = g.node? m := by
  unfold bindResult
  split <;> rfl

theorem Stands.direction?_kind {d : Direction} {op : Operation} {x : Node} (h : c.Stands d op x) :
    x.kind.direction? = some d := by
  rw [← NodeKind.direction?_bare, h.kind, direction?_callKind]

/-- One node is new, and it stands for a network call. -/
theorem Sited.extend {g g' : Graph} (h : c.Sited g) (n : NodeId) (d : Direction) (op : Operation)
    (old : ∀ m, m ≠ n → (g'.node? m).map Node.site = (g.node? m).map Node.site)
    (new : ∀ y, g'.node? n = some y → c.Stands d op y) : c.Sited g' := by
  intro m y d' hy hd
  by_cases here : m = n
  · subst here
    have stands := new y hy
    rw [stands.direction?_kind] at hd
    cases hd
    exact ⟨op, stands⟩
  · have before := old m here
    rw [hy, Option.map_some, eq_comm] at before
    obtain ⟨x, hx, site⟩ := Option.map_eq_some_iff.1 before
    obtain ⟨op', stands⟩ := h m x d' hx (by rw [Node.direction?_of_site site, hd])
    exact ⟨op', stands.congr site.symm⟩

/-- The node of a network call of the programs, with its levels. -/
theorem Sited.call {g g' : Graph} {p : Program} {op : Operation} {label : String} {n : NodeId}
    (h : c.Sited g) (listed : (p, op) ∈ c.programs.stream)
    (made : g.addNode p (callKind (callInfo op) (c.callDirection? p op)) label = .ok (n, g')) :
    c.Sited (c.linkedByLevel p op n (c.callDirection? p op)
      (bindResult (c.boundResult? op) n (BuildContext.located op.location n g'))) := by
  obtain ⟨rfl, rfl⟩ := Graph.addNode_eq_ok made
  cases hd : c.callDirection? p op with
  | none =>
    have placed := (h.place (x := g.fresh p (.call (callInfo op)) label) rfl).located op.location g.slots.size
    exact placed.congr fun m => congrArg _ (node?_bindResult ..)
  | some d =>
    obtain ⟨g₁, hg₁⟩ : ∃ g₁, g₁ = bindResult (c.boundResult? op) g.slots.size (BuildContext.located op.location
      g.slots.size (g.place (g.fresh p (callKind (callInfo op) (some d)) label))) := ⟨_, rfl⟩
    have placed : ∀ m, g₁.node? m = if m = g.slots.size then
        some { g.fresh p (callKind (callInfo op) (some d)) label with location := op.location }
        else g.node? m := by
      intro m
      rw [hg₁, node?_bindResult, BuildContext.located, Graph.node?_modifyNode, Graph.node?_place]
      split <;> rfl
    have site : ∀ m, ((g₁.correlate g.slots.size p d (c.callLevels p op d)).node? m).map Node.site = _ :=
      site_correlate ((placed _).trans (if_pos rfl)) rfl
    rw [← hg₁]
    refine h.extend g.slots.size d op (fun m hm => ?_) fun y hy => ?_
    · have same := site m
      rw [if_neg hm, placed m, if_neg hm] at same
      exact same
    · have own := site g.slots.size
      rw [if_pos rfl, show (g₁.correlate _ p d _).node? _ = some y from hy, Option.map_some, Option.some.injEq,
        Node.site] at own
      simp only [Prod.mk.injEq] at own
      obtain ⟨⟨program, kind⟩, levels, location⟩ := own
      refine ⟨?_, ?_, ?_, ?_, fun loc hl => ?_⟩
      · rw [program]; exact listed
      · rw [program]; exact hd
      · rw [kind]; exact bare_callKind op (some d)
      · rw [program]; exact levels
      · rw [location]; exact hl

/-! ## Expanding -/

/-- What is expanded of the programs keeps network nodes sited. -/
theorem makes_sited (c : BuildContext) :
    c.Makes (fun p op => (p, op) ∈ c.programs.stream) (fun g g' => c.Sited g → c.Sited g') where
  flow g a b := .single fun h => h.congr fun m => Graph.map_node?_connect g a b .data m fun _ _ _ => rfl
  access g n := .single fun h => h.congr fun m => Graph.map_node?_modifyNode g n m fun _ => rfl
  depend g n := .single fun h => h.congr fun m => Graph.map_node?_modifyNode g n m fun _ => rfl
  locate g n loc := .single fun h => h.located loc n
  args g n args d := .single fun h => h.congr fun m => Graph.map_node?_modifyNode g n m fun x => by
    simp [Node.site, withArgs]
  memory v made := .single fun h => by
    rcases Graph.memNode_eq_ok made with ⟨-, rfl⟩ | ⟨-, -, rfl⟩
    · exact h
    · exact h.place rfl
  plain _ made := .single fun h => by
    obtain ⟨rfl, rfl⟩ := Graph.addNode_eq_ok made
    exact (h.place rfl).congr fun m => congrArg _ (node?_bindResult ..)
  call listed made := .single fun h => h.call listed made
  unbound made := .single fun h => by
    obtain ⟨rfl, rfl⟩ := Graph.addNode_eq_ok made
    exact h.place rfl

theorem sited_buildAll (cat : c.programs.Catalogued) (homed : c.programs.Homed) {count : Nat} {s : BuildState}
    (built : c.buildAll.run {} = .ok (count, s)) : c.Sited s.graph := by
  have along : Build.Along (fun g g' => c.Sited g → c.Sited g') c.buildAll := by
    refine c.makes_sited.addRoutines (fun v op hop => ?_) fun f hf op hop => ?_
    · obtain ⟨result, p, listed⟩ := cat.definition v op hop
      rw [homed _ listed v result]
      exact listed
    · exact List.mem_flatMap.2 ⟨f, hf, List.mem_map.2 ⟨op, hop, rfl⟩⟩
  refine along.keeps built ?_
  intro n x d hx
  cases hx

/-! ## The calls of a routine -/

/-- A node stands for a network call of a routine in a direction, the one at position `k`. -/
def IsNth (c : BuildContext) (f : Routine) (d : Direction) (k : Nat) (x : Node) : Prop :=
  ∃ op, (f.networkCalls c.naming d)[k]? = some op ∧ x.program = f.program ∧
    x.kind.bare = callKind (callInfo op) (some d) ∧ x.location = op.location

instance (f : Routine) (d : Direction) (k : Nat) (x : Node) : Decidable (c.IsNth f d k x) :=
  decidable_of_iff (((f.networkCalls c.naming d)[k]?).any (fun op => x.program = f.program ∧
      x.kind.bare = callKind (callInfo op) (some d) ∧ x.location = op.location) = true) <| by
    simp only [Option.any_eq_true, decide_eq_true_eq]
    exact Iff.rfl

/-- Locations are known, and they tell the network calls of a program and direction apart. -/
structure Separated (c : BuildContext) : Prop where
  known : ∀ f ∈ c.programs.routines, ∀ d, ∀ op ∈ f.networkCalls c.naming d, op.location.isSome = true
  distinct : ∀ p d, ((c.programs.routines.filter (·.program = p)).flatMap fun f =>
    (f.networkCalls c.naming d).map (·.location)).Nodup

theorem IsNth.direction? {f : Routine} {d : Direction} {k : Nat} {x : Node} (h : c.IsNth f d k x) :
    x.kind.direction? = some d := by
  obtain ⟨op, -, -, kind, -⟩ := h
  rw [← NodeKind.direction?_bare, kind, direction?_callKind]

/-- Network calls of a program and direction with the same location have the same position. -/
theorem Separated.position_eq (sep : c.Separated) {f f' : Routine} (hf : f ∈ c.programs.routines)
    (hf' : f' ∈ c.programs.routines) (same : f.program = f'.program) {d : Direction} {k k' : Nat}
    {op op' : Operation} (hop : (f.networkCalls c.naming d)[k]? = some op)
    (hop' : (f'.networkCalls c.naming d)[k']? = some op') (location : op.location = op'.location) : k = k' := by
  obtain ⟨each, apart⟩ := List.nodup_flatMap.1 (sep.distinct f.program d)
  have here : ∀ {r : Routine}, r ∈ c.programs.routines → f.program = r.program →
      r ∈ c.programs.routines.filter (·.program = f.program) :=
    fun hr hp => List.mem_filter.2 ⟨hr, decide_eq_true hp.symm⟩
  have at_k : ((f.networkCalls c.naming d).map (·.location))[k]? = some op.location := by
    rw [List.getElem?_map, hop, Option.map_some]
  have at_k' : ((f'.networkCalls c.naming d).map (·.location))[k']? = some op.location := by
    rw [List.getElem?_map, hop', Option.map_some, location]
  by_cases one : f = f'
  · subst one
    obtain ⟨hk, hv⟩ := List.getElem?_eq_some_iff.1 at_k
    obtain ⟨hk', hv'⟩ := List.getElem?_eq_some_iff.1 at_k'
    exact (each f (here hf rfl)).getElem_inj_iff.1 (hv.trans hv'.symm)
  · have symm : Std.Symm (Function.onFun List.Disjoint fun r : Routine =>
        (r.networkCalls c.naming d).map (·.location)) := ⟨fun _ _ h => List.Disjoint.symm h⟩
    have disjoint := apart.forall (here hf rfl) (here hf' same) one
    exact absurd (List.mem_of_getElem? at_k') (disjoint (List.mem_of_getElem? at_k))

/-- A node that stands for a network call is found among the calls of a routine. -/
theorem Stands.exists_isNth (sep : c.Separated) {d : Direction} {op : Operation} {x : Node}
    (h : c.Stands d op x) : ∃ f ∈ c.programs.routines, ∃ k, c.IsNth f d k x ∧
      (f.networkCalls c.naming d)[k]? = some op ∧ op.location = x.location := by
  obtain ⟨f, hf, he⟩ := List.mem_flatMap.1 h.listed
  obtain ⟨op', hop, he⟩ := List.mem_map.1 he
  obtain ⟨program, rfl⟩ := Prod.mk.inj he
  have call : op' ∈ f.networkCalls c.naming d := by
    refine List.mem_filter.2 ⟨hop, decide_eq_true ?_⟩
    rw [program]
    exact h.direction
  obtain ⟨loc, hloc⟩ := Option.isSome_iff_exists.1 (sep.known f hf d op' call)
  obtain ⟨k, hk⟩ := List.mem_iff_getElem?.1 call
  have location : op'.location = x.location := hloc.trans (h.location loc hloc).symm
  exact ⟨f, hf, k, ⟨op', hk, program.symm, h.kind, location.symm⟩, hk, location⟩

/-- A network node has one level: its position, counted from one. -/
theorem mem_levels_iff (sep : c.Separated) (plain : ∀ f ∈ c.programs.routines, f.blocks = [])
    (levels : c.levels = (Correlator.ofRoutines c.naming c.programs.routines).nodeLevels)
    {d : Direction} {op : Operation} {x : Node} (stands : c.Stands d op x) {f : Routine}
    (hf : f ∈ c.programs.routines) {k : Nat} (nth : c.IsNth f d k x) (l : Nat) : l ∈ x.levels ↔ l = k + 1 := by
  obtain ⟨opk, hk, program, -, location⟩ := nth
  obtain ⟨f₁, hf₁, k₁, -, hk₁, same⟩ := stands.exists_isNth sep
  obtain ⟨loc, hloc⟩ := Option.isSome_iff_exists.1 (sep.known f₁ hf₁ d op (List.mem_of_getElem? hk₁))
  have here : opk.location = some loc := by rw [← location, ← same, hloc]
  rw [stands.levels, callLevels, hloc]
  dsimp only
  rw [levels, Correlator.mem_nodeLevels_iff]
  constructor
  · rintro ⟨r, hr, home, standsAt⟩
    obtain ⟨k', op', rfl, hk', hl⟩ := (LevelGraph.standsAt_iff c.naming d (plain r hr)).1 standsAt
    rw [sep.position_eq hr hf (home.trans program) hk' hk (hl.trans here.symm)]
  · rintro rfl
    exact ⟨f, hf, program.symm, (LevelGraph.standsAt_iff c.naming d (plain f hf)).2 ⟨k, opk, rfl, hk, here⟩⟩

/-- In a graph that was built of routines without blocks, with the levels of these routines, every network node
stands for a network call of one of them, and a send is linked with a receive of the other program exactly if
both have the same position in their routines. -/
theorem linked_iff_same_position (c : BuildContext) (registered : c.programs.Registered)
    (homed : c.programs.Homed) (plain : ∀ f ∈ c.programs.routines, f.blocks = []) (separated : c.Separated)
    (levels : c.levels = (Correlator.ofRoutines c.naming c.programs.routines).nodeLevels) (count : Nat)
    (s : BuildState) (built : c.buildAll.run {} = .ok (count, s)) :
    (∀ n x d, s.graph.node? n = some x → x.kind.direction? = some d →
      ∃ f ∈ c.programs.routines, ∃ k, c.IsNth f d k x) ∧
    ∀ f ∈ c.programs.routines, ∀ f' ∈ c.programs.routines, f.program ≠ f'.program → ∀ k j w r x y,
      s.graph.node? w = some x → s.graph.node? r = some y → c.IsNth f .send k x → c.IsNth f' .recv j y →
      (s.graph.hasEdge w r = true ↔ k = j) := by
  have cat := registered.catalogued
  have sited := sited_buildAll cat homed built
  obtain ⟨steps, -⟩ := (wp_buildAll_steps cat homed grounded_empty).run built
  have divided := (steps.grounded cat grounded_empty).divided
  refine ⟨fun n x d hx hd => ?_, fun f hf f' hf' apart k j w r x y hx hy send recv => ?_⟩
  · obtain ⟨op, stands⟩ := sited n x d hx hd
    obtain ⟨f, hf, k, nth, -⟩ := stands.exists_isNth separated
    exact ⟨f, hf, k, nth⟩
  · obtain ⟨op, stands⟩ := sited w x .send hx send.direction?
    obtain ⟨op', stands'⟩ := sited r y .recv hy recv.direction?
    have other : x.face.program ≠ y.face.program := by
      obtain ⟨-, -, px, -⟩ := send
      obtain ⟨-, -, py, -⟩ := recv
      change x.program ≠ y.program
      rwa [px, py]
    have cross := divided.cross w r x.face y.face (Graph.face?_eq_some_iff.2 ⟨x, hx, rfl⟩)
      (Graph.face?_eq_some_iff.2 ⟨y, hy, rfl⟩) other
    have feeds : x.face.Feeds y.face ↔ k = j := by
      have level := mem_levels_iff separated plain levels stands hf send
      have level' := mem_levels_iff separated plain levels stands' hf' recv
      constructor
      · rintro ⟨-, -, l, hl, hl'⟩
        have := (level l).1 hl
        have := (level' l).1 hl'
        omega
      · rintro rfl
        exact ⟨send.direction?, recv.direction?, k + 1, (level _).2 rfl, (level' _).2 rfl⟩
    rw [Graph.hasEdge_iff]
    simp only [cross, exists_eq_left, feeds]

/-- The first program sends twice in `main` and once in `log`. The second program receives twice. -/
def talks : ProgramPair := .ofRoutines
  [(.first, .scalar "x"), (.first, .scalar "y"), (.second, .buffer "buf"), (.second, .scalar "n")]
  [{ name := "main", program := .first, operations :=
      [{ opcode := .call, operands := [⟨.first, 0⟩], target := some "send", location := some ⟨"a.c", 3⟩ },
        { opcode := .binary, operands := [⟨.first, 0⟩], result := some ⟨.first, 1⟩ },
        { opcode := .call, operands := [⟨.first, 1⟩], target := some "send", location := some ⟨"a.c", 5⟩ }] },
    { name := "log", program := .first, operations :=
      [{ opcode := .call, operands := [⟨.first, 1⟩], target := some "sendto", location := some ⟨"a.c", 9⟩ }] },
    { name := "main", program := .second, operations :=
      [{ opcode := .call, operands := [⟨.second, 0⟩], target := some "RECV", location := some ⟨"b.c", 2⟩ },
        { opcode := .call, operands := [⟨.second, 0⟩], target := some "puts" },
        { opcode := .call, operands := [⟨.second, 0⟩], target := some "RECV", location := some ⟨"b.c", 4⟩,
          result := some ⟨.second, 1⟩ }] }]

/-- Both programs of `talks`, with their levels. -/
def parley : BuildContext where
  programs := talks
  oracle := (AliasPartition.ofLists [[⟨.second, 0⟩]]).oracle
  naming := {}
  config := {}
  levels := (Correlator.ofRoutines {} talks.routines).nodeLevels

/-- The node `3` stands for the second send of `main`, and the nodes `5` and `8` for the two receives. What is sent
second is received second. -/
theorem linked_iff_same_position_parley : parley.programs.Registered ∧ parley.programs.Homed ∧
    (∀ f ∈ parley.programs.routines, f.blocks = []) ∧ parley.Separated ∧
    ∃ count s, parley.buildAll.run {} = .ok (count, s) ∧
      ∃ f ∈ parley.programs.routines, ∃ f' ∈ parley.programs.routines, f.program ≠ f'.program ∧ ∃ x y z,
        (s.graph.node? 3 = some x ∧ parley.IsNth f .send 1 x) ∧
        (s.graph.node? 5 = some y ∧ parley.IsNth f' .recv 0 y) ∧
        (s.graph.node? 8 = some z ∧ parley.IsNth f' .recv 1 z) ∧
        ¬ s.graph.hasEdge 3 5 = true ∧ s.graph.hasEdge 3 8 = true := by
  have registered : parley.programs.Registered := ProgramPair.registered_ofRoutines ..
  have homed : parley.programs.Homed := by decide +kernel
  have plain : ∀ f ∈ parley.programs.routines, f.blocks = [] := by decide +kernel
  have separated : parley.Separated := by
    refine ⟨fun f hf d => ?_, fun p d => ?_⟩
    · cases d
      · revert f; decide +kernel
      · revert f; decide +kernel
    · cases p <;> cases d <;> decide +kernel
  have routines : ∃ f ∈ parley.programs.routines, ∃ f' ∈ parley.programs.routines, f.program ≠ f'.program ∧
      ((parley.buildAll : Build Nat).run {}).map (fun r => (
        (r.2.graph.node? 3).any fun x => decide (parley.IsNth f .send 1 x),
        (r.2.graph.node? 5).any fun y => decide (parley.IsNth f' .recv 0 y),
        (r.2.graph.node? 8).any fun z => decide (parley.IsNth f' .recv 1 z))) = .ok (true, true, true) := by
    decide +kernel
  obtain ⟨f, hf, f', hf', apart, outcome⟩ := routines
  obtain ⟨r, built, outcome⟩ := exists_of_map_eq_ok outcome
  simp only [Prod.mk.injEq, Option.any_eq_true, decide_eq_true_eq] at outcome
  obtain ⟨⟨x, hx, send⟩, ⟨y, hy, first⟩, z, hz, second⟩ := outcome
  have linked := (linked_iff_same_position parley registered homed plain separated rfl r.1 r.2 built).2 f hf f' hf'
    apart
  refine ⟨registered, homed, plain, separated, r.1, r.2, built, f, hf, f', hf', apart, x, y, z, ⟨hx, send⟩,
    ⟨hy, first⟩, ⟨hz, second⟩, fun edge => ?_, ?_⟩
  · cases (linked 1 0 3 5 x y hx hy send first).1 edge
  · exact (linked 1 1 3 8 x z hx hz send second).2 rfl

end BuildContext

end PeerTaint
