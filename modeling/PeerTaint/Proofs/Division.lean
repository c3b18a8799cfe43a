import Mathlib.Data.List.Basic
import PeerTaint.Proofs.Reach

/-!
How the nodes of the two programs are kept apart.

What the other program sees of a node is its face: the program it belongs to, its direction on the
network and its levels. In a divided graph the edges between the programs are those from a send to a
receive at a common level, and a call takes its arguments from its own program. Every change that
building makes keeps a graph divided, so data gets from one program to the other over such an edge
only.
-/

namespace PeerTaint

/-- What the other program sees of a node. -/
structure Face where
  program : Program
  direction : Option Direction
  levels : LevelSet

/-- The first sends and the second receives, at a common level. -/
def Face.Feeds (x y : Face) : Prop :=
  x.direction = some .send ∧ y.direction = some .recv ∧ ∃ l, l ∈ x.levels ∧ l ∈ y.levels

/-- The face of a node. -/
def Node.face (x : Node) : Face := ⟨x.program, x.kind.direction?, x.levels⟩

/-- The arguments of a call. -/
def NodeKind.args (kind : NodeKind) : List (Option NodeId) :=
  match kind.callInfo? with
  | some info => info.args
  | none => []

theorem Program.eq_peer {p q : Program} (h : p ≠ q) : q = p.peer := by
  cases p <;> cases q <;> first | rfl | exact absurd rfl h

theorem levelsCorrelate_iff {s t : LevelSet} : levelsCorrelate s t = true ↔ ∃ l, l ∈ s ∧ l ∈ t :=
  SortedSet.meets_iff

theorem levelsCorrelate_comm (s t : LevelSet) : levelsCorrelate s t = levelsCorrelate t s := by
  rw [Bool.eq_iff_iff, levelsCorrelate_iff, levelsCorrelate_iff]
  exact exists_congr fun l => and_comm

namespace Graph

/-- The face of the node of a live handle. -/
def face? (g : Graph) (n : NodeId) : Option Face := (g.node? n).map Node.face

/-- The handle was given to a node of a program. The node may have been taken out. -/
structure Given (g : Graph) (p : Program) (n : NodeId) : Prop where
  lt : n < g.slots.size
  program : ∀ x, g.node? n = some x → x.program = p

/-- Edges between the programs lead from a send to a receive at a common level, and all such edges are
there. Calls take their arguments from their own program. -/
structure Divided (g : Graph) : Prop where
  cross : ∀ a b x y, g.face? a = some x → g.face? b = some y → x.program ≠ y.program →
    ∀ k, g.edgeKind? a b = some k ↔ k = .data ∧ x.Feeds y
  args : ∀ n x a, g.node? n = some x → some a ∈ x.kind.args → g.Given x.program a

/-! ## Handles of a program -/

theorem Given.of_role? {g : Graph} {n : NodeId} {p : Program} {kind : NodeKind}
    (h : g.role? n = some (p, kind)) : g.Given p n := by
  refine ⟨lt_size_of_role? h, fun x hx => ?_⟩
  obtain ⟨y, hy, hp, -⟩ := role?_eq_some_iff.1 h
  rw [hx] at hy
  cases hy
  exact hp

/-- A handle is never given to a node of the other program. -/
theorem Given.evolves {g g' : Graph} {p : Program} {n : NodeId} (h : g.Given p n) (e : Evolves g g') :
    g'.Given p n := by
  refine ⟨h.lt.trans_le e.size_le, fun x' hx' => ?_⟩
  cases hx : g.node? n with
  | none =>
    have stale := e.stale n h.lt (by rw [isLive, hx]; rfl)
    rw [isLive, hx'] at stale
    cases stale
  | some x =>
    have same := e.role n (x.program, x.kind.bare) (x'.program, x'.kind.bare)
      (role?_eq_some_iff.2 ⟨x, hx, rfl, rfl⟩) (role?_eq_some_iff.2 ⟨x', hx', rfl, rfl⟩)
    exact (congrArg Prod.fst same).trans (h.program x hx)

theorem Given.grows {g g' : Graph} {p : Program} {n : NodeId} (h : g.Given p n) (e : Grows g g') :
    g'.Given p n := by
  induction e with
  | refl => exact h
  | tail _ growth ih => exact ih.evolves growth.evolves

theorem face?_eq_some_iff {g : Graph} {n : NodeId} {x : Face} :
    g.face? n = some x ↔ ∃ y, g.node? n = some y ∧ y.face = x := Option.map_eq_some_iff

theorem Given.face {g : Graph} {p : Program} {n : NodeId} (h : g.Given p n) {x : Face}
    (hx : g.face? n = some x) : x.program = p := by
  obtain ⟨y, hy, rfl⟩ := face?_eq_some_iff.1 hx
  exact h.program y hy

/-! ## Joining nodes -/

section Connect

variable (g : Graph) (a b : NodeId)

theorem map_node?_connect (kind : EdgeKind) (m : NodeId) {α : Type} {q : Node → α}
    (hq : ∀ x succ pred, q { x with successors := succ, predecessors := pred } = q x) :
    ((g.connect a b kind).2.node? m).map q = (g.node? m).map q := by
  have written : ∀ new, ((g.withEdge a b kind new).node? m).map q = (g.node? m).map q := by
    intro new
    change ((g.setEdge a b kind).node? m).map q = (g.node? m).map q
    unfold setEdge
    rw [map_node?_modifyNode _ b m fun x => hq x _ _, map_node?_modifyNode _ a m fun x => hq x _ _]
  rcases connect_cases g a b kind with ⟨he, -⟩ | ⟨-, -, -, ⟨-, -, he⟩ | ⟨-, he⟩⟩
  · rw [he]
  · rw [he]; exact written 0
  · rw [he]; exact written 1

theorem face?_connect (kind : EdgeKind) (m : NodeId) : (g.connect a b kind).2.face? m = g.face? m :=
  map_node?_connect g a b kind m fun _ _ _ => rfl

theorem size_connect (kind : EdgeKind) : (g.connect a b kind).2.slots.size = g.slots.size := by
  have written : ∀ new, (g.withEdge a b kind new).slots.size = g.slots.size := by
    intro new
    simp [withEdge, setEdge]
  rcases connect_cases g a b kind with ⟨he, -⟩ | ⟨-, -, -, ⟨-, -, he⟩ | ⟨-, he⟩⟩
  · rw [he]
  · rw [he]; exact written 0
  · rw [he]; exact written 1

theorem inputNodes_connect (kind : EdgeKind) : (g.connect a b kind).2.inputNodes = g.inputNodes := by
  rcases connect_cases g a b kind with ⟨he, -⟩ | ⟨-, -, -, ⟨-, -, he⟩ | ⟨-, he⟩⟩ <;> rw [he] <;> rfl

end Connect

/-! ## Changes that keep a graph divided -/

section Divided

variable {g g' : Graph} (h : g.Divided)
include h

theorem Divided.args_of_eq (evolves : Evolves g g') (same : ∀ n,
      (g'.node? n).map (fun x => (x.program, x.kind.args))
        = (g.node? n).map fun x => (x.program, x.kind.args)) (n : NodeId) (x : Node) (a : NodeId)
    (hx : g'.node? n = some x) (ha : some a ∈ x.kind.args) : g'.Given x.program a := by
  have he := same n
  rw [hx, Option.map_some, eq_comm] at he
  obtain ⟨y, hy, he⟩ := Option.map_eq_some_iff.1 he
  simp only [Prod.mk.injEq] at he
  obtain ⟨program, args⟩ := he
  have given := h.args n y a hy (args ▸ ha)
  rw [program] at given
  exact given.evolves evolves

/-- Changes that no other program sees. -/
theorem Divided.congr (evolves : Evolves g g') (face : ∀ n, g'.face? n = g.face? n)
    (edge : ∀ a b, g'.edgeKind? a b = g.edgeKind? a b) (same : ∀ n,
      (g'.node? n).map (fun x => (x.program, x.kind.args))
        = (g.node? n).map fun x => (x.program, x.kind.args)) : g'.Divided where
  cross a b x y hx hy hne k := by
    rw [face] at hx hy
    rw [edge]
    exact h.cross a b x y hx hy hne k
  args := h.args_of_eq evolves same

/-- A new node has no levels yet, so nothing of the other program feeds it. -/
theorem Divided.place (wf : WellFormed g) {x : Node} (id : x.id = g.slots.size)
    (succ : x.successors = .empty) (pred : x.predecessors = .empty) (levels : x.levels = .empty)
    (args : x.kind.args = []) : (g.place x).Divided := by
  have evolves : Evolves g (g.place x) := (Growth.place id succ pred).evolves
  have face : ∀ n, (g.place x).face? n = if n = g.slots.size then some x.face else g.face? n := by
    intro n
    unfold face?
    rw [node?_place]
    split <;> rfl
  have alone : ∀ n, g.edgeKind? n g.slots.size = none ∧ g.edgeKind? g.slots.size n = none := by
    intro n
    rw [wf.mirror]
    simp only [backKind?, edgeKind?, node?_of_size_le (Nat.le_refl g.slots.size), Option.bind_none,
      and_self]
  have bare : ∀ y : Face, ¬ x.face.Feeds y ∧ ¬ y.Feeds x.face := by
    intro y
    have none : ∀ l, l ∉ x.face.levels := by
      intro l
      change l ∉ x.levels
      rw [levels]
      exact SortedSet.not_mem_empty
    constructor
    · rintro ⟨-, -, l, hl, -⟩
      exact none l hl
    · rintro ⟨-, -, l, -, hl⟩
      exact none l hl
  refine ⟨fun a b y z hy hz hne k => ?_, fun n y a hy ha => ?_⟩
  · rw [edgeKind?_place succ]
    rw [face] at hy hz
    split at hy
    · next ha =>
      cases hy
      rw [ha, (alone b).2]
      simp [(bare z).1]
    · split at hz
      · next hb =>
        cases hz
        rw [hb, (alone a).1]
        simp [(bare y).2]
      · exact h.cross a b y z hy hz hne k
  · rw [node?_place] at hy
    split at hy
    · cases hy
      rw [args] at ha
      cases ha
    · exact (h.args n y a hy ha).evolves evolves

/-- An edge within a program. -/
theorem Divided.flow {p : Program} {a b : NodeId} (ha : g.Given p a) (hb : g.Given p b) :
    (g.connect a b .data).2.Divided := by
  refine ⟨fun c d x y hx hy hne k => ?_, h.args_of_eq (Growth.connect a b .data).evolves
    fun n => map_node?_connect g a b .data n fun _ _ _ => rfl⟩
  rw [face?_connect] at hx hy
  rw [edgeKind?_flow, if_neg]
  · exact h.cross c d x y hx hy hne k
  · rintro ⟨rfl, rfl, -⟩
    exact hne ((ha.face hx).trans (hb.face hy).symm)

theorem Divided.removed (wf : WellFormed g) {n : NodeId} {x : Node}
    (hr : g.removeNode n = .ok (x, g')) : g'.Divided := by
  obtain ⟨-, r⟩ := removed_of_removeNode wf.toLinked hr
  have old : ∀ {m y}, g'.node? m = some y → m ≠ n ∧ ∃ z, g.node? m = some z ∧ without n z = y := by
    intro m y hy
    rw [r.node] at hy
    split at hy
    · cases hy
    · next hm => exact ⟨hm, Option.map_eq_some_iff.1 hy⟩
  refine ⟨fun a b y z hy hz hne k => ?_, fun m y a hy ha => ?_⟩
  · obtain ⟨y', hy', rfl⟩ := face?_eq_some_iff.1 hy
    obtain ⟨z', hz', rfl⟩ := face?_eq_some_iff.1 hz
    obtain ⟨han, u, hu, rfl⟩ := old hy'
    obtain ⟨hbn, w, hw, rfl⟩ := old hz'
    rw [r.edgeKind?, if_neg (by simp [han, hbn])]
    exact h.cross a b u.face w.face (face?_eq_some_iff.2 ⟨u, hu, rfl⟩)
      (face?_eq_some_iff.2 ⟨w, hw, rfl⟩) hne k
  · obtain ⟨-, z, hz, rfl⟩ := old hy
    exact (h.args m z a hz ha).evolves (Change.evolves wf (.remove hr))

end Divided

/-! ## Linking a network node with the other program -/

/-- The edges between the programs are as they should be, but for those between `n` and the nodes of a
list, which are still to be drawn. -/
def Joining (g : Graph) (n : NodeId) (os : List NodeId) : Prop :=
  ∀ a b x y, g.face? a = some x → g.face? b = some y → x.program ≠ y.program → ∀ k,
    g.edgeKind? a b = some k ↔ (k = .data ∧ x.Feeds y) ∧ ¬ (a = n ∧ b ∈ os) ∧ ¬ (b = n ∧ a ∈ os)

/-- Links a network node with one node of the other program. -/
def linkLevel (n : NodeId) (d : Direction) (levels : LevelSet) (g : Graph) (o : NodeId) : Graph :=
  match g.node? o with
  | none => g
  | some node =>
    match d with
    | .send => if levelsCorrelate levels node.levels then (g.connect n o .data).2 else g
    | .recv => if levelsCorrelate node.levels levels then (g.connect o n .data).2 else g

/-- A network node gets its levels. -/
def leveled (g : Graph) (n : NodeId) (levels : LevelSet) : Graph :=
  g.modifyNode n fun x => { x with levels := levels }

theorem correlate_eq (g : Graph) (n : NodeId) (p : Program) (d : Direction) (levels : LevelSet) :
    g.correlate n p d levels =
      if levels.isEmpty then g
      else (g.netNodes p.peer d.opposite).foldl (linkLevel n d levels) (g.leveled n levels) := by
  unfold correlate
  split
  · rfl
  · cases d <;> rfl

section Correlate

variable {g : Graph} {n : NodeId} {p : Program} {d : Direction} {levels : LevelSet}

theorem map_node?_linkLevel (o m : NodeId) {α : Type} {q : Node → α}
    (hq : ∀ x succ pred, q { x with successors := succ, predecessors := pred } = q x) :
    ((linkLevel n d levels g o).node? m).map q = (g.node? m).map q := by
  unfold linkLevel
  split
  · rfl
  · split <;> split <;> first | exact map_node?_connect _ _ _ _ m hq | rfl

theorem face?_linkLevel (o m : NodeId) : (linkLevel n d levels g o).face? m = g.face? m :=
  map_node?_linkLevel o m fun _ _ _ => rfl

/-- The edge that links a network node with a node of the other program. -/
def linkEnds (n : NodeId) (d : Direction) (o : NodeId) : NodeId × NodeId :=
  match d with
  | .send => (n, o)
  | .recv => (o, n)

theorem edgeKind?_linkLevel {o : NodeId} {z : Face} (hn : g.isLive n = true) (hno : n ≠ o)
    (hz : g.face? o = some z) (a b : NodeId) : (linkLevel n d levels g o).edgeKind? a b =
      if (a, b) = linkEnds n d o ∧ levelsCorrelate levels z.levels = true then some .data
      else g.edgeKind? a b := by
  obtain ⟨x, hx, rfl⟩ := face?_eq_some_iff.1 hz
  have ho : g.isLive o = true := isLive_of_node? hx
  have comm := levelsCorrelate_comm x.levels levels
  unfold linkLevel linkEnds
  by_cases share : levelsCorrelate levels x.levels = true
  · cases d <;> simp [hx, Node.face, share, comm, edgeKind?_flow, hno, Ne.symm hno, hn, ho]
  · cases d <;> simp [hx, Node.face, share, comm]

/-- One more node of the other program is linked, if it has a level in common with `n`. -/
theorem Joining.linkLevel {o : NodeId} {os : List NodeId} (h : g.Joining n (o :: os)) (ho : o ∉ os)
    (hn : g.face? n = some ⟨p, some d, levels⟩)
    (other : ∀ y, g.face? o = some y → y.program = p.peer ∧ y.direction = some d.opposite) :
    (linkLevel n d levels g o).Joining n os := by
  intro a b x y hx hy hne k
  rw [face?_linkLevel] at hx hy
  have before := h a b x y hx hy hne k
  cases hz : g.face? o with
  | none =>
    have same : Graph.linkLevel n d levels g o = g := by
      unfold Graph.linkLevel
      rw [Option.map_eq_none_iff.1 hz]
    have hao : a ≠ o := by rintro rfl; rw [hz] at hx; cases hx
    have hbo : b ≠ o := by rintro rfl; rw [hz] at hy; cases hy
    rw [same, before]
    simp [hao, hbo]
  | some z =>
    obtain ⟨hzp, hzd⟩ := other z hz
    have hno : n ≠ o := by
      rintro rfl
      rw [hn] at hz
      cases hz
      exact p.peer_ne hzp.symm
    have live : g.isLive n = true := by
      obtain ⟨w, hw, -⟩ := face?_eq_some_iff.1 hn
      exact isLive_of_node? hw
    rw [edgeKind?_linkLevel live hno hz]
    by_cases hnew : (a, b) = linkEnds n d o
    · -- the edge that is drawn now, if there is a common level
      have feeds : x.Feeds y ↔ levelsCorrelate levels z.levels = true := by
        cases d <;> cases hnew <;>
          simp_all [Face.Feeds, levelsCorrelate_iff, Direction.opposite, and_comm]
      have apart : ¬ (a = n ∧ b ∈ os) ∧ ¬ (b = n ∧ a ∈ os) := by
        cases d <;> cases hnew <;> simp [ho, Ne.symm hno]
      have missing : g.edgeKind? a b ≠ some k := by
        rw [Ne, before]
        cases d <;> cases hnew <;> simp
      by_cases share : levelsCorrelate levels z.levels = true
      · rw [if_pos ⟨hnew, share⟩]
        exact ⟨fun hk => ⟨⟨(Option.some.inj hk).symm, feeds.2 share⟩, apart⟩, fun hk => by rw [hk.1.1]⟩
      · rw [if_neg fun hc => share hc.2]
        simp [feeds, share, missing]
    · -- no other edge between `n` and `o` is allowed
      have apart : x.Feeds y → ¬ (a = n ∧ b = o) ∧ ¬ (b = n ∧ a = o) := by
        rintro ⟨hs, hr, -⟩
        constructor
        all_goals
          rintro ⟨rfl, rfl⟩
          cases d <;> simp_all [linkEnds, Direction.opposite]
      rw [if_neg fun hc => hnew hc.1, before]
      refine and_congr_right fun hf => ?_
      obtain ⟨h₁, h₂⟩ := apart hf.2
      simp only [List.mem_cons, and_or_left, not_or, h₁, h₂, not_false_eq_true, true_and]

theorem Joining.foldl_linkLevel {os : List NodeId} (h : g.Joining n os) (ho : os.Nodup)
    (hn : g.face? n = some ⟨p, some d, levels⟩)
    (others : ∀ o ∈ os, ∀ y, g.face? o = some y → y.program = p.peer ∧ y.direction = some d.opposite) :
    (os.foldl (Graph.linkLevel n d levels) g).Joining n [] := by
  induction os generalizing g with
  | nil => exact h
  | cons o os ih =>
    obtain ⟨hos, nodup⟩ := List.nodup_cons.1 ho
    refine ih (h.linkLevel hos hn (others o List.mem_cons_self)) nodup ?_ ?_
    · rw [face?_linkLevel, hn]
    · intro o' ho' y hy
      rw [face?_linkLevel] at hy
      exact others o' (List.mem_cons_of_mem o ho') y hy

theorem map_node?_foldl_linkLevel (os : List NodeId) (m : NodeId) {α : Type} {q : Node → α}
    (hq : ∀ x succ pred, q { x with successors := succ, predecessors := pred } = q x) :
    ((os.foldl (linkLevel n d levels) g).node? m).map q = (g.node? m).map q := by
  induction os generalizing g with
  | nil => rfl
  | cons o os ih => exact ih.trans (map_node?_linkLevel o m hq)

theorem map_node?_correlate (m : NodeId) {α : Type} {q : Node → α}
    (hl : ∀ x levels, q { x with levels := levels } = q x)
    (hq : ∀ x succ pred, q { x with successors := succ, predecessors := pred } = q x) :
    ((g.correlate n p d levels).node? m).map q = (g.node? m).map q := by
  rw [correlate_eq]
  split
  · rfl
  · rw [map_node?_foldl_linkLevel _ _ hq]
    exact map_node?_modifyNode g n m fun x => hl x levels

theorem inputNodes_correlate : (g.correlate n p d levels).inputNodes = g.inputNodes := by
  rw [correlate_eq]
  split
  · rfl
  · have start : (g.leveled n levels).inputNodes = g.inputNodes := rfl
    refine List.foldlRecOn (motive := fun g' : Graph => g'.inputNodes = g.inputNodes) _ _ start
      fun g' h o _ => ?_
    rw [← h]
    unfold linkLevel
    split
    · rfl
    · split <;> split <;> first | exact inputNodes_connect .. | rfl

theorem mem_netNodes_iff (wf : WellFormed g) {m : NodeId} : m ∈ g.netNodes p d ↔
    ∃ x, g.face? m = some x ∧ x.program = p ∧ x.direction = some d := by
  rw [wf.net]
  constructor
  · rintro ⟨kind, hr, hd⟩
    obtain ⟨x, hx, hp, rfl⟩ := role?_eq_some_iff.1 hr
    exact ⟨x.face, face?_eq_some_iff.2 ⟨x, hx, rfl⟩, hp, (NodeKind.direction?_bare _).symm.trans hd⟩
  · rintro ⟨x, hx, hp, hd⟩
    obtain ⟨y, hy, rfl⟩ := face?_eq_some_iff.1 hx
    exact ⟨y.kind.bare, role?_eq_some_iff.2 ⟨y, hy, hp, rfl⟩, (NodeKind.direction?_bare _).trans hd⟩

theorem face?_leveled (hn : g.face? n = some ⟨p, some d, .empty⟩) (m : NodeId) :
    (g.leveled n levels).face? m = if m = n then some ⟨p, some d, levels⟩ else g.face? m := by
  unfold face? leveled
  rw [node?_modifyNode]
  split
  · next hm =>
    obtain ⟨x, hx, hf⟩ := face?_eq_some_iff.1 hn
    simp only [Node.face, Face.mk.injEq] at hf
    rw [hm, hx]
    simp [Node.face, hf]
  · rfl

/-- Before a network node has its levels, it has no edge to the other program. -/
theorem Divided.joining (h : g.Divided) (wf : WellFormed g)
    (hn : g.face? n = some ⟨p, some d, .empty⟩) :
    (g.leveled n levels).Joining n (g.netNodes p.peer d.opposite) := by
  intro a b x y hx hy hne k
  have edge : (g.leveled n levels).edgeKind? a b = g.edgeKind? a b :=
    edgeKind?_modifyNode (by exact ⟨fun _ => rfl, fun _ => rfl⟩) g n a b
  rw [face?_leveled hn] at hx hy
  rw [edge]
  by_cases ha : a = n
  · rw [if_pos ha] at hx
    have hb : b ≠ n := by rintro rfl; rw [if_pos rfl] at hy; cases hx; cases hy; exact hne rfl
    rw [if_neg hb] at hy
    cases hx
    have none := h.cross a b ⟨p, some d, .empty⟩ y (ha ▸ hn) hy hne k
    rw [none]
    constructor
    · rintro ⟨-, -, -, l, hl, -⟩
      exact absurd hl SortedSet.not_mem_empty
    · rintro ⟨⟨-, hs, hr, -⟩, hab, -⟩
      cases hs
      exact absurd ⟨ha, (mem_netNodes_iff wf).2 ⟨y, hy, Program.eq_peer hne, hr⟩⟩ hab
  · rw [if_neg ha] at hx
    by_cases hb : b = n
    · rw [if_pos hb] at hy
      cases hy
      have none := h.cross a b x ⟨p, some d, .empty⟩ hx (hb ▸ hn) hne k
      rw [none]
      constructor
      · rintro ⟨-, -, -, l, -, hl⟩
        exact absurd hl SortedSet.not_mem_empty
      · rintro ⟨⟨-, hs, hr, -⟩, -, hba⟩
        cases hr
        exact absurd ⟨hb, (mem_netNodes_iff wf).2 ⟨x, hx, Program.eq_peer (Ne.symm hne), hs⟩⟩ hba
    · rw [if_neg hb] at hy
      rw [h.cross a b x y hx hy hne]
      simp [ha, hb]

/-- A network node that gets its levels is linked with the other program as it should be. -/
theorem Divided.correlate (h : g.Divided) (wf : WellFormed g)
    (hn : g.face? n = some ⟨p, some d, .empty⟩) : (g.correlate n p d levels).Divided := by
  have evolves : Evolves g (g.correlate n p d levels) :=
    Changes.evolves wf (Quiet.correlate g n p d levels).grows.changes
  have args := h.args_of_eq evolves fun m => map_node?_correlate m (fun _ _ => rfl) fun _ _ _ => rfl
  rw [correlate_eq] at args ⊢
  by_cases empty : levels.isEmpty = true
  · rw [if_pos empty]
    exact h
  · rw [if_neg empty] at args ⊢
    have nodup : (g.netNodes p.peer d.opposite).Nodup :=
      (wf.net_sorted p.peer d.opposite).imp fun hlt => Nat.ne_of_lt hlt
    have own : (g.leveled n levels).face? n = some ⟨p, some d, levels⟩ :=
      (face?_leveled hn n).trans (if_pos rfl)
    have joined := (h.joining wf hn).foldl_linkLevel nodup own fun o ho y hy => ?_
    · refine ⟨fun a b x y hx hy hne k => ?_, args⟩
      rw [joined a b x y hx hy hne]
      simp
    · obtain ⟨z, hz, hp, hd⟩ := (mem_netNodes_iff wf).1 ho
      rw [face?_leveled hn] at hy
      split at hy
      · next hon =>
        rw [hon, hn] at hz
        cases hz
        exact absurd hp.symm p.peer_ne
      · rw [hz] at hy
        cases hy
        exact ⟨hp, hd⟩

end Correlate

/-! ## Paths between the programs -/

/-- A path between the programs has a step from a send to a receive at a common level. -/
theorem Divided.exists_link {g : Graph} (h : g.Divided) (wf : Linked g) {path : List NodeId}
    (chain : path.IsChain g.Edge) {a b : NodeId} {x y : Face} (ha : path.head? = some a)
    (hb : path.getLast? = some b) (hx : g.face? a = some x) (hy : g.face? b = some y)
    (hne : x.program ≠ y.program) :
    ∃ before w r after, path = before ++ w :: r :: after ∧
      ∃ u v, g.face? w = some u ∧ g.face? r = some v ∧ u.program ≠ v.program ∧ u.Feeds v := by
  induction path generalizing a x with
  | nil => cases ha
  | cons c path ih =>
    cases ha
    cases path with
    | nil =>
      rw [List.getLast?_singleton, Option.some.injEq] at hb
      rw [← hb, hx] at hy
      cases hy
      exact absurd rfl hne
    | cons d path =>
      obtain ⟨edge, rest⟩ := List.isChain_cons_cons.1 chain
      obtain ⟨z, hz⟩ := isLive_iff.1 (wf.isLive_of_hasEdge edge).2
      have hd : g.face? d = some z.face := face?_eq_some_iff.2 ⟨z, hz, rfl⟩
      by_cases hxz : x.program = z.program
      · -- the first step stays in the program
        obtain ⟨before, w, r, after, he, link⟩ := ih rest rfl (by simpa using hb) hd fun he =>
          hne (hxz.trans he)
        exact ⟨c :: before, w, r, after, by rw [he]; rfl, link⟩
      · obtain ⟨k, hk⟩ := hasEdge_iff.1 edge
        exact ⟨[], c, d, path, rfl, x, z.face, hx, hd, hxz, ((h.cross c d x z.face hx hd hxz k).1 hk).2⟩

end Graph

end PeerTaint
