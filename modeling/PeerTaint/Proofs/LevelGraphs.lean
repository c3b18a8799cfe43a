import PeerTaint.Levels.Correlator
import PeerTaint.Proofs.Layering

/-!
The shape of level graphs.

The vertices of a level graph are its blocks, and behind them the calls of one block after the other. An edge
leads along the chain of a block, or from the end of the chain to a block that may run next (`Brings`). So nothing
but the link before it leads to a call, and a call is further away than the vertex of its block by its place in
the chain (`atDistance_call`), wherever the entries are. Blocks with the same id share the vertex of the last one.
-/

namespace PeerTaint

/-- The calls of a block that are wanted. -/
def Block.sites (wanted : CallSite → Bool) (b : Block) : List CallSite := b.calls.filter wanted

/-- Whether a call of a routine is a network call of one direction. -/
def Routine.goes (naming : Naming) (d : Direction) (r : Routine) (c : CallSite) : Bool :=
  naming.direction? r.program c.callee = some d

namespace LevelGraph

theorem mem_next {g : LevelGraph} {u v : Nat} : v ∈ g.next u ↔ (u, v) ∈ g.edges := by
  simp only [next, List.mem_map, List.mem_filter, ← SortedSet.mem_def, decide_eq_true_eq]
  constructor
  · rintro ⟨e, ⟨he, rfl⟩, rfl⟩
    exact he
  · intro he
    exact ⟨(u, v), ⟨he, rfl⟩, rfl⟩

theorem isEntry_iff {g : LevelGraph} {v : Nat} : g.isEntry v = true ↔ ∀ u, v ∈ g.next u → u = v := by
  simp only [isEntry, List.all_eq_true, decide_eq_true_eq, ← SortedSet.mem_def, mem_next]
  constructor
  · intro h u edge
    exact h (u, v) edge rfl
  · rintro h ⟨u, w⟩ edge rfl
    exact h u edge

/-- Levels start where nothing else leads to. If there is no such vertex, they start at the first block. -/
theorem mem_entries_iff {g : LevelGraph} {v : Nat} : v ∈ g.entries ↔ (v < g.vertices.length ∧ g.isEntry v = true) ∨
    (∀ w < g.vertices.length, g.isEntry w = false) ∧ g.firstBlock = some v := by
  have free : ∀ w, w ∈ (List.range g.vertices.length).filter g.isEntry ↔
      w < g.vertices.length ∧ g.isEntry w = true := by
    simp
  unfold entries
  dsimp only
  split
  · next none =>
    have never : ∀ w < g.vertices.length, g.isEntry w = false := by
      intro w inside
      refine Bool.eq_false_iff.2 fun entry => ?_
      have := (free w).2 ⟨inside, entry⟩
      rw [List.isEmpty_iff.1 none] at this
      cases this
    rw [Option.mem_toList]
    constructor
    · intro first
      exact .inr ⟨never, first⟩
    · rintro (⟨inside, entry⟩ | ⟨-, first⟩)
      · rw [never v inside] at entry
        cases entry
      · exact first
  · next some =>
    rw [free]
    refine (or_iff_left ?_).symm
    rintro ⟨never, -⟩
    refine some (List.isEmpty_iff.2 (List.filter_eq_nil_iff.2 fun w inside => ?_))
    rw [never w (List.mem_range.1 inside)]
    exact Bool.false_ne_true

/-! ## What a block brings -/

/-- The vertex after `i` links of a chain. -/
def link (head base : Nat) : Nat → Nat
  | 0 => head
  | i + 1 => base + i

/-- An edge that a block with `m` calls brings: along its chain, or from the end of the chain to a block that may
run next. -/
inductive Brings (heads : SortedMap Nat Nat) (successors : List Nat) (m head base : Nat) : Nat → Nat → Prop
  | call {i : Nat} (inside : i < m) : Brings heads successors m head base (link head base i) (base + i)
  | exit {id target : Nat} (listed : id ∈ successors) (known : heads.get? id = some target) :
      Brings heads successors m head base (link head base m) target

section AddBlock

variable {heads : SortedMap Nat Nat} {wanted : CallSite → Bool} {g : LevelGraph} {b : Block} {head : Nat}

theorem zip_stops (head base m : Nat) :
    (head :: (List.range m).map (base + ·)).zip ((List.range m).map (base + ·)) =
      (List.range m).map fun i => (link head base i, base + i) := by
  refine List.ext_getElem (by simp) fun i h₁ h₂ => ?_
  cases i <;> simp [link]

theorem getLast?_stops (head base m : Nat) :
    ((List.range m).map (base + ·)).getLast?.getD head = link head base m := by
  cases m with
  | zero => rfl
  | succ m => simp [List.range_succ, link]

variable (known : heads.get? b.id = some head)
include known

theorem vertices_addBlock : (addBlock heads wanted g b).vertices =
    g.vertices ++ (b.sites wanted).map fun c => .call c.callee c.location := by
  simp [addBlock, known, Block.sites]

theorem mem_edges_addBlock {u v : Nat} : (u, v) ∈ (addBlock heads wanted g b).edges ↔
    Brings heads b.successors (b.sites wanted).length head g.vertices.length u v ∨ (u, v) ∈ g.edges := by
  unfold addBlock
  rw [known]
  dsimp only
  rw [SortedSet.mem_foldl_insert, zip_stops, getLast?_stops, List.mem_append, List.mem_map, List.mem_map]
  refine or_congr_left ⟨?_, ?_⟩
  · rintro (⟨i, hi, same⟩ | ⟨target, ht, same⟩)
    · cases same
      exact .call (List.mem_range.1 hi)
    · cases same
      obtain ⟨id, listed, found⟩ := List.mem_filterMap.1 ht
      exact .exit listed found
  · rintro (inside | ⟨listed, found⟩)
    · exact .inl ⟨_, List.mem_range.2 inside, rfl⟩
    · exact .inr ⟨_, List.mem_filterMap.2 ⟨_, listed, found⟩, rfl⟩

end AddBlock

/-! ## All blocks -/

/-- The number of wanted calls in the blocks before a position. -/
def callsBefore (wanted : CallSite → Bool) (blocks : List Block) (j : Nat) : Nat :=
  ((blocks.take j).map fun b => (b.sites wanted).length).sum

section Fold

variable {heads : SortedMap Nat Nat} {wanted : CallSite → Bool} {bs : List Block} {g : LevelGraph}

theorem callsBefore_succ (b : Block) (j : Nat) :
    callsBefore wanted (b :: bs) (j + 1) = (b.sites wanted).length + callsBefore wanted bs j := by
  simp [callsBefore]

theorem firstBlock_foldl (heads : SortedMap Nat Nat) (wanted : CallSite → Bool) (bs : List Block)
    (g : LevelGraph) : (bs.foldl (addBlock heads wanted) g).firstBlock = g.firstBlock := by
  refine List.foldlRecOn (motive := fun g' : LevelGraph => g'.firstBlock = g.firstBlock) bs _ rfl
    fun g' h b _ => ?_
  rw [← h, addBlock]
  split <;> rfl

variable (known : ∀ b ∈ bs, (heads.get? b.id).isSome = true)
include known

theorem vertices_foldl : (bs.foldl (addBlock heads wanted) g).vertices =
    g.vertices ++ bs.flatMap fun b => (b.sites wanted).map fun c => .call c.callee c.location := by
  induction bs generalizing g with
  | nil => simp
  | cons b bs ih =>
    obtain ⟨head, hb⟩ := Option.isSome_iff_exists.1 (known b List.mem_cons_self)
    rw [List.foldl_cons, ih fun b' h => known b' (List.mem_cons_of_mem b h), vertices_addBlock hb,
      List.flatMap_cons, List.append_assoc]

theorem mem_edges_foldl {u v : Nat} : (u, v) ∈ (bs.foldl (addBlock heads wanted) g).edges ↔
    (∃ j b head, bs[j]? = some b ∧ heads.get? b.id = some head ∧
      Brings heads b.successors (b.sites wanted).length head (g.vertices.length + callsBefore wanted bs j) u v) ∨
      (u, v) ∈ g.edges := by
  induction bs generalizing g with
  | nil => simp
  | cons b bs ih =>
    obtain ⟨head, hb⟩ := Option.isSome_iff_exists.1 (known b List.mem_cons_self)
    have length : (addBlock heads wanted g b).vertices.length = g.vertices.length + (b.sites wanted).length := by
      rw [vertices_addBlock hb, List.length_append, List.length_map]
    rw [List.foldl_cons, ih fun b' h => known b' (List.mem_cons_of_mem b h), mem_edges_addBlock hb, length,
      ← or_assoc]
    refine or_congr_left ?_
    constructor
    · rintro (⟨j, b', head', hj, hb', brings⟩ | brings)
      · refine ⟨j + 1, b', head', hj, hb', ?_⟩
        rwa [callsBefore_succ, ← Nat.add_assoc]
      · exact ⟨0, b, head, rfl, hb, brings⟩
    · rintro ⟨j, b', head', hj, hb', brings⟩
      cases j with
      | zero =>
        cases hj
        cases hb.symm.trans hb'
        exact .inr brings
      | succ j =>
        rw [callsBefore_succ, ← Nat.add_assoc] at brings
        exact .inl ⟨j, b', head', hj, hb', brings⟩

end Fold

/-! ## Vertices of blocks -/

/-- The last block with an id stands at the position `v`. -/
def LastAt (blocks : List Block) (id v : Nat) : Prop :=
  blocks[v]?.map (·.id) = some id ∧ ∀ w, v < w → blocks[w]?.map (·.id) ≠ some id

section Heads

variable {blocks : List Block} {id v : Nat}

theorem lt_length_of_map_id (h : blocks[v]?.map (·.id) = some id) : v < blocks.length := by
  by_contra beyond
  rw [List.getElem?_eq_none (Nat.not_lt.1 beyond)] at h
  cases h

theorem heads_concat (b : Block) : heads (blocks ++ [b]) = (heads blocks).insert b.id blocks.length := by
  simp [heads, List.zipIdx_append, SortedMap.ofList, List.foldl_append]

/-- The vertex of an id is the position of the last block with it. -/
theorem get?_heads_iff : (heads blocks).get? id = some v ↔ LastAt blocks id v := by
  induction blocks using List.reverseRecOn with
  | nil => simp [heads, SortedMap.ofList, LastAt]
  | append_singleton bs b ih =>
    have position : ∀ w, (bs ++ [b])[w]?.map (·.id) = some id ↔
        bs[w]?.map (·.id) = some id ∨ w = bs.length ∧ b.id = id := by
      intro w
      rcases Nat.lt_trichotomy w bs.length with lt | rfl | gt
      · simp [List.getElem?_append_left lt, lt.ne]
      · simp
      · have none : (bs ++ [b])[w]? = none := List.getElem?_eq_none (by rw [List.length_append]; exact gt)
        simp [List.getElem?_eq_none gt.le, none, gt.ne']
    rw [heads_concat, SortedMap.get?_insert]
    split
    · next same =>
      constructor
      · rintro ⟨⟩
        refine ⟨(position _).2 (.inr ⟨rfl, same.symm⟩), fun w lt found => ?_⟩
        rcases (position w).1 found with old | ⟨rfl, -⟩
        · rw [List.getElem?_eq_none lt.le] at old
          cases old
        · exact lt.ne rfl
      · intro last
        rcases (position v).1 last.1 with old | ⟨rfl, -⟩
        · exact absurd ((position _).2 (.inr ⟨rfl, same.symm⟩)) (last.2 _ (lt_length_of_map_id old))
        · rfl
    · next other =>
      simp only [ih, LastAt, position, Ne.symm other, and_false, or_false, ne_eq]

theorem LastAt.lt (h : LastAt blocks id v) : v < blocks.length := lt_length_of_map_id h.1

theorem LastAt.unique {w : Nat} (h : LastAt blocks id v) (h' : LastAt blocks id w) : v = w := by
  rcases Nat.lt_trichotomy v w with lt | eq | gt
  · exact absurd h'.1 (h.2 w lt)
  · exact eq
  · exact absurd h.1 (h'.2 v gt)

theorem isSome_get?_heads {b : Block} (hb : b ∈ blocks) : ((heads blocks).get? b.id).isSome = true := by
  induction blocks using List.reverseRecOn with
  | nil => cases hb
  | append_singleton bs b' ih =>
    rw [heads_concat, SortedMap.get?_insert]
    split
    · rfl
    · next other =>
      refine ih ((List.mem_append.1 hb).resolve_right fun last => other ?_)
      rw [List.mem_singleton.1 last]

end Heads

/-! ## Calls and their vertices -/

section Calls

variable {wanted : CallSite → Bool} {bs : List Block}

theorem callsBefore_add_le (wanted : CallSite → Bool) {b : Block} {j j' : Nat} (hj : bs[j]? = some b)
    (lt : j < j') : callsBefore wanted bs j + (b.sites wanted).length ≤ callsBefore wanted bs j' := by
  induction bs generalizing j j' with
  | nil => cases hj
  | cons b' bs ih =>
    obtain ⟨j', rfl⟩ := Nat.exists_eq_succ_of_ne_zero (Nat.ne_zero_of_lt lt)
    cases j with
    | zero =>
      cases hj
      simp [callsBefore]
    | succ j =>
      have := ih hj (Nat.lt_of_succ_lt_succ lt)
      rw [callsBefore_succ, callsBefore_succ]
      omega

/-- A vertex is that of one call only. -/
theorem callsBefore_inj {b b' : Block} {j j' i i' : Nat} (hj : bs[j]? = some b) (hj' : bs[j']? = some b')
    (hi : i < (b.sites wanted).length) (hi' : i' < (b'.sites wanted).length)
    (same : callsBefore wanted bs j + i = callsBefore wanted bs j' + i') : j = j' ∧ i = i' := by
  rcases Nat.lt_trichotomy j j' with lt | rfl | lt
  · have := callsBefore_add_le wanted hj lt
    omega
  · exact ⟨rfl, Nat.add_left_cancel same⟩
  · have := callsBefore_add_le wanted hj' lt
    omega

/-- Where a call stands among all calls. -/
theorem getElem?_flatMap_sites {α : Type} {f : CallSite → α} {a : α} {k : Nat} :
    (bs.flatMap fun b => (b.sites wanted).map f)[k]? = some a ↔ ∃ j b i site, bs[j]? = some b ∧
      (b.sites wanted)[i]? = some site ∧ f site = a ∧ k = callsBefore wanted bs j + i := by
  induction bs generalizing k with
  | nil => simp
  | cons b bs ih =>
    rw [List.flatMap_cons]
    constructor
    · intro found
      rcases Nat.lt_or_ge k (b.sites wanted).length with lt | ge
      · rw [List.getElem?_append_left (by simpa using lt), List.getElem?_map] at found
        obtain ⟨site, hsite, rfl⟩ := Option.map_eq_some_iff.1 found
        exact ⟨0, b, k, site, rfl, hsite, rfl, by simp [callsBefore]⟩
      · rw [List.getElem?_append_right (by simpa using ge), List.length_map] at found
        obtain ⟨j, b', i, site, hj, hi, rfl, place⟩ := ih.1 found
        refine ⟨j + 1, b', i, site, hj, hi, rfl, ?_⟩
        rw [callsBefore_succ]
        omega
    · rintro ⟨j, b', i, site, hj, hi, rfl, rfl⟩
      cases j with
      | zero =>
        cases hj
        have lt := (List.getElem?_eq_some_iff.1 hi).1
        have start : callsBefore wanted (b :: bs) 0 = 0 := rfl
        rw [start, Nat.zero_add, List.getElem?_append_left (by simpa using lt), List.getElem?_map, hi]
        rfl
      | succ j =>
        rw [callsBefore_succ, Nat.add_assoc, List.getElem?_append_right (by simp), List.length_map,
          Nat.add_sub_cancel_left]
        exact ih.2 ⟨j, b', i, site, hj, hi, rfl, rfl⟩

end Calls

/-! ## The level graph of some blocks -/

/-- The level graph of some blocks for the calls that are wanted. -/
def ofBlocks (wanted : CallSite → Bool) (blocks : List Block) : LevelGraph :=
  blocks.foldl (addBlock (heads blocks) wanted)
    { vertices := blocks.map fun b => .block b.id
      firstBlock := blocks.head?.bind fun b => (heads blocks).get? b.id }

theorem ofRoutine_eq (naming : Naming) (d : Direction) (r : Routine) :
    ofRoutine naming d r = ofBlocks (r.goes naming d) r.layout := rfl

/-- The vertex of the first wanted call of the block at a position. -/
def base (wanted : CallSite → Bool) (blocks : List Block) (j : Nat) : Nat :=
  blocks.length + callsBefore wanted blocks j

/-- A block stands at the position `j`, and the last block with its id at the position `head`. -/
structure Stands (blocks : List Block) (j : Nat) (b : Block) (head : Nat) : Prop where
  block : blocks[j]? = some b
  last : LastAt blocks b.id head

/-- A call with a location stands at a level. -/
def StandsAt (g : LevelGraph) (l : Nat) (loc : Location) : Prop :=
  ∃ level, g.levels[l]? = some level ∧ ∃ v ∈ level, ∃ callee, g.vertices[v]? = some (.call callee (some loc))

section OfBlocks

variable {wanted : CallSite → Bool} {blocks : List Block} {b : Block} {j i head u v k : Nat}

theorem exists_stands (hb : blocks[j]? = some b) : ∃ head, Stands blocks j b head := by
  obtain ⟨head, h⟩ := Option.isSome_iff_exists.1 (isSome_get?_heads (List.mem_of_getElem? hb))
  exact ⟨head, hb, get?_heads_iff.1 h⟩

theorem vertices_ofBlocks (wanted : CallSite → Bool) (blocks : List Block) :
    (ofBlocks wanted blocks).vertices = (blocks.map fun b => .block b.id) ++
      blocks.flatMap fun b => (b.sites wanted).map fun c => .call c.callee c.location :=
  vertices_foldl fun _ hb => isSome_get?_heads hb

/-- An edge of a level graph is brought by one of its blocks. -/
theorem mem_next_iff : v ∈ (ofBlocks wanted blocks).next u ↔ ∃ j b head, Stands blocks j b head ∧
    Brings (heads blocks) b.successors (b.sites wanted).length head (base wanted blocks j) u v := by
  rw [mem_next, ofBlocks, mem_edges_foldl fun _ hb => isSome_get?_heads hb, List.length_map]
  simp only [SortedSet.not_mem_empty, or_false]
  constructor
  · rintro ⟨j, b, head, hb, hh, brings⟩
    exact ⟨j, b, head, ⟨hb, get?_heads_iff.1 hh⟩, brings⟩
  · rintro ⟨j, b, head, ⟨hb, hh⟩, brings⟩
    exact ⟨j, b, head, hb, get?_heads_iff.2 hh, brings⟩

/-- Where the calls are among the vertices. -/
theorem getElem?_vertices_call {callee : String} {location : Option Location} :
    (ofBlocks wanted blocks).vertices[v]? = some (.call callee location) ↔ ∃ j b i site, blocks[j]? = some b ∧
      (b.sites wanted)[i]? = some site ∧ (site.callee = callee ∧ site.location = location) ∧
      v = base wanted blocks j + i := by
  rw [vertices_ofBlocks]
  rcases Nat.lt_or_ge v blocks.length with lt | ge
  · have block : ∃ id, (blocks.map fun b => LevelVertex.block b.id)[v]? = some (.block id) :=
      ⟨blocks[v].id, by simp [List.getElem?_eq_getElem lt]⟩
    obtain ⟨id, block⟩ := block
    rw [List.getElem?_append_left (by simpa using lt), block]
    constructor
    · rintro ⟨⟩
    · rintro ⟨j, b, i, site, -, -, -, rfl⟩
      unfold base at lt
      omega
  · rw [List.getElem?_append_right (by simpa using ge), List.length_map, getElem?_flatMap_sites]
    simp only [LevelVertex.call.injEq, base]
    refine exists_congr fun j => exists_congr fun b => exists_congr fun i => exists_congr fun site =>
      and_congr_right fun _ => and_congr_right fun _ => and_congr_right fun _ => ?_
    omega

/-- Nothing but the link before it leads to a call. -/
theorem mem_next_call (h : Stands blocks j b head) (hi : i < (b.sites wanted).length) :
    base wanted blocks j + i ∈ (ofBlocks wanted blocks).next u ↔ u = link head (base wanted blocks j) i := by
  rw [mem_next_iff]
  constructor
  · rintro ⟨j', b', head', h', brings⟩
    generalize hv : base wanted blocks j + i = v at brings
    cases brings with
    | call hi' =>
      -- the call of another link would have another vertex
      have same : callsBefore wanted blocks j + i = callsBefore wanted blocks j' + _ :=
        Nat.add_left_cancel (by simpa only [base, Nat.add_assoc] using hv)
      obtain ⟨rfl, rfl⟩ := callsBefore_inj h.block h'.block hi hi' same
      cases h.block.symm.trans h'.block
      rw [h.last.unique h'.last]
    | exit listed known =>
      have := (get?_heads_iff.1 known).lt
      unfold base at hv
      omega
  · rintro rfl
    exact ⟨j, b, head, h, .call hi⟩

/-- What leads to a block is the end of the chain of a block that lists it. -/
theorem mem_next_block (lt : v < blocks.length) : v ∈ (ofBlocks wanted blocks).next u ↔
    ∃ j b head, Stands blocks j b head ∧ (∃ id ∈ b.successors, LastAt blocks id v) ∧
      u = link head (base wanted blocks j) (b.sites wanted).length := by
  rw [mem_next_iff]
  refine exists_congr fun j => exists_congr fun b => exists_congr fun head => and_congr_right fun _ => ?_
  constructor
  · intro brings
    cases brings with
    | call _ =>
      unfold base at lt
      omega
    | exit listed known => exact ⟨⟨_, listed, get?_heads_iff.1 known⟩, rfl⟩
  · rintro ⟨⟨id, listed, last⟩, rfl⟩
    exact .exit listed (get?_heads_iff.2 last)

/-- Behind the blocks there are calls only. -/
theorem exists_call (inside : v < (ofBlocks wanted blocks).vertices.length) (behind : blocks.length ≤ v) :
    ∃ j b i, blocks[j]? = some b ∧ i < (b.sites wanted).length ∧ v = base wanted blocks j + i := by
  rw [vertices_ofBlocks, List.length_append, List.length_map] at inside
  have found := List.getElem?_eq_getElem (i := v - blocks.length)
    (l := blocks.flatMap fun b => (b.sites wanted).map fun c => LevelVertex.call c.callee c.location) (by omega)
  obtain ⟨j, b, i, site, hj, hi, -, place⟩ := getElem?_flatMap_sites.1 found
  refine ⟨j, b, i, hj, (List.getElem?_eq_some_iff.1 hi).1, ?_⟩
  unfold base
  omega

theorem call_lt (hb : blocks[j]? = some b) (hi : i < (b.sites wanted).length) :
    base wanted blocks j + i < (ofBlocks wanted blocks).vertices.length := by
  have found := getElem?_vertices_call.2 ⟨j, b, i, _, hb, List.getElem?_eq_getElem hi, ⟨rfl, rfl⟩, rfl⟩
  exact (List.getElem?_eq_some_iff.1 found).1

theorem block_lt (lt : v < blocks.length) : v < (ofBlocks wanted blocks).vertices.length := by
  rw [vertices_ofBlocks, List.length_append, List.length_map]
  omega

/-- Edges lead to vertices. -/
theorem lt_of_mem_next (edge : v ∈ (ofBlocks wanted blocks).next u) :
    v < (ofBlocks wanted blocks).vertices.length := by
  obtain ⟨j, b, head, h, brings⟩ := mem_next_iff.1 edge
  cases brings with
  | call hi => exact call_lt h.block hi
  | exit listed known => exact block_lt (get?_heads_iff.1 known).lt

/-- The link before a call is another vertex. -/
theorem Stands.link_ne (h : Stands blocks j b head) :
    link head (base wanted blocks j) i ≠ base wanted blocks j + i := by
  have := h.last.lt
  cases i with
  | zero =>
    change head ≠ blocks.length + callsBefore wanted blocks j + 0
    omega
  | succ i =>
    change base wanted blocks j + i ≠ base wanted blocks j + (i + 1)
    omega

/-- Something else leads to a call. -/
theorem lt_of_isEntry (inside : v < (ofBlocks wanted blocks).vertices.length)
    (free : (ofBlocks wanted blocks).isEntry v = true) : v < blocks.length := by
  by_contra behind
  obtain ⟨j, b, i, hb, hi, rfl⟩ := exists_call inside (Nat.not_lt.1 behind)
  obtain ⟨head, h⟩ := exists_stands hb
  exact h.link_ne (isEntry_iff.1 free _ ((mem_next_call h hi).2 rfl))

theorem firstBlock_ofBlocks : (ofBlocks wanted blocks).firstBlock = some v ↔
    ∃ b, blocks.head? = some b ∧ LastAt blocks b.id v := by
  rw [ofBlocks, firstBlock_foldl, Option.bind_eq_some_iff]
  simp only [get?_heads_iff]

/-- Entries are blocks. -/
theorem lt_of_mem_entries (entry : v ∈ (ofBlocks wanted blocks).entries) : v < blocks.length := by
  rcases mem_entries_iff.1 entry with ⟨inside, free⟩ | ⟨-, first⟩
  · exact lt_of_isEntry inside free
  · obtain ⟨b, -, last⟩ := firstBlock_ofBlocks.1 first
    exact last.lt

/-! ## Distances of calls -/

/-- A call is further away than the vertex of its block, by its place in the chain. -/
theorem atDistance_call (h : Stands blocks j b head) (hi : i < (b.sites wanted).length) :
    AtDistance (ofBlocks wanted blocks).next (ofBlocks wanted blocks).entries k (base wanted blocks j + i) ↔
      ∃ l, AtDistance (ofBlocks wanted blocks).next (ofBlocks wanted blocks).entries l head ∧ k = l + (i + 1) := by
  have other : ∀ {i}, base wanted blocks j + i ∉ (ofBlocks wanted blocks).entries := by
    intro i entry
    have := lt_of_mem_entries entry
    unfold base at this
    omega
  induction i generalizing k with
  | zero => exact atDistance_of_only other fun u => mem_next_call h hi
  | succ i ih =>
    rw [atDistance_of_only other fun u => mem_next_call h hi]
    simp only [link, ih (Nat.lt_of_succ_lt hi)]
    constructor
    · rintro ⟨m, ⟨l, hl, rfl⟩, rfl⟩
      exact ⟨l, hl, rfl⟩
    · rintro ⟨l, hl, rfl⟩
      exact ⟨_, ⟨l, hl, rfl⟩, rfl⟩

/-- The level of a vertex is its distance from the entries. -/
theorem mem_levels_iff : (∃ level, (ofBlocks wanted blocks).levels[k]? = some level ∧ v ∈ level) ↔
    AtDistance (ofBlocks wanted blocks).next (ofBlocks wanted blocks).entries k v := by
  rw [← mem_layers_iff (fun _ _ _ edge => lt_of_mem_next edge) fun _ entry => block_lt (lt_of_mem_entries entry)]
  change _ ↔ v ∈ (ofBlocks wanted blocks).levels[k]?.getD []
  cases (ofBlocks wanted blocks).levels[k]? <;> simp

/-- A call of a block stands where its place in the chain has it, counted from the level of the block. -/
theorem standsAt_ofBlocks {loc : Location} : (ofBlocks wanted blocks).StandsAt k loc ↔
    ∃ j b head, Stands blocks j b head ∧
      ∃ l, AtDistance (ofBlocks wanted blocks).next (ofBlocks wanted blocks).entries l head ∧
        ∃ i site, (b.sites wanted)[i]? = some site ∧ site.location = some loc ∧ k = l + (i + 1) := by
  constructor
  · rintro ⟨level, hlevel, v, hv, callee, vertex⟩
    have distance := mem_levels_iff.1 ⟨level, hlevel, hv⟩
    obtain ⟨j, b, i, site, hb, hi, ⟨-, located⟩, rfl⟩ := getElem?_vertices_call.1 vertex
    obtain ⟨head, h⟩ := exists_stands hb
    obtain ⟨l, hl, rfl⟩ := (atDistance_call h (List.getElem?_eq_some_iff.1 hi).1).1 distance
    exact ⟨j, b, head, h, l, hl, i, site, hi, located, rfl⟩
  · rintro ⟨j, b, head, h, l, hl, i, site, hi, located, rfl⟩
    have distance := (atDistance_call h (List.getElem?_eq_some_iff.1 hi).1).2 ⟨l, hl, rfl⟩
    obtain ⟨level, hlevel, hv⟩ := mem_levels_iff.2 distance
    refine ⟨level, hlevel, base wanted blocks j + i, hv, site.callee, ?_⟩
    exact getElem?_vertices_call.2 ⟨j, b, i, site, h.block, hi, ⟨rfl, located⟩, rfl⟩

end OfBlocks

end LevelGraph

end PeerTaint
