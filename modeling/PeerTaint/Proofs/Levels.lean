import PeerTaint.Proofs.LevelGraphs

/-!
At which levels network calls stand.

The levels that are known for a location are those at which some routine of the program has a network call
with that location (`Correlator.mem_nodeLevels_iff`). Such a level counts the calls of a block from the level of
the block on (`Correlator.mem_nodeLevels_iff_site`). In a routine without blocks the network calls of a
direction form a chain, so that the levels count them (`LevelGraph.standsAt_iff`).
-/

namespace PeerTaint

/-- The network calls of a routine in one direction, in order. -/
def Routine.networkCalls (naming : Naming) (d : Direction) (r : Routine) : List Operation :=
  r.operations.filter fun op => op.callee.bind (naming.direction? r.program) = some d

namespace LevelGraph

/-! ## Routines without blocks -/

section Plain

variable (naming : Naming) (d : Direction) (r : Routine)

/-- The call sites of a direction. -/
def sites : List CallSite := r.callSites.filter fun c => naming.direction? r.program c.callee = some d

theorem map_location_sites :
    (sites naming d r).map (·.location) = (r.networkCalls naming d).map (·.location) := by
  unfold sites Routine.callSites Routine.networkCalls
  induction r.operations with
  | nil => rfl
  | cons op ops ih =>
    cases hc : op.callee with
    | none => simpa [hc] using ih
    | some name =>
      by_cases hd : naming.direction? r.program name = some d
      · simpa [hc, hd] using ih
      · simpa [hc, hd] using ih

variable {r} (plain : r.blocks = [])
include plain

theorem layout_of_plain : r.layout = [⟨0, [], r.callSites⟩] := by
  rw [Routine.layout, plain]
  rfl

/-- The only block of a routine without blocks is where levels start. -/
theorem entry_of_plain : 0 ∈ (ofRoutine naming d r).entries := by
  rw [ofRoutine_eq, layout_of_plain plain]
  refine mem_entries_iff.2 (.inl ⟨block_lt Nat.zero_lt_one, isEntry_iff.2 fun u edge => ?_⟩)
  obtain ⟨j, b, head, h, ⟨id, listed, -⟩, -⟩ := (mem_next_block Nat.zero_lt_one).1 edge
  obtain rfl := List.mem_singleton.1 (List.mem_of_getElem? h.block)
  cases listed

/-- In a routine without blocks, the level of a network call is its position, counted from one. -/
theorem standsAt_iff {l : Nat} {loc : Location} : (ofRoutine naming d r).StandsAt l loc ↔
    ∃ k op, l = k + 1 ∧ (r.networkCalls naming d)[k]? = some op ∧ op.location = some loc := by
  have located : ∀ k : Nat, (∃ c, (sites naming d r)[k]? = some c ∧ c.location = some loc) ↔
      ∃ op, (r.networkCalls naming d)[k]? = some op ∧ op.location = some loc := by
    intro k
    rw [← Option.map_eq_some_iff, ← Option.map_eq_some_iff, ← List.getElem?_map, ← List.getElem?_map,
      map_location_sites]
  have entry : AtDistance (ofRoutine naming d r).next (ofRoutine naming d r).entries 0 0 :=
    atDistance_zero_iff.2 (entry_of_plain naming d plain)
  rw [ofRoutine_eq, layout_of_plain plain] at entry
  rw [ofRoutine_eq, layout_of_plain plain, standsAt_ofBlocks]
  constructor
  · rintro ⟨j, b, head, h, depth, distance, k, site, hk, here, rfl⟩
    obtain rfl := List.mem_singleton.1 (List.mem_of_getElem? h.block)
    obtain rfl : head = 0 := Nat.lt_one_iff.1 h.last.lt
    obtain rfl := distance.unique entry
    obtain ⟨op, hop⟩ := (located k).1 ⟨site, hk, here⟩
    exact ⟨k, op, Nat.zero_add _, hop⟩
  · rintro ⟨k, op, rfl, hop⟩
    obtain ⟨site, hk, here⟩ := (located k).2 ⟨op, hop⟩
    have only : ([⟨0, [], r.callSites⟩] : List Block)[0]? = some ⟨0, [], r.callSites⟩ := rfl
    obtain ⟨head, h⟩ := exists_stands only
    obtain rfl : head = 0 := Nat.lt_one_iff.1 h.last.lt
    exact ⟨0, _, 0, h, 0, entry, k, site, hk, here, (Nat.zero_add _).symm⟩

end Plain

end LevelGraph

/-! ## The index of locations -/

namespace LevelStructure

/-- The levels that an index has for a location. -/
def levelsAt (index : SortedMap Location LevelSet) (loc : Location) : LevelSet := (index.get? loc).getD .empty

variable {index : SortedMap Location LevelSet} {l : Nat} {loc : Location}

theorem mem_levelsAt_note (depth : Nat) (v : LevelVertex) : l ∈ levelsAt (note depth index v) loc ↔
    (l = depth ∧ ∃ callee, v = .call callee (some loc)) ∨ l ∈ levelsAt index loc := by
  cases v with
  | block id => simp [note]
  | call callee location =>
    cases location with
    | none => simp [note]
    | some loc' =>
      by_cases same : loc = loc'
      · subst same
        simp [note, levelsAt]
      · simp [note, levelsAt, SortedMap.get?_insert, same, Ne.symm same]

theorem mem_levelsAt_level (depth : Nat) (level : List LevelVertex) :
    l ∈ levelsAt (level.foldl (note depth) index) loc ↔
      (l = depth ∧ ∃ callee, .call callee (some loc) ∈ level) ∨ l ∈ levelsAt index loc := by
  induction level generalizing index with
  | nil => simp
  | cons v level ih =>
    rw [List.foldl_cons, ih, mem_levelsAt_note]
    simp only [List.mem_cons, exists_or, and_or_left, or_assoc, @eq_comm _ v]
    exact or_left_comm

theorem mem_levelsAt_foldl (levels : List (List LevelVertex × Nat)) :
    l ∈ levelsAt (levels.foldl (fun index (level, depth) => level.foldl (note depth) index) index) loc ↔
      (∃ level, (level, l) ∈ levels ∧ ∃ callee, .call callee (some loc) ∈ level) ∨ l ∈ levelsAt index loc := by
  induction levels generalizing index with
  | nil => simp
  | cons e levels ih =>
    rw [List.foldl_cons, ih, mem_levelsAt_level]
    simp only [List.mem_cons, or_and_right, exists_or, or_assoc]
    rw [or_left_comm]
    refine or_congr_left ?_
    constructor
    · rintro ⟨rfl, call⟩
      exact ⟨e.1, rfl, call⟩
    · rintro ⟨level, rfl, call⟩
      exact ⟨rfl, call⟩

/-- Adding a routine adds the levels of its calls to their locations. -/
theorem mem_levelsAt_add (s : LevelStructure) (routine : String) (levels : List (List LevelVertex)) :
    l ∈ levelsAt (s.add routine levels).index loc ↔
      (∃ level, levels[l]? = some level ∧ ∃ callee, .call callee (some loc) ∈ level) ∨
        l ∈ levelsAt s.index loc := by
  refine (mem_levelsAt_foldl levels.zipIdx).trans (or_congr_left (exists_congr fun level => ?_))
  rw [List.mem_zipIdx_iff_getElem?]

end LevelStructure

namespace Correlator

variable {naming : Naming} {l : Nat} {p : Program} {loc : Location}

open LevelStructure (levelsAt)

theorem mem_nodeLevels_addDirection (c : Correlator) (r : Routine) (d d' : Direction) :
    l ∈ (addDirection naming r c d).nodeLevels p d' loc ↔
      ((r.program = p ∧ d = d') ∧ (LevelGraph.ofRoutine naming d r).StandsAt l loc) ∨
        l ∈ c.nodeLevels p d' loc := by
  obtain ⟨g, hg⟩ : ∃ g, g = LevelGraph.ofRoutine naming d r := ⟨_, rfl⟩
  have listed : (∃ level, (g.levels.map fun level => level.filterMap (g.vertices[·]?))[l]? = some level ∧
      ∃ callee, .call callee (some loc) ∈ level) ↔ g.StandsAt l loc := by
    simp only [LevelGraph.StandsAt, List.getElem?_map, Option.map_eq_some_iff]
    constructor
    · rintro ⟨_, ⟨level, hl, rfl⟩, callee, call⟩
      obtain ⟨v, hv, vertex⟩ := List.mem_filterMap.1 call
      exact ⟨level, hl, v, hv, callee, vertex⟩
    · rintro ⟨level, hl, v, hv, callee, vertex⟩
      exact ⟨_, ⟨level, hl, rfl⟩, callee, List.mem_filterMap.2 ⟨v, hv, vertex⟩⟩
  unfold addDirection
  rw [← hg]
  dsimp only
  split
  · next none =>
    -- without calls, no call stands anywhere
    have empty : ¬ g.StandsAt l loc := by
      rintro ⟨level, -, v, -, callee, vertex⟩
      exact List.countP_eq_zero.1 none _ (List.mem_of_getElem? vertex) rfl
    simp [empty]
  · by_cases same : (p, d') = (r.program, d)
    · obtain ⟨rfl, rfl⟩ := Prod.mk.inj same
      have old : levelsAt ((c.structures.get? (r.program, d')).getD {}).index loc
          = c.nodeLevels r.program d' loc := by
        unfold nodeLevels structure? levelsAt
        cases c.structures.get? (r.program, d') <;> rfl
      rw [← listed, ← old]
      simp only [and_self, true_and, ← LevelStructure.mem_levelsAt_add _ r.name, nodeLevels, structure?,
        SortedMap.get?_insert, if_true, Option.bind_some]
      rfl
    · have other : ¬ (r.program = p ∧ d = d') := by
        rintro ⟨rfl, rfl⟩
        exact same rfl
      simp [nodeLevels, structure?, SortedMap.get?_insert, same, other]

theorem mem_nodeLevels_addRoutine (c : Correlator) (r : Routine) (d : Direction) :
    l ∈ (addRoutine naming c r).nodeLevels p d loc ↔
      (r.program = p ∧ (LevelGraph.ofRoutine naming d r).StandsAt l loc) ∨ l ∈ c.nodeLevels p d loc := by
  change l ∈ (addDirection naming r (addDirection naming r c .send) .recv).nodeLevels p d loc ↔ _
  rw [mem_nodeLevels_addDirection, mem_nodeLevels_addDirection]
  cases d <;> simp

/-- The levels of a location are those at which a routine of the program has a network call with it. -/
theorem mem_nodeLevels_iff (rs : List Routine) (d : Direction) :
    l ∈ (ofRoutines naming rs).nodeLevels p d loc ↔
      ∃ r ∈ rs, r.program = p ∧ (LevelGraph.ofRoutine naming d r).StandsAt l loc := by
  suffices ∀ c : Correlator, l ∈ (rs.foldl (addRoutine naming) c).nodeLevels p d loc ↔
      (∃ r ∈ rs, r.program = p ∧ (LevelGraph.ofRoutine naming d r).StandsAt l loc) ∨
        l ∈ c.nodeLevels p d loc by
    refine (this {}).trans (or_iff_left ?_)
    exact SortedSet.not_mem_empty
  induction rs with
  | nil => simp
  | cons r rs ih =>
    intro c
    rw [List.foldl_cons, ih, mem_nodeLevels_addRoutine]
    simp only [List.mem_cons, exists_eq_or_imp, or_assoc]
    exact or_left_comm

/-- The levels of a location count the calls with it, in each block from the distance of its vertex on. -/
theorem mem_nodeLevels_iff_site (rs : List Routine) (d : Direction) :
    l ∈ (ofRoutines naming rs).nodeLevels p d loc ↔
      ∃ r ∈ rs, r.program = p ∧ ∃ b ∈ r.layout, ∃ v, LevelGraph.LastAt r.layout b.id v ∧
        ∃ k, AtDistance (LevelGraph.ofRoutine naming d r).next (LevelGraph.ofRoutine naming d r).entries k v ∧
          ∃ i site, (b.sites (r.goes naming d))[i]? = some site ∧ site.location = some loc ∧ l = k + (i + 1) := by
  rw [mem_nodeLevels_iff]
  refine exists_congr fun r => and_congr_right fun _ => and_congr_right fun _ => ?_
  rw [LevelGraph.ofRoutine_eq, LevelGraph.standsAt_ofBlocks]
  constructor
  · rintro ⟨j, b, v, h, place⟩
    exact ⟨b, List.mem_of_getElem? h.block, v, h.last, place⟩
  · rintro ⟨b, hb, v, last, place⟩
    obtain ⟨j, hj⟩ := List.getElem?_of_mem hb
    exact ⟨j, b, v, ⟨hj, last⟩, place⟩

/-- The index of the levels is exact, with repeated ids and ids of no block as well. So there is no level before
the first, the levels of more routines are the union of theirs, and the order of the routines does not matter. -/
theorem nodeLevels_exact (naming : Naming) (rs : List Routine) (p : Program) (d : Direction) (loc : Location) :
    (∀ l, l ∈ (ofRoutines naming rs).nodeLevels p d loc ↔
      ∃ r ∈ rs, r.program = p ∧ ∃ b ∈ r.layout, ∃ v, LevelGraph.LastAt r.layout b.id v ∧
        ∃ k, AtDistance (LevelGraph.ofRoutine naming d r).next (LevelGraph.ofRoutine naming d r).entries k v ∧
          ∃ i site, (b.sites (r.goes naming d))[i]? = some site ∧ site.location = some loc ∧ l = k + (i + 1)) ∧
      (∀ l ∈ (ofRoutines naming rs).nodeLevels p d loc, 1 ≤ l) ∧
      (∀ rs', (ofRoutines naming (rs ++ rs')).nodeLevels p d loc =
        ((ofRoutines naming rs).nodeLevels p d loc).union ((ofRoutines naming rs').nodeLevels p d loc)) ∧
      ∀ rs', rs.Perm rs' →
        (ofRoutines naming rs').nodeLevels p d loc = (ofRoutines naming rs).nodeLevels p d loc := by
  refine ⟨fun l => mem_nodeLevels_iff_site rs d, fun l hl => ?_, fun rs' => SortedSet.ext fun l => ?_,
    fun rs' perm => SortedSet.ext fun l => ?_⟩
  · obtain ⟨-, -, -, -, -, -, -, k, -, i, -, -, -, rfl⟩ := (mem_nodeLevels_iff_site rs d).1 hl
    omega
  · simp only [SortedSet.mem_union, mem_nodeLevels_iff, List.mem_append, or_and_right, exists_or]
  · simp only [mem_nodeLevels_iff, perm.mem_iff]

/-- Two routines that send from one location. In `f` the id `1` is used twice and the id `9` not at all. -/
def relays : List Routine :=
  [{ name := "f", program := .first, blocks :=
      [⟨0, [1, 9], [⟨"send", some ⟨"a.c", 3⟩⟩]⟩,
        ⟨1, [], [⟨"puts", some ⟨"a.c", 3⟩⟩, ⟨"sendto", some ⟨"a.c", 3⟩⟩]⟩,
        ⟨1, [1], [⟨"send", none⟩]⟩] },
    { name := "g", program := .first, operations :=
      [{ opcode := .call, operands := [], target := some "send", location := some ⟨"a.c", 7⟩ },
        { opcode := .call, operands := [], target := some "send", location := some ⟨"a.c", 3⟩ }] }]

/-- The levels `1` and `3` come from `f`, whatever comes first. The block with the second call is at the distance
`2` of the last block with its id. -/
theorem nodeLevels_exact_relays : relays.Perm relays.reverse ∧
    (ofRoutines {} relays.reverse).nodeLevels .first .send ⟨"a.c", 3⟩ = .ofList [1, 2, 3] := by
  have perm : relays.Perm relays.reverse := (List.reverse_perm relays).symm
  have found : (ofRoutines {} relays).nodeLevels .first .send ⟨"a.c", 3⟩ = .ofList [1, 2, 3] := by decide +kernel
  exact ⟨perm, ((nodeLevels_exact {} relays .first .send ⟨"a.c", 3⟩).2.2.2 _ perm).trans found⟩

end Correlator

end PeerTaint
