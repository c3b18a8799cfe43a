import PeerTaint.Proofs.Levels

/-!
Which network calls have a level.

When the blocks of a routine have distinct ids, a walk in its level graph is a walk from block to block, so that a
block is at some distance exactly if it is led to by a block where levels start. A call without a level is thus one
in a block that no such block leads to (`LevelGraph.exists_distance_iff`). This can be a block that the first one
leads to, or the first one itself.
-/

namespace PeerTaint

open Relation

namespace Block

/-- A block may run right after another. -/
def Leads (blocks : List Block) (b b' : Block) : Prop := b' ∈ blocks ∧ b'.id ∈ b.successors

/-- Nothing leads to a block, unless it has no wanted calls and leads to itself. -/
def Free (wanted : CallSite → Bool) (blocks : List Block) (b : Block) : Prop :=
  ∀ b' ∈ blocks, b.id ∈ b'.successors → b' = b ∧ b.sites wanted = []

instance (wanted : CallSite → Bool) (blocks : List Block) (b : Block) : Decidable (Free wanted blocks b) :=
  inferInstanceAs (Decidable (∀ b' ∈ blocks, b.id ∈ b'.successors → b' = b ∧ b.sites wanted = []))

/-- Levels start at a block: a free one, or the first one if there is none. -/
def Starts (wanted : CallSite → Bool) (blocks : List Block) (b : Block) : Prop :=
  b ∈ blocks ∧ (Free wanted blocks b ∨ (∀ b' ∈ blocks, ¬ Free wanted blocks b') ∧ blocks.head? = some b)

section Starts

variable {wanted : CallSite → Bool} {blocks : List Block} {b c : Block}

theorem mem_of_leads (hb : b ∈ blocks) (leads : ReflTransGen (Leads blocks) b c) : c ∈ blocks := by
  cases leads with
  | refl => exact hb
  | tail _ last => exact last.1

/-- No other block leads to a free one, in however many steps. -/
theorem Free.eq_of_leads (free : Free wanted blocks c) (hb : b ∈ blocks)
    (leads : ReflTransGen (Leads blocks) b c) : b = c := by
  induction leads with
  | refl => rfl
  | tail before last ih =>
    obtain ⟨rfl, -⟩ := free _ (mem_of_leads hb before) last.2
    exact ih free

/-- Levels start at the first block if it leads to all blocks, or no block leads back to it. -/
theorem starts_first (first : blocks.head? = some b)
    (shape : (∀ c ∈ blocks, ReflTransGen (Leads blocks) b c) ∨ ∀ c ∈ blocks, b.id ∉ c.successors) :
    Starts wanted blocks b := by
  have hb : b ∈ blocks := List.mem_of_mem_head? first
  refine ⟨hb, ?_⟩
  rcases shape with all | none
  · by_cases never : ∀ c ∈ blocks, ¬ Free wanted blocks c
    · exact .inr ⟨never, first⟩
    · push Not at never
      obtain ⟨c, hc, free⟩ := never
      obtain rfl := free.eq_of_leads hb (all c hc)
      exact .inl free
  · exact .inl fun c hc listed => absurd listed (none c hc)

end Starts

end Block

open Block (Leads Free Starts)

namespace LevelGraph

section Distinct

variable {wanted : CallSite → Bool} {blocks : List Block} {b b' s : Block} {j j' i i' u v head : Nat}

/-- A vertex stands for one place of one block only. -/
theorem link_inj (hb : blocks[j]? = some b) (hb' : blocks[j']? = some b') (le : i ≤ (b.sites wanted).length)
    (le' : i' ≤ (b'.sites wanted).length)
    (same : link j (base wanted blocks j) i = link j' (base wanted blocks j') i') : j = j' ∧ i = i' := by
  have lt := (List.getElem?_eq_some_iff.1 hb).1
  have lt' := (List.getElem?_eq_some_iff.1 hb').1
  cases i with
  | zero =>
    cases i' with
    | zero => exact ⟨same, rfl⟩
    | succ i' =>
      change j = blocks.length + callsBefore wanted blocks j' + i' at same
      omega
  | succ i =>
    cases i' with
    | zero =>
      change blocks.length + callsBefore wanted blocks j + i = j' at same
      omega
    | succ i' =>
      change base wanted blocks j + i = base wanted blocks j' + i' at same
      unfold base at same
      obtain ⟨rfl, rfl⟩ := callsBefore_inj hb hb' le le' (by omega)
      exact ⟨rfl, rfl⟩

variable (distinct : (blocks.map (·.id)).Nodup)
include distinct

/-- With distinct ids, blocks are told apart by their ids. -/
theorem position_unique (hb : blocks[j]? = some b) (hb' : blocks[j']? = some b') (same : b.id = b'.id) :
    j = j' := by
  refine (List.getElem?_inj (l := blocks.map (·.id)) ?_ distinct).1 ?_
  · rw [List.length_map]
    exact (List.getElem?_eq_some_iff.1 hb).1
  · rw [List.getElem?_map, List.getElem?_map, hb, hb', Option.map_some, Option.map_some, same]

/-- With distinct ids, the last block with an id is the only one. -/
theorem lastAt_iff {id : Nat} : LastAt blocks id v ↔ ∃ b, blocks[v]? = some b ∧ b.id = id := by
  refine ⟨fun last => Option.map_eq_some_iff.1 last.1, ?_⟩
  rintro ⟨b, hb, rfl⟩
  refine ⟨by rw [hb]; rfl, fun w lt found => lt.ne ?_⟩
  obtain ⟨b', hb', same⟩ := Option.map_eq_some_iff.1 found
  exact position_unique distinct hb hb' same.symm

theorem stands (hb : blocks[j]? = some b) : Stands blocks j b j := ⟨hb, (lastAt_iff distinct).2 ⟨b, hb, rfl⟩⟩

theorem Stands.head_eq (h : Stands blocks j b head) : head = j :=
  h.last.unique (stands distinct h.block).last

/-! ## Walks from block to block -/

/-- A walk leads along the chain of a block. -/
theorem walk_chain (hb : blocks[j]? = some b) (le : i ≤ (b.sites wanted).length) :
    ReflTransGen (fun u v => v ∈ (ofBlocks wanted blocks).next u) j (link j (base wanted blocks j) i) := by
  induction i with
  | zero => exact .refl
  | succ i ih => exact (ih (Nat.le_of_succ_le le)).tail ((mem_next_call (stands distinct hb) le).2 rfl)

/-- A walk leads from a block to one that may run next. -/
theorem walk_leads (hb : blocks[j]? = some b) (hb' : blocks[j']? = some b') (listed : b'.id ∈ b.successors) :
    ReflTransGen (fun u v => v ∈ (ofBlocks wanted blocks).next u) j j' := by
  refine (walk_chain distinct hb le_rfl).tail ?_
  refine (mem_next_block (List.getElem?_eq_some_iff.1 hb').1).2 ⟨j, b, j, stands distinct hb, ?_, rfl⟩
  exact ⟨b'.id, listed, (lastAt_iff distinct).2 ⟨b', hb', rfl⟩⟩

theorem walk_of_leads (leads : ReflTransGen (Leads blocks) b b') (hb : blocks[j]? = some b) :
    ∃ j', blocks[j']? = some b' ∧ ReflTransGen (fun u v => v ∈ (ofBlocks wanted blocks).next u) j j' := by
  induction leads with
  | refl => exact ⟨j, hb, .refl⟩
  | tail _ last ih =>
    obtain ⟨k, hk, walk⟩ := ih
    obtain ⟨j', hj'⟩ := List.getElem?_of_mem last.1
    exact ⟨j', hj', walk.trans (walk_leads distinct hk hj' last.2)⟩

/-- An edge stays in its block or leads to one that may run next. -/
theorem next_leads (hb : blocks[j]? = some b) (le : i ≤ (b.sites wanted).length)
    (edge : v ∈ (ofBlocks wanted blocks).next (link j (base wanted blocks j) i)) :
    ∃ j' b' i', blocks[j']? = some b' ∧ i' ≤ (b'.sites wanted).length ∧ v = link j' (base wanted blocks j') i' ∧
      ReflTransGen (Leads blocks) b b' := by
  obtain ⟨k, c, head, h, brings⟩ := mem_next_iff.1 edge
  obtain rfl := h.head_eq distinct
  generalize place : link j (base wanted blocks j) i = u at brings
  cases brings with
  | call inside =>
    obtain ⟨rfl, rfl⟩ := link_inj hb h.block le inside.le place
    cases hb.symm.trans h.block
    exact ⟨j, b, i + 1, hb, inside, rfl, .refl⟩
  | exit listed known =>
    obtain ⟨rfl, rfl⟩ := link_inj hb h.block le le_rfl place
    cases hb.symm.trans h.block
    obtain ⟨b', hb', rfl⟩ := (lastAt_iff distinct).1 (get?_heads_iff.1 known)
    exact ⟨v, b', 0, hb', Nat.zero_le _, rfl, .single ⟨List.mem_of_getElem? hb', listed⟩⟩

theorem leads_of_walk (hb : blocks[j]? = some b)
    (walk : ReflTransGen (fun u v => v ∈ (ofBlocks wanted blocks).next u) j v) :
    ∃ j' b' i', blocks[j']? = some b' ∧ i' ≤ (b'.sites wanted).length ∧ v = link j' (base wanted blocks j') i' ∧
      ReflTransGen (Leads blocks) b b' := by
  induction walk with
  | refl => exact ⟨j, b, 0, hb, Nat.zero_le _, rfl, .refl⟩
  | tail _ edge ih =>
    obtain ⟨k, c, i, hk, le, rfl, before⟩ := ih
    obtain ⟨j', b', i', hb', le', place, after⟩ := next_leads distinct hk le edge
    exact ⟨j', b', i', hb', le', place, before.trans after⟩

/-! ## Where levels start -/

theorem isEntry_block (hb : blocks[j]? = some b) :
    (ofBlocks wanted blocks).isEntry j = true ↔ Free wanted blocks b := by
  have lt := (List.getElem?_eq_some_iff.1 hb).1
  rw [isEntry_iff]
  constructor
  · intro free c hc listed
    obtain ⟨k, hk⟩ := List.getElem?_of_mem hc
    have edge : j ∈ (ofBlocks wanted blocks).next (link k (base wanted blocks k) (c.sites wanted).length) :=
      (mem_next_block lt).2 ⟨k, c, k, stands distinct hk, ⟨b.id, listed, (stands distinct hb).last⟩, rfl⟩
    obtain ⟨rfl, none⟩ := link_inj hk hb le_rfl (Nat.zero_le _) (free _ edge)
    cases hk.symm.trans hb
    exact ⟨rfl, List.length_eq_zero_iff.1 none⟩
  · intro free u edge
    obtain ⟨k, c, head, h, ⟨id, listed, last⟩, rfl⟩ := (mem_next_block lt).1 edge
    obtain rfl := h.head_eq distinct
    obtain ⟨b', hb', rfl⟩ := (lastAt_iff distinct).1 last
    cases hb.symm.trans hb'
    obtain ⟨rfl, none⟩ := free c (List.mem_of_getElem? h.block) listed
    rw [none]
    exact position_unique distinct h.block hb rfl

theorem mem_entries_block : v ∈ (ofBlocks wanted blocks).entries ↔
    ∃ s, blocks[v]? = some s ∧ Starts wanted blocks s := by
  rw [mem_entries_iff, firstBlock_ofBlocks]
  constructor
  · rintro (⟨inside, free⟩ | ⟨never, b, first, last⟩)
    · have lt := lt_of_isEntry inside free
      have hb := List.getElem?_eq_getElem lt
      exact ⟨_, hb, List.getElem_mem lt, .inl ((isEntry_block distinct hb).1 free)⟩
    · obtain ⟨b', hb', same⟩ := (lastAt_iff distinct).1 last
      have h0 : blocks[0]? = some b := by rwa [← List.head?_eq_getElem?]
      obtain rfl := position_unique distinct hb' h0 same
      cases hb'.symm.trans h0
      refine ⟨b, h0, List.mem_of_getElem? h0, .inr ⟨fun c hc free => ?_, first⟩⟩
      obtain ⟨k, hk⟩ := List.getElem?_of_mem hc
      have := never k (block_lt (List.getElem?_eq_some_iff.1 hk).1)
      rw [(isEntry_block distinct hk).2 free] at this
      cases this
  · rintro ⟨s, hs, -, free | ⟨none, first⟩⟩
    · exact .inl ⟨block_lt (List.getElem?_eq_some_iff.1 hs).1, (isEntry_block distinct hs).2 free⟩
    · refine .inr ⟨fun w inside => ?_, s, first, (stands distinct hs).last⟩
      refine Bool.eq_false_iff.2 fun free => ?_
      have hw := List.getElem?_eq_getElem (lt_of_isEntry inside free)
      exact none _ (List.mem_of_getElem? hw) ((isEntry_block distinct hw).1 free)

/-- A block is at some distance exactly if a block where levels start leads to it. -/
theorem exists_distance_iff (hb : blocks[j]? = some b) :
    (∃ k, AtDistance (ofBlocks wanted blocks).next (ofBlocks wanted blocks).entries k j) ↔
      ∃ s, Starts wanted blocks s ∧ ReflTransGen (Leads blocks) s b := by
  rw [exists_atDistance_iff]
  constructor
  · rintro ⟨e, entry, walk⟩
    obtain ⟨s, hs, starts⟩ := (mem_entries_block distinct).1 entry
    obtain ⟨j', b', i', hb', le, place, leads⟩ := leads_of_walk distinct hs walk
    obtain ⟨rfl, -⟩ := link_inj hb hb' (Nat.zero_le _) le place
    cases hb.symm.trans hb'
    exact ⟨s, starts, leads⟩
  · rintro ⟨s, starts, leads⟩
    obtain ⟨e, he⟩ := List.getElem?_of_mem starts.1
    obtain ⟨j', hj', walk⟩ := walk_of_leads distinct leads he
    obtain rfl := position_unique distinct hb hj' rfl
    exact ⟨e, (mem_entries_block distinct).2 ⟨s, he, starts⟩, walk⟩

end Distinct

end LevelGraph

namespace Correlator

/-- Every call that is led to by a block where levels start has a level, and only such calls give a location
levels. Levels start at the first block if it leads to all blocks, or if no block leads back to it: then no call
that it leads to goes without a level. -/
theorem started_calls_have_levels (naming : Naming) (d : Direction) (rs : List Routine) (r : Routine)
    (member : r ∈ rs) (distinct : (r.layout.map (·.id)).Nodup) :
    (∀ s b, Starts (r.goes naming d) r.layout s → ReflTransGen (Leads r.layout) s b →
      ∀ site ∈ b.sites (r.goes naming d), ∀ loc, site.location = some loc →
        ∃ l, l ∈ (ofRoutines naming rs).nodeLevels r.program d loc) ∧
      (∀ loc, ∀ l ∈ (ofRoutines naming [r]).nodeLevels r.program d loc,
        ∃ s b, Starts (r.goes naming d) r.layout s ∧ ReflTransGen (Leads r.layout) s b ∧
          ∃ site ∈ b.sites (r.goes naming d), site.location = some loc) ∧
      ∀ first, r.layout.head? = some first →
        ((∀ b ∈ r.layout, ReflTransGen (Leads r.layout) first b) ∨ ∀ b ∈ r.layout, first.id ∉ b.successors) →
          Starts (r.goes naming d) r.layout first := by
  refine ⟨fun s b starts leads site hsite loc here => ?_, fun loc l hl => ?_, fun first => Block.starts_first⟩
  · have hb := Block.mem_of_leads starts.1 leads
    obtain ⟨j, hj⟩ := List.getElem?_of_mem hb
    obtain ⟨i, hi⟩ := List.getElem?_of_mem hsite
    obtain ⟨k, distance⟩ := (LevelGraph.exists_distance_iff distinct hj).2 ⟨s, starts, leads⟩
    exact ⟨k + (i + 1), (mem_nodeLevels_iff_site rs d).2
      ⟨r, member, rfl, b, hb, j, (LevelGraph.stands distinct hj).last, k, distance, i, site, hi, here, rfl⟩⟩
  · obtain ⟨r', hr', -, b, hb, v, last, k, distance, i, site, hi, here, -⟩ := (mem_nodeLevels_iff_site [r] d).1 hl
    obtain rfl := List.mem_singleton.1 hr'
    obtain ⟨b', hb', same⟩ := (LevelGraph.lastAt_iff distinct).1 last
    obtain ⟨j, hj⟩ := List.getElem?_of_mem hb
    obtain rfl := LevelGraph.position_unique distinct hj hb' same.symm
    obtain ⟨s, starts, leads⟩ := (LevelGraph.exists_distance_iff distinct hj).1 ⟨k, distance⟩
    exact ⟨s, b, starts, leads, site, List.mem_of_getElem? hi, here⟩

/-- A block that leads to `goBack` only. -/
def goOn : Block := ⟨4, [7], [⟨"recv", none⟩, ⟨"send", some ⟨"a.c", 3⟩⟩]⟩

/-- A block that leads to itself and to `goOn`. -/
def goBack : Block := ⟨7, [7, 4], [⟨"send", some ⟨"a.c", 5⟩⟩]⟩

def circuit : Routine where
  name := "main"
  program := .first
  blocks := [goOn, goBack]

/-- No block of the circuit is free, so it is entered at the first one. -/
theorem started_calls_have_levels_circuit : (circuit.layout.map (·.id)).Nodup ∧
    (∀ b ∈ circuit.layout, ¬ Free (circuit.goes {} .send) circuit.layout b) ∧
    ∃ l, l ∈ (ofRoutines {} [circuit]).nodeLevels .first .send ⟨"a.c", 5⟩ := by
  have distinct : (circuit.layout.map (·.id)).Nodup := by decide
  have none : ∀ b ∈ circuit.layout, ¬ Free (circuit.goes {} .send) circuit.layout b := by decide +kernel
  have on : Leads circuit.layout goOn goBack := ⟨by decide, by decide⟩
  have all : ∀ b ∈ circuit.layout, ReflTransGen (Leads circuit.layout) goOn b := by
    intro b hb
    rcases List.mem_pair.1 hb with rfl | rfl
    · exact .refl
    · exact .single on
  obtain ⟨led, -, first⟩ := started_calls_have_levels {} .send [circuit] circuit List.mem_cons_self distinct
  exact ⟨distinct, none, led goOn goBack (first goOn rfl (.inl all)) (.single on) ⟨"send", some ⟨"a.c", 5⟩⟩
    (by decide +kernel) _ rfl⟩

/-- A loop through the first block, and a block that nothing leads to. -/
def trapped : Routine where
  name := "main"
  program := .first
  blocks := [⟨0, [1], [⟨"send", some ⟨"a.c", 3⟩⟩]⟩, ⟨1, [0], []⟩, ⟨2, [], []⟩]

/-- When there is a free block, a call of the first block can go without a level. -/
theorem first_block_without_level : ¬ ∀ (naming : Naming) (d : Direction) (r : Routine),
    (r.layout.map (·.id)).Nodup → ∀ first b, r.layout.head? = some first → ReflTransGen (Leads r.layout) first b →
      ∀ site ∈ b.sites (r.goes naming d), ∀ loc, site.location = some loc →
        ∃ l, l ∈ (ofRoutines naming [r]).nodeLevels r.program d loc := by
  intro covered
  have none : (ofRoutines {} [trapped]).nodeLevels .first .send ⟨"a.c", 3⟩ = .empty := by decide +kernel
  obtain ⟨l, hl⟩ := covered {} .send trapped (by decide) _ _ rfl .refl ⟨"send", some ⟨"a.c", 3⟩⟩
    (by decide +kernel) ⟨"a.c", 3⟩ rfl
  change l ∈ (ofRoutines {} [trapped]).nodeLevels .first .send ⟨"a.c", 3⟩ at hl
  rw [none] at hl
  exact SortedSet.not_mem_empty hl

end Correlator

end PeerTaint
