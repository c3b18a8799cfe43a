import Mathlib.Data.List.Basic
import Mathlib.Logic.Relation

/-!
Taking nodes out of a graph, and what leads where afterwards.

A junction is a node that is going to be taken out, with edges that are drawn before: from the nodes it
passes on to the nodes they are passed to, and from the nodes it returns to the successors of the
junction. All at once, this inlines the junctions (`Inlined`). Done one after the other, edges that
start or end at a node that is gone are not drawn, and edges into a junction go with it; `Kept` says
what is left, and exactly this decides what leads where in the end. In an order that is `Lossless`
nothing is missing.
-/

namespace PeerTaint

open Relation (ReflTransGen)

/-- A node to be taken out, with what is passed on and what is returned in its place. -/
structure Junction (α : Type) where
  node : α
  pass : α → α → Prop
  ret : α → Prop

variable {α β : Type}

/-- Taking a node out and joining its neighbours keeps what leads where. -/
theorem reflTransGen_eliminate {r r' : α → α → Prop} {n : α} (away : ∀ a b, r' a b → a ≠ n ∧ b ≠ n)
    (step : ∀ a b, a ≠ n → b ≠ n → a ≠ b → (r' a b ↔ r a b ∨ r a n ∧ r n b))
    {u v : α} (hu : u ≠ n) (hv : v ≠ n) : ReflTransGen r u v ↔ ReflTransGen r' u v := by
  constructor
  · intro path
    -- a path that has come to the node is remembered up to where it came from
    suffices ∀ w, ReflTransGen r u w → (w ≠ n → ReflTransGen r' u w) ∧
        (w = n → ∃ x, x ≠ n ∧ ReflTransGen r' u x ∧ r x n) from (this v path).1 hv
    intro w path
    induction path with
    | refl => exact ⟨fun _ => .refl, fun h => absurd h hu⟩
    | @tail w y _ edge ih =>
      by_cases hw : w = n
      · obtain ⟨x, hx, before, into⟩ := ih.2 hw
        refine ⟨fun hy => ?_, fun _ => ⟨x, hx, before, into⟩⟩
        by_cases hxy : x = y
        · exact hxy ▸ before
        · exact before.tail ((step x y hx hy hxy).2 (Or.inr ⟨into, hw ▸ edge⟩))
      · refine ⟨fun hy => ?_, fun hy => ⟨w, hw, ih.1 hw, hy ▸ edge⟩⟩
        by_cases hwy : w = y
        · exact hwy ▸ ih.1 hw
        · exact (ih.1 hw).tail ((step w y hw hy hwy).2 (Or.inl edge))
  · intro path
    induction path with
    | refl => exact .refl
    | @tail w y _ edge ih =>
      obtain ⟨hw, hy⟩ := away w y edge
      by_cases hwy : w = y
      · exact hwy ▸ ih hw
      · rcases (step w y hw hy hwy).1 edge with direct | ⟨into, out⟩
        · exact (ih hw).tail direct
        · exact ((ih hw).tail into).tail out

namespace Junction

/-- What leads where when all junctions are inlined at once. -/
inductive Inlined (js : List (Junction α)) (E : α → α → Prop) : α → α → Prop
  | edge {a b : α} (edge : E a b) (kept : ∀ j ∈ js, j.node ≠ b) : Inlined js E a b
  | pass {j : Junction α} {a b : α} (mem : j ∈ js) (pass : j.pass a b) : Inlined js E a b
  | ret {j : Junction α} {a : α} (mem : j ∈ js) (ret : j.ret a) : Inlined js E a j.node

/-- What is drawn when the junctions are taken out one after the other and some nodes are gone already,
as far as it is not taken away again: nothing leads from or to a node that is gone, and what leads into a
junction is not returned in its place. -/
def Late : List (Junction α) → List α → α → α → Prop
  | [], _, _, _ => False
  | j :: js, gone, a, b =>
    (j.pass a b ∧ (a ∉ gone ∧ a ≠ j.node) ∧ b ∉ gone ∧ ∀ i ∈ j :: js, i.node ≠ b) ∨
      ((j.ret a ∧ a ∉ gone) ∧ b = j.node) ∨ Late js (gone ++ [j.node]) a b

/-- What leads where when the junctions are taken out one after the other. -/
def Kept (js : List (Junction α)) (gone : List α) (E : α → α → Prop) (a b : α) : Prop :=
  (E a b ∧ ∀ j ∈ js, j.node ≠ b) ∨ Late js gone a b

/-- No junction is taken out before one that passes it on or returns it. None passes itself on, and
nothing is passed to a junction. -/
structure Lossless (js : List (Junction α)) : Prop where
  order : js.Pairwise fun i j => (∀ b, ¬ j.pass i.node b) ∧ ¬ j.ret i.node
  own : ∀ j ∈ js, ∀ b, ¬ j.pass j.node b
  target : ∀ j ∈ js, ∀ a b, j.pass a b → ∀ i ∈ js, i.node ≠ b

theorem Inlined.congr {js ks : List (Junction α)} {E : α → α → Prop} {a b : α} (h : Inlined js E a b)
    (same : ∀ j, j ∈ js ↔ j ∈ ks) : Inlined ks E a b := by
  cases h with
  | edge edge kept => exact .edge edge fun j hj => kept j ((same j).2 hj)
  | pass mem pass => exact .pass ((same _).1 mem) pass
  | ret mem ret => exact .ret ((same _).1 mem) ret

/-! ## Losing nothing -/

section Late

variable {j : Junction α} {js : List (Junction α)} {gone : List α} {E : α → α → Prop} {a b : α}

/-- What is drawn late is drawn for one of the junctions. -/
theorem Late.exists_mem (h : Late js gone a b) :
    ∃ j ∈ js, j.pass a b ∧ (∀ i ∈ js, i.node ≠ b) ∧ b ∉ gone ∨ j.ret a ∧ b = j.node := by
  induction js generalizing gone with
  | nil => exact h.elim
  | cons j js ih =>
    rcases h with ⟨pass, -, target, kept⟩ | ⟨⟨ret, -⟩, rfl⟩ | h
    · exact ⟨j, List.mem_cons_self, Or.inl ⟨pass, kept, target⟩⟩
    · exact ⟨j, List.mem_cons_self, Or.inr ⟨ret, rfl⟩⟩
    · obtain ⟨i, hi, ⟨pass, kept, target⟩ | h⟩ := ih h
      · rw [List.mem_append, List.mem_singleton, not_or] at target
        exact ⟨i, List.mem_cons_of_mem j hi, Or.inl ⟨pass, List.forall_mem_cons.2 ⟨Ne.symm target.2, kept⟩,
          target.1⟩⟩
      · exact ⟨i, List.mem_cons_of_mem j hi, Or.inr h⟩

theorem Late.not_mem_gone (h : Late js gone a b) : a ∉ gone := by
  induction js generalizing gone with
  | nil => exact h.elim
  | cons j js ih =>
    rcases h with ⟨-, source, -⟩ | ⟨⟨-, source⟩, -⟩ | h
    · exact source.1
    · exact source
    · exact fun ha => ih h (List.mem_append_left _ ha)

theorem Kept.inlined (h : Kept js gone E a b) : Inlined js E a b := by
  rcases h with ⟨edge, kept⟩ | late
  · exact .edge edge kept
  · obtain ⟨j, hj, ⟨pass, -⟩ | ⟨ret, rfl⟩⟩ := late.exists_mem
    · exact .pass hj pass
    · exact .ret hj ret

/-- In a lossless order, all that a junction passes on or returns is drawn. -/
theorem Lossless.late (h : Lossless js) (hj : j ∈ js) (fresh : a ∉ gone) :
    (j.pass a b → b ∉ gone → Late js gone a b) ∧ (j.ret a → Late js gone a j.node) := by
  induction js generalizing gone with
  | nil => cases hj
  | cons i js ih =>
    obtain ⟨first, order⟩ := List.pairwise_cons.1 h.order
    have rest : Lossless js := ⟨order, fun j hj => h.own j (List.mem_cons_of_mem i hj),
      fun j hj a b pass k hk => h.target j (List.mem_cons_of_mem i hj) a b pass k (List.mem_cons_of_mem i hk)⟩
    rcases List.mem_cons.1 hj with rfl | hj'
    · refine ⟨fun pass target => Or.inl ⟨pass, ⟨fresh, ?_⟩, target, h.target j hj a b pass⟩,
        fun ret => Or.inr (Or.inl ⟨⟨ret, fresh⟩, rfl⟩)⟩
      rintro rfl
      exact h.own j hj b pass
    · have later : ∀ {x}, x ∉ gone → x ≠ i.node → x ∉ gone ++ [i.node] := fun hx hne => by
        rw [List.mem_append, List.mem_singleton]
        exact not_or.2 ⟨hx, hne⟩
      constructor
      · intro pass target
        refine Or.inr (Or.inr ((ih rest hj' (later fresh ?_)).1 pass (later target ?_)))
        · rintro rfl
          exact (first j hj').1 b pass
        · exact (h.target j hj a b pass i List.mem_cons_self).symm
      · intro ret
        refine Or.inr (Or.inr ((ih rest hj' (later fresh ?_)).2 ret))
        rintro rfl
        exact (first j hj').2 ret

theorem Lossless.kept (h : Lossless js) (inlined : Inlined js E a b) : Kept js [] E a b := by
  cases inlined with
  | edge edge kept => exact Or.inl ⟨edge, kept⟩
  | pass hj pass => exact Or.inr ((h.late hj List.not_mem_nil).1 pass List.not_mem_nil)
  | ret hj ret => exact Or.inr ((h.late (b := a) hj List.not_mem_nil).2 ret)

end Late

/-! ## One junction after the other -/

/-- One junction was taken out. Edges were drawn between nodes that were there. -/
def Bypassed (j : Junction α) (gone : List α) (E E' : α → α → Prop) : Prop :=
  ∀ a b, E' a b ↔ a ≠ j.node ∧ b ≠ j.node ∧
    (E a b ∨ a ≠ b ∧ (j.pass a b ∧ a ∉ gone ∧ b ∉ gone ∨ (j.ret a ∧ a ∉ gone) ∧ E j.node b))

/-- Junctions were taken out one after the other. -/
inductive BypassedAll : List (Junction α) → List α → (α → α → Prop) → (α → α → Prop) → Prop
  | nil (gone : List α) (E : α → α → Prop) : BypassedAll [] gone E E
  | cons {j : Junction α} {js : List (Junction α)} {gone : List α} {E E₁ E' : α → α → Prop}
      (first : j.Bypassed gone E E₁) (rest : BypassedAll js (gone ++ [j.node]) E₁ E') :
      BypassedAll (j :: js) gone E E'

section Step

variable {j : Junction α} {js : List (Junction α)} {gone : List α} {E E₁ : α → α → Prop} {a b : α}

theorem kept_into (fresh : ∀ i ∈ js, i.node ≠ j.node) :
    Kept (j :: js) gone E a j.node ↔ j.ret a ∧ a ∉ gone := by
  have later : ¬ Late js (gone ++ [j.node]) a j.node := by
    intro late
    obtain ⟨i, hi, ⟨-, -, target⟩ | ⟨-, he⟩⟩ := late.exists_mem
    · exact target (List.mem_append_right _ (List.mem_singleton_self _))
    · exact fresh i hi he.symm
  simp [Kept, Late, later]

theorem kept_from (hb : b ≠ j.node) : Kept (j :: js) gone E j.node b ↔ E j.node b ∧ ∀ i ∈ js, i.node ≠ b := by
  have later : ¬ Late js (gone ++ [j.node]) j.node b :=
    fun late => late.not_mem_gone (List.mem_append_right _ (List.mem_singleton_self _))
  simp [Kept, Late, later, hb, hb.symm]

/-- Taking the first junction out does to what is kept what it should. -/
theorem Bypassed.kept_iff (h : j.Bypassed gone E E₁) (fresh : ∀ i ∈ js, i.node ≠ j.node)
    (ha : a ≠ j.node) (hb : b ≠ j.node) (hab : a ≠ b) : Kept js (gone ++ [j.node]) E₁ a b ↔
      Kept (j :: js) gone E a b ∨ Kept (j :: js) gone E a j.node ∧ Kept (j :: js) gone E j.node b := by
  rw [kept_into fresh, kept_from hb]
  simp only [Kept, Late, h a b, List.forall_mem_cons, ne_eq, ha, hb, hab, hb.symm, not_false_eq_true,
    true_and, and_true, and_false, false_or]
  tauto

theorem Bypassed.away (h : j.Bypassed gone E E₁) (fresh : ∀ i ∈ js, i.node ≠ j.node)
    (kept : Kept js (gone ++ [j.node]) E₁ a b) : a ≠ j.node ∧ b ≠ j.node := by
  have last : j.node ∈ gone ++ [j.node] := List.mem_append_right _ (List.mem_singleton_self _)
  rcases kept with ⟨edge, -⟩ | late
  · exact ⟨((h a b).1 edge).1, ((h a b).1 edge).2.1⟩
  · refine ⟨fun he => late.not_mem_gone (he ▸ last), fun he => ?_⟩
    obtain ⟨i, hi, ⟨-, -, target⟩ | ⟨-, hb⟩⟩ := late.exists_mem
    · exact target (he ▸ last)
    · exact fresh i hi (hb.symm.trans he)

end Step

/-- What leads where after all junctions were taken out. -/
theorem BypassedAll.reflTransGen_iff {js : List (Junction α)} {gone : List α} {E E' : α → α → Prop}
    (h : BypassedAll js gone E E') (nodup : (js.map (·.node)).Nodup) {u v : α}
    (hu : ∀ j ∈ js, j.node ≠ u) (hv : ∀ j ∈ js, j.node ≠ v) :
    ReflTransGen E' u v ↔ ReflTransGen (Kept js gone E) u v := by
  induction h with
  | nil gone E =>
    have same : Kept [] gone E = E := by
      funext a b
      simp [Kept, Late]
    rw [same]
  | @cons j js gone E E₁ E' first rest ih =>
    rw [List.map_cons, List.nodup_cons] at nodup
    have fresh : ∀ i ∈ js, i.node ≠ j.node := fun i hi he => nodup.1 (he ▸ List.mem_map_of_mem hi)
    rw [List.forall_mem_cons] at hu hv
    rw [ih nodup.2 hu.2 hv.2]
    exact (reflTransGen_eliminate (fun a b => first.away fresh)
      (fun a b ha hb hab => first.kept_iff fresh ha hb hab) (Ne.symm hu.1) (Ne.symm hv.1)).symm

/-! ## The same junctions among other nodes -/

/-- Junctions `f` among nodes that stand for the nodes of the junctions `g`. -/
structure Translation {ι : Type} (Rep : α → β → Prop) (all : List ι) (f : ι → Junction α)
    (g : ι → Junction β) (E : α → α → Prop) (D : β → β → Prop) : Prop where
  unique : ∀ {a b x}, Rep a x → Rep b x → a = b
  node : ∀ e ∈ all, Rep (f e).node (g e).node
  pass : ∀ e ∈ all, ∀ a b, (f e).pass a b → ∃ x y, Rep a x ∧ Rep b y ∧ (g e).pass x y
  ret : ∀ e ∈ all, ∀ a, (f e).ret a → ∃ x, Rep a x ∧ (g e).ret x
  edge : ∀ a b, E a b → ∃ x y, Rep a x ∧ Rep b y ∧ D x y

section Translation

variable {ι : Type} {Rep : α → β → Prop} {all es ds : List ι} {f : ι → Junction α} {g : ι → Junction β}
  {E : α → α → Prop} {D : β → β → Prop} {a b : α} {x : β} (t : Translation Rep all f g E D)
include t

theorem Translation.not_mem_gone (hds : ds ⊆ all) (hx : Rep a x) (ha : a ∉ ds.map fun d => (f d).node) :
    x ∉ ds.map fun d => (g d).node := by
  intro mem
  obtain ⟨d, hd, rfl⟩ := List.mem_map.1 mem
  exact ha (List.mem_map.2 ⟨d, hd, (t.unique hx (t.node d (hds hd))).symm⟩)

theorem Translation.kept_node (hes : es ⊆ all) (hx : Rep a x) (ha : ∀ j ∈ es.map f, j.node ≠ a) :
    ∀ j ∈ es.map g, j.node ≠ x := by
  intro j hj he
  obtain ⟨e, hmem, rfl⟩ := List.mem_map.1 hj
  exact ha _ (List.mem_map_of_mem hmem) (t.unique (t.node e (hes hmem)) (he ▸ hx))

theorem Translation.late (hes : es ⊆ all) (hds : ds ⊆ all)
    (h : Late (es.map f) (ds.map fun d => (f d).node) a b) :
    ∃ x y, Rep a x ∧ Rep b y ∧ Late (es.map g) (ds.map fun d => (g d).node) x y := by
  induction es generalizing ds with
  | nil => exact h.elim
  | cons e es ih =>
    have he : e ∈ all := hes List.mem_cons_self
    rcases h with ⟨pass, ⟨source, own⟩, target, kept⟩ | ⟨⟨ret, source⟩, rfl⟩ | h
    · obtain ⟨x, y, hx, hy, pass'⟩ := t.pass e he a b pass
      refine ⟨x, y, hx, hy, Or.inl ⟨pass', ⟨t.not_mem_gone hds hx source, fun same => own ?_⟩,
        t.not_mem_gone hds hy target, t.kept_node hes hy kept⟩⟩
      exact t.unique hx (same ▸ t.node e he)
    · obtain ⟨x, hx, ret'⟩ := t.ret e he a ret
      exact ⟨x, _, hx, t.node e he, Or.inr (Or.inl ⟨⟨ret', t.not_mem_gone hds hx source⟩, rfl⟩)⟩
    · have more : (ds ++ [e]) ⊆ all := List.append_subset.2 ⟨hds, List.cons_subset.2 ⟨he, List.nil_subset all⟩⟩
      obtain ⟨x, y, hx, hy, late⟩ := ih (List.cons_subset.1 hes).2 more (by rwa [List.map_append])
      rw [List.map_append] at late
      exact ⟨x, y, hx, hy, Or.inr (Or.inr late)⟩

theorem Translation.kept (h : Kept (all.map f) [] E a b) :
    ∃ x y, Rep a x ∧ Rep b y ∧ Kept (all.map g) [] D x y := by
  rcases h with ⟨edge, kept⟩ | late
  · obtain ⟨x, y, hx, hy, edge'⟩ := t.edge a b edge
    exact ⟨x, y, hx, hy, Or.inl ⟨edge', t.kept_node (List.Subset.refl all) hy kept⟩⟩
  · obtain ⟨x, y, hx, hy, late'⟩ := t.late (List.Subset.refl all) (List.nil_subset all) late
    exact ⟨x, y, hx, hy, Or.inr late'⟩

theorem Translation.reflTransGen (left : ∀ {a x y}, Rep a x → Rep a y → x = y) {y : β} (hx : Rep a x)
    (hy : Rep b y) (h : ReflTransGen (Kept (all.map f) [] E) a b) :
    ReflTransGen (Kept (all.map g) [] D) x y := by
  induction h generalizing y with
  | refl => rw [left hx hy]
  | tail _ edge ih =>
    obtain ⟨z, w, hz, hw, kept⟩ := t.kept edge
    rw [left hy hw]
    exact (ih hz).tail kept

end Translation

end Junction

end PeerTaint
