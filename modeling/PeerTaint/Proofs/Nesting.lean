import PeerTaint.Proofs.Acts
import PeerTaint.Proofs.Completion

/-!
How deep operations stand inside each other.

A resolver has a bound on the nesting. A larger bound changes the answer of a resolver only where the smaller
one was reached (`under_resolve`), since every part of a builder passes on what its resolver does (`Under`). As
an operation is noted before its operands are resolved, the operations that were not visited are a bound that
is never reached, be the operands as cyclic as they may (`resolve_run`, `expand_run`). So the recursion without
a bound (`lookUp`) determines all answers, which are those of the resolver (`lookUp_eq_iff`).
-/

namespace PeerTaint

namespace Build

variable {α β : Type}

/-- The first step goes like the second one, unless it stops because operations stand inside each other too
deeply. -/
def Under (x y : Build α) : Prop := ∀ s, x.run s = .error .endlessStore ∨ x.run s = y.run s

theorem Under.refl (x : Build α) : Under x x := fun _ => .inr rfl

theorem Under.trans {x y z : Build α} (h : Under x y) (h' : Under y z) : Under x z := by
  intro s
  rcases h s with stops | same
  · exact .inl stops
  · rw [same]
    exact h' s

theorem Under.bind {x y : Build α} {f g : α → Build β} (h : Under x y) (hf : ∀ a, Under (f a) (g a)) :
    Under (x >>= f) (y >>= g) := by
  intro s
  rw [StateT.run_bind, StateT.run_bind]
  rcases h s with stops | same
  · rw [stops]
    exact .inl rfl
  · rw [same]
    cases y.run s with
    | error f => exact .inr rfl
    | ok r => exact hf r.1 r.2

theorem Under.map {x y : Build α} (f : α → β) (h : Under x y) : Under (f <$> x) (f <$> y) := by
  rw [map_eq_pure_bind, map_eq_pure_bind]
  exact h.bind fun a => .refl _

theorem Under.forM {f g : α → Build Unit} (h : ∀ a, Under (f a) (g a)) (xs : List α) :
    Under (xs.forM f) (xs.forM g) := by
  induction xs with
  | nil => exact .refl _
  | cons x xs ih => exact (h x).bind fun _ => ih

theorem Under.mapM {f g : α → Build β} (h : ∀ a, Under (f a) (g a)) (xs : List α) :
    Under (xs.mapM f) (xs.mapM g) := by
  induction xs with
  | nil => exact .refl _
  | cons x xs ih =>
    rw [List.mapM_cons, List.mapM_cons]
    exact (h x).bind fun b => ih.bind fun bs => .refl _

/-- A step that does not stop so goes like the second one. -/
theorem Under.run {x y : Build α} (h : Under x y) {s : BuildState} (ends : x.run s ≠ .error .endlessStore) :
    x.run s = y.run s := (h s).resolve_left ends

end Build

namespace BuildContext

open Build

/-- Resolves a value, where the operands of the operation that defines it are left to a resolver. -/
def lookUp (c : BuildContext) (r : Resolver) : Resolver := fun p v => do
  if v.program ≠ p then return none
  match (← Build.graph).findNode v p with
  | some n => return some n
  | none =>
    match c.aliasKey? v with
    | some k => some <$> c.memNodeFor p v k
    | none =>
      match c.programs.definition? v with
      | some op =>
        let n ← c.expand r p op
        return ((← Build.graph).findNode v p).or n
      | none =>
        match c.programs.info? v with
        | some info =>
          let n ← Build.attempt (·.addNode p (.var v) info.name)
          Build.update (·.bindValue v n)
          return some n
        | none => return none

section Parts

variable {c : BuildContext} {r r' : Resolver} {p : Program} {op : Operation}
  (h : ∀ p v, Under (r p v) (r' p v))
include h

theorem under_linkOperand (n : NodeId) (isRead : Bool) (v : Value) :
    Under (linkOperand r p n isRead v) (linkOperand r' p n isRead v) := (h p v).bind fun _ => .refl _

theorem under_linkOperands (n : NodeId) : Under (linkOperands r p op n) (linkOperands r' p op n) := by
  unfold linkOperands
  cases op.operands with
  | nil => exact .refl _
  | cons v vs => exact (under_linkOperand h n _ v).bind fun _ => .forM (under_linkOperand h n false) vs

theorem under_linkArguments (n : NodeId) (d : Option Direction) :
    Under (linkArguments r p op n d) (linkArguments r' p op n d) :=
  .bind (.mapM (fun v => (h p v).bind fun _ => .refl _) _) fun _ => .refl _

theorem under_addStore : Under (addStore r p op) (addStore r' p op) := by
  rcases ho : op.operands with _ | ⟨value, _ | ⟨destination, rest⟩⟩
  · unfold addStore
    rw [ho]
    exact .refl _
  · unfold addStore
    rw [ho]
    exact .refl _
  · rw [addStore_eq r p op ho, addStore_eq r' p op ho]
    refine (h p destination).bind fun dst => ?_
    cases dst with
    | none => exact .refl _
    | some d =>
      refine .bind (.refl _) fun _ => .bind (.refl _) fun _ => .bind (.refl _) fun _ => ?_
      exact (under_linkOperand h d false value).bind fun _ => .refl _

theorem under_addPlain : Under (c.addPlain r p op) (c.addPlain r' p op) := by
  rw [addPlain_eq, addPlain_eq]
  refine .bind (.refl _) fun n => .bind (.refl _) fun _ => .bind (.refl _) fun _ => ?_
  exact (under_linkOperands h n).bind fun _ => .refl _

theorem under_addCall : Under (c.addCall r p op) (c.addCall r' p op) := by
  rw [addCall_eq, addCall_eq]
  refine .bind (.refl _) fun n => .bind (.refl _) fun _ => .bind (.refl _) fun _ => ?_
  exact (under_linkArguments h n _).bind fun _ => .refl _

/-- What an operation expands to depends on the resolver only. -/
theorem under_expand : Under (c.expand r p op) (c.expand r' p op) := by
  unfold expand
  refine .bind (.refl _) fun seen => ?_
  cases seen with
  | some n => exact .refl _
  | none =>
    refine .bind (.refl _) fun g => ?_
    cases op.result.bind (g.findNode · p) with
    | some n => exact .refl _
    | none =>
      dsimp only
      split
      · exact .refl _
      · split
        · exact under_addStore h
        · exact (under_addCall h).map some
        · exact (under_addPlain h).map some

theorem under_lookUp (v : Value) : Under (c.lookUp r p v) (c.lookUp r' p v) := by
  unfold lookUp
  split
  · exact .refl _
  · refine .bind (.refl _) fun g => ?_
    cases g.findNode v p with
    | some n => exact .refl _
    | none =>
      cases c.aliasKey? v with
      | some k => exact .refl _
      | none =>
        cases c.programs.definition? v with
        | some op => exact (under_expand h).bind fun _ => .refl _
        | none => exact .refl _

end Parts

section Depth

variable {c : BuildContext}

theorem resolve_succ (depth : Nat) : c.resolve (depth + 1) = c.lookUp (c.resolve depth) := rfl

theorem under_resolve_succ (depth : Nat) (p : Program) (v : Value) :
    Under (c.resolve depth p v) (c.resolve (depth + 1) p v) := by
  induction depth generalizing p v with
  | zero => exact fun _ => .inl rfl
  | succ depth ih =>
    rw [resolve_succ, resolve_succ]
    exact under_lookUp ih v

theorem under_resolve {depth depth' : Nat} (h : depth ≤ depth') (p : Program) (v : Value) :
    Under (c.resolve depth p v) (c.resolve depth' p v) := by
  induction h with
  | refl => exact .refl _
  | step _ ih => exact ih.trans (under_resolve_succ _ p v)

section Tame

variable (tame : c.Tame) {s : BuildState} {depth : Nat} (few : c.unseen s < depth)
include tame few

theorem resolve_ends (p : Program) (v : Value) : (c.resolve depth p v).run s ≠ .error .endlessStore :=
  fun endless => (steady_resolve (M := .any) (fun _ _ _ => trivial) depth p v s).fault endless ⟨tame, few⟩

theorem expand_ends (p : Program) (op : Operation) :
    (c.expand (c.resolve depth) p op).run s ≠ .error .endlessStore := by
  have shallow : c.Shallow depth s := ⟨tame, few⟩
  have steady := steady_resolve (c := c) (M := .any) (fun _ _ _ => trivial) depth
  intro endless
  exact (wp_expand_progress (H := True) steady trivial (fun _ _ => shallow)
    fun _ s₁ e _ _ => shallow.events e).fault endless trivial

/-- Any bound above the number of operations that were not visited gives the same answers. -/
theorem resolve_run (p : Program) (v : Value) : (c.resolve depth p v).run s = (c.valueNode p v).run s := by
  rcases Nat.le_total depth c.nesting with le | le
  · exact (under_resolve le p v).run (resolve_ends tame few p v)
  · exact ((under_resolve le p v).run (resolve_ends tame (c.unseen_lt_nesting s) p v)).symm

theorem expand_run (p : Program) (op : Operation) :
    (c.expand (c.resolve depth) p op).run s = (c.addOperation p op).run s := by
  rcases Nat.le_total depth c.nesting with le | le
  · exact (under_expand (under_resolve le)).run (expand_ends tame few p op)
  · exact ((under_expand (under_resolve le)).run (expand_ends tame (c.unseen_lt_nesting s) p op)).symm

end Tame

/-- A resolver that leaves the operands to itself has the answers of every bound that is not reached. -/
theorem under_of_lookUp {r : Resolver} (fixed : c.lookUp r = r) (depth : Nat) (p : Program) (v : Value) :
    Under (c.resolve depth p v) (r p v) := by
  induction depth generalizing p v with
  | zero => exact fun _ => .inl rfl
  | succ depth ih =>
    rw [resolve_succ, ← fixed]
    exact under_lookUp ih v

/-- The recursion without a bound has one solution: it ends. -/
theorem lookUp_eq_iff (tame : c.Tame) {r : Resolver} : c.lookUp r = r ↔ r = c.valueNode := by
  constructor
  · intro fixed
    funext p v
    refine StateT.ext fun s => ?_
    exact ((under_of_lookUp fixed c.nesting p v).run (resolve_ends tame (c.unseen_lt_nesting s) p v)).symm
  · rintro rfl
    funext p v
    refine StateT.ext fun s => ?_
    exact resolve_run tame (Nat.lt_succ_of_lt (c.unseen_lt_nesting s)) p v

end Depth

end BuildContext

end PeerTaint
