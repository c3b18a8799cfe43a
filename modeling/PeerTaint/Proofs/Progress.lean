import PeerTaint.Proofs.Events
import PeerTaint.Proofs.Splicing

/-!
Parts of a builder that go by events.

`Acts` says that a part of a builder goes by events until it ends, and why it can stop: because there are
no handles left, because the oracle contradicts itself, or because stores define values. `Progress` is a run
of events that takes nothing back, and `Proceeds` says that a part makes progress. Each combinator of
builder steps has one rule.
-/

namespace PeerTaint

namespace Graph

/-- Linking a network node draws edges between it and the opposite nodes of the other program only. -/
theorem edgeKind?_correlate {g : Graph} {n a b : NodeId} {p : Program} {d : Direction} {levels : LevelSet}
    {kind : EdgeKind} (h : (g.correlate n p d levels).edgeKind? a b = some kind) :
    g.edgeKind? a b = some kind ∨
      kind = .data ∧ ∃ o ∈ g.netNodes p.peer d.opposite, (a, b) = linkEnds n d o := by
  rw [correlate_eq] at h
  split at h
  · exact .inl h
  · have start : (g.leveled n levels).edgeKind? a b = g.edgeKind? a b :=
      edgeKind?_modifyNode (by exact ⟨fun _ => rfl, fun _ => rfl⟩) g n a b
    revert h
    refine List.foldlRecOn (motive := fun g' : Graph => g'.edgeKind? a b = some kind → _) _ _
      (fun h => .inl (start ▸ h)) fun g' ih o ho h => ?_
    unfold linkLevel at h
    split at h
    · exact ih h
    · cases d <;> dsimp only at h <;> split at h
      · rw [edgeKind?_flow] at h
        split at h
        · next ends => exact .inr ⟨(Option.some.inj h).symm, o, ho, by rw [ends.1, ends.2.1]; rfl⟩
        · exact ih h
      · exact ih h
      · rw [edgeKind?_flow] at h
        split at h
        · next ends => exact .inr ⟨(Option.some.inj h).symm, o, ho, by rw [ends.1, ends.2.1]; rfl⟩
        · exact ih h
      · exact ih h

end Graph

namespace BuildContext

open Build
open Relation (ReflTransGen)

/-! ## Why building stops -/

/-- Operations have numbers of their own, and stores define no result. -/
structure Tame (c : BuildContext) : Prop where
  cat : c.programs.Catalogued
  silent : ∀ e ∈ c.programs.stream, e.2.opcode = .store → e.2.result = none

/-- Fewer than `k` operations can still stand inside each other. -/
structure Shallow (c : BuildContext) (k : Nat) (s : BuildState) : Prop extends Tame c where
  few : c.unseen s < k

section Acts

variable (c : BuildContext) (M : Mandate)

/-- Why building stops on the way from a state: there are no handles left, the oracle puts a value into
a class that does not list it, or, unless `H`, operations stand inside each other too deeply. -/
def Halts (H : Prop) (s : BuildState) : BuildFault → Prop
  | .graph e => ∃ s', c.Events M s s' ∧ nodeCapacity ≤ s'.graph.slots.size ∧
      e = .capacityExceeded s'.graph.slots.size
  | .inconsistentOracle v k =>
    c.aliasKey? v = some k ∧ (c.oracle.members? k).any (·.contains v) = false
  | .endlessStore => ¬ H

/-- From a state, a part of a builder goes by events until it ends or stops. -/
def Acts {α : Type} (H : Prop) (x : Build α) (s : BuildState) : Prop :=
  wp x (fun _ s' => c.Events M s s') (c.Halts M H s) s

/-- Events that take nothing back: what was visited stays visited with the same node. -/
structure Progress (s s' : BuildState) : Prop where
  events : c.Events M s s'
  grows : s.graph.Grows s'.graph
  notes : ∀ i x, s.visited.get? i = some x → s'.visited.get? i = some x

/-- From a state, a part of a builder makes progress until it ends or stops. -/
def Proceeds {α : Type} (H : Prop) (x : Build α) (s : BuildState) : Prop :=
  wp x (fun _ s' => c.Progress M s s') (c.Halts M H s) s

/-- What a resolver guarantees, as long as fewer than `k` operations can stand inside each other. -/
def Steady (resolve : Resolver) (k : Nat) : Prop :=
  ∀ p v s, wp (resolve p v)
    (fun r s' => c.Progress M s s' ∧ ∀ n, r = some n → c.Answers s' p v n) (c.Halts M (c.Shallow k s) s) s

end Acts

section Rules

variable {c : BuildContext} {M : Mandate} {H : Prop} {s s' s'' : BuildState} {α β : Type}

theorem Shallow.events {k : Nat} (h : c.Shallow k s) (e : c.Events M s s') : c.Shallow k s' where
  toTame := h.toTame
  few := (unseen_le e.isSome_noted?).trans_lt h.few

theorem Halts.mono {f : BuildFault} (e : c.Events M s s') (h : c.Halts M H s' f) : c.Halts M H s f := by
  cases f with
  | graph error =>
    obtain ⟨s₂, later, full⟩ := h
    exact ⟨s₂, e.trans later, full⟩
  | inconsistentOracle v k => exact h
  | endlessStore => exact h

theorem Halts.imp {H' : Prop} {f : BuildFault} (h : H → H') (hf : c.Halts M H' s f) : c.Halts M H s f := by
  cases f with
  | graph error => exact hf
  | inconsistentOracle v k => exact hf
  | endlessStore => exact fun holds => hf (h holds)

theorem halts_full (full : nodeCapacity ≤ s.graph.slots.size) :
    c.Halts M H s (.graph (.capacityExceeded s.graph.slots.size)) := ⟨s, .refl, full, rfl⟩

/-- What happens later happens by events from the start. -/
theorem Acts.after {x : Build α} (e : c.Events M s s') (hx : c.Acts M H x s') :
    wp x (fun _ s₂ => c.Events M s s₂) (c.Halts M H s) s' :=
  hx.weaken (fun _ _ h => e.trans h) fun _ => .mono e

theorem Acts.bind {x : Build α} {f : α → Build β} (hx : c.Acts M H x s)
    (hf : ∀ a s₁, c.Events M s s₁ → c.Acts M H (f a) s₁) : c.Acts M H (x >>= f) s := by
  unfold Acts
  rw [wp_bind]
  exact wp.mono hx fun a s₁ h₁ => (hf a s₁ h₁).after h₁

theorem Acts.pure (a : α) : c.Acts M H (Pure.pure a) s := ReflTransGen.refl

theorem Acts.map {x : Build α} (f : α → β) (hx : c.Acts M H x s) : c.Acts M H (f <$> x) s := by
  unfold Acts
  rw [wp_map]
  exact hx

/-! ## Progress -/

theorem Progress.refl (c : BuildContext) (M : Mandate) (s : BuildState) : c.Progress M s s :=
  ⟨.refl, .refl, fun _ _ h => h⟩

theorem Progress.trans (h : c.Progress M s s') (h' : c.Progress M s' s'') : c.Progress M s s'' where
  events := h.events.trans h'.events
  grows := h.grows.trans h'.grows
  notes i x hx := h'.notes i x (h.notes i x hx)

theorem Progress.noted (h : c.Progress M s s') {op : Operation} {x : Option NodeId} (hx : s.Notes op x) :
    s'.Notes op x := fun i hi => h.notes i x (hx i hi)

theorem Hosts.extends {g g' : Graph} {p : Program} {op : Operation} {n : NodeId} (h : c.Hosts g p op n)
    (extension : g.Extends g') : c.Hosts g' p op n := by
  cases h with
  | memory plain result mem => exact .memory plain result (extension.mem _ _ _ mem)
  | own own role => exact .own own (extension.role _ _ role)

theorem Progress.hosts (h : c.Progress M s s') {p : Program} {op : Operation} {n : NodeId}
    (hn : c.Hosts s.graph p op n) : c.Hosts s'.graph p op n := hn.extends h.grows.extension

theorem Progress.touch {g : Graph} (idle : s.graph.Idles g) (drawn : M.rewires ∨ c.Explains M s g) :
    c.Progress M s { s with graph := g } := ⟨.single (.touch idle drawn), idle.grows, fun _ _ h => h⟩

theorem get?_note {op : Operation} {i : Nat} (other : op.id ≠ some i) (x : Option NodeId) :
    (s.note op x).visited.get? i = s.visited.get? i := by
  unfold BuildState.note
  split
  · next j hj =>
    rw [SortedMap.get?_insert, if_neg]
    rintro rfl
    exact other hj
  · rfl

/-- An operation that was not noted has the number of no entry. -/
theorem id_ne_of_noted? {op : Operation} (new : s.noted? op = none) {i : Nat} {x : Option NodeId}
    (hx : s.visited.get? i = some x) : op.id ≠ some i := by
  intro hi
  rw [BuildState.noted?, hi, Option.bind_some, hx] at new
  cases new

theorem Progress.note {p : Program} {op : Operation} {x : Option NodeId} (due : M.expands p op)
    (new : s.noted? op = none) (mark : c.Marks s p op x) : c.Progress M s (s.note op x) where
  events := .single (.note due (fun _ => new) mark)
  grows := by rw [BuildState.graph_note]
  notes _ _ hx := (get?_note (id_ne_of_noted? new hx) _).trans hx

theorem notes_note (s : BuildState) (op : Operation) (x : Option NodeId) : (s.note op x).Notes op x := by
  intro i hi
  simp [BuildState.note, hi, SortedMap.get?_insert]

theorem notes_of_noted? {op : Operation} {x : Option NodeId} (h : s.noted? op = some x) : s.Notes op x := by
  intro i hi
  rwa [BuildState.noted?, hi, Option.bind_some] at h

/-- Operations of the programs have numbers. -/
theorem noted?_of_notes {p : Program} {op : Operation} {x : Option NodeId} (cat : c.programs.Catalogued)
    (listed : (p, op) ∈ c.programs.stream) (h : s.Notes op x) : s.noted? op = some x := by
  obtain ⟨i, -, hi⟩ := cat.id _ listed
  rw [BuildState.noted?, hi, Option.bind_some, h i hi]

theorem explains_of_eq {g : Graph} (edge : ∀ a b, g.edgeKind? a b = s.graph.edgeKind? a b) :
    c.Explains M s g := fun a b _ h => .inl (edge a b ▸ h)

theorem explains_flow {a b : NodeId} (link : c.Link M s a b) :
    c.Explains M s (s.graph.connect a b .data).2 := by
  intro a' b' kind h
  rw [Graph.edgeKind?_flow] at h
  split at h
  · next ends => exact .inr ⟨(Option.some.inj h).symm, ends.1 ▸ ends.2.1 ▸ link⟩
  · exact .inl h

theorem explains_correlate {n : NodeId} {p : Program} {kind : NodeKind}
    (role : s.graph.role? n = some (p, kind)) (d : Direction) (levels : LevelSet) : c.Explains M s (s.graph.correlate n p d levels) := by
  intro a b kind h
  rcases Graph.edgeKind?_correlate h with old | ⟨rfl, o, ho, ends⟩
  · exact .inl old
  · have link : c.Link M s (Graph.linkEnds n d o).1 (Graph.linkEnds n d o).2 := .level role ho
    rw [← ends] at link
    exact .inr ⟨rfl, link⟩

theorem Progress.modify {f : Node → Node} (hf : Graph.Benign f) (n : NodeId) :
    c.Progress M s { s with graph := s.graph.modifyNode n f } :=
  .touch (.modify hf _ n) (.inr (explains_of_eq fun a b => Graph.edgeKind?_modifyNode hf _ n a b))

theorem Progress.flow {a b : NodeId} (link : c.Link M s a b) :
    c.Progress M s { s with graph := (s.graph.connect a b .data).2 } :=
  .touch (.connect ..) (.inr (explains_flow link))

/-! ## Parts that make progress -/

theorem Proceeds.acts {x : Build α} (h : c.Proceeds M H x s) : c.Acts M H x s :=
  wp.mono h fun _ _ progress => progress.events

/-- What happens later is progress from the start. -/
theorem Proceeds.after {x : Build α} (e : c.Progress M s s') (hx : c.Proceeds M H x s') :
    wp x (fun _ s₂ => c.Progress M s s₂) (c.Halts M H s) s' :=
  hx.weaken (fun _ _ h => e.trans h) fun _ => .mono e.events

/-- The rest of a part may use what is known about the answer. -/
theorem Proceeds.bind_of {x : Build α} {f : α → Build β} {R : α → BuildState → Prop}
    (hx : wp x (fun a s₁ => c.Progress M s s₁ ∧ R a s₁) (c.Halts M H s) s)
    (hf : ∀ a s₁, c.Progress M s s₁ → R a s₁ → c.Proceeds M H (f a) s₁) : c.Proceeds M H (x >>= f) s := by
  unfold Proceeds
  rw [wp_bind]
  exact hx.mono fun a s₁ h₁ => (hf a s₁ h₁.1 h₁.2).after h₁.1

theorem Proceeds.bind {x : Build α} {f : α → Build β} (hx : c.Proceeds M H x s)
    (hf : ∀ a s₁, c.Progress M s s₁ → c.Proceeds M H (f a) s₁) : c.Proceeds M H (x >>= f) s :=
  .bind_of (R := fun _ _ => True) (wp.mono hx fun _ _ h => ⟨h, trivial⟩) fun a s₁ h₁ _ => hf a s₁ h₁

theorem Proceeds.pure (a : α) : c.Proceeds M H (Pure.pure a) s := Progress.refl c M s

theorem Proceeds.graph : c.Proceeds M H Build.graph s := Progress.refl c M s

theorem Proceeds.modify {f : Node → Node} (hf : Graph.Benign f) (n : NodeId) :
    c.Proceeds M H (Build.update (·.modifyNode n f)) s := Progress.modify hf n

theorem Proceeds.connect (free : M.rewires) (a b : NodeId) (kind : EdgeKind) :
    c.Proceeds M H (Build.connect a b kind) s := Progress.touch (.connect ..) (.inl free)

theorem Proceeds.join (free : M.rewires) (a b : NodeId) : c.Proceeds M H (Build.flow a b) s :=
  Progress.touch (.connect ..) (.inl free)

theorem Proceeds.forM {f : α → Build Unit} (xs : List α)
    (h : ∀ a ∈ xs, ∀ s₁, c.Progress M s s₁ → c.Proceeds M H (f a) s₁) : c.Proceeds M H (xs.forM f) s := by
  induction xs generalizing s with
  | nil => exact .pure ()
  | cons x xs ih =>
    refine .bind (h x List.mem_cons_self s (.refl c M s)) fun _ s₁ e₁ => ih fun a ha s₂ e₂ => ?_
    exact h a (List.mem_cons_of_mem x ha) s₂ (e₁.trans e₂)

theorem Proceeds.mapM {f : α → Build β} (xs : List α)
    (h : ∀ a ∈ xs, ∀ s₁, c.Progress M s s₁ → c.Proceeds M H (f a) s₁) : c.Proceeds M H (xs.mapM f) s := by
  induction xs generalizing s with
  | nil => exact .pure []
  | cons x xs ih =>
    rw [List.mapM_cons]
    refine .bind (h x List.mem_cons_self s (.refl c M s)) fun b s₁ e₁ => .bind (ih fun a ha s₂ e₂ => ?_) ?_
    · exact h a (List.mem_cons_of_mem x ha) s₂ (e₁.trans e₂)
    · exact fun bs s₂ _ => .pure (b :: bs)

end Rules

end BuildContext

end PeerTaint
