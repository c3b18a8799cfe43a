import PeerTaint.Proofs.Expansion
import PeerTaint.Proofs.History
import PeerTaint.Proofs.Nesting

/-!
Which operations a builder goes through.

`Logged` is a builder that writes an operation down when it turns to the operands. It has the steps of a builder
and a journal, so that every request to a builder can be carried out by it as it is. `Tracks` says of a request,
and of its parts, that without the log this goes like in a builder itself, and that the log has no operation of
the programs twice. An operation is in the log before it is noted, for a while: until its node is made, or, if
it is a store, until its destination is resolved (`LogKept`). On the way to the destination no store is expanded,
since stores define nothing.
-/

namespace PeerTaint

open Build

/-! ## A builder with a log -/

/-- A builder with a log of the operations whose operands it goes through. The log stays when it stops. -/
abbrev Logged := StateT BuildState (ExceptT BuildFault (StateM (List Operation)))

namespace Logged

variable {α β : Type}

/-- A step of a builder, which leaves the log as it is. -/
def lift (x : Build α) : Logged α := fun s log => (x.run s, log)

instance : MonadLiftT Build Logged := ⟨lift⟩

/-- Writes an operation into the log. -/
def record (op : Operation) : Logged Unit := fun s log => (.ok ((), s), log ++ [op])

instance : Journal Logged := ⟨record⟩

/-- Carries a request out, with a log. -/
def run (c : BuildContext) : BuildRequest → Logged Unit := BuildRequest.run c

theorem bind_of_ok {x : Logged α} {f : α → Logged β} {s s' : BuildState} {log log' : List Operation} {a : α}
    (h : x s log = (.ok (a, s'), log')) : (x >>= f) s log = f a s' log' := by
  change (x s >>= fun r => f r.1 r.2).run.run log = _
  simp only [ExceptT.run_bind, StateT.run_bind]
  rw [show (x s).run.run log = (.ok (a, s'), log') from h]
  rfl

theorem bind_of_error {x : Logged α} {f : α → Logged β} {s : BuildState} {log log' : List Operation}
    {e : BuildFault} (h : x s log = (.error e, log')) : (x >>= f) s log = (.error e, log') := by
  change (x s >>= fun r => f r.1 r.2).run.run log = _
  simp only [ExceptT.run_bind, StateT.run_bind]
  rw [show (x s).run.run log = (.error e, log') from h]
  rfl

end Logged

/-! ## Steps that forget no operation -/

/-- What was visited stays visited, though perhaps with another node. -/
def BuildState.Lasts (s s' : BuildState) : Prop :=
  ∀ op, (s.noted? op).isSome = true → (s'.noted? op).isSome = true

instance : IsPreorder BuildState BuildState.Lasts where
  refl _ _ h := h
  trans _ _ _ h h' op hop := h' op (h op hop)

/-- The step forgets no operation that was visited. -/
abbrev Build.Lasting {α : Type} (x : Build α) : Prop := Leads BuildState.Lasts x

namespace Build

theorem Lasting.update (f : Graph → Graph) : Lasting (Build.update f) := fun _ _ h => h

theorem Lasting.attempt {α : Type} (f : Graph → Except GraphError (α × Graph)) : Lasting (Build.attempt f) :=
  Leads.attempt fun _ _ _ _ _ h => h

theorem Lasting.connect (a b : NodeId) (kind : EdgeKind) : Lasting (Build.connect a b kind) := fun _ _ h => h

theorem Lasting.flow (a b : NodeId) : Lasting (Build.flow a b) := fun _ _ h => h

theorem Lasting.remember (op : Operation) (x : Option NodeId) : Lasting (Build.remember op x) :=
  fun _ => wp_note.2 fun _ h => BuildContext.isSome_noted?_note h

end Build

namespace BuildContext

theorem lasting_memNodeFor (c : BuildContext) (p : Program) (v : Value) (k : AliasKey) :
    Lasting (c.memNodeFor p v k) := fun _ => wp_memNodeFor (fun _ _ _ _ h => h) (fun _ => trivial) fun _ => trivial

theorem lasting_operationNode (c : BuildContext) (p : Program) (op : Operation) :
    Lasting (c.operationNode p op) := fun s =>
  wp_operationNode (fun v k _ => lasting_memNodeFor c p v k s) (fun _ _ _ _ _ h => h) fun _ => trivial

theorem lasting_callNode (c : BuildContext) (p : Program) (op : Operation) (d : Option Direction) :
    Lasting (c.callNode p op d) := fun _ => wp_callNode (fun _ _ _ _ h => h) fun _ => trivial

theorem lasting_linkResult (c : BuildContext) (p : Program) (op : Operation) (n : NodeId) :
    Lasting (c.linkResult p op n) := by
  unfold linkResult
  split
  · next v k _ => exact .bind (lasting_memNodeFor c p v k) fun mem => Lasting.flow n mem
  · exact .pure ()

theorem lasting_retire (n : NodeId) : Lasting (retire n) :=
  fun _ => wp_retire (fun _ g _ _ h => isSome_noted?_mapValues h g _) fun _ _ => trivial

/-! ## What the log says -/

section Log

variable (c : BuildContext) (start : BuildState)

/-- Operations of the programs are in the log once at most, and not at all if they were visited at the start. -/
def Once (log : List Operation) : Prop :=
  ∀ e ∈ c.programs.stream, log.count e.2 ≤ if (start.noted? e.2).isSome then 0 else 1

/-- Operations in the log were visited, but for those of `X`, which are still to be noted. -/
structure LogKept (X : Set Operation) (s : BuildState) (log : List Operation) : Prop where
  once : c.Once start log
  noted : ∀ e ∈ c.programs.stream, e.2 ∈ log → e.2 ∈ X ∨ (s.noted? e.2).isSome = true
  lasting : ∀ op, (start.noted? op).isSome = true → (s.noted? op).isSome = true

/-- From a state and a log, the logged step goes like the other one, and goes on with the log. -/
def Tracks {α : Type} (X : Set Operation) (x : Logged α) (y : Build α) (s : BuildState)
    (log : List Operation) : Prop :=
  (x s log).1 = y.run s ∧ c.Once start (x s log).2 ∧
    ∀ a s', y.run s = .ok (a, s') → c.LogKept start X s' (x s log).2

/-- What a resolver does while stores wait for their destinations. -/
def Faithful (r : Resolver Logged) (r' : Resolver) : Prop :=
  ∀ X : Set Operation, (∀ op ∈ X, op.opcode = .store) → ∀ p v s log, c.LogKept start X s log →
    c.Tracks start X (r p v) (r' p v) s log

end Log

section Rules

variable {c : BuildContext} {start s s' : BuildState} {X X' : Set Operation} {log : List Operation}
  {op : Operation} {α β : Type}

theorem logKept_nil (c : BuildContext) (s : BuildState) : c.LogKept s ∅ s [] where
  once e _ := by simp
  noted e _ h := by simp at h
  lasting op h := h

theorem LogKept.keep (h : c.LogKept start X s log) (keeps : s.Lasts s') : c.LogKept start X s' log where
  once := h.once
  noted e he hl := (h.noted e he hl).imp_right (keeps e.2)
  lasting op hop := keeps op (h.lasting op hop)

/-- An operation that was not visited, and does not wait to be noted, is new in the log. -/
theorem LogKept.record (h : c.LogKept start X s log) (new : s.noted? op = none) (out : op ∉ X) :
    c.LogKept start (insert op X) s (log ++ [op]) where
  once e he := by
    have old := h.once e he
    rw [List.count_append]
    by_cases same : e.2 = op
    · have fresh : e.2 ∉ log := by
        intro hl
        rcases h.noted e he hl with waits | noted
        · exact out (same ▸ waits)
        · rw [same, new] at noted
          cases noted
      have unvisited : ¬ (start.noted? e.2).isSome = true := by
        intro noted
        have := h.lasting e.2 noted
        rw [same, new] at this
        cases this
      rw [List.count_eq_zero_of_not_mem fresh, if_neg unvisited, same]
      simp
    · rwa [List.count_singleton, if_neg (by simpa using Ne.symm same)]
  noted e he hl := by
    rcases List.mem_append.1 hl with old | new
    · exact (h.noted e he old).imp_left fun waits => Set.mem_insert_of_mem op waits
    · exact .inl (Set.mem_insert_iff.2 (.inl (List.mem_singleton.1 new)))
  lasting := h.lasting

/-- Once it is noted an operation waits no more. -/
theorem LogKept.note (cat : c.programs.Catalogued) (h : c.LogKept start (insert op X) s log) (x : Option NodeId) :
    c.LogKept start X (s.note op x) log where
  once := h.once
  noted e he hl := by
    rcases h.noted e he hl with waits | noted
    · rcases Set.mem_insert_iff.1 waits with same | waits
      · obtain ⟨i, -, hi⟩ := cat.id e he
        rw [same] at hi ⊢
        exact .inr (isSome_noted?_note_self hi x)
      · exact .inl waits
    · exact .inr (isSome_noted?_note noted)
  lasting op' hop := isSome_noted?_note (h.lasting op' hop)

theorem Tracks.pure (a : α) (h : c.LogKept start X s log) :
    c.Tracks start X (Pure.pure a) (Pure.pure a) s log := by
  refine ⟨rfl, h.once, ?_⟩
  rintro _ _ ⟨⟩
  exact h

theorem Tracks.throw (f : BuildFault) (h : c.LogKept start X s log) :
    c.Tracks start X (MonadExcept.throw f : Logged α) (MonadExcept.throw f) s log := by
  refine ⟨rfl, h.once, ?_⟩
  rintro _ _ ⟨⟩

theorem Tracks.lift {x : Build α} (lasting : Lasting x) (h : c.LogKept start X s log) :
    c.Tracks start X (Logged.lift x) x s log :=
  ⟨rfl, h.once, fun _ _ run => h.keep ((lasting s).run run)⟩

theorem Tracks.bind {x : Logged α} {y : Build α} {f : α → Logged β} {g : α → Build β}
    (hx : c.Tracks start X x y s log)
    (hf : ∀ a s' log', c.LogKept start X s' log' → c.Tracks start X' (f a) (g a) s' log') :
    c.Tracks start X' (x >>= f) (y >>= g) s log := by
  obtain ⟨same, once, kept⟩ := hx
  obtain ⟨o, log', hx⟩ : ∃ o log', x s log = (o, log') := ⟨_, _, rfl⟩
  rw [hx] at same once kept
  cases o with
  | error e =>
    have stops : (y >>= g).run s = .error e := by rw [StateT.run_bind, ← same]; rfl
    rw [Tracks, Logged.bind_of_error hx, stops]
    exact ⟨rfl, once, by rintro _ _ ⟨⟩⟩
  | ok r =>
    obtain ⟨a, s₁⟩ := r
    have goesOn : (y >>= g).run s = (g a).run s₁ := by rw [StateT.run_bind, ← same]; rfl
    rw [Tracks, Logged.bind_of_ok hx, goesOn]
    exact hf a s₁ log' (kept a s₁ same.symm)

theorem Tracks.map {x : Logged α} {y : Build α} (f : α → β) (hx : c.Tracks start X x y s log) :
    c.Tracks start X (f <$> x) (f <$> y) s log := by
  rw [map_eq_pure_bind, map_eq_pure_bind]
  exact hx.bind fun a _ _ h => .pure (f a) h

/-- A step of the builder, and what comes after it. -/
theorem Tracks.step {x : Build α} {f : α → Logged β} {g : α → Build β} (lasting : Lasting x)
    (h : c.LogKept start X s log)
    (hf : ∀ a s' log', c.LogKept start X s' log' → c.Tracks start X (f a) (g a) s' log') :
    c.Tracks start X (Logged.lift x >>= f) (x >>= g) s log := (Tracks.lift lasting h).bind hf

/-- A step that only looks something up. -/
theorem Tracks.look {x : Build α} {f : α → Logged β} {g : α → Build β} {a : α} (run : x.run s = .ok (a, s))
    (h : c.Tracks start X (f a) (g a) s log) : c.Tracks start X (Logged.lift x >>= f) (x >>= g) s log := by
  have logged : Logged.lift x s log = (.ok (a, s), log) := by rw [Logged.lift, run]
  have goesOn : (x >>= g).run s = (g a).run s := by rw [StateT.run_bind, run]; rfl
  rw [Tracks, Logged.bind_of_ok logged, goesOn]
  exact h

/-- The operation that waits is noted. -/
theorem Tracks.note {f : Unit → Logged β} {g : Unit → Build β} (cat : c.programs.Catalogued) {x : Option NodeId}
    (h : c.LogKept start (insert op X) s log)
    (hf : ∀ s' log', c.LogKept start X s' log' → c.Tracks start X (f ()) (g ()) s' log') :
    c.Tracks start X (Logged.lift (Build.remember op x) >>= f) (Build.remember op x >>= g) s log := by
  have noted : c.Tracks start X (Logged.lift (Build.remember op x)) (Build.remember op x) s log := by
    refine ⟨rfl, h.once, fun _ s' run => ?_⟩
    exact wp.run (Q := fun _ s' => c.LogKept start X s' log) (E := fun _ => True) (wp_note.2 (h.note cat x)) run
  exact noted.bind fun _ s' log' h' => hf s' log' h'

/-- An operation that is neither visited nor waiting is written down, and waits to be noted. -/
theorem Tracks.enter {f : Unit → Logged α} {g : Unit → Build α} (new : s.noted? op = none) (out : op ∉ X)
    (h : c.LogKept start X s log)
    (hf : ∀ log', c.LogKept start (insert op X) s log' → c.Tracks start X (f ()) (g ()) s log') :
    c.Tracks start X (Journal.enter op >>= f) (Journal.enter op >>= g) s log := by
  have entered : (Journal.enter op : Logged Unit) s log = (.ok ((), s), log ++ [op]) := rfl
  rw [Tracks, Logged.bind_of_ok entered]
  exact hf (log ++ [op]) (h.record new out)

theorem Tracks.forM {f : α → Logged Unit} {g : α → Build Unit} (xs : List α)
    (step : ∀ a s log, c.LogKept start X s log → c.Tracks start X (f a) (g a) s log)
    (h : c.LogKept start X s log) : c.Tracks start X (xs.forM f) (xs.forM g) s log := by
  induction xs generalizing s log with
  | nil => exact .pure () h
  | cons x xs ih => exact (step x s log h).bind fun _ _ _ h' => ih h'

theorem Tracks.mapM {f : α → Logged β} {g : α → Build β} (xs : List α)
    (step : ∀ a s log, c.LogKept start X s log → c.Tracks start X (f a) (g a) s log)
    (h : c.LogKept start X s log) : c.Tracks start X (xs.mapM f) (xs.mapM g) s log := by
  induction xs generalizing s log with
  | nil => exact .pure [] h
  | cons x xs ih =>
    rw [List.mapM_cons, List.mapM_cons]
    exact (step x s log h).bind fun b _ _ h₁ => (ih h₁).bind fun bs _ _ h₂ => .pure (b :: bs) h₂

end Rules

/-! ## The log of an operation -/

section Parts

variable {c : BuildContext} {start s : BuildState} {X : Set Operation} {log : List Operation}
  {r : Resolver Logged} {r' : Resolver} {p : Program} {op : Operation} {n : NodeId}
  (hres : c.Faithful start r r') (stores : ∀ op ∈ X, op.opcode = .store)
include hres stores

theorem tracks_linkOperand (isRead : Bool) (v : Value) (h : c.LogKept start X s log) :
    c.Tracks start X (linkOperand r p n isRead v) (linkOperand r' p n isRead v) s log := by
  refine (hres X stores p v s log h).bind fun src s₁ log₁ h₁ => ?_
  cases src with
  | none => exact .pure () h₁
  | some a =>
    refine .step (.isMem a) h₁ fun mem s₂ log₂ h₂ => ?_
    cases isRead && mem with
    | true => exact .step (.update _) h₂ fun _ _ _ h₃ => .lift (.flow a n) h₃
    | false => exact .lift (.flow a n) h₂

theorem tracks_linkOperands (h : c.LogKept start X s log) :
    c.Tracks start X (linkOperands r p op n) (linkOperands r' p op n) s log := by
  unfold linkOperands
  cases op.operands with
  | nil => exact .pure () h
  | cons v vs =>
    refine (tracks_linkOperand hres stores _ v h).bind fun _ _ _ h₁ => .forM vs (fun w _ _ h₂ => ?_) h₁
    exact tracks_linkOperand hres stores false w h₂

theorem tracks_linkArgument (d : Option Direction) (v : Value) (h : c.LogKept start X s log) :
    c.Tracks start X (linkArgument r p n d v) (linkArgument r' p n d v) s log := by
  refine (hres X stores p v s log h).bind fun arg s₁ log₁ h₁ => ?_
  cases arg with
  | none => exact .pure none h₁
  | some a =>
    refine .step (.isMem a) h₁ fun mem s₂ log₂ h₂ => ?_
    dsimp only
    cases decide (d = some .recv) && mem with
    | true =>
      refine .step (Lasting.flow n a) h₂ fun _ _ _ h₃ => .step (Lasting.update _) h₃ fun _ _ _ h₄ => ?_
      exact .step (Lasting.update _) h₄ fun _ _ _ h₅ => .pure (some a) h₅
    | false => exact .step (Lasting.flow a n) h₂ fun _ _ _ h₃ => .pure (some a) h₃

theorem tracks_linkArguments (d : Option Direction) (h : c.LogKept start X s log) :
    c.Tracks start X (linkArguments r p op n d) (linkArguments r' p op n d) s log := by
  refine (Tracks.mapM _ (fun v _ _ => tracks_linkArgument hres stores d v) h).bind fun args _ _ h₁ => ?_
  exact .lift (Lasting.update _) h₁

section New

variable (cat : c.programs.Catalogued) (waits : c.LogKept start (insert op X) s log)
include cat waits

/-- A store waits until its destination is resolved. -/
theorem tracks_addStore (store : op.opcode = .store) :
    c.Tracks start X (addStore r p op) (addStore r' p op) s log := by
  have stores' : ∀ o ∈ insert op X, o.opcode = .store := by
    intro o ho
    rcases Set.mem_insert_iff.1 ho with rfl | ho
    · exact store
    · exact stores o ho
  unfold addStore
  rcases op.operands with _ | ⟨value, _ | ⟨destination, rest⟩⟩
  · exact .note cat waits fun _ _ h₁ => .pure none h₁
  · exact .note cat waits fun _ _ h₁ => .pure none h₁
  · refine (hres _ stores' p destination s _ waits).bind fun dst s₁ log₁ h₁ => ?_
    cases dst with
    | none => exact .note cat h₁ fun _ _ h₂ => .pure none h₂
    | some d =>
      refine .note cat h₁ fun _ _ h₂ => .step (Lasting.update _) h₂ fun _ _ _ h₃ => ?_
      refine .step (Lasting.update _) h₃ fun _ _ _ h₄ => ?_
      exact (tracks_linkOperand hres stores false value h₄).bind fun _ _ _ h₅ => .pure (some d) h₅

theorem tracks_addPlain : c.Tracks start X (c.addPlain r p op) (c.addPlain r' p op) s log := by
  unfold addPlain
  refine (Tracks.lift (lasting_operationNode c p op) waits).bind fun n _ _ h₁ => ?_
  refine .note cat h₁ fun _ _ h₂ => .step (Lasting.update _) h₂ fun _ _ _ h₃ => ?_
  exact (tracks_linkOperands hres stores h₃).bind fun _ _ _ h₄ => .pure n h₄

theorem tracks_addCall : c.Tracks start X (c.addCall r p op) (c.addCall r' p op) s log := by
  unfold addCall
  refine (Tracks.lift (lasting_callNode c p op _) waits).bind fun n _ _ h₁ => ?_
  refine .note cat h₁ fun _ _ h₂ => .step (Lasting.update _) h₂ fun _ _ _ h₃ => ?_
  refine (tracks_linkArguments hres stores _ h₃).bind fun _ _ _ h₄ => ?_
  exact .step (lasting_linkResult c p op n) h₄ fun _ _ _ h₅ => .pure n h₅

end New

theorem tracks_expand (cat : c.programs.Catalogued) (out : op ∉ X) (h : c.LogKept start X s log) :
    c.Tracks start X (c.expand r p op) (c.expand r' p op) s log := by
  unfold expand
  refine .look (a := s.noted? op) rfl ?_
  cases new : s.noted? op with
  | some x => exact .pure x h
  | none =>
    refine .look (a := s.graph) rfl ?_
    cases op.result.bind (s.graph.findNode · p) with
    | some n => exact .step (Lasting.remember op (some n)) h fun _ _ _ h₁ => .pure (some n) h₁
    | none =>
      cases op.opcode.isTerminator && !c.config.includeControlFlow with
      | true => exact .step (Lasting.remember op none) h fun _ _ _ h₁ => .pure none h₁
      | false =>
        refine .enter new out h fun _ waits => ?_
        cases opcode : op.opcode with
        | store => exact tracks_addStore hres stores cat waits opcode
        | call => exact (tracks_addCall hres stores cat waits).map some
        | _ => exact (tracks_addPlain hres stores cat waits).map some

end Parts

/-- Whatever the bound on the nesting, the resolver goes like the one without a log. -/
theorem faithful_resolve {c : BuildContext} (tame : c.Tame) (start : BuildState) (depth : Nat) :
    c.Faithful start (c.resolve depth) (c.resolve depth) := by
  induction depth with
  | zero => exact fun X _ p v s log h => .throw .endlessStore h
  | succ depth ih =>
    intro X stores p v s log h
    rw [BuildContext.resolve, BuildContext.resolve]
    split
    · exact .pure none h
    · refine .step .graph h fun g s₁ log₁ h₁ => ?_
      cases g.findNode v p with
      | some n => exact .pure (some n) h₁
      | none =>
        dsimp only
        cases c.aliasKey? v with
        | some k => exact (Tracks.lift (lasting_memNodeFor c p v k) h₁).map some
        | none =>
          dsimp only
          cases hd : c.programs.definition? v with
          | some op =>
            -- the definition of a value is no store
            have out : op ∉ X := by
              intro waits
              obtain ⟨hr, q, he⟩ := tame.cat.definition v op hd
              rw [tame.silent (q, op) he (stores op waits)] at hr
              cases hr
            refine (tracks_expand ih stores tame.cat out h₁).bind fun n _ _ h₂ => ?_
            exact .step .graph h₂ fun g' _ _ h₃ => .pure _ h₃
          | none =>
            dsimp only
            cases c.programs.info? v with
            | some info =>
              refine .step (.attempt _) h₁ fun n _ _ h₂ => .step (.update _) h₂ fun _ _ _ h₃ => ?_
              exact .pure (some n) h₃
            | none => exact .pure none h₁

/-! ## The log of a request -/

section Requests

variable {c : BuildContext} (tame : c.Tame) {start s : BuildState} {log : List Operation} (p : Program)
include tame

theorem tracks_valueNode (v : Value) (h : c.LogKept start ∅ s log) :
    c.Tracks start ∅ (c.valueNode p v) (c.valueNode p v) s log :=
  faithful_resolve tame start c.nesting ∅ (by simp) p v s log h

theorem tracks_addOperation (op : Operation) (h : c.LogKept start ∅ s log) :
    c.Tracks start ∅ (c.addOperation p op) (c.addOperation p op) s log :=
  tracks_expand (faithful_resolve tame start c.nesting) (by simp) tame.cat (Set.notMem_empty op) h

theorem tracks_addOperations (ops : List Operation) (h : c.LogKept start ∅ s log) :
    c.Tracks start ∅ (c.addOperations p ops) (c.addOperations p ops) s log := by
  induction ops generalizing s log with
  | nil => exact .pure 0 h
  | cons op ops ih =>
    exact (tracks_addOperation tame p op h).bind fun n _ _ h₁ => (ih h₁).bind fun rest _ _ h₂ => .pure _ h₂

theorem tracks_addRoutines (rs : List Routine) (h : c.LogKept start ∅ s log) :
    c.Tracks start ∅ (c.addRoutines rs) (c.addRoutines rs) s log := by
  induction rs generalizing s log with
  | nil => exact .pure 0 h
  | cons r rs ih =>
    refine (tracks_addOperations tame r.program r.operations h).bind fun n _ _ h₁ => ?_
    exact (ih h₁).bind fun rest _ _ h₂ => .pure (n + rest) h₂

theorem tracks_connectValues (a b : Value) (kind : EdgeKind) (h : c.LogKept start ∅ s log) :
    c.Tracks start ∅ (c.connectValues p a b kind) (c.connectValues p a b kind) s log := by
  refine (tracks_valueNode tame p a h).bind fun src _ _ h₁ => ?_
  refine (tracks_valueNode tame p b h₁).bind fun dst _ _ h₂ => ?_
  cases src with
  | none => exact .pure false h₂
  | some m =>
    cases dst with
    | none => exact .pure false h₂
    | some n => exact .lift (.connect m n kind) h₂

theorem tracks_addInput (r : InputRecord) (h : c.LogKept start ∅ s log) :
    c.Tracks start ∅ (c.addInput r) (c.addInput r) s log := by
  refine (tracks_valueNode tame r.program r.value h).bind fun target _ _ h₁ => ?_
  cases target with
  | none => exact .pure false h₁
  | some t =>
    refine .step .graph h₁ fun g _ _ h₂ => .step (.attempt _) h₂ fun n _ _ h₃ => ?_
    exact .step (.flow n t) h₃ fun _ _ _ h₄ => .pure _ h₄

theorem tracks_addRecords (rs : List InputRecord) (h : c.LogKept start ∅ s log) :
    c.Tracks start ∅ (c.addRecords rs) (c.addRecords rs) s log := by
  induction rs generalizing s log with
  | nil => exact .pure 0 h
  | cons r rs ih =>
    exact (tracks_addInput tame r h).bind fun new _ _ h₁ => (ih h₁).bind fun rest _ _ h₂ => .pure _ h₂

theorem tracks_linkParams (args : List (Option NodeId × Value)) (h : c.LogKept start ∅ s log) :
    c.Tracks start ∅ (c.linkParams p args) (c.linkParams p args) s log := by
  induction args generalizing s log with
  | nil => exact .pure () h
  | cons arg args ih =>
    obtain ⟨actual, formal⟩ := arg
    cases actual with
    | none => exact ih h
    | some a =>
      refine (tracks_valueNode tame p formal h).bind fun n _ _ h₁ => ?_
      cases n with
      | none => exact ih h₁
      | some n => exact .step (Lasting.flow a n) h₁ fun _ _ _ h₂ => ih h₂

theorem tracks_linkReturned (users : List NodeId) (vs : List Value) (h : c.LogKept start ∅ s log) :
    c.Tracks start ∅ (c.linkReturned p users vs) (c.linkReturned p users vs) s log := by
  induction vs generalizing s log with
  | nil => exact .pure () h
  | cons v vs ih =>
    refine (tracks_valueNode tame p v h).bind fun n _ _ h₁ => ?_
    cases n with
    | none => exact ih h₁
    | some n => exact .step (.forM (fun u => Lasting.flow n u) users) h₁ fun _ _ _ h₂ => ih h₂

theorem tracks_spliceCall (n : NodeId) (callee : Routine) (h : c.LogKept start ∅ s log) :
    c.Tracks start ∅ (c.spliceCall n callee) (c.spliceCall n callee) s log := by
  unfold spliceCall
  refine .step .graph h fun g _ _ h₁ => .step (.attempt _) h₁ fun node _ _ h₂ => ?_
  cases node.kind with
  | call info =>
    refine (tracks_linkParams tame callee.program _ h₂).bind fun _ _ _ h₃ => ?_
    exact (tracks_linkReturned tame callee.program _ _ h₃).bind fun _ _ _ h₄ => .lift (lasting_retire n) h₄
  | _ => exact .throw _ h₂

theorem tracks_spliceKnownCalls (h : c.LogKept start ∅ s log) :
    c.Tracks start ∅ c.spliceKnownCalls c.spliceKnownCalls s log := by
  refine .step .graph h fun g _ _ h₁ => ?_
  refine (Tracks.forM _ (fun e _ _ h₂ => ?_) h₁).bind fun _ _ _ h₂ => .pure _ h₂
  exact tracks_spliceCall tame e.1 e.2 h₂

/-- Whatever a builder is asked for. -/
theorem tracks_request (request : BuildRequest) (h : c.LogKept start ∅ s log) :
    c.Tracks start ∅ (Logged.run c request) (request.run c) s log := by
  cases request with
  | operation p op => exact (tracks_addOperation tame p op h).map _
  | value p v => exact (tracks_valueNode tame p v h).map _
  | connectValues p a b kind => exact (tracks_connectValues tame p a b kind h).map _
  | inputs sets => exact (tracks_addRecords tame sets.toList h).map _
  | routine r => exact (tracks_addOperations tame r.program r.operations h).map _
  | all => exact (tracks_addRoutines tame c.programs.routines h).map _
  | spliceCall n callee => exact tracks_spliceCall tame n callee h
  | spliceKnownCalls => exact (tracks_spliceKnownCalls tame h).map _

end Requests

/-- Expanding ends, and does nothing twice. Let stores define nothing and let the oracle keep to its contract.
However operands refer to each other, the recursion through operations and values has one solution, in which no
more operations stand inside each other than were not visited before; in every state it gives an answer, unless
there are no handles left. A builder with a log goes like one without, whatever it is asked for, one request
after the other until one stops; and when it ends or stops, the operands of each operation of the programs were
gone through once at most, and not at all if the operation was visited at the start. -/
theorem operands_expanded_once {c : BuildContext} (registered : c.programs.Registered)
    (silent : ∀ e ∈ c.programs.stream, e.2.opcode = .store → e.2.result = none)
    (consistent : ∀ v k, c.oracle.key? v = some k → (c.oracle.members? k).any (·.contains v) = true) :
    (∀ r, c.lookUp r = r ↔ r = c.valueNode) ∧
    (∀ s depth, c.unseen s < depth → (∀ p v, (c.resolve depth p v).run s = (c.valueNode p v).run s) ∧
      ∀ p op, (c.expand (c.resolve depth) p op).run s = (c.addOperation p op).run s) ∧
    (∀ s f, (∃ p v, (c.valueNode p v).run s = .error f) ∨ (∃ p op, (c.addOperation p op).run s = .error f) →
      ∃ k, nodeCapacity ≤ k ∧ f = .graph (.capacityExceeded k)) ∧
    ∀ (requests : List BuildRequest) (s : BuildState),
      (requests.forM (Logged.run c) s []).1 = (requests.forM (·.run c)).run s ∧
      ∀ e ∈ c.programs.stream,
        (requests.forM (Logged.run c) s []).2.count e.2 ≤ if (s.noted? e.2).isSome then 0 else 1 := by
  have tame : c.Tame := ⟨registered.catalogued, silent⟩
  refine ⟨fun r => lookUp_eq_iff tame, fun s depth few => ⟨resolve_run tame few, expand_run tame few⟩,
    fun s f stops => ?_, fun requests s => ?_⟩
  · have halts : c.Halts .any c.Tame s f := by
      rcases stops with ⟨p, v, run⟩ | ⟨p, op, run⟩
      · exact (wp_valueNode_progress (fun _ _ _ => trivial) p v).fault run
      · exact (wp_addOperation_progress (fun _ _ _ => trivial) p trivial).fault run
    obtain ⟨s', -, full, rfl⟩ := halts.full tame consistent
    exact ⟨_, full, rfl⟩
  · obtain ⟨same, once, -⟩ := Tracks.forM requests (fun request _ _ => tracks_request tame request)
      (logKept_nil c s)
    exact ⟨same, once⟩

/-- `i` and `j` are computed from each other and from themselves, and `main` stores `i` into what another routine
computes from both. -/
def knot : BuildContext where
  programs := .ofRoutines [(.first, .scalar "i"), (.first, .scalar "j"), (.first, .scalar "d")]
    [{ name := "main", program := .first, operations :=
        [{ opcode := .store, operands := [⟨.first, 0⟩, ⟨.first, 2⟩] },
          { opcode := .phi, operands := [⟨.first, 1⟩, ⟨.first, 0⟩, ⟨.first, 2⟩], result := some ⟨.first, 0⟩ },
          { opcode := .binary, operands := [⟨.first, 0⟩, ⟨.first, 1⟩], result := some ⟨.first, 1⟩ }] },
      { name := "other", program := .first, operations :=
        [{ opcode := .cast, operands := [⟨.first, 0⟩, ⟨.first, 1⟩], result := some ⟨.first, 2⟩ }] }]
  oracle := (AliasPartition.ofLists []).oracle
  naming := {}
  config := {}
  levels := fun _ _ _ => .empty

/-- The store is expanded first, on the way to its destination all the others, and then nothing any more. -/
theorem operands_expanded_once_knot : knot.programs.Registered ∧
    (∀ e ∈ knot.programs.stream, e.2.opcode = .store → e.2.result = none) ∧
    (∀ v k, knot.oracle.key? v = some k → (knot.oracle.members? k).any (·.contains v) = true) ∧
    ([BuildRequest.all, .all].forM (Logged.run knot) {} []).2.map (·.id) = [some 0, some 3, some 1, some 2] ∧
    ∀ e ∈ knot.programs.stream, ([BuildRequest.all, .all].forM (Logged.run knot) {} []).2.count e.2 ≤ 1 := by
  have registered : knot.programs.Registered := ProgramPair.registered_ofRoutines ..
  have silent : ∀ e ∈ knot.programs.stream, e.2.opcode = .store → e.2.result = none := by decide +kernel
  have consistent : ∀ v k, knot.oracle.key? v = some k → (knot.oracle.members? k).any (·.contains v) = true :=
    fun v k => (AliasPartition.coherent_ofLists []).lists
  refine ⟨registered, silent, consistent, by decide +kernel, fun e he => ?_⟩
  have count := ((operands_expanded_once registered silent consistent).2.2.2 [.all, .all] {}).2 e he
  exact count.trans (by split <;> simp)

end BuildContext

end PeerTaint
