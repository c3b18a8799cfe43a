import PeerTaint.Order.Key
import PeerTaint.Text.Decimal

/-!
The two programs and the directions in which they talk.

The analysis always looks at a pair of communicating programs. `Program` names the two sides,
`PerProgram` keeps one thing for each of them, and `Direction` says which way a network primitive
moves data.
-/

namespace PeerTaint

/-- One of the two analysed programs. -/
inductive Program where
  | first
  | second
  deriving DecidableEq

namespace Program

/-- Both programs, in order. -/
def all : List Program := [first, second]

/-- The program at the other end. -/
def peer : Program → Program
  | first => second
  | second => first

/-- The programs are numbered from one. -/
def number : Program → Nat
  | first => 1
  | second => 2

/-- Position in a list that starts with the first program. -/
def index (p : Program) : Nat := p.number - 1

/-- The program with a given number. -/
def ofNumber? : Nat → Option Program
  | 1 => some first
  | 2 => some second
  | _ => none

/-- Short name, such as `P1`. -/
def text (p : Program) : String := "P" ++ decimal p.number

theorem peer_ne (p : Program) : p.peer ≠ p := by cases p <;> decide

theorem number_injective {p q : Program} (h : p.number = q.number) : p = q := by
  cases p <;> cases q <;> first | rfl | cases h

instance : Key Program := Key.ofInjective number number_injective

end Program

/-- One thing for each program. -/
structure PerProgram (α : Type) where
  first : α
  second : α
  deriving DecidableEq

namespace PerProgram

variable {α β : Type}

/-- The same thing for both programs. -/
def both (a : α) : PerProgram α := ⟨a, a⟩

/-- What belongs to a program. -/
def get (s : PerProgram α) : Program → α
  | .first => s.first
  | .second => s.second

/-- Changes what belongs to one program. -/
def modify (s : PerProgram α) (p : Program) (f : α → α) : PerProgram α :=
  match p with
  | .first => { s with first := f s.first }
  | .second => { s with second := f s.second }

/-- Applies a function on both sides. -/
def map (f : α → β) (s : PerProgram α) : PerProgram β := ⟨f s.first, f s.second⟩

@[simp]
theorem get_both (a : α) (p : Program) : (both a).get p = a := by cases p <;> rfl

@[simp]
theorem get_modify (s : PerProgram α) (p q : Program) (f : α → α) :
    (s.modify p f).get q = if q = p then f (s.get q) else s.get q := by
  cases p <;> cases q <;> rfl

@[simp]
theorem get_map (f : α → β) (s : PerProgram α) (p : Program) : (s.map f).get p = f (s.get p) := by
  cases p <;> rfl

theorem ext_get {s t : PerProgram α} (h : ∀ p, s.get p = t.get p) : s = t := by
  cases s; cases t
  have h₁ := h .first
  have h₂ := h .second
  simp only [get] at h₁ h₂
  rw [h₁, h₂]

end PerProgram

/-- Which way a network primitive moves data. -/
inductive Direction where
  | send
  | recv
  deriving DecidableEq

namespace Direction

/-- Both directions, in order. -/
def all : List Direction := [send, recv]

/-- The direction at the other end of a channel. -/
def opposite : Direction → Direction
  | send => recv
  | recv => send

/-- Name of a direction. -/
def text : Direction → String
  | send => "send"
  | recv => "recv"

/-- Position of a direction in their order. -/
def rank : Direction → Nat
  | send => 0
  | recv => 1

theorem rank_injective {d e : Direction} (h : d.rank = e.rank) : d = e := by
  cases d <;> cases e <;> first | rfl | cases h

instance : Key Direction := Key.ofInjective rank rank_injective

end Direction

end PeerTaint
