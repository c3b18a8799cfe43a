/-!
Decimal numerals of natural numbers.

`digits` writes a number with no leading zero and `value` reads digits back; `value_digits` says
that nothing is lost on the way.
-/

namespace PeerTaint.Decimal

/-- The character of a digit below ten. -/
def digitChar (d : Nat) : Char := Char.ofNat (48 + d)

/-- The digits of a number, most significant first. -/
def digits (n : Nat) : List Char :=
  if n < 10 then [digitChar n] else digits (n / 10) ++ [digitChar (n % 10)]

/-- Whether a character is one of the ten ASCII digits. -/
def isDigit (c : Char) : Bool := decide (48 ≤ c.toNat) && decide (c.toNat ≤ 57)

/-- The number that a list of digits denotes. -/
def value (cs : List Char) : Nat := cs.foldl (fun n c => 10 * n + (c.toNat - 48)) 0

/-- Reads a non-empty list of digits. -/
def read? (cs : List Char) : Option Nat :=
  if !cs.isEmpty && cs.all isDigit then some (value cs) else none

theorem toNat_digitChar {d : Nat} (h : d < 10) : (digitChar d).toNat = 48 + d := by
  have : d = 0 ∨ d = 1 ∨ d = 2 ∨ d = 3 ∨ d = 4 ∨ d = 5 ∨ d = 6 ∨ d = 7 ∨ d = 8 ∨ d = 9 := by omega
  rcases this with rfl | rfl | rfl | rfl | rfl | rfl | rfl | rfl | rfl | rfl <;> rfl

theorem value_append (cs : List Char) (c : Char) :
    value (cs ++ [c]) = 10 * value cs + (c.toNat - 48) := by
  simp [value]

@[simp]
theorem value_digits (n : Nat) : value (digits n) = n := by
  fun_induction digits n with
  | case1 n h => simp [value, toNat_digitChar h]
  | case2 n h ih =>
    rw [value_append, ih, toNat_digitChar (Nat.mod_lt _ (by omega))]
    omega

theorem isDigit_of_mem_digits {n : Nat} {c : Char} (h : c ∈ digits n) : isDigit c = true := by
  fun_induction digits n with
  | case1 n hn =>
    simp only [List.mem_singleton] at h
    subst h
    simp [isDigit, toNat_digitChar hn]; omega
  | case2 n hn ih =>
    rcases List.mem_append.1 h with h | h
    · exact ih h
    · simp only [List.mem_singleton] at h
      subst h
      simp [isDigit, toNat_digitChar (Nat.mod_lt n (by omega : 10 > 0))]; omega

theorem digits_ne_nil (n : Nat) : digits n ≠ [] := by
  rw [digits]; split <;> simp

/-- Only the numeral of zero starts with a zero. -/
theorem digits_eq_zero {n : Nat} {cs : List Char} (h : digits n = '0' :: cs) : cs = [] := by
  fun_induction digits n generalizing cs with
  | case1 n small => exact (List.cons.inj h).2.symm
  | case2 n large ih =>
    obtain ⟨c, ds, hd⟩ := List.exists_cons_of_ne_nil (digits_ne_nil (n / 10))
    rw [hd, List.cons_append] at h
    obtain rfl := (List.cons.inj h).1
    obtain rfl := ih hd
    have zero : n / 10 = 0 := by rw [← value_digits (n / 10), hd]; rfl
    omega

@[simp]
theorem read?_digits (n : Nat) : read? (digits n) = some n := by
  have h : (digits n).all isDigit = true := List.all_eq_true.2 fun c hc => isDigit_of_mem_digits hc
  simp [read?, h, digits_ne_nil]

end PeerTaint.Decimal

namespace PeerTaint

/-- The decimal numeral of a number. -/
def decimal (n : Nat) : String := String.ofList (Decimal.digits n)

end PeerTaint
