/-!
Keys of sorted collections.

The collections of this library list their keys in ascending order, and that order is part of what
the library answers. `Key κ` is a strict order on `κ` that compares any two different keys. Numbers,
characters and texts are keys; lists and pairs of keys are compared component by component, the
first difference deciding.
-/

namespace PeerTaint

/-- A strict order in which any two different keys compare. -/
class Key (κ : Type) where
  /-- Whether the first key comes before the second one. -/
  before : κ → κ → Bool
  irrefl : ∀ a, before a a = false
  trans : ∀ {a b c}, before a b = true → before b c = true → before a c = true
  total : ∀ {a b}, a ≠ b → before a b = true ∨ before b a = true

namespace Key

variable {κ μ : Type}

theorem asymm [Key κ] {a b : κ} (h : before a b = true) : before b a = false := by
  cases hba : before b a with
  | false => rfl
  | true => have := trans h hba; rw [irrefl] at this; cases this

theorem ne_of_before [Key κ] {a b : κ} (h : before a b = true) : a ≠ b := by
  rintro rfl
  rw [irrefl] at h; cases h

/-- A key that is neither equal to another nor before it comes after it. -/
theorem before_of_not [Key κ] {a b : κ} (hne : a ≠ b) (h : before a b = false) :
    before b a = true := by
  rcases total hne with hab | hba
  · rw [h] at hab; cases hab
  · exact hba

/-- Keys ordered through an injective map into an ordered type. -/
@[reducible]
def ofInjective [Key μ] (f : κ → μ) (inj : ∀ {a b}, f a = f b → a = b) : Key κ where
  before a b := before (f a) (f b)
  irrefl a := irrefl (f a)
  trans := trans
  total h := total fun e => h (inj e)

/-- A list whose keys ascend is determined by what it contains. -/
theorem eq_of_mem_iff [Key μ] (f : κ → μ) {as bs : List κ}
    (ha : as.Pairwise fun a b => before (f a) (f b) = true)
    (hb : bs.Pairwise fun a b => before (f a) (f b) = true) (h : ∀ x, x ∈ as ↔ x ∈ bs) : as = bs := by
  induction as generalizing bs with
  | nil => cases bs with
    | nil => rfl
    | cons b bs => simpa using h b
  | cons a as ih =>
    cases bs with
    | nil => simpa using h a
    | cons b bs =>
      obtain ⟨ha₁, ha₂⟩ := List.pairwise_cons.1 ha
      obtain ⟨hb₁, hb₂⟩ := List.pairwise_cons.1 hb
      have hab : a = b := by
        rcases List.mem_cons.1 ((h a).1 List.mem_cons_self) with e | hin
        · exact e
        rcases List.mem_cons.1 ((h b).2 List.mem_cons_self) with e | hin'
        · exact e.symm
        have := asymm (hb₁ a hin)
        rw [ha₁ b hin'] at this; cases this
      subst hab
      refine congrArg _ (ih ha₂ hb₂ fun x => ?_)
      constructor
      · intro hx
        rcases List.mem_cons.1 ((h x).1 (List.mem_cons_of_mem _ hx)) with rfl | hx'
        · exact absurd rfl (ne_of_before (ha₁ _ hx))
        · exact hx'
      · intro hx
        rcases List.mem_cons.1 ((h x).2 (List.mem_cons_of_mem _ hx)) with rfl | hx'
        · exact absurd rfl (ne_of_before (hb₁ _ hx))
        · exact hx'

instance : Key Nat where
  before a b := decide (a < b)
  irrefl a := decide_eq_false (Nat.lt_irrefl a)
  trans h₁ h₂ := decide_eq_true (Nat.lt_trans (of_decide_eq_true h₁) (of_decide_eq_true h₂))
  total h := (Nat.lt_or_gt_of_ne h).imp decide_eq_true decide_eq_true

instance : Key Char := ofInjective Char.toNat fun h => Char.toNat_inj.1 h

/-- Lexicographic comparison of lists, a list coming after its own initial segments. -/
def beforeList [Key κ] [DecidableEq κ] : List κ → List κ → Bool
  | _, [] => false
  | [], _ :: _ => true
  | a :: as, b :: bs => if a = b then beforeList as bs else before a b

theorem beforeList_irrefl [Key κ] [DecidableEq κ] (as : List κ) : beforeList as as = false := by
  induction as with
  | nil => rfl
  | cons a as ih => simp [beforeList, ih]

theorem beforeList_trans [Key κ] [DecidableEq κ] {as bs cs : List κ}
    (h₁ : beforeList as bs = true) (h₂ : beforeList bs cs = true) : beforeList as cs = true := by
  induction as generalizing bs cs with
  | nil => cases bs <;> cases cs <;> simp_all [beforeList]
  | cons a as ih =>
    cases bs with
    | nil => simp [beforeList] at h₁
    | cons b bs =>
      cases cs with
      | nil => simp [beforeList] at h₂
      | cons c cs =>
        by_cases hab : a = b
        · subst hab
          by_cases hac : a = c
          · subst hac
            simp only [beforeList, if_true] at h₁ h₂ ⊢
            exact ih h₁ h₂
          · simpa [beforeList, hac] using h₂
        · by_cases hbc : b = c
          · subst hbc
            simpa [beforeList, hab] using h₁
          · simp only [beforeList, if_neg hab, if_neg hbc] at h₁ h₂
            have hac := trans h₁ h₂
            simpa [beforeList, ne_of_before hac] using hac

theorem beforeList_total [Key κ] [DecidableEq κ] {as bs : List κ} (h : as ≠ bs) :
    beforeList as bs = true ∨ beforeList bs as = true := by
  induction as generalizing bs with
  | nil => cases bs <;> simp_all [beforeList]
  | cons a as ih =>
    cases bs with
    | nil => simp [beforeList]
    | cons b bs =>
      by_cases hab : a = b
      · subst hab
        simpa [beforeList] using @ih bs (by simpa using h)
      · simpa [beforeList, hab, Ne.symm hab] using total hab

instance [Key κ] [DecidableEq κ] : Key (List κ) where
  before := beforeList
  irrefl := beforeList_irrefl
  trans := beforeList_trans
  total := beforeList_total

/-- Texts are compared by their code points. -/
instance : Key String := ofInjective String.toList fun h => String.toList_inj.1 h

instance [Key κ] [DecidableEq κ] [Key μ] : Key (κ × μ) where
  before a b := if a.1 = b.1 then before a.2 b.2 else before a.1 b.1
  irrefl a := by simp [irrefl]
  trans := by
    intro a b c h₁ h₂
    by_cases hab : a.1 = b.1 <;> by_cases hbc : b.1 = c.1
    · simp only [hab, hbc, if_true] at h₁ h₂ ⊢
      exact trans h₁ h₂
    · simpa [hab, hbc] using h₂
    · simp only [if_neg hab] at h₁
      have hac : a.1 ≠ c.1 := hbc ▸ hab
      rw [if_neg hac, ← hbc]
      exact h₁
    · simp only [if_neg hab, if_neg hbc] at h₁ h₂
      have hac := trans h₁ h₂
      simpa [ne_of_before hac] using hac
  total := by
    intro a b h
    by_cases hab : a.1 = b.1
    · have : a.2 ≠ b.2 := fun h₂ => h (Prod.ext hab h₂)
      simpa [hab] using total this
    · simpa [hab, Ne.symm hab] using total hab

end Key

end PeerTaint
