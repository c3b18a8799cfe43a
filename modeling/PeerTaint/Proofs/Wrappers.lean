import Mathlib.Data.List.TakeWhile
import PeerTaint.Inputs.Primitive

/-!
The names of receive wrappers.

A wrapper's name holds a tag, and behind it the number of the argument that is filled. The name is cut at the
first place where the tag begins (`Cut`), and the longest run of digits behind the tag is read (`DigitRun`).
Both are determined by the name, so a name that was put together from its parts is taken apart into them,
provided that the tag does not begin earlier and that no digit follows the number.
-/

namespace PeerTaint

/-! ## The first occurrence of a tag -/

/-- A text is cut into what is before a tag and what is after it, at the first place where the tag begins. -/
structure Cut (tag text before after : List Char) : Prop where
  parts : text = before ++ (tag ++ after)
  first : ∀ i < before.length, ¬ tag <+: text.drop i

variable {tag text before after : List Char}

theorem cut_nil (after : List Char) : Cut tag (tag ++ after) [] after := ⟨rfl, fun _ h => by simp at h⟩

theorem cut_cons_iff {c : Char} {cs : List Char} : Cut tag (c :: cs) before after ↔
    (before = [] ∧ c :: cs = tag ++ after) ∨
      ¬ tag <+: c :: cs ∧ ∃ before', before = c :: before' ∧ Cut tag cs before' after := by
  constructor
  · rintro ⟨parts, first⟩
    cases before with
    | nil => exact .inl ⟨rfl, parts⟩
    | cons b before =>
      rw [List.cons_append] at parts
      obtain ⟨rfl, tail⟩ := List.cons.inj parts
      refine .inr ⟨first 0 (by simp), before, rfl, tail, fun i hi => ?_⟩
      exact first (i + 1) (by simpa using hi)
  · rintro (⟨rfl, parts⟩ | ⟨other, before, rfl, parts, first⟩)
    · rw [parts]
      exact cut_nil after
    · refine ⟨by rw [parts, List.cons_append], fun i hi => ?_⟩
      cases i with
      | zero => exact other
      | succ i => exact first i (by simpa using hi)

/-- The search stops where the text is cut. -/
theorem afterFirst?_eq_some_iff : afterFirst? tag text = some after ↔ ∃ before, Cut tag text before after := by
  induction text with
  | nil =>
    constructor
    · intro h
      cases tag with
      | nil =>
        cases h
        exact ⟨[], cut_nil []⟩
      | cons t tag => cases h
    · rintro ⟨before, parts, -⟩
      obtain ⟨-, rest⟩ := List.append_eq_nil_iff.1 parts.symm
      obtain ⟨rfl, rfl⟩ := List.append_eq_nil_iff.1 rest
      rfl
  | cons c cs ih =>
    rw [afterFirst?]
    simp only [cut_cons_iff, List.isPrefixOf_iff_prefix]
    split
    · next here =>
      obtain ⟨rest, parts⟩ := here
      have drop : (c :: cs).drop tag.length = rest := by rw [← parts, List.drop_left]
      rw [drop, Option.some_inj, ← parts]
      constructor
      · rintro rfl
        exact ⟨[], .inl ⟨rfl, rfl⟩⟩
      · rintro ⟨before, ⟨-, same⟩ | ⟨other, -⟩⟩
        · exact List.append_cancel_left same
        · exact absurd (List.prefix_append tag rest) other
    · next other =>
      rw [ih]
      constructor
      · rintro ⟨before, cut⟩
        exact ⟨c :: before, .inr ⟨other, before, rfl, cut⟩⟩
      · rintro ⟨_, ⟨-, parts⟩ | ⟨-, before, -, cut⟩⟩
        · exact absurd ⟨after, parts.symm⟩ other
        · exact ⟨before, cut⟩

/-- A text that has the tag is cut somewhere. -/
theorem exists_cut (h : tag <:+: text) : ∃ before after, Cut tag text before after := by
  induction text with
  | nil =>
    rw [List.eq_nil_of_infix_nil h]
    exact ⟨[], [], cut_nil []⟩
  | cons c cs ih =>
    by_cases here : tag <+: c :: cs
    · obtain ⟨rest, parts⟩ := here
      exact ⟨[], rest, parts ▸ cut_nil rest⟩
    · obtain ⟨before, after, cut⟩ := ih ((List.infix_cons_iff.1 h).resolve_left here)
      exact ⟨c :: before, after, cut_cons_iff.2 (.inr ⟨here, before, rfl, cut⟩)⟩

/-! ## The number behind the tag -/

/-- A text starts with a run of digits, and no longer one. -/
structure DigitRun (text run rest : List Char) : Prop where
  parts : text = run ++ rest
  digits : ∀ c ∈ run, c.isDigit = true
  longest : ∀ c, rest.head? = some c → c.isDigit = false

theorem isDigit_eq (c : Char) : Decimal.isDigit c = c.isDigit := by
  rw [Bool.eq_iff_iff]
  simp only [Decimal.isDigit, Char.isDigit, Bool.and_eq_true, decide_eq_true_eq, ge_iff_le, UInt32.le_iff_toNat_le]
  rfl

theorem exists_digitRun (text : List Char) : ∃ run rest, DigitRun text run rest := by
  refine ⟨text.takeWhile Char.isDigit, text.dropWhile Char.isDigit, List.takeWhile_append_dropWhile.symm,
    fun c hc => List.mem_takeWhile_imp hc, fun c hc => ?_⟩
  have := List.head?_dropWhile_not Char.isDigit text
  rw [hc] at this
  simpa using this

theorem DigitRun.takeWhile_eq {run rest : List Char} (h : DigitRun text run rest) :
    text.takeWhile Decimal.isDigit = run := by
  have digits : ∀ c ∈ run, Decimal.isDigit c = true := fun c hc => (isDigit_eq c).trans (h.digits c hc)
  rw [h.parts, List.takeWhile_append_of_pos digits]
  cases hr : rest with
  | nil => simp
  | cons c cs =>
    have : Decimal.isDigit c = false := (isDigit_eq c).trans (h.longest c (by rw [hr]; rfl))
    simp [this]

section Operands

variable {run rest : List Char} (h : DigitRun text run rest)
include h

theorem DigitRun.wrapperOperands_eq : wrapperOperands text =
    if run ≠ [] ∧ Nat.ofDigitChars 10 run 0 < bound64 then .arg (Nat.ofDigitChars 10 run 0) else .wholeCall := by
  have digits : run.all Decimal.isDigit = true :=
    List.all_eq_true.2 fun c hc => (isDigit_eq c).trans (h.digits c hc)
  have value : Decimal.value run = Nat.ofDigitChars 10 run 0 := rfl
  rw [wrapperOperands, h.takeWhile_eq, Decimal.read?, digits, value]
  cases run with
  | nil => rfl
  | cons c cs => simp

theorem DigitRun.wrapperOperands_eq_arg_iff {n : Nat} :
    wrapperOperands text = .arg n ↔ run ≠ [] ∧ Nat.ofDigitChars 10 run 0 = n ∧ n < bound64 := by
  rw [h.wrapperOperands_eq]
  constructor
  · intro arg
    split at arg
    · next number =>
      cases arg
      exact ⟨number.1, rfl, number.2⟩
    · cases arg
  · rintro ⟨some, rfl, small⟩
    rw [if_pos ⟨some, small⟩]

theorem DigitRun.wrapperOperands_eq_wholeCall_iff :
    wrapperOperands text = .wholeCall ↔ run = [] ∨ bound64 ≤ Nat.ofDigitChars 10 run 0 := by
  rw [h.wrapperOperands_eq]
  by_cases number : run ≠ [] ∧ Nat.ofDigitChars 10 run 0 < bound64
  · rw [if_pos number]
    simp [number.1, number.2]
  · rw [if_neg number]
    simpa [or_iff_not_imp_left] using number

end Operands

theorem digitRun_toString (n : Nat) {rest : List Char} (h : ∀ c, rest.head? = some c → c.isDigit = false) :
    DigitRun ((toString n).toList ++ rest) (Nat.toDigits 10 n) rest := by
  refine ⟨?_, fun c hc => Nat.isDigit_of_mem_toDigits (by decide) (by decide) hc, h⟩
  rw [Nat.toString_eq_ofList_toDigits, String.toList_ofList]

/-! ## Matching a wrapper -/

/-- A name with the tag is matched as a wrapper, whatever else it would be matched as. -/
theorem Cut.standardMatcher_eq {tag callee : String} (nonempty : tag ≠ "")
    (cut : Cut tag.toList callee.toList before after) (naming : Naming) (compiled : CompiledNaming) (p : Program) :
    standardMatcher naming compiled tag p callee = some ⟨.networkReceive, wrapperOperands after, true⟩ := by
  have found : afterFirst? tag.toList callee.toList = some after := afterFirst?_eq_some_iff.2 ⟨before, cut⟩
  rw [standardMatcher, matchWrapper, if_neg nonempty, found]
  rfl

/-- The longest run of digits that follows the first occurrence of a tag. -/
def RunBehind (tag callee : String) (run : List Char) : Prop :=
  ∃ before after rest, Cut tag.toList callee.toList before after ∧ DigitRun after run rest

/-- A name that is put together from a text, the tag, a number of 64 bits and another text is matched on
exactly that argument, in both programs and whatever else it would be matched as, if the tag does not begin
earlier and no digit follows. In general, behind the first tag of a name there is a longest run of digits. The
name is matched on the argument that the run denotes, and on the whole call if the run is empty or its number
too large. -/
theorem wrapper_names_argument (naming : Naming) (compiled : CompiledNaming) (tag : String) (nonempty : tag ≠ "") :
    (∀ (s rest : String) (n : Nat), n < bound64 →
        (∀ i < s.length, ¬ tag.toList <+: (s ++ tag ++ toString n ++ rest).toList.drop i) →
        (∀ c, rest.toList.head? = some c → c.isDigit = false) →
        ∀ p, standardMatcher naming compiled tag p (s ++ tag ++ toString n ++ rest)
          = some ⟨.networkReceive, .arg n, true⟩) ∧
      (∀ callee : String, tag.toList <:+: callee.toList → ∃ run, RunBehind tag callee run) ∧
      ∀ callee run, RunBehind tag callee run → ∀ p, ∃ operands,
        standardMatcher naming compiled tag p callee = some ⟨.networkReceive, operands, true⟩ ∧
          (∀ n, operands = .arg n ↔ run ≠ [] ∧ Nat.ofDigitChars 10 run 0 = n ∧ n < bound64) ∧
          (operands = .wholeCall ↔ run = [] ∨ bound64 ≤ Nat.ofDigitChars 10 run 0) := by
  refine ⟨fun s rest n small first ends p => ?_, fun callee has => ?_, ?_⟩
  · have cut : Cut tag.toList (s ++ tag ++ toString n ++ rest).toList s.toList
        ((toString n).toList ++ rest.toList) := ⟨by simp, first⟩
    have number := Nat.ofDigitChars_ten_toDigits (n := n)
    rw [cut.standardMatcher_eq nonempty,
      (digitRun_toString n ends).wrapperOperands_eq_arg_iff.2 ⟨Nat.toDigits_ne_nil, number, small⟩]
  · obtain ⟨before, after, cut⟩ := exists_cut has
    obtain ⟨run, rest, digits⟩ := exists_digitRun after
    exact ⟨run, before, after, rest, cut, digits⟩
  · rintro callee run ⟨before, after, rest, cut, digits⟩ p
    exact ⟨_, cut.standardMatcher_eq nonempty naming compiled p, fun n => digits.wrapperOperands_eq_arg_iff,
      digits.wrapperOperands_eq_wholeCall_iff⟩

/-- The tag `_1_` holds a digit itself and occurs twice, and the first name also has a receive prefix and a
sensor's pattern. Its number is the largest one of 64 bits; the one in the second name, which has leading zeros,
is larger by one. -/
theorem wrapper_names_argument_repeated_tag : ∃ compiled, ({} : Naming).compile = .ok compiled ∧
    ({} : Naming).direction? .first "recv_sensor_update" = some .recv ∧
    standardMatcher {} compiled "_1_" .first ("recv_sensor_update" ++ "_1_" ++ toString (bound64 - 1) ++ "_1_7")
      = some ⟨.networkReceive, .arg (bound64 - 1), true⟩ ∧
    RunBehind "_1_" "fgets_1_0018446744073709551616_1_7" "0018446744073709551616".toList ∧
    standardMatcher {} compiled "_1_" .second "fgets_1_0018446744073709551616_1_7"
      = some ⟨.networkReceive, .wholeCall, true⟩ := by
  have compiles : ({} : Naming).compile.isOk = true := by decide +kernel
  obtain ⟨compiled, compile⟩ : ∃ compiled, ({} : Naming).compile = .ok compiled := by
    cases h : ({} : Naming).compile with
    | error e =>
      rw [h] at compiles
      cases compiles
    | ok compiled => exact ⟨compiled, rfl⟩
  obtain ⟨names, -, general⟩ := wrapper_names_argument {} compiled "_1_" (by decide)
  have behind : RunBehind "_1_" "fgets_1_0018446744073709551616_1_7" "0018446744073709551616".toList :=
    ⟨"fgets".toList, _, "_1_7".toList, ⟨rfl, by decide +kernel⟩, rfl, List.all_eq_true.1 (by decide +kernel),
      fun c hc => by cases hc; rfl⟩
  obtain ⟨operands, hit, -, whole⟩ := general _ _ behind .second
  refine ⟨compiled, compile, by decide +kernel, ?_, behind, ?_⟩
  · exact names "recv_sensor_update" "_1_7" _ (by decide) (by decide +kernel) (fun c hc => by cases hc; rfl) .first
  · rw [hit, whole.2 (.inr (by decide +kernel))]

end PeerTaint
