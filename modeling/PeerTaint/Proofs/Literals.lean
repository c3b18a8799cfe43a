import Mathlib.Data.List.TakeWhile
import PeerTaint.Proofs.Scalars

/-!
Literal blocks are read back as they were written.

The lines of a block are indented by the same number of blanks, and the empty ones not at all. The line ends
after the last line are all part of the text, or none is, as the sign in the header says.
-/

namespace PeerTaint

namespace Yaml

/-! ## Indentation -/

theorem passIndentation_cons (limit : Option Nat) (column deepest : Nat) (c : Char) (cs : List Char) :
    passIndentation limit column deepest (c :: cs) =
      if limit.all (column < ·) && c = ' ' then passIndentation limit (column + 1) deepest cs
      else if limit.all (column < ·) && c = '\t' then none
      else if isBreak c then
        (passIndentation limit 0 (max deepest column) cs).map fun b => { b with breaks := c :: b.breaks }
      else some ⟨[], column, max deepest column, c :: cs⟩ := by
  cases limit <;> rfl

/-- Text at which indentation stops: it does not start with a line end, nor with a blank before the limit. -/
def Unindented (limit : Option Nat) (column : Nat) (u : List Char) : Prop :=
  ∀ x ∈ u.head?, isBreak x = false ∧ (limit.all (column < ·) && isBlank x) = false

theorem Visible.unindented {t : List Char} (h : Visible t) (limit : Option Nat) (column : Nat) :
    Unindented limit column t :=
  fun x hx => ⟨(h x hx).2.1, by rw [(h x hx).1, Bool.and_false]⟩

/-- Behind its indentation a line may start with a blank. -/
theorem unindented_text (column : Nat) {c : Char} (h : isBreak c = false) (u : List Char) :
    Unindented (some column) column (c :: u) := by
  intro x hx
  obtain rfl : c = x := by simpa using hx
  exact ⟨h, by simp⟩

theorem passIndentation_unindented {limit : Option Nat} {column : Nat} {u : List Char}
    (h : Unindented limit column u) (deepest : Nat) :
    passIndentation limit column deepest u = some ⟨[], column, max deepest column, u⟩ := by
  cases u with
  | nil => rfl
  | cons x u =>
    obtain ⟨line, blank⟩ := h x rfl
    rw [isBlank, Bool.and_or_distrib_left, Bool.or_eq_false_iff] at blank
    simp [passIndentation_cons, blank.1, blank.2, line]

theorem passIndentation_blanks {limit : Option Nat} {column k : Nat} (h : ∀ n ∈ limit, column + k ≤ n) (deepest : Nat)
    (u : List Char) :
    passIndentation limit column deepest (blanks k ++ u) = passIndentation limit (column + k) deepest u := by
  induction k generalizing column with
  | zero => rfl
  | succ k ih =>
    have inside : limit.all (column < ·) = true := by
      rw [Option.all_eq_true]
      intro n hn
      have := h n hn
      exact decide_eq_true (by omega)
    have deeper : ∀ n ∈ limit, column + 1 + k ≤ n := fun n hn => by
      have := h n hn
      omega
    rw [blanks, List.replicate_succ, List.cons_append, passIndentation_cons, inside, ← blanks, ih deeper,
      Nat.add_right_comm, Nat.add_assoc]
    rfl

/-- Empty lines and the indentation of the next line. -/
theorem passIndentation_lines {limit : Option Nat} {k : Nat} {bs u : List Char}
    (breaks : ∀ b ∈ bs, isBreak b = true) (within : ∀ n ∈ limit, k ≤ n) (h : Unindented limit k u) (deepest : Nat) :
    passIndentation limit 0 deepest (bs ++ (blanks k ++ u)) = some ⟨bs, k, max deepest k, u⟩ := by
  induction bs with
  | nil =>
    rw [List.nil_append, passIndentation_blanks (by simpa using within), Nat.zero_add,
      passIndentation_unindented h]
  | cons b bs ih =>
    have hb := breaks b List.mem_cons_self
    have gap := isBlank_of_isBreak hb
    simp only [isBlank, Bool.or_eq_false_iff] at gap
    have rest := ih fun b hb => breaks b (List.mem_cons_of_mem _ hb)
    simp [passIndentation_cons, gap.1, gap.2, hb, rest]

/-! ## The header -/

/-- Whether the header of a text gives its indentation. -/
def startsOpen (cs : List Char) : Bool := cs.head?.any fun c => c = ' ' || isBreak c

/-- How a literal block has to end so that a text is read back. -/
def literalChomping (cs : List Char) : Chomping :=
  match cs.reverse with
  | [] => .strip
  | [c] => if isBreak c then .keep else .strip
  | c :: d :: _ => if !isBreak c then .strip else if isBreak d then .keep else .clip

/-- The sign that asks for a way to end. -/
def Chomping.sign : Chomping → List Char
  | .strip => ['-']
  | .clip => []
  | .keep => ['+']

theorem literalHeader_eq (cs : List Char) :
    literalHeader cs = '|' :: (if startsOpen cs then ['2'] else []) ++ (literalChomping cs).sign := by
  rw [literalHeader, literalChomping, startsOpen]
  rcases cs.reverse with _ | ⟨c, _ | ⟨d, r⟩⟩
  · rfl
  · cases hc : isBreak c <;> simp [hc, Chomping.sign]
  · cases hc : isBreak c <;> cases hd : isBreak d <;> simp [hc, hd, Chomping.sign]

theorem readIndicators_header (given : Bool) (chomping : Chomping) (r : List Char) :
    readIndicators ((if given then ['2'] else []) ++ chomping.sign ++ '\n' :: r) =
      (⟨chomping, if given then some 2 else none⟩, '\n' :: r) := by
  cases given <;> cases chomping <;> rfl

theorem endOfLine_feed (r : List Char) : endOfLine ('\n' :: r) = some r := by
  simp [endOfLine, isBlank, isBreak]

/-- The end of a text that does not consist of line ends alone says how its block ends. -/
theorem literalChomping_append (xs : List Char) {c : Char} (h : isBreak c = false) (r : List Char) :
    literalChomping (xs ++ c :: r) = literalChomping (c :: r) := by
  rw [literalChomping, literalChomping, List.reverse_append]
  cases hr : (c :: r).reverse with
  | nil => simp at hr
  | cons y ys =>
    cases ys with
    | nil =>
      obtain ⟨rfl, rfl⟩ : c = y ∧ r = [] := by simpa using List.reverse_eq_iff.1 hr
      cases xs.reverse <;> simp [h]
    | cons z ys => rfl

theorem literalChomping_text {cs : List Char} {z : Char} (h : isBreak z = false) :
    literalChomping (cs ++ [z]) = .strip := by
  rw [literalChomping_append cs h]
  simp [literalChomping, h]

theorem literalChomping_break (cs : List Char) {z b : Char} (hz : isBreak z = false) (hb : isBreak b = true) :
    literalChomping (cs ++ [z, b]) = .clip := by
  rw [literalChomping_append cs hz]
  simp [literalChomping, hz, hb]

theorem literalChomping_breaks (cs : List Char) {bs : List Char} (breaks : ∀ b ∈ bs, isBreak b = true)
    (h : 2 ≤ bs.length) : literalChomping (cs ++ bs) = .keep := by
  rw [literalChomping, List.reverse_append]
  cases hr : bs.reverse with
  | nil => simp_all
  | cons y ys =>
    cases ys with
    | nil => simp_all
    | cons z ys =>
      have hy := breaks y (by rw [← List.mem_reverse, hr]; simp)
      have hz := breaks z (by rw [← List.mem_reverse, hr]; simp)
      simp [hy, hz]

/-! ## The lines -/

/-- The end of the last line, if it is not part of the text. -/
def literalEnd (cs : List Char) : List Char := if cs.getLast?.any isBreak then [] else ['\n']

theorem literalEnd_append (xs : List Char) {ys : List Char} (h : ys ≠ []) : literalEnd (xs ++ ys) = literalEnd ys := by
  rw [literalEnd, literalEnd, List.getLast?_append_of_ne_nil xs h]

theorem literalEnd_breaks {b : Char} {bs : List Char} (breaks : ∀ c ∈ b :: bs, isBreak c = true) :
    literalEnd (b :: bs) = [] := by
  have last := breaks _ (List.getLast_mem (List.cons_ne_nil b bs))
  rw [literalEnd, List.getLast?_eq_some_getLast (List.cons_ne_nil b bs), Option.any_some, last, if_pos rfl]

/-- The line ends at the end of a text are those that its block keeps. -/
theorem tail_literalChomping (l : List Char) {z b : Char} {text bs : List Char} (hz : isBreak z = false)
    (breaks : ∀ c ∈ b :: bs, isBreak c = true) :
    BlockLine.tail (literalChomping (l ++ [z] ++ b :: bs)) ⟨text, [b], bs⟩ = b :: bs := by
  cases bs with
  | nil =>
    have clip := literalChomping_break l hz (breaks b List.mem_cons_self)
    rw [List.append_assoc, List.singleton_append, clip]
    rfl
  | cons d bs =>
    rw [literalChomping_breaks _ breaks (by simp)]
    rfl

section
variable (column : Nat)

theorem literalChars_cons {c : Char} (h : isBreak c = false) (cs : List Char) :
    literalChars column false (c :: cs) = c :: literalChars column false cs := by
  simp [literalChars, h, indentIf]

theorem literalChars_line {l : List Char} (h : ∀ c ∈ l, isBreak c = false) (more : List Char) :
    literalChars column false (l ++ more) = l ++ literalChars column false more := by
  induction l with
  | nil => rfl
  | cons c l ih =>
    rw [List.cons_append, literalChars_cons column (h c List.mem_cons_self),
      ih fun c hc => h c (List.mem_cons_of_mem _ hc), List.cons_append]

theorem literalChars_breaks {bs : List Char} (breaks : ∀ b ∈ bs, isBreak b = true) (broken : Bool) (more : List Char) :
    literalChars column broken (bs ++ more) = bs ++ literalChars column (broken || !bs.isEmpty) more := by
  induction bs generalizing broken with
  | nil => simp
  | cons b bs ih =>
    have rest := ih (fun b hb => breaks b (List.mem_cons_of_mem _ hb)) true
    simpa [literalChars, breaks b List.mem_cons_self] using rest

theorem literalChars_text {c : Char} (h : isBreak c = false) (cs : List Char) :
    literalChars column true (c :: cs) = blanks column ++ literalChars column false (c :: cs) := by
  simp [literalChars, h, indentIf]

/-- A line end at the end of a text stands at the end of its block. -/
theorem literalChars_concat {b : Char} (h : isBreak b = true) (broken : Bool) (cs : List Char) :
    literalChars column broken (cs ++ [b]) = literalChars column broken cs ++ [b] := by
  induction cs generalizing broken with
  | nil => simp [literalChars, h]
  | cons c cs ih =>
    rw [List.cons_append, literalChars, literalChars]
    split <;> simp [ih]

theorem length_le_literalChars (broken : Bool) (cs : List Char) :
    cs.length ≤ (literalChars column broken cs).length := by
  induction cs generalizing broken with
  | nil => exact Nat.zero_le _
  | cons c cs ih =>
    have := ih true
    have := ih false
    rw [literalChars]
    split <;> simp only [List.length_append, List.length_cons] <;> omega

end

/-- One line is read with the empty lines after it. -/
theorem readBlockLines_line {column k : Nat} {l bs u : List Char} {b : Char} (line : ∀ c ∈ l, isBreak c = false)
    (breaks : ∀ c ∈ b :: bs, isBreak c = true) (within : k ≤ column)
    (h : Unindented (some column) k u) (fuel : Nat) :
    readBlockLines column (fuel + 1) column (l ++ b :: (bs ++ (blanks k ++ u))) =
      (readBlockLines column fuel k u).map fun (lines, rest) => (⟨l, [b], bs⟩ :: lines, rest) := by
  have hb := breaks b List.mem_cons_self
  have take : (l ++ b :: (bs ++ (blanks k ++ u))).takeWhile (!isBreak ·) = l := by
    rw [List.takeWhile_append_of_pos fun c hc => by rw [line c hc]; rfl,
      List.takeWhile_cons_of_neg (by rw [hb]; decide), List.append_nil]
  have drop : (l ++ b :: (bs ++ (blanks k ++ u))).dropWhile (!isBreak ·) = b :: (bs ++ (blanks k ++ u)) := by
    rw [List.dropWhile_append_of_pos fun c hc => by rw [line c hc]; rfl,
      List.dropWhile_cons_of_neg (by rw [hb]; decide)]
  have next := passIndentation_lines (fun c hc => breaks c (List.mem_cons_of_mem b hc)) (by simpa using within) h 0
  rw [readBlockLines, take, drop]
  simp [next]

theorem readBlockLines_outside {column k : Nat} (h : k ≠ column) (fuel : Nat) (t : List Char) :
    readBlockLines column fuel k t = some ([], t) := by
  cases fuel <;> simp [readBlockLines, h]

/-- The lines of a text are read back up to the next line that is not indented as they are. -/
theorem readBlockLines_literal {column k : Nat} {t : List Char} (h : k < column) (visible : Visible t) (fuel : Nat)
    {x : Char} {cs : List Char} (start : isBreak x = false) (enough : cs.length < fuel) :
    ∃ lines, lines ≠ [] ∧ BlockLine.join false (literalChomping (x :: cs)) lines = x :: cs ∧
      readBlockLines column fuel column
        (literalChars column false (x :: cs) ++ (literalEnd (x :: cs) ++ (blanks k ++ t))) = some (lines, t) := by
  induction fuel generalizing x cs with
  | zero => exact absurd enough (Nat.not_lt_zero _)
  | succ fuel ih =>
    have last := readBlockLines_outside (Nat.ne_of_lt h) fuel t
    have outer := visible.unindented (some column) k
    obtain ⟨l, z, more, whole, line, stop⟩ := exists_run (!isBreak ·) (by rw [start]; rfl) cs
    have hz : isBreak z = false := by simpa using line z (by simp)
    replace line : ∀ c ∈ l ++ [z], isBreak c = false := fun c hc => by simpa using line c hc
    rw [whole, literalChars_line column line]
    cases more with
    -- The last line does not end with the text.
    | nil =>
      refine ⟨[⟨l ++ [z], ['\n'], []⟩], List.cons_ne_nil _ _, ?_, ?_⟩
      · rw [List.append_nil, literalChomping_text hz, BlockLine.join, BlockLine.tail, List.append_nil]
      · have feed : ∀ c ∈ ['\n'], isBreak c = true := by simp [isBreak]
        have reads := readBlockLines_line line feed (Nat.le_of_lt h) outer fuel
        rw [last] at reads
        simpa [literalChars, literalEnd, hz] using reads
    | cons b r =>
      obtain ⟨bs, y, more, whole', breaks, stop'⟩ := exists_run isBreak (by simpa using stop b rfl) r
      rw [List.cons_eq_append_iff, or_iff_right (by simp)] at whole'
      obtain ⟨bs', first, rfl⟩ := whole'
      rw [first] at breaks
      rw [← List.cons_append, literalChars_breaks column breaks]
      cases more with
      -- The text ends with line ends.
      | nil =>
        refine ⟨[⟨l ++ [z], [b], bs'⟩], List.cons_ne_nil _ _, ?_, ?_⟩
        · rw [BlockLine.join, List.append_nil, tail_literalChomping l hz breaks]
        · have reads := readBlockLines_line line breaks (Nat.le_of_lt h) outer fuel
          rw [last] at reads
          rw [List.append_nil, literalEnd_append _ (List.cons_ne_nil b bs'), literalEnd_breaks breaks]
          simpa [literalChars] using reads
      | cons c cs' =>
        have hc : isBreak c = false := stop' c rfl
        have shorter : cs'.length < fuel := by
          have length := congrArg List.length whole
          simp only [List.length_append, List.length_cons] at length enough
          omega
        obtain ⟨lines, some', join, rest⟩ := ih hc shorter
        have inner : Unindented (some column) column
            (literalChars column false (c :: cs') ++ (literalEnd (c :: cs') ++ (blanks k ++ t))) := by
          rw [literalChars_cons column hc]
          exact unindented_text column hc _
        have reads := readBlockLines_line line breaks (Nat.le_refl column) inner fuel
        refine ⟨⟨l ++ [z], [b], bs'⟩ :: lines, List.cons_ne_nil _ _, ?_, ?_⟩
        · obtain ⟨next, lines, rfl⟩ := List.exists_cons_of_ne_nil some'
          rw [← List.append_assoc, literalChomping_append _ hc, BlockLine.join, join]
          rfl
        · rw [rest] at reads
          have ending : literalEnd (l ++ [z] ++ (b :: bs' ++ c :: cs')) = literalEnd (c :: cs') := by
            rw [← List.append_assoc, literalEnd_append _ (List.cons_ne_nil c cs')]
          rw [ending]
          simpa [literalChars_text column hc] using reads

/-! ## The block -/

/-- A literal block behind its indicator. -/
def literalBody (column : Nat) (cs : List Char) : List Char :=
  (if startsOpen cs then ['2'] else []) ++ (literalChomping cs).sign ++
    '\n' :: (literalChars column true cs ++ literalEnd cs)

theorem literal_eq (column : Nat) (cs : List Char) : literal column cs = '|' :: literalBody column cs := by
  simp [literal, literalHeader_eq, literalBody, literalEnd]

/-- Once the header is read, the lines of a block are read from the first one on. -/
theorem readBlock_literalBody {base : Nat} (cs rest : List Char) {start : BlockBreaks} {lines : List BlockLine}
    {t text : List Char} (written : literalChars (base + 2) true cs ++ (literalEnd cs ++ rest) = text)
    (indentation : passIndentation (if startsOpen cs then some (base + 2) else none) 0 0 text = some start)
    (deep : startsOpen cs = false → start.deepest = base + 2)
    (reads : readBlockLines (base + 2) text.length start.column start.rest = some (lines, t)) :
    readBlock false (base + 1) (literalBody (base + 2) cs ++ rest) =
      some (blockText false (literalChomping cs) start.breaks lines, t) := by
  have body : literalBody (base + 2) cs ++ rest =
      (if startsOpen cs then ['2'] else []) ++ (literalChomping cs).sign ++ '\n' :: text := by
    simp [literalBody, ← written]
  rw [readBlock, body, readIndicators_header]
  cases given : startsOpen cs with
  | true =>
    rw [given, if_pos rfl] at indentation
    simp [endOfLine_feed, indentation, reads]
  | false =>
    rw [given, if_neg Bool.false_ne_true] at indentation
    have indent : max start.deepest (base + 1) = base + 2 := by
      rw [deep given]
      omega
    simp [endOfLine_feed, indentation, indent, reads]

section
variable {base k : Nat} {t : List Char} (h : k ≤ base) (visible : Visible t)
include h visible

/-- A block of empty lines. -/
theorem readBlock_breaks {b : Char} {bs : List Char} (breaks : ∀ c ∈ b :: bs, isBreak c = true) :
    readBlock false (base + 1) (literalBody (base + 2) (b :: bs) ++ (blanks k ++ t)) = some (b :: bs, t) := by
  have opens : startsOpen (b :: bs) = true := by simp [startsOpen, breaks b List.mem_cons_self]
  have keep : literalChomping (b :: bs) = .keep := by
    cases bs with
    | nil => simp [literalChomping, breaks b List.mem_cons_self]
    | cons c bs => exact literalChomping_breaks [] breaks (by simp)
  have written : literalChars (base + 2) true (b :: bs) ++ (literalEnd (b :: bs) ++ (blanks k ++ t)) =
      (b :: bs) ++ (blanks k ++ t) := by
    have lines := literalChars_breaks (base + 2) breaks true []
    rw [List.append_nil, literalChars, List.append_nil] at lines
    rw [lines, literalEnd_breaks breaks, List.nil_append]
  have indentation := passIndentation_lines breaks (fun n hn => by simp_all; omega)
    (visible.unindented (some (base + 2)) k) 0
  have outside := readBlockLines_outside (show k ≠ base + 2 by omega) ((b :: bs) ++ (blanks k ++ t)).length t
  rw [readBlock_literalBody (b :: bs) (blanks k ++ t) written (by rw [opens]; exact indentation) (by simp [opens])
    outside, keep]
  simp [blockText, BlockLine.join]

/-- A block with lines that are not empty. -/
theorem readBlock_lines {bs r : List Char} {x : Char} (breaks : ∀ c ∈ bs, isBreak c = true) (start : isBreak x = false)
    (printable : isPrintable x = true) :
    readBlock false (base + 1) (literalBody (base + 2) (bs ++ x :: r) ++ (blanks k ++ t)) = some (bs ++ x :: r, t) := by
  have written : literalChars (base + 2) true (bs ++ x :: r) ++ (literalEnd (bs ++ x :: r) ++ (blanks k ++ t)) =
      bs ++ (blanks (base + 2) ++
        (literalChars (base + 2) false (x :: r) ++ (literalEnd (x :: r) ++ (blanks k ++ t)))) := by
    rw [literalChars_breaks _ breaks, literalEnd_append bs (List.cons_ne_nil x r), Bool.true_or,
      literalChars_text _ start]
    simp
  have first : Unindented (if startsOpen (bs ++ x :: r) then some (base + 2) else none) (base + 2)
      (literalChars (base + 2) false (x :: r) ++ (literalEnd (x :: r) ++ (blanks k ++ t))) := by
    rw [literalChars_cons _ start, List.cons_append]
    split
    · exact unindented_text (base + 2) start _
    -- A text with a leading line end or blank has its indentation in the header.
    next closed =>
      intro y hy
      obtain rfl : x = y := by simpa using hy
      have blank : isBlank x = false := by
        rw [← Bool.not_eq_true, isBlank_of_isPrintable printable]
        rintro rfl
        cases bs with
        | nil => exact closed rfl
        | cons b bs => exact closed (by simp [startsOpen, breaks b List.mem_cons_self])
      exact ⟨start, by rw [blank, Bool.and_false]⟩
  have indentation := passIndentation_lines breaks (fun n hn => by split at hn <;> simp_all) first 0
  have enough : r.length < (bs ++ (blanks (base + 2) ++
      (literalChars (base + 2) false (x :: r) ++ (literalEnd (x :: r) ++ (blanks k ++ t))))).length := by
    have := length_le_literalChars (base + 2) false (x :: r)
    simp only [List.length_append, List.length_cons] at this ⊢
    omega
  obtain ⟨lines, nonempty, join, reads⟩ := readBlockLines_literal (show k < base + 2 by omega) visible _ start enough
  rw [readBlock_literalBody _ _ written indentation (by simp) reads, literalChomping_append bs start]
  simp [blockText, nonempty, join]

end

/-- A literal block is read back, up to a line that is not indented as its lines are. -/
theorem readBlock_literal {base k : Nat} {cs t : List Char} (ne : cs ≠ []) (printable : ∀ c ∈ cs, isPrintable c = true)
    (h : k ≤ base) (visible : Visible t) :
    readBlock false (base + 1) (literalBody (base + 2) cs ++ (blanks k ++ t)) = some (cs, t) := by
  by_cases start : ∀ c ∈ cs, isBreak c = true
  · obtain ⟨b, bs, rfl⟩ := List.exists_cons_of_ne_nil ne
    exact readBlock_breaks h visible start
  · cases hr : cs.dropWhile isBreak with
    | nil => exact absurd (List.dropWhile_eq_nil_iff.1 hr) start
    | cons x r =>
      have parts := List.takeWhile_append_dropWhile (p := isBreak) (l := cs)
      have line := List.head?_dropWhile_not isBreak cs
      rw [hr] at parts line
      have breaks := List.all_eq_true.1 (List.all_takeWhile (p := isBreak) (l := cs))
      have reads := readBlock_lines (r := r) h visible breaks (by simpa using line)
        (printable x ((List.dropWhile_suffix isBreak).subset (by simp [hr])))
      rwa [parts] at reads

/-- A literal block ends with a line end. -/
theorem exists_literal_concat (column : Nat) (cs : List Char) :
    ∃ body b, literal column cs = body ++ [b] ∧ isBreak b = true := by
  have lines : ∃ ls b, literalChars column true cs ++ literalEnd cs = ls ++ [b] ∧ isBreak b = true := by
    rw [literalEnd]
    split
    next last =>
      obtain ⟨b, hb, line⟩ := (Option.any_eq_true _ _).1 last
      obtain ⟨init, rfl⟩ := List.getLast?_eq_some_iff.1 hb
      exact ⟨literalChars column true init, b, by rw [List.append_nil, literalChars_concat column line], line⟩
    next => exact ⟨literalChars column true cs, '\n', rfl, rfl⟩
  obtain ⟨ls, b, eq, line⟩ := lines
  exact ⟨'|' :: ((if startsOpen cs then ['2'] else []) ++ (literalChomping cs).sign ++ '\n' :: ls), b,
    by simp [literal_eq, literalBody, eq], line⟩

end Yaml

end PeerTaint
