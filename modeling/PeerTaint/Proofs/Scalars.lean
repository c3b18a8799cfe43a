import Mathlib.Algebra.Ring.Nat
import Mathlib.Data.List.Chain
import PeerTaint.Yaml.Write

/-!
Scalars are read back as they were written.

A scalar is followed by the end of its line and the indentation of the next one, which does not reach the text
of the scalar. Each style is read word by word or line by line; what is left of the text is written in the same
way as the whole, so that the readings go by induction on the text.
-/

namespace PeerTaint

namespace Yaml

/-! ## What follows a scalar -/

/-- A token stands at the start of the text, or the text ends. -/
def Visible (t : List Char) : Prop :=
  ∀ x ∈ t.head?, isBlank x = false ∧ isBreak x = false ∧ x ≠ '#' ∧ x ≠ '\ufeff'

theorem passLines_blanks (indent column k : Nat) (t : List Char) :
    passLines indent column (blanks k ++ t) = passLines indent (column + k) t := by
  induction k generalizing column with
  | zero => rfl
  | succ k ih =>
    rw [blanks, List.replicate_succ, List.cons_append, passLines, if_pos rfl, ← blanks, ih]
    congr 1
    omega

theorem passLines_text (indent column : Nat) {t : List Char} (h : atGap t = false) :
    passLines indent column t = some ([], column, t) := by
  cases t with
  | nil => rfl
  | cons x t =>
    simp only [atGap, isBlank, Bool.or_eq_false_iff, decide_eq_false_iff_not] at h
    rw [passLines, if_neg h.1.1, if_neg h.1.2, if_neg (by rw [h.2]; decide)]

theorem passLines_visible (indent column : Nat) {t : List Char} (h : Visible t) :
    passLines indent column t = some ([], column, t) := by
  cases t with
  | nil => rfl
  | cons x t =>
    obtain ⟨blank, line, -⟩ := h x rfl
    exact passLines_text indent column (by rw [atGap, blank, line]; rfl)

/-- A gap up to a token on the next line. -/
theorem passGap_nextLine (indent column : Nat) {t : List Char} (h : Visible t) :
    passGap indent ('\n' :: (blanks column ++ t)) = some (.lines '\n' [] column, t) := by
  have lines : passLines indent 0 (blanks column ++ t) = some ([], column, t) := by
    rw [passLines_blanks, passLines_visible _ _ h, Nat.zero_add]
  simp [passGap, isBlank, isBreak, lines]

/-- A gap on one line. -/
theorem passGap_blanks (indent : Nat) {bl t : List Char} (blank : ∀ b ∈ bl, isBlank b = true) (h : atGap t = false) :
    passGap indent (bl ++ t) = some (.blanks bl, t) := by
  cases t with
  | nil => exact absurd h (by decide)
  | cons c rest =>
    simp only [atGap, Bool.or_eq_false_iff] at h
    have drop : (bl ++ c :: rest).dropWhile isBlank = c :: rest := by
      rw [List.dropWhile_append_of_pos blank, List.dropWhile_cons_of_neg (by rw [h.1]; decide)]
    have take : (bl ++ c :: rest).takeWhile isBlank = bl := by
      rw [List.takeWhile_append_of_pos blank, List.takeWhile_cons_of_neg (by rw [h.1]; decide), List.append_nil]
    rw [passGap, drop, take]
    simp [h.2]

theorem atGap_append (cs : List Char) {c : Char} (rest : List Char) (hc : atGap (c :: rest) = true) :
    atGap (cs ++ c :: rest) = atGap cs := by
  cases cs with
  | nil => exact hc
  | cons => rfl

/-! ## Plain scalars -/

theorem isBlank_of_isBreak {c : Char} (h : isBreak c = true) : isBlank c = false := by
  simp only [isBreak, Bool.or_eq_true, decide_eq_true_eq] at h
  obtain (rfl | rfl) | rfl := h <;> rfl

/-- The run of characters with a property at the start of a text. -/
theorem exists_run (p : Char → Bool) {c : Char} (hc : p c = true) (cs : List Char) :
    ∃ run z more, c :: cs = (run ++ [z]) ++ more ∧ (∀ x ∈ run ++ [z], p x = true) ∧ ∀ x ∈ more.head?, p x = false := by
  have ne : (c :: cs).takeWhile p ≠ [] := by simp [hc]
  have last := List.dropLast_concat_getLast ne
  refine ⟨((c :: cs).takeWhile p).dropLast, ((c :: cs).takeWhile p).getLast ne, (c :: cs).dropWhile p, ?_, ?_, ?_⟩
  · rw [last, List.takeWhile_append_dropWhile]
  · rw [last]
    exact List.all_eq_true.1 List.all_takeWhile
  · intro x hx
    have stop := List.head?_dropWhile_not p (c :: cs)
    rw [Option.mem_def.1 hx] at stop
    simpa using stop

/-- Characters that stand in one line: they are printable, and no line ends. -/
def Inline (cs : List Char) : Prop := ∀ c ∈ cs, isPrintable c = true ∧ isBreak c = false

theorem isBlank_of_isPrintable {c : Char} (h : isPrintable c = true) : isBlank c = true ↔ c = ' ' := by
  rw [isBlank, Bool.or_eq_true, decide_eq_true_eq, decide_eq_true_eq, or_iff_left]
  rintro rfl
  revert h
  decide

theorem hasInnerIndicator_of_append (xs : List Char) {ys : List Char} (h : hasInnerIndicator (xs ++ ys) = false) :
    hasInnerIndicator ys = false := by
  induction xs with
  | nil => exact h
  | cons x xs ih =>
    apply ih
    cases hs : xs ++ ys with
    | nil => rfl
    | cons b cs =>
      rw [List.cons_append, hs, hasInnerIndicator, Bool.or_eq_false_iff] at h
      exact h.2

/-- A colon stands anywhere in a word outside flow collections. -/
theorem isMisplacedColon_block (c : Char) (cs : List Char) : isMisplacedColon false c cs = false := by
  cases cs <;> rfl

/-- A word of a plain text is read up to the gap after it. -/
theorem plainWord_text {a : Char} {w more : List Char} (word : ∀ c ∈ w, isBlank c = false ∧ isBreak c = false)
    (gap : atGap more = true) (inner : hasInnerIndicator (a :: (w ++ more)) = false) (rest : List Char) :
    plainWord false (w ++ (more ++ '\n' :: rest)) = some (w, more ++ '\n' :: rest) := by
  induction w generalizing a with
  | nil =>
    cases more with
    | nil => rfl
    | cons b more => rw [List.nil_append, List.cons_append, plainWord, if_pos (by exact gap)]
  | cons c w ih =>
    obtain ⟨blank, line⟩ := word c List.mem_cons_self
    simp only [List.cons_append, hasInnerIndicator, Bool.or_eq_false_iff] at inner
    have ends : endsPlain false c (w ++ (more ++ '\n' :: rest)) = false := by
      rw [endsPlain, ← List.append_assoc, atGap_append _ _ rfl, inner.1.1]
      rfl
    have reads := ih (fun x hx => word x (List.mem_cons_of_mem c hx)) inner.2
    rw [List.cons_append, plainWord, reads]
    simp [blank, line, ends, isMisplacedColon_block]

/-- The rest of a plain text after a character. -/
structure PlainTail (a : Char) (cs : List Char) : Prop where
  inline : Inline cs
  last : cs.getLast? ≠ some ' '
  inner : hasInnerIndicator (a :: cs) = false

theorem PlainTail.of_append {a x : Char} {xs ys : List Char} (h : PlainTail a (xs ++ x :: ys)) : PlainTail x ys where
  inline c hc := h.inline c (by simp [hc])
  last := by
    have last := h.last
    cases ys with
    | nil => exact nofun
    | cons y ys => simpa [List.getLast?_append, List.getLast?_cons] using last
  inner := hasInnerIndicator_of_append (a :: xs) h.inner

/-- A gap inside a plain text is followed by a word, which does not start like a comment. -/
theorem PlainTail.exists_word {a : Char} {cs : List Char} (h : PlainTail a cs) (ne : cs ≠ []) (gap : atGap cs = true) :
    ∃ bl c r, cs = bl ++ c :: r ∧ (∀ x ∈ bl, isBlank x = true) ∧ isBlank c = false ∧ c ≠ '#' ∧
      ∃ z, PlainTail z (c :: r) := by
  obtain ⟨b, cs, rfl⟩ := List.exists_cons_of_ne_nil ne
  have hb : isBlank b = true := by
    have line := (h.inline b List.mem_cons_self).2
    simpa [atGap, line] using gap
  obtain ⟨bl, z, more, whole, blank, stop⟩ := exists_run isBlank hb cs
  have hz : isBlank z = true := blank z (by simp)
  rw [whole] at h ⊢
  cases more with
  -- The blanks are not the whole text, which does not end with one.
  | nil =>
    have space := (isBlank_of_isPrintable (h.inline z (by simp)).1).1 hz
    exact absurd h.last (by simp [space])
  | cons c r =>
    have tail : PlainTail z (c :: r) := PlainTail.of_append (by simpa using h)
    refine ⟨bl ++ [z], c, r, rfl, blank, stop c rfl, ?_, z, tail⟩
    rintro rfl
    exact absurd tail.inner (by simp [hasInnerIndicator, hz])

/-- A word of a plain text, and the gap after it. -/
theorem PlainTail.exists_plainWord {a c : Char} {r : List Char} (h : PlainTail a (c :: r)) (hc : isBlank c = false) :
    ∃ w more, c :: r = w ++ more ∧ w ≠ [] ∧ atGap more = true ∧ (∃ z, PlainTail z more) ∧
      ∀ rest, plainWord false (c :: r ++ '\n' :: rest) = some (w, more ++ '\n' :: rest) := by
  obtain ⟨w, z, more, whole, word, stop⟩ := exists_run (!isBlank ·) (by rw [hc]; rfl) r
  have gap : atGap more = true := by
    cases more with
    | nil => rfl
    | cons b more =>
      have hb : isBlank b = true := by simpa using stop b rfl
      rw [atGap, hb, Bool.true_or]
  rw [whole] at h ⊢
  refine ⟨w ++ [z], more, rfl, by simp, gap, ⟨z, PlainTail.of_append (by simpa using h)⟩, fun rest => ?_⟩
  have chars : ∀ x ∈ w ++ [z], isBlank x = false ∧ isBreak x = false := fun x hx =>
    ⟨by simpa using word x hx, (h.inline x (List.mem_append_left more hx)).2⟩
  rw [List.append_assoc, plainWord_text chars gap h.inner]

/-- The text after a word is read to its end, where the next line is not indented enough to belong to it. -/
theorem plainRest_text {indent column : Nat} {t : List Char} (h : column < indent) (visible : Visible t) (fuel : Nat)
    {a : Char} {cs : List Char} (tail : PlainTail a cs) (gap : atGap cs = true) (enough : cs.length < fuel) :
    plainRest false indent fuel (cs ++ '\n' :: (blanks column ++ t)) = some ⟨cs, true, t⟩ := by
  induction fuel generalizing a cs with
  | zero => exact absurd enough (Nat.not_lt_zero _)
  | succ fuel ih =>
    by_cases ne : cs = []
    · subst ne
      have stops : continuesPlain false indent (.lines '\n' [] column) t = false := by
        have : ¬ indent ≤ column := by omega
        simp [continuesPlain, this]
      rw [List.nil_append, plainRest, passGap_nextLine indent column visible]
      simp [atGap, isBreak, stops, Gap.isLines]
    · obtain ⟨bl, c, r, rfl, blank, hc, comment, z, word⟩ := tail.exists_word ne gap
      obtain ⟨w, more, parts, nonempty, gap', ⟨y, tail'⟩, reads⟩ := word.exists_plainWord hc
      have shorter : more.length < fuel := by
        have length := congrArg List.length parts
        have := List.length_pos_iff.2 nonempty
        simp only [List.length_append, List.length_cons] at length enough
        omega
      have goes : continuesPlain false indent (.blanks bl) (c :: r ++ '\n' :: (blanks column ++ t)) = true := by
        simp [continuesPlain, Gap.atLineStart, comment]
      have start : atGap (c :: r ++ '\n' :: (blanks column ++ t)) = false := by
        rw [List.cons_append, atGap, hc, (word.inline c List.mem_cons_self).2]
        rfl
      have here : atGap (bl ++ (c :: r ++ '\n' :: (blanks column ++ t))) = true := by
        rw [← List.append_assoc, atGap_append _ _ rfl, gap]
      obtain ⟨x, w, rfl⟩ := List.exists_cons_of_ne_nil nonempty
      rw [List.append_assoc, plainRest, passGap_blanks indent blank start, here]
      simp only [goes, reads, ih tail' gap' shorter]
      simp [Gap.text, parts]

theorem PlainTail.of_isPlainText {cs : List Char} (h : isPlainText cs = true) : PlainTail 'a' cs := by
  simp only [isPlainText, Bool.and_eq_true, Bool.not_eq_true', bne_iff_ne] at h
  obtain ⟨⟨⟨⟨⟨⟨breaks, first⟩, last⟩, special⟩, mark⟩, start⟩, inner⟩ := h
  refine ⟨fun c hc => ⟨?_, ?_⟩, last, ?_⟩
  · simp only [hasSpecial, Bool.not_eq_false'] at special
    exact List.all_eq_true.1 special c hc
  · exact Bool.not_eq_true _ ▸ (List.any_eq_false.1 breaks c hc)
  · cases cs with
    | nil => rfl
    | cons c cs =>
      simp only [startsWithIndicator, Bool.or_eq_false_iff] at start
      have colon : (decide (c = ':') && atGap cs) = false := by
        have := start.2
        by_cases hc : c = ':' <;> simp_all
      simp [hasInnerIndicator, colon, inner, isBlank, isBreak]

theorem startsWithIndicator_of_isPlainText {cs : List Char} (h : isPlainText cs = true) :
    startsWithIndicator cs = false := by
  simp only [isPlainText, Bool.and_eq_true, Bool.not_eq_true'] at h
  exact h.1.2

/-- A plain text starts with a character that looks like nothing else. -/
theorem visible_of_isPlainText {x : Char} {r : List Char} (h : isPlainText (x :: r) = true) (rest : List Char) :
    Visible (x :: rest) := by
  intro y hy
  obtain rfl : x = y := by simpa using hy
  obtain ⟨printable, line⟩ := (PlainTail.of_isPlainText h).inline x List.mem_cons_self
  refine ⟨?_, line, ?_, ?_⟩
  · rw [← Bool.not_eq_true, isBlank_of_isPrintable printable]
    rintro rfl
    simp [isPlainText] at h
  · rintro rfl
    exact absurd (startsWithIndicator_of_isPlainText h) (by simp [startsWithIndicator])
  · rintro rfl
    exact absurd printable (by decide)

/-- A plain text at the end of a line is read back. -/
theorem readPlain_text {indent column : Nat} {cs t : List Char} (plain : isPlainText cs = true) (ne : cs ≠ [])
    (h : column < indent) (visible : Visible t) :
    readPlain false indent (cs ++ '\n' :: (blanks column ++ t)) = some ⟨cs, true, t⟩ := by
  obtain ⟨c, r, rfl⟩ := List.exists_cons_of_ne_nil ne
  have tail := PlainTail.of_isPlainText plain
  have start := (visible_of_isPlainText plain r c rfl).1
  obtain ⟨w, more, parts, nonempty, gap, ⟨z, rest⟩, reads⟩ := tail.exists_plainWord start
  have enough : more.length < (c :: r ++ '\n' :: (blanks column ++ t)).length := by
    have length := congrArg List.length parts
    simp only [List.length_append, List.length_cons] at length ⊢
    omega
  rw [readPlain, reads]
  simp only [plainRest_text h visible _ rest gap enough]
  simp [parts]

/-- A key is read back up to the colon behind it. -/
theorem readPlain_key (indent : Nat) {key after : List Char}
    (hk : ∀ c ∈ key, isBlank c = false ∧ isBreak c = false ∧ c ≠ ':') (gap : atGap after = true) :
    readPlain false indent (key ++ ':' :: after) = some ⟨key, false, ':' :: after⟩ := by
  have word : plainWord false (key ++ ':' :: after) = some (key, ':' :: after) := by
    induction key with
    | nil =>
      simp [plainWord, isBlank, isBreak, isMisplacedColon_block, endsPlain, gap]
    | cons c key ih =>
      obtain ⟨blank, line, colon⟩ := hk c List.mem_cons_self
      simp [plainWord, blank, line, isMisplacedColon_block, endsPlain, colon,
        ih fun x hx => hk x (List.mem_cons_of_mem c hx)]
  have stops : plainRest false indent (key ++ ':' :: after).length (':' :: after) = some ⟨[], false, ':' :: after⟩ := by
    cases (key ++ ':' :: after).length <;> simp [plainRest, atGap, isBlank, isBreak]
  rw [readPlain, word]
  simp only [stops, Option.map_some, List.append_nil]

/-! ## Words -/

/-- Letters, digits and underscores. -/
def IsWord (cs : List Char) : Prop := ∀ c ∈ cs, (c.isAlphanum || c = '_') = true

instance (cs : List Char) : Decidable (IsWord cs) := List.decidableBAll _ cs

namespace IsWord

variable {cs : List Char} (h : IsWord cs)
include h

theorem ne_of_mem {c d : Char} (hc : c ∈ cs) (hd : (d.isAlphanum || d = '_') = false) : c ≠ d := by
  rintro rfl
  exact absurd (h c hc) (by rw [hd]; decide)

theorem text {c : Char} (hc : c ∈ cs) : isBlank c = false ∧ isBreak c = false := by
  simp only [isBlank, isBreak, Bool.or_eq_false_iff, decide_eq_false_iff_not]
  exact ⟨⟨h.ne_of_mem hc rfl, h.ne_of_mem hc rfl⟩, ⟨h.ne_of_mem hc rfl, h.ne_of_mem hc (by decide)⟩,
    h.ne_of_mem hc (by decide)⟩

theorem printable {c : Char} (hc : c ∈ cs) : isPrintable c = true := by
  have word : ((c.val ≥ 'A'.val ∧ c.val ≤ 'Z'.val : Bool) || (c.val ≥ 'a'.val && c.val ≤ 'z'.val) ||
      (c.val ≥ '0'.val && c.val ≤ '9'.val) || c = '_') = true := h c hc
  simp only [Bool.or_eq_true, Bool.and_eq_true, decide_eq_true_eq, UInt32.le_iff_toNat_le] at word
  have ascii : 48 ≤ c.toNat ∧ c.toNat ≤ 122 := by
    rcases word with ((⟨low, high⟩ | ⟨low, high⟩) | ⟨low, high⟩) | rfl
    · exact ⟨Nat.le_trans (by decide) low, Nat.le_trans high (by decide)⟩
    · exact ⟨Nat.le_trans (by decide) low, Nat.le_trans high (by decide)⟩
    · exact ⟨Nat.le_trans (by decide) low, Nat.le_trans high (by decide)⟩
    · decide
  simp only [isPrintable, inRanges, List.any_cons, List.any_nil, Bool.or_false, Bool.or_eq_true, Bool.and_eq_true,
    decide_eq_true_eq]
  omega

theorem startsWithIndicator_cons {c : Char} (hc : c ∈ cs) (rest : List Char) :
    startsWithIndicator (c :: rest) = false := by
  simp only [startsWithIndicator, List.contains_eq_mem, Bool.or_eq_false_iff, decide_eq_false_iff_not, List.mem_cons,
    List.not_mem_nil, or_false, not_or, Bool.and_eq_false_iff]
  refine ⟨?_, .inl ?_⟩ <;> and_intros <;> exact h.ne_of_mem hc rfl

omit h in
theorem hasInnerIndicator_eq_false (h : IsWord cs) : hasInnerIndicator cs = false := by
  induction cs with
  | nil => rfl
  | cons a cs ih =>
    cases cs with
    | nil => rfl
    | cons b cs =>
      have hb : b ∈ a :: b :: cs := List.mem_cons_of_mem _ List.mem_cons_self
      have colon : b ≠ ':' := h.ne_of_mem hb rfl
      have comment : b ≠ '#' := h.ne_of_mem hb rfl
      simp [hasInnerIndicator, colon, comment, ih fun c hc => h c (List.mem_cons_of_mem _ hc)]

/-- A word needs no quotes. -/
theorem isPlainText : isPlainText cs = true := by
  have start : startsWithIndicator cs = false ∧ startsLikeMark cs = false := by
    cases cs with
    | nil => exact ⟨rfl, rfl⟩
    | cons c cs =>
      refine ⟨h.startsWithIndicator_cons List.mem_cons_self cs, ?_⟩
      unfold startsLikeMark
      split
      next hc => exact absurd (List.cons.inj hc).1 (h.ne_of_mem List.mem_cons_self rfl)
      next hc => exact absurd (List.cons.inj hc).1 (h.ne_of_mem List.mem_cons_self rfl)
      next => rfl
  have breaks : cs.any isBreak = false := List.any_eq_false.2 fun c hc => by simp [(h.text hc).2]
  have special : hasSpecial cs = false := by simp [hasSpecial, List.all_eq_true.2 fun c hc => h.printable hc]
  have first : cs.head? ≠ some ' ' := fun hs => h.ne_of_mem (List.mem_of_mem_head? hs) rfl rfl
  have last : cs.getLast? ≠ some ' ' := fun hs => h.ne_of_mem (List.mem_of_getLast? hs) rfl rfl
  simp [Yaml.isPlainText, breaks, special, first, last, start.1, start.2, h.hasInnerIndicator_eq_false]

end IsWord

/-! ## Quoted texts -/

/-- How a quoted text is written and read: a word is read up to the closing quote or to a gap, and the gap is
passed up to the next word. -/
def WordByWord (word : List Char → Option QuotedWord) (written : List Char → List Char) (rest : List Char)
    (ok : List Char → Prop) : Prop :=
  ∀ cs, ok cs → ∃ w more, cs = w ++ more ∧
    word (written cs) = some (if more = [] then ⟨w, .quote, rest⟩ else ⟨w, .gap, written more⟩) ∧
    (more ≠ [] → ∃ g more', more = g.text ++ more' ∧ more'.length < more.length ∧ ok more' ∧
      g.atLineStart = false ∧ passGap 0 (written more) = some (g, written more'))

/-- A text that is read word by word is read back as a whole. -/
theorem WordByWord.quotedRest_eq {word : List Char → Option QuotedWord} {written : List Char → List Char}
    {rest : List Char} {ok : List Char → Prop} (step : WordByWord word written rest ok) (fuel : Nat) {cs : List Char}
    (h : ok cs) (enough : cs.length < fuel) : quotedRest word fuel false (written cs) = some (cs, rest) := by
  induction fuel generalizing cs with
  | zero => exact absurd enough (Nat.not_lt_zero _)
  | succ fuel ih =>
    obtain ⟨w, more, rfl, reads, gap⟩ := step cs h
    rw [quotedRest, reads]
    by_cases ne : more = []
    · simp [ne]
    · obtain ⟨g, more', rfl, shorter, ok', inside, passes⟩ := gap ne
      have next := ih ok' (by simp only [List.length_append] at enough shorter; omega)
      simp [ne, passes, inside, next]

/-! ## Texts between single quotes -/

theorem isChain_of_hasBreakBlank {cs : List Char} (h : hasBreakBlank cs = false) :
    cs.IsChain fun a b => isBreak a = true → b ≠ ' ' := by
  induction cs with
  | nil => exact .nil
  | cons a cs ih =>
    cases cs with
    | nil => exact .singleton a
    | cons b cs =>
      simp only [hasBreakBlank, Bool.or_eq_false_iff] at h
      exact .cons_cons (by simpa using h.1) (ih h.2)

theorem isChain_of_hasBlankBreak {cs : List Char} (h : hasBlankBreak cs = false) :
    cs.IsChain fun a b => a = ' ' → isBreak b = false := by
  induction cs with
  | nil => exact .nil
  | cons a cs ih =>
    cases cs with
    | nil => exact .singleton a
    | cons b cs =>
      simp only [hasBlankBreak, Bool.or_eq_false_iff] at h
      exact .cons_cons (by simpa using h.1) (ih h.2)

theorem isPrintable_of_hasSpecial {cs : List Char} (h : hasSpecial cs = false) : ∀ c ∈ cs, isPrintable c = true :=
  List.all_eq_true.1 (by simpa [hasSpecial] using h)

/-- Text that can stand between single quotes: no blank stands next to a line end. -/
structure SingleText (cs : List Char) : Prop where
  printable : ∀ c ∈ cs, isPrintable c = true
  afterBreak : cs.IsChain fun a b => isBreak a = true → b ≠ ' '
  afterBlank : cs.IsChain fun a b => a = ' ' → isBreak b = false

namespace SingleText

theorem of_isSingleText {cs : List Char} (h : isSingleText cs = true) : SingleText cs := by
  simp only [isSingleText, Bool.and_eq_true, Bool.not_eq_true'] at h
  exact ⟨isPrintable_of_hasSpecial h.2, isChain_of_hasBreakBlank h.1.1, isChain_of_hasBlankBreak h.1.2⟩

theorem of_append {xs ys : List Char} (h : SingleText (xs ++ ys)) : SingleText ys :=
  ⟨fun c hc => h.printable c (List.mem_append_right xs hc), h.afterBreak.right_of_append,
    h.afterBlank.right_of_append⟩

end SingleText

section
variable (column : Nat) (rest : List Char)

theorem singleChars_break {c : Char} (h : isBreak c = true) (cs : List Char) :
    singleChars column false (c :: cs) = (if c = '\n' then ['\n', '\n'] else [c]) ++ singleChars column true cs := by
  simp [singleChars, h]

theorem singleChars_text {c : Char} (h : isBreak c = false) (cs : List Char) :
    singleChars column false (c :: cs) = (if c = '\'' then ['\'', '\''] else [c]) ++ singleChars column false cs := by
  simp [singleChars, h, indentIf]

theorem exists_singleChars_cons (c : Char) (cs : List Char) : ∃ r, singleChars column false (c :: cs) = c :: r := by
  cases h : isBreak c with
  | true =>
    rw [singleChars_break column h]
    split <;> simp_all
  | false =>
    rw [singleChars_text column h]
    split <;> simp_all

theorem length_le_singleChars (broken : Bool) (cs : List Char) : cs.length ≤ (singleChars column broken cs).length := by
  induction cs generalizing broken with
  | nil => exact Nat.zero_le _
  | cons c cs ih =>
    have := ih true
    have := ih false
    rw [singleChars]
    split <;> split <;> simp only [List.length_append, List.length_cons] <;> omega

/-- A word between single quotes is read up to the gap after it. -/
theorem singleWord_singleChars {rest : List Char} (closes : rest.head? ≠ some '\'') (cs : List Char) :
    ∃ w more, cs = w ++ more ∧ atGap more = true ∧
      singleWord (singleChars column false cs ++ '\'' :: rest) =
        some (if more = [] then ⟨w, .quote, rest⟩ else ⟨w, .gap, singleChars column false more ++ '\'' :: rest⟩) := by
  induction cs with
  | nil =>
    refine ⟨[], [], rfl, rfl, ?_⟩
    cases rest with
    | nil => rfl
    | cons x rest =>
      have hx : x ≠ '\'' := fun h => closes (congrArg some h)
      simp [singleChars, indentIf, singleWord, hx]
  | cons c cs ih =>
    by_cases gap : (isBlank c || isBreak c) = true
    · refine ⟨[], c :: cs, rfl, gap, ?_⟩
      obtain ⟨r, hr⟩ := exists_singleChars_cons column c cs
      have hc : c ≠ '\'' := by
        rintro rfl
        exact absurd gap (by decide)
      rw [hr, if_neg (List.cons_ne_nil c cs), List.cons_append, singleWord, if_neg hc, if_pos gap]
      exact fun _ h => absurd h hc
    · obtain ⟨w, more, parts, gap', reads⟩ := ih
      refine ⟨c :: w, more, congrArg (c :: ·) parts, gap', ?_⟩
      have line : isBreak c = false := by
        rw [Bool.not_eq_true, Bool.or_eq_false_iff] at gap
        exact gap.2
      have cons : singleWord (singleChars column false (c :: cs) ++ '\'' :: rest) =
          (singleWord (singleChars column false cs ++ '\'' :: rest)).map (.cons c) := by
        rw [singleChars_text column line]
        by_cases hc : c = '\''
        · subst hc
          rfl
        · rw [if_neg hc, List.append_assoc, List.singleton_append, singleWord, if_neg hc, if_neg gap]
          exact fun _ h => absurd h hc
      rw [cons, reads, Option.map_some]
      split <;> rfl

theorem singleChars_blanks {bl : List Char} (blank : ∀ b ∈ bl, b = ' ') (more : List Char) :
    singleChars column false (bl ++ more) = bl ++ singleChars column false more := by
  induction bl with
  | nil => rfl
  | cons b bl ih =>
    obtain rfl := blank b List.mem_cons_self
    rw [List.cons_append, singleChars_text column rfl, ih fun b hb => blank b (List.mem_cons_of_mem _ hb)]
    rfl

theorem singleChars_breaks {bs more : List Char} (breaks : ∀ b ∈ bs, isBreak b = true)
    (stop : ∀ c ∈ more.head?, isBreak c = false) :
    singleChars column true (bs ++ more) = bs ++ (blanks column ++ singleChars column false more) := by
  induction bs with
  | nil =>
    cases more with
    | nil => simp [singleChars, indentIf]
    | cons c more => simp [singleChars, indentIf, stop c rfl]
  | cons b bs ih =>
    rw [List.cons_append, singleChars, if_pos (breaks b List.mem_cons_self),
      ih fun b hb => breaks b (List.mem_cons_of_mem _ hb)]
    rfl

theorem passLines_breaks {bs t : List Char} (breaks : ∀ b ∈ bs, isBreak b = true) (start : atGap t = false) :
    passLines 0 0 (bs ++ (blanks column ++ t)) = some (bs, column, t) := by
  induction bs with
  | nil => rw [List.nil_append, passLines_blanks, passLines_text _ _ start, Nat.zero_add]
  | cons b bs ih =>
    have hb := breaks b List.mem_cons_self
    have gap := isBlank_of_isBreak hb
    simp only [isBlank, Bool.or_eq_false_iff, decide_eq_false_iff_not] at gap
    rw [List.cons_append, passLines, if_neg gap.1, if_neg gap.2, if_pos hb,
      ih fun b hb => breaks b (List.mem_cons_of_mem _ hb)]
    rfl

theorem passGap_breaks {b : Char} {bs t : List Char} (breaks : ∀ x ∈ b :: bs, isBreak x = true)
    (start : atGap t = false) : passGap 0 (b :: (bs ++ (blanks column ++ t))) = some (.lines b bs column, t) := by
  have hb := breaks b List.mem_cons_self
  rw [passGap, List.dropWhile_cons_of_neg (by rw [isBlank_of_isBreak hb]; decide)]
  simp only [if_pos hb, passLines_breaks column (fun x hx => breaks x (List.mem_cons_of_mem b hx)) start,
    Option.map_some]

/-- Behind a gap the text goes on with a word or with the closing quote. -/
theorem atGap_singleChars {more : List Char} (h : ∀ c ∈ more.head?, isBlank c = false ∧ isBreak c = false) :
    atGap (singleChars column false more ++ '\'' :: rest) = false := by
  cases more with
  | nil => rfl
  | cons c more =>
    obtain ⟨r, hr⟩ := exists_singleChars_cons column c more
    rw [hr, List.cons_append, atGap, (h c rfl).1, (h c rfl).2]
    rfl

/-- A gap between single quotes stands for the blanks or the line ends that were written. -/
theorem passGap_singleChars {column : Nat} (indented : column ≠ 0) {cs : List Char} (h : SingleText cs) (ne : cs ≠ [])
    (gap : atGap cs = true) :
    ∃ g more, cs = g.text ++ more ∧ more.length < cs.length ∧ g.atLineStart = false ∧
      passGap 0 (singleChars column false cs ++ '\'' :: rest) =
        some (g, singleChars column false more ++ '\'' :: rest) := by
  obtain ⟨c, cs, rfl⟩ := List.exists_cons_of_ne_nil ne
  rw [atGap, Bool.or_eq_true] at gap
  obtain blank | line := gap
  · obtain ⟨bl, z, more, whole, blanks, stop⟩ := exists_run isBlank blank cs
    rw [whole] at h ⊢
    have space : ∀ x ∈ bl ++ [z], x = ' ' := fun x hx =>
      (isBlank_of_isPrintable (h.printable x (List.mem_append_left more hx))).1 (blanks x hx)
    have start : atGap (singleChars column false more ++ '\'' :: rest) = false := by
      refine atGap_singleChars column rest fun c hc => ⟨stop c hc, ?_⟩
      exact (List.isChain_append.1 h.afterBlank).2.2 z (by simp) c hc (space z (by simp))
    refine ⟨.blanks (bl ++ [z]), more, rfl, by simp only [List.length_append, List.length_singleton]; omega, rfl, ?_⟩
    rw [singleChars_blanks column space, List.append_assoc, passGap_blanks 0 blanks start]
  · obtain ⟨bs, z, more, whole, breaks, stop⟩ := exists_run isBreak line cs
    rw [List.cons_eq_append_iff, or_iff_right (by simp)] at whole
    obtain ⟨bs', first, rfl⟩ := whole
    have start : atGap (singleChars column false more ++ '\'' :: rest) = false := by
      refine atGap_singleChars column rest fun c hc => ⟨?_, stop c hc⟩
      rw [← List.cons_append, ← first] at h
      have after := (List.isChain_append.1 h.afterBreak).2.2 z (by simp) c hc (breaks z (by simp))
      have printable := h.printable c (List.mem_append_right _ (List.mem_of_mem_head? hc))
      rwa [← Bool.not_eq_true, isBlank_of_isPrintable printable]
    have written := singleChars_break column line (bs' ++ more)
    rw [singleChars_breaks column (fun b hb => breaks b (by simp [first, hb])) stop] at written
    rw [first] at breaks
    have shorter (c : Char) : more.length < (c :: (bs' ++ more)).length := by
      simp only [List.length_cons, List.length_append]
      omega
    by_cases feed : c = '\n'
    -- A line feed was written twice, and the first of the two does not count.
    · subst feed
      have doubled : ∀ x ∈ '\n' :: '\n' :: bs', isBreak x = true := by simpa using breaks
      refine ⟨.lines '\n' ('\n' :: bs') column, more, rfl, shorter _, by cases column <;> trivial, ?_⟩
      have passes := passGap_breaks column doubled start
      simpa [written] using passes
    · refine ⟨.lines c bs' column, more, by simp [Gap.text, feed], shorter _, by cases column <;> trivial, ?_⟩
      have passes := passGap_breaks column breaks start
      simpa [written, feed] using passes

/-- A text between single quotes is read back. -/
theorem readSingle_singleChars {column : Nat} (indented : column ≠ 0) {cs rest : List Char}
    (h : isSingleText cs = true) (closes : rest.head? ≠ some '\'') :
    readSingle (singleChars column false cs ++ '\'' :: rest) = some (cs, rest) := by
  have step : WordByWord singleWord (singleChars column false · ++ '\'' :: rest) rest SingleText := by
    intro cs h
    obtain ⟨w, more, rfl, gap, reads⟩ := singleWord_singleChars column closes cs
    refine ⟨w, more, rfl, reads, fun ne => ?_⟩
    obtain ⟨g, more', rfl, shorter, inside, passes⟩ := passGap_singleChars rest indented h.of_append ne gap
    exact ⟨g, more', rfl, shorter, h.of_append.of_append, inside, passes⟩
  refine step.quotedRest_eq _ (.of_isSingleText h) ?_
  have := length_le_singleChars column false cs
  simp only [List.length_append, List.length_cons]
  omega

end

/-! ## Texts between double quotes -/

theorem hexValue?_upperHexDigit : ∀ d < 16, hexValue? (upperHexDigit d) = some d := by decide

/-- Digits are read back as the number they end. -/
theorem doubleWord_hexDigits (width n left value : Nat) (h : left ≠ 0) (xs : List Char) :
    doubleWord (.code (width + left) value) (hexDigits width n ++ xs) =
      doubleWord (.code left (value * 16 ^ width + n % 16 ^ width)) xs := by
  induction width generalizing n left xs with
  | zero => simp [hexDigits, Nat.mod_one]
  | succ width ih =>
    have last := hexValue?_upperHexDigit (n % 16) (Nat.mod_lt n (by decide))
    have more : left + 1 ≠ 1 := by omega
    have number : (value * 16 ^ width + n / 16 % 16 ^ width) * 16 + n % 16 =
        value * 16 ^ (width + 1) + n % 16 ^ (width + 1) := by
      rw [Nat.pow_succ, Nat.mul_comm (16 ^ width) 16, Nat.mod_mul, Nat.mul_left_comm]
      omega
    rw [hexDigits, List.append_assoc, Nat.add_right_comm, Nat.add_assoc, ih (n / 16) (left + 1) (by omega),
      List.singleton_append, doubleWord, last]
    simp only [if_neg more, Nat.add_sub_cancel, number]

theorem ofCode?_toNat (c : Char) : ofCode? c.toNat = some c := by
  rw [ofCode?, if_pos (by exact c.valid), Char.ofNat_toNat]

/-- A character is read back from its code. -/
theorem doubleWord_code {width : Nat} {c : Char} (h : c.toNat < 16 ^ (width + 1)) (xs : List Char) :
    doubleWord (.code (width + 1) 0) (hexDigits (width + 1) c.toNat ++ xs) = (doubleWord .none xs).map (.cons c) := by
  have last := hexValue?_upperHexDigit (c.toNat % 16) (Nat.mod_lt _ (by decide))
  have small : c.toNat / 16 % 16 ^ width = c.toNat / 16 := by
    apply Nat.mod_eq_of_lt
    rw [Nat.pow_succ] at h
    omega
  have number : c.toNat / 16 * 16 + c.toNat % 16 = c.toNat := by omega
  rw [hexDigits, List.append_assoc, doubleWord_hexDigits width _ 1 0 Nat.one_ne_zero, List.singleton_append,
    doubleWord, last]
  simp [small, number, ofCode?_toNat]

theorem escaped?_of_escapeLetter? {c l : Char} (h : escapeLetter? c = some l) :
    codeLength? l = none ∧ escaped? l = some c ∧ isBreak l = false := by
  unfold escapeLetter? at h
  split at h <;> cases h <;> exact ⟨rfl, rfl, rfl⟩

theorem doubleWord_escapeSequence (c : Char) (xs : List Char) :
    doubleWord .none (escapeSequence c ++ xs) = (doubleWord .none xs).map (.cons c) := by
  have opens : ∀ cs, doubleWord .none ('\\' :: cs) = doubleWord .letter cs := fun cs => by
    simp [doubleWord, isBlank, isBreak]
  rw [escapeSequence]
  split
  next l hl =>
    obtain ⟨code, letter, line⟩ := escaped?_of_escapeLetter? hl
    simp [opens, doubleWord, line, code, letter]
  next =>
    have code : ∀ {l : Char} {width : Nat}, codeLength? l = some (width + 1) → isBreak l = false →
        c.toNat < 16 ^ (width + 1) → doubleWord .none ('\\' :: l :: hexDigits (width + 1) c.toNat ++ xs) =
          (doubleWord .none xs).map (.cons c) := by
      intro l width length line small
      rw [List.cons_append, opens, List.cons_append, doubleWord, if_neg (by rw [line]; decide), length]
      exact doubleWord_code small xs
    split
    · exact code rfl rfl (by omega)
    · split
      · exact code rfl rfl (by omega)
      · exact code rfl rfl c.val.toNat_lt

/-- A character between double quotes is escaped, or it stands for itself. -/
theorem doubleChar_eq (c : Char) :
    doubleChar c = escapeSequence c ∨
      doubleChar c = [c] ∧ isPrintable c = true ∧ isBreak c = false ∧ c ≠ '"' ∧ c ≠ '\\' := by
  rw [doubleChar]
  split
  · exact .inl rfl
  next plain =>
    simp only [Bool.or_eq_true, Bool.not_eq_true', decide_eq_true_eq, not_or, Bool.not_eq_false,
      Bool.not_eq_true] at plain
    obtain ⟨⟨⟨printable, line⟩, quote⟩, slash⟩ := plain
    exact .inr ⟨rfl, printable, line, quote, slash⟩

/-- A character other than a blank is read back in its word. -/
theorem doubleWord_doubleChar {c : Char} (h : c ≠ ' ') (xs : List Char) :
    doubleWord .none (doubleChar c ++ xs) = (doubleWord .none xs).map (.cons c) := by
  obtain escaped | ⟨plain, printable, line, quote, slash⟩ := doubleChar_eq c
  · rw [escaped, doubleWord_escapeSequence c xs]
  · have blank : isBlank c = false := by rwa [← Bool.not_eq_true, isBlank_of_isPrintable printable]
    simp [plain, doubleWord, blank, line, quote, slash]

theorem doubleChar_blank : doubleChar ' ' = [' '] := by decide

/-- What is written for a character other than a blank does not look like a gap. -/
theorem atGap_doubleChar {c : Char} (h : c ≠ ' ') (xs : List Char) : atGap (doubleChar c ++ xs) = false := by
  obtain escaped | ⟨plain, printable, line, -⟩ := doubleChar_eq c
  · rw [escaped, escapeSequence]
    repeat' split
    all_goals rfl
  · have blank : isBlank c = false := by rwa [← Bool.not_eq_true, isBlank_of_isPrintable printable]
    simp [plain, atGap, blank, line]

theorem length_le_flatMap_doubleChar (cs : List Char) : cs.length ≤ (cs.flatMap doubleChar).length := by
  induction cs with
  | nil => exact Nat.le_refl 0
  | cons c cs ih =>
    have nonempty : doubleChar c ≠ [] := by
      by_cases hc : c = ' '
      · simp [hc, doubleChar_blank]
      · intro h
        exact absurd (atGap_doubleChar hc []) (by rw [h]; decide)
    have := List.length_pos_iff.2 nonempty
    simp only [List.flatMap_cons, List.length_append, List.length_cons]
    omega

section
variable (rest : List Char)

theorem doubleWord_flatMap (cs : List Char) :
    ∃ w more, cs = w ++ more ∧ (∀ c ∈ more.head?, c = ' ') ∧
      doubleWord .none (cs.flatMap doubleChar ++ '"' :: rest) =
        some (if more = [] then ⟨w, .quote, rest⟩ else ⟨w, .gap, more.flatMap doubleChar ++ '"' :: rest⟩) := by
  induction cs with
  | nil => exact ⟨[], [], rfl, nofun, rfl⟩
  | cons c cs ih =>
    by_cases hc : c = ' '
    · subst hc
      refine ⟨[], ' ' :: cs, rfl, by simp, ?_⟩
      simp [doubleChar_blank, doubleWord, isBlank]
    · obtain ⟨w, more, parts, gap, reads⟩ := ih
      refine ⟨c :: w, more, congrArg (c :: ·) parts, gap, ?_⟩
      rw [List.flatMap_cons, List.append_assoc, doubleWord_doubleChar hc, reads, Option.map_some]
      split <;> rfl

theorem passGap_flatMap {cs : List Char} (ne : cs ≠ []) (gap : ∀ c ∈ cs.head?, c = ' ') :
    ∃ g more, cs = g.text ++ more ∧ more.length < cs.length ∧ g.atLineStart = false ∧
      passGap 0 (cs.flatMap doubleChar ++ '"' :: rest) = some (g, more.flatMap doubleChar ++ '"' :: rest) := by
  obtain ⟨c, cs, rfl⟩ := List.exists_cons_of_ne_nil ne
  obtain ⟨bl, z, more, whole, blank, stop⟩ := exists_run (decide <| · = ' ') (by simpa using gap) cs
  simp only [decide_eq_true_eq, decide_eq_false_iff_not] at blank stop
  have same : (bl ++ [z]).flatMap doubleChar = bl ++ [z] :=
    calc (bl ++ [z]).flatMap doubleChar
      _ = (bl ++ [z]).flatMap fun x => [x] := List.flatMap_congr fun x hx => by rw [blank x hx, doubleChar_blank]
      _ = bl ++ [z] := List.flatMap_singleton' _
  have start : atGap (more.flatMap doubleChar ++ '"' :: rest) = false := by
    cases more with
    | nil => rfl
    | cons c more =>
      rw [List.flatMap_cons, List.append_assoc]
      exact atGap_doubleChar (stop c rfl) _
  refine ⟨.blanks (bl ++ [z]), more, whole, by simp [whole]; omega, rfl, ?_⟩
  rw [whole, List.flatMap_append, same, List.append_assoc,
    passGap_blanks 0 (fun x hx => by rw [blank x hx]; rfl) start]

/-- A text between double quotes is read back. -/
theorem readDouble_flatMap (cs : List Char) :
    readDouble (cs.flatMap doubleChar ++ '"' :: rest) = some (cs, rest) := by
  have step : WordByWord (doubleWord .none) (·.flatMap doubleChar ++ '"' :: rest) rest fun _ => True := by
    intro cs _
    obtain ⟨w, more, rfl, gap, reads⟩ := doubleWord_flatMap rest cs
    refine ⟨w, more, rfl, reads, fun ne => ?_⟩
    obtain ⟨g, more', rfl, shorter, inside, passes⟩ := passGap_flatMap rest ne gap
    exact ⟨g, more', rfl, shorter, trivial, inside, passes⟩
  refine step.quotedRest_eq _ trivial ?_
  have := length_le_flatMap_doubleChar cs
  simp only [List.length_append, List.length_cons]
  omega

end

end Yaml

end PeerTaint
