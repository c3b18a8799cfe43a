import PeerTaint.Proofs.Literals

/-!
The tokens of a written document.

The scanner goes from token to token. Behind a value it has arrived at the next line, and all that matters of
the way there is the column at which the next token stands: it says which mappings end. A value is scanned from
the colon of its key to the token behind it; for a mapping this goes entry by entry.
-/

namespace PeerTaint

namespace Yaml

/-! ## Positions -/

namespace Cursor

/-- The cursor in front of some text, at a line and a column. -/
def place (line column : Nat) (rest : List Char) : Cursor := ⟨rest, rest.length, line, column⟩

/-- The line and the column behind some characters. -/
def behind : Nat → Nat → List Char → Nat × Nat
  | line, column, [] => (line, column)
  | line, column, x :: xs => if isBreak x then behind (line + 1) 0 xs else behind line (column + 1) xs

theorem advance_place (xs rest : List Char) (line column : Nat) :
    (place line column (xs ++ rest)).advance xs.length =
      place (behind line column xs).1 (behind line column xs).2 rest := by
  induction xs generalizing line column with
  | nil => rfl
  | cons x xs ih =>
    have step : (place line column (x :: (xs ++ rest))).step =
        if isBreak x then place (line + 1) 0 (xs ++ rest) else place line (column + 1) (xs ++ rest) := by
      simp [place, Cursor.step]
    rw [List.cons_append, List.length_cons, advance, step, behind]
    split
    · exact ih (line + 1) 0
    · exact ih line (column + 1)

theorem moveTo_place (xs rest : List Char) (line column : Nat) :
    (place line column (xs ++ rest)).moveTo rest =
      place (behind line column xs).1 (behind line column xs).2 rest := by
  have passed : (place line column (xs ++ rest)).left - rest.length = xs.length := by simp [place]
  rw [moveTo, passed, advance_place]

theorem behind_append (xs ys : List Char) (line column : Nat) :
    behind line column (xs ++ ys) = behind (behind line column xs).1 (behind line column xs).2 ys := by
  induction xs generalizing line column with
  | nil => rfl
  | cons x xs ih =>
    rw [List.cons_append, behind, behind]
    split <;> exact ih _ _

/-- Text in one line. -/
theorem behind_line {xs : List Char} (h : ∀ x ∈ xs, isBreak x = false) (line column : Nat) :
    behind line column xs = (line, column + xs.length) := by
  induction xs generalizing column with
  | nil => rfl
  | cons x xs ih =>
    rw [behind, if_neg (by rw [h x List.mem_cons_self]; decide), ih fun x hx => h x (List.mem_cons_of_mem _ hx),
      List.length_cons, Nat.add_assoc, Nat.add_comm 1]

theorem le_behind (xs : List Char) (line column : Nat) : line ≤ (behind line column xs).1 := by
  induction xs generalizing line column with
  | nil => exact Nat.le_refl _
  | cons x xs ih =>
    rw [behind]
    split
    · exact Nat.le_of_succ_le (ih (line + 1) 0)
    · exact ih line (column + 1)

/-- Behind a line end the column is that of the next token. -/
theorem exists_behind_nextLine (xs : List Char) {b : Char} (h : isBreak b = true) (k line column : Nat) :
    ∃ line', line < line' ∧ behind line column (xs ++ b :: blanks k) = (line', k) := by
  have space : ∀ x ∈ blanks k, isBreak x = false := fun x hx => by
    rw [List.eq_of_mem_replicate hx]
    rfl
  refine ⟨(behind line column xs).1 + 1, Nat.lt_succ_of_le (le_behind xs line column), ?_⟩
  rw [behind_append, behind, if_pos h, behind_line space, blanks, List.length_replicate, Nat.zero_add]

end Cursor

namespace Scanner

/-! ## Gaps between tokens -/

theorem skipGap_visible {t : List Char} (h : Visible t) (flow allowed atStart : Bool) (n : Nat) :
    skipGap flow allowed atStart false n t = (allowed, n) := by
  cases t with
  | nil => rfl
  | cons x t =>
    obtain ⟨blank, line, comment, mark⟩ := h x rfl
    simp only [isBlank, Bool.or_eq_false_iff, decide_eq_false_iff_not] at blank
    simp [skipGap, line, mark, blank.1, blank.2, comment]

theorem skipGap_blanks {t : List Char} (h : Visible t) (allowed atStart : Bool) (n k : Nat) :
    skipGap false allowed atStart false n (blanks k ++ t) = (allowed, n + k) := by
  induction k generalizing atStart n with
  | zero => exact skipGap_visible h false allowed atStart n
  | succ k ih =>
    have next := ih false (n + 1)
    rw [blanks, List.replicate_succ, List.cons_append, skipGap, ← blanks]
    simp [isBreak, next]
    omega

/-- Behind a line end a key may start. -/
theorem skipGap_nextLine {t : List Char} (h : Visible t) (allowed atStart : Bool) (k : Nat) :
    skipGap false allowed atStart false 0 ('\n' :: (blanks k ++ t)) = (true, 1 + k) := by
  have rest := skipGap_blanks h true true 1 k
  simpa [skipGap, isBreak] using rest

/-! ## States in block context -/

/-- The scanner outside flow collections. -/
def placed (reversed : List Token) (indents : List Nat) (candidate : Option SimpleKey) (allowed : Bool)
    (cursor : Cursor) : Scanner :=
  { cursor, reversed, count := reversed.length, indents, candidate, keyAllowed := allowed }

section
variable {reversed : List Token} {indents : List Nat} {candidate : Option SimpleKey} {allowed : Bool} {cursor : Cursor}

theorem advance_placed (n : Nat) :
    (placed reversed indents candidate allowed cursor).advance n =
      placed reversed indents candidate allowed (cursor.advance n) :=
  rfl

theorem allowKey_placed (allowed' : Bool) :
    (placed reversed indents candidate allowed cursor).allowKey allowed' =
      placed reversed indents candidate allowed' cursor :=
  rfl

theorem refreshKeys_placed {candidate' : Option SimpleKey} (h : refresh cursor candidate = some candidate') :
    (placed reversed indents candidate allowed cursor).refreshKeys =
      some (placed reversed indents candidate' allowed cursor) := by
  simp [refreshKeys, placed, h]

theorem closeBlocks_inside {column : Nat} (h : ∀ k ∈ indents.head?, k ≤ column) :
    (placed reversed indents candidate allowed cursor).closeBlocks column =
      placed reversed indents candidate allowed cursor := by
  cases indents with
  | nil => rfl
  | cons k indents =>
    have := h k rfl
    simp [closeBlocks, closeTo, placed, inFlow, this]

theorem closeBlocks_outside {column k : Nat} (h : column < k) :
    (placed reversed (k :: indents) candidate allowed cursor).closeBlocks column =
      (placed (.blockEnd :: reversed) indents candidate allowed cursor).closeBlocks column := by
  simp [closeBlocks, closeTo, placed, inFlow, emit, h]

end

/-- A possible key that was given up when its line ended. -/
def Spent (candidate : Option SimpleKey) (line : Nat) : Prop := ∀ k ∈ candidate, k.required = false ∧ k.line < line

theorem refresh_spent {candidate : Option SimpleKey} {cursor : Cursor} (h : Spent candidate cursor.line) :
    refresh cursor candidate = some none := by
  cases candidate with
  | none => rfl
  | some k =>
    obtain ⟨required, line⟩ := h k rfl
    simp [refresh, isStale, required, line]

theorem toNextToken_eq {s : Scanner} {allowed : Bool} {n : Nat}
    (h : skipGap s.inFlow s.keyAllowed (s.cursor.column = 0) false 0 s.cursor.rest = (allowed, n)) :
    s.toNextToken = ((s.advance n).allowKey allowed).refreshKeys.map fun s => s.closeBlocks s.cursor.column := by
  rw [toNextToken, h]

/-- Moving over a gap. -/
theorem toNextToken_placed {reversed : List Token} {indents : List Nat} {candidate candidate' : Option SimpleKey}
    {allowed allowed' : Bool} {line line' column column' : Nat} (xs : List Char) {t : List Char}
    (moves : Cursor.behind line column xs = (line', column'))
    (skips : skipGap false allowed (column = 0) false 0 (xs ++ t) = (allowed', xs.length))
    (fresh : refresh (.place line' column' t) candidate = some candidate') :
    (placed reversed indents candidate allowed (.place line column (xs ++ t))).toNextToken =
      some ((placed reversed indents candidate' allowed' (.place line' column' t)).closeBlocks column') := by
  rw [toNextToken_eq (s := placed reversed indents candidate allowed (.place line column (xs ++ t))) skips,
    advance_placed, Cursor.advance_place, moves, allowKey_placed, refreshKeys_placed fresh]
  rfl

/-! ## From token to token -/

/-- The scanner gives some tokens, if it has a step for each character that is left. -/
def Outputs (s : Scanner) (out : List Token) : Prop := ∀ fuel, s.cursor.left < fuel → run fuel s = some out

/-- The scanner comes to a later state. -/
def Scans (s s' : Scanner) : Prop := ∀ out, s'.Outputs out → s.Outputs out

theorem Scans.refl (s : Scanner) : s.Scans s := fun _ h => h

theorem Scans.trans {s₁ s₂ s₃ : Scanner} (h₁ : s₁.Scans s₂) (h₂ : s₂.Scans s₃) : s₁.Scans s₃ :=
  fun out h => h₁ out (h₂ out h)

/-- The scanner reads a token. -/
theorem Scans.of_fetch {s m s' : Scanner} {c : Char} {cs : List Char} (next : s.toNextToken = some m)
    (here : m.cursor.rest = c :: cs) (fetches : m.fetch c cs = some s') (shorter : s'.cursor.left < s.cursor.left) :
    s.Scans s' := by
  intro out outputs fuel enough
  obtain ⟨fuel, rfl⟩ := Nat.exists_eq_add_one_of_ne_zero (Nat.ne_of_gt (Nat.zero_lt_of_lt enough))
  rw [run, next]
  simp only [here, fetches]
  exact outputs fuel (by omega)

/-- The scanner reads a token behind a gap in its line. -/
theorem scans_placed {reversed : List Token} {indents : List Nat} {candidate candidate' : Option SimpleKey}
    {allowed allowed' : Bool} {line line' column column' : Nat} (xs : List Char) {c : Char} {cs : List Char}
    {s' : Scanner} (moves : Cursor.behind line column xs = (line', column'))
    (skips : skipGap false allowed (column = 0) false 0 (xs ++ c :: cs) = (allowed', xs.length))
    (fresh : refresh (.place line' column' (c :: cs)) candidate = some candidate')
    (inside : ∀ k ∈ indents.head?, k ≤ column')
    (fetches : (placed reversed indents candidate' allowed' (.place line' column' (c :: cs))).fetch c cs = some s')
    (shorter : s'.cursor.left ≤ cs.length) :
    (placed reversed indents candidate allowed (.place line column (xs ++ c :: cs))).Scans s' := by
  have next : (placed reversed indents candidate allowed (.place line column (xs ++ c :: cs))).toNextToken = _ :=
    toNextToken_placed xs moves skips fresh
  rw [closeBlocks_inside inside] at next
  refine .of_fetch next rfl fetches ?_
  simp only [placed, Cursor.place, List.length_append, List.length_cons]
  omega

/-- The scanner stands in front of some text, or in front of the gap before it, and at its column it closes the
blocks that end there. -/
def Arrives (s : Scanner) (reversed : List Token) (indents : List Nat) (column : Nat) (t : List Char) : Prop :=
  t.length ≤ s.cursor.left ∧
    ∃ line, s.toNextToken = some ((placed reversed indents none true (.place line column t)).closeBlocks column)

section
variable {s : Scanner} {reversed : List Token} {indents : List Nat} {column : Nat} {t : List Char}

/-- A block that stands to the right of the text is closed. -/
theorem Arrives.close {k : Nat} (h : s.Arrives reversed (k :: indents) column t) (hk : column < k) :
    s.Arrives (.blockEnd :: reversed) indents column t := by
  obtain ⟨enough, line, next⟩ := h
  exact ⟨enough, line, by rw [next, closeBlocks_outside hk]⟩

/-- Where the block around the text stays open, its first token is read. -/
theorem Arrives.scans {c : Char} {cs : List Char} (h : s.Arrives reversed indents column (c :: cs))
    (inside : ∀ k ∈ indents.head?, k ≤ column) {P : Scanner → Prop}
    (fetches : ∀ line, ∃ s', (placed reversed indents none true (.place line column (c :: cs))).fetch c cs = some s' ∧
      s'.cursor.left ≤ cs.length ∧ P s') :
    ∃ s', s.Scans s' ∧ P s' := by
  obtain ⟨enough, line, next⟩ := h
  obtain ⟨s', fetch, shorter, hs'⟩ := fetches line
  rw [closeBlocks_inside inside] at next
  rw [List.length_cons] at enough
  exact ⟨s', .of_fetch next rfl fetch (by omega), hs'⟩

/-- The scanner has arrived where it has read the end of the line already. -/
theorem arrives_placed {candidate : Option SimpleKey} {line : Nat} (h : Visible t) (spent : Spent candidate line) :
    (placed reversed indents candidate true (.place line column t)).Arrives reversed indents column t := by
  refine ⟨Nat.le_refl _, line, ?_⟩
  exact toNextToken_placed [] rfl (skipGap_visible h false true _ 0) (refresh_spent spent)

/-- The scanner has arrived where the end of the line is next. -/
theorem arrives_nextLine {candidate : Option SimpleKey} {allowed : Bool} {line k : Nat} (h : Visible t)
    (spent : Spent candidate (line + 1)) :
    (placed reversed indents candidate allowed (.place line k ('\n' :: (blanks column ++ t)))).Arrives
      reversed indents column t := by
  obtain ⟨line', later, moves⟩ := Cursor.exists_behind_nextLine [] (b := '\n') rfl column line k
  have spent' : Spent candidate line' := fun c hc => ⟨(spent c hc).1, Nat.lt_of_lt_of_le (spent c hc).2 later⟩
  have skips : skipGap false allowed (k = 0) false 0 ('\n' :: blanks column ++ t) =
      (true, ('\n' :: blanks column).length) := by
    have passes := skipGap_nextLine h allowed (k = 0) column
    rwa [List.length_cons, blanks, List.length_replicate, Nat.add_comm]
  refine ⟨?_, line', toNextToken_placed ('\n' :: blanks column) moves skips (refresh_spent spent')⟩
  simp only [placed, Cursor.place, List.length_cons, List.length_append]
  omega

end

/-! ## Scalars -/

/-- The possible key that is remembered when a scalar starts. -/
def saved (reversed : List Token) (indents : List Nat) (allowed : Bool) (cursor : Cursor) : Option SimpleKey :=
  if allowed then
    some ⟨decide (indents.head? = some cursor.column), reversed.length, cursor.line, cursor.column⟩
  else none

section
variable {reversed : List Token} {indents : List Nat} {allowed : Bool} {cursor : Cursor} {cs : List Char}

theorem saveKey_placed :
    (placed reversed indents none allowed cursor).saveKey =
      some (placed reversed indents (saved reversed indents allowed cursor) allowed cursor) := by
  cases allowed <;> simp [saveKey, dropKey, placed, saved, inFlow]

theorem plainScalar_placed {p : PlainText}
    (reads : readPlain false (placed reversed indents none allowed cursor).base cs = some p) :
    (placed reversed indents none allowed cursor).plainScalar cs =
      some (placed (.scalar (String.ofList p.text) .plain :: reversed) indents (saved reversed indents allowed cursor)
        p.endsLine (cursor.moveTo p.rest)) := by
  have reads' : readPlain (placed reversed indents (saved reversed indents allowed cursor) allowed cursor).inFlow
      (placed reversed indents (saved reversed indents allowed cursor) allowed cursor).base cs = some p := reads
  simp only [plainScalar, saveKey_placed, Option.bind_eq_bind, Option.bind_some, reads']
  rfl

theorem quotedScalar_placed {read : List Char → Option (List Char × List Char)} {text rest : List Char}
    (reads : read cs = some (text, rest)) :
    (placed reversed indents none allowed cursor).quotedScalar read cs =
      some (placed (.scalar (String.ofList text) .quoted :: reversed) indents (saved reversed indents allowed cursor)
        false (cursor.moveTo rest)) := by
  simp only [quotedScalar, saveKey_placed, Option.bind_eq_bind, Option.bind_some, reads]
  rfl

theorem blockScalar_placed {text : List Char} (rest : List Char)
    (reads : readBlock false (placed reversed indents none allowed cursor).base cs = some (text, rest)) :
    (placed reversed indents none allowed cursor).blockScalar false cs =
      some (placed (.scalar (String.ofList text) .literal :: reversed) indents none true (cursor.moveTo rest)) := by
  have drops : (placed reversed indents none allowed cursor).dropKey =
      some (placed reversed indents none allowed cursor) := rfl
  simp only [blockScalar, drops, Option.bind_eq_bind, Option.bind_some, reads]
  rfl

end

/-! ## Keys -/

/-- A plain scalar is read where no indicator stands. -/
theorem fetch_plain {s : Scanner} {x : Char} {r : List Char} (flow : s.inFlow = false)
    (start : startsWithIndicator (x :: r) = false) (blank : isBlank x = false) (line : isBreak x = false)
    (mark : s.cursor.column = 0 → atDocumentMark (x :: r) = false) : s.fetch x r = s.plainScalar (x :: r) := by
  have gap : x = '-' ∨ x = '?' ∨ x = ':' → atGap r = false := by
    rintro (rfl | rfl | rfl) <;> simpa [startsWithIndicator] using start
  simp only [startsWithIndicator, Bool.or_eq_false_iff, List.contains_eq_mem, decide_eq_false_iff_not, List.mem_cons,
    not_or] at start
  obtain ⟨others, -⟩ := start
  have plain : startsPlain s.inFlow x r = true := by
    by_cases special : x = '-' ∨ x = '?' ∨ x = ':'
    · have word := gap special
      have head : r.head?.any isBlank = false := by
        cases r with
        | nil => rfl
        | cons c r => simp only [atGap, Bool.or_eq_false_iff] at word; exact word.1
      rcases special with rfl | rfl | rfl <;> simp [startsPlain, flow, word, head]
    · simp only [not_or] at special
      simp [startsPlain, isIndicator, blank, line, others, special]
  have dash : (decide (x = '-') && atGap r) = false := by
    by_cases h : x = '-' <;> simp [h, gap]
  have question : (decide (x = '?') && (s.inFlow || atGap r)) = false := by
    by_cases h : x = '?' <;> simp [h, gap, flow]
  have colon : (decide (x = ':') && (s.inFlow || atGap r)) = false := by
    by_cases h : x = ':' <;> simp [h, gap, flow]
  have start : ¬ (s.cursor.column = 0 ∧ atDocumentMark (x :: r) = true) := fun h => by
    simp [mark h.1] at h
  simp [fetch, others, start, dash, question, colon, plain]

end Scanner

/-- A key that is written as it is. -/
def IsName (key : String) : Prop := key ≠ "" ∧ key.toList.length ≤ 1024 ∧ IsWord key.toList

instance (key : String) : Decidable (IsName key) := inferInstanceAs (Decidable (_ ∧ _ ∧ _))

namespace IsName

variable {key : String} (h : IsName key)
include h

theorem isWord : IsWord key.toList := h.2.2

theorem exists_cons : ∃ x r, key.toList = x :: r := by
  apply List.exists_cons_of_ne_nil
  intro empty
  exact h.1 (String.toList_eq_nil_iff.1 empty)

end IsName

namespace Scanner

/-- The block of a key: it is open, or the key opens it. -/
inductive Block (column : Nat) : List Token → List Nat → List Token → List Nat → Prop where
  | stays (reversed : List Token) (indents : List Nat) :
      Block column reversed (column :: indents) reversed (column :: indents)
  | opens (reversed : List Token) {indents : List Nat} (deeper : ∀ k ∈ indents.head?, k < column) :
      Block column reversed indents (.blockMappingStart :: reversed) (column :: indents)

section
variable {column : Nat} {reversed reversed' : List Token} {indents indents' : List Nat}

theorem Block.inside (h : Block column reversed indents reversed' indents') : ∀ k ∈ indents.head?, k ≤ column := by
  intro k hk
  cases h with
  | stays =>
    obtain rfl : column = k := by simpa using hk
    exact Nat.le_refl _
  | opens deeper => exact Nat.le_of_lt (deeper k hk)

theorem insert_placed (ts : List Token) (t : Token) (candidate : Option SimpleKey) (allowed : Bool) (cursor : Cursor) :
    (placed (ts ++ reversed) indents candidate allowed cursor).insert reversed.length t =
      placed (ts ++ t :: reversed) indents candidate allowed cursor := by
  have inserted : (ts ++ reversed).insertIdx ts.length t = ts ++ t :: reversed := by
    induction ts with
    | nil => rfl
    | cons u ts ih => rw [List.cons_append, List.length_cons, List.insertIdx_succ_cons, ih, List.cons_append]
  simp only [insert, placed, List.length_append, Nat.add_sub_cancel, inserted, List.length_cons, Nat.add_assoc]

/-- A token at the column of the innermost block opens none. -/
theorem openBlock_stays (candidate : Option SimpleKey) (allowed : Bool) (cursor : Cursor) (position : Nat) (t : Token) :
    (placed reversed (column :: indents) candidate allowed cursor).openBlock column position t =
      placed reversed (column :: indents) candidate allowed cursor := by
  have outside : decide ((placed reversed (column :: indents) candidate allowed cursor).base ≤ column) = false :=
    decide_eq_false (Nat.not_succ_le_self column)
  rw [openBlock, outside, Bool.and_false]
  rfl

theorem openBlock_placed (h : Block column reversed indents reversed' indents') (ts : List Token) (allowed : Bool)
    (cursor : Cursor) :
    (placed (ts ++ reversed) indents none allowed cursor).openBlock column reversed.length .blockMappingStart =
      placed (ts ++ reversed') indents' none allowed cursor := by
  cases h with
  | stays => exact openBlock_stays none allowed cursor _ _
  | opens deeper =>
    have base : (placed (ts ++ reversed) indents none allowed cursor).base ≤ column := by
      cases indents with
      | nil => exact Nat.zero_le _
      | cons k indents => exact deeper k rfl
    rw [openBlock, if_pos (by rw [decide_eq_true base]; rfl)]
    exact insert_placed ts _ none allowed cursor

/-- At the colon the tokens of the key are put in front of it. -/
theorem valueMark_placed (h : Block column reversed indents reversed' indents') (t : Token) (required : Bool)
    (line : Nat) (allowed : Bool) (cursor : Cursor) :
    (placed (t :: reversed) indents (some ⟨required, reversed.length, line, column⟩) allowed cursor).valueMark =
      some (placed (.value :: t :: .key :: reversed') indents' none false (cursor.advance 1)) := by
  have key : (placed (t :: reversed) indents none allowed cursor).insert reversed.length .key =
      placed (t :: .key :: reversed) indents none allowed cursor := insert_placed [t] .key none allowed cursor
  have opens : (placed (t :: .key :: reversed) indents none allowed cursor).openBlock column reversed.length
      .blockMappingStart = placed (t :: .key :: reversed') indents' none allowed cursor :=
    openBlock_placed h [t, .key] allowed cursor
  change some ((((((placed (t :: reversed) indents none allowed cursor).insert reversed.length .key).openBlock column
    reversed.length .blockMappingStart).allowKey false).emit .value).advance 1) = _
  rw [key, opens]
  rfl

theorem fetch_colon (s : Scanner) {cs : List Char} (gap : atGap cs = true) : s.fetch ':' cs = s.valueMark := by
  simp [fetch, gap, atDocumentMark]

/-- A key is read as a plain scalar, and the place where it starts is remembered. -/
theorem fetch_key {key : String} {x : Char} {r after : List Char} (name : IsName key) (hk : key.toList = x :: r)
    (gap : atGap after = true) (line : Nat) :
    (placed reversed indents none true (.place line column (x :: (r ++ ':' :: after)))).fetch x (r ++ ':' :: after) =
      some (placed (.scalar key .plain :: reversed) indents
        (some ⟨decide (indents.head? = some column), reversed.length, line, column⟩) false
        (.place line (column + key.toList.length) (':' :: after))) := by
  have hx : x ∈ key.toList := by simp [hk]
  have word := name.isWord
  have mark : atDocumentMark (x :: (r ++ ':' :: after)) = false := by
    unfold atDocumentMark
    split
    next h => exact absurd (List.cons.inj h).1 (word.ne_of_mem hx rfl)
    next h => exact absurd (List.cons.inj h).1 (word.ne_of_mem hx rfl)
    next => rfl
  have written : x :: (r ++ ':' :: after) = key.toList ++ ':' :: after := by rw [hk, List.cons_append]
  have reads := readPlain_key (placed reversed indents none true (.place line column (x :: (r ++ ':' :: after)))).base
    (fun c hc => ⟨(word.text hc).1, (word.text hc).2, word.ne_of_mem hc rfl⟩) gap
  rw [← written] at reads
  rw [fetch_plain rfl (word.startsWithIndicator_cons hx _) (word.text hx).1 (word.text hx).2 fun _ => mark,
    plainScalar_placed reads, written, Cursor.moveTo_place, Cursor.behind_line fun c hc => (word.text hc).2,
    String.ofList_toList]
  rfl

/-- The colon behind a key. -/
theorem scans_colon (block : Block column reversed indents reversed' indents') (t : Token) (required : Bool)
    (line length : Nat) (short : length ≤ 1024) {after : List Char} (gap : atGap after = true) :
    (placed (t :: reversed) indents (some ⟨required, reversed.length, line, column⟩) false
        (.place line (column + length) (':' :: after))).Scans
      (placed (.value :: t :: .key :: reversed') indents' none false (.place line (column + length + 1) after)) := by
  have colon : Visible (':' :: after) := by simp [Visible, isBlank, isBreak]
  have fresh : refresh (.place line (column + length) (':' :: after))
      (some ⟨required, reversed.length, line, column⟩) = some (some ⟨required, reversed.length, line, column⟩) := by
    simp [refresh, isStale, Cursor.place]
    omega
  have inside : ∀ k ∈ indents.head?, k ≤ column + length := fun k hk =>
    Nat.le_trans (block.inside k hk) (Nat.le_add_right _ _)
  have moved := Cursor.advance_place [':'] after line (column + length)
  refine scans_placed [] rfl (skipGap_visible colon false false _ 0) fresh inside ?_ (Nat.le_refl after.length)
  rw [fetch_colon _ gap, valueMark_placed block]
  exact congrArg (some <| placed _ indents' none false ·) moved

/-- A key is scanned with the colon behind it. -/
theorem Arrives.scans_key {s : Scanner} {key : String} {after : List Char} (name : IsName key)
    (h : s.Arrives reversed indents column (key.toList ++ ':' :: after))
    (block : Block column reversed indents reversed' indents') (gap : atGap after = true) :
    ∃ line behind, column < behind ∧
      s.Scans (placed (.value :: .scalar key .plain :: .key :: reversed') indents' none false
        (.place line behind after)) := by
  obtain ⟨x, r, hk⟩ := name.exists_cons
  rw [hk, List.cons_append] at h
  have scalar : ∃ s', s.Scans s' ∧ ∃ line, s' = placed (.scalar key .plain :: reversed) indents
      (some ⟨decide (indents.head? = some column), reversed.length, line, column⟩) false
      (.place line (column + key.toList.length) (':' :: after)) :=
    h.scans block.inside fun line => ⟨_, fetch_key name hk gap line, by simp [placed, Cursor.place], line, rfl⟩
  obtain ⟨s', scans, line, rfl⟩ := scalar
  exact ⟨line, _, by omega, scans.trans (scans_colon block _ _ line _ name.2.1 gap)⟩

end

/-! ## Values that are scalars -/

section
variable {reversed : List Token} {column : Nat} {indents : List Nat} {allowed : Bool} {line behind k : Nat}
  {t : List Char}

/-- A scalar inside a block is no key that has to stand there. -/
theorem spent_saved {cursor : Cursor} (inside : column < cursor.column) (later : cursor.line < line) :
    Spent (saved reversed (column :: indents) allowed cursor) line := by
  intro key hkey
  cases allowed with
  | false => exact absurd hkey nofun
  | true =>
    obtain rfl : _ = key := Option.some.inj hkey
    have : column ≠ cursor.column := Nat.ne_of_lt inside
    exact ⟨by simp [this], later⟩

/-- A scalar is read behind a blank. -/
theorem scans_scalar {x : Char} {r : List Char} {s' : Scanner} (visible : Visible (x :: r)) (inside : column ≤ behind)
    (fetches : (placed reversed (column :: indents) none allowed (.place line (behind + 1) (x :: r))).fetch x r =
      some s')
    (shorter : s'.cursor.left ≤ r.length) :
    (placed reversed (column :: indents) none allowed (.place line behind (' ' :: x :: r))).Scans s' := by
  refine scans_placed [' '] rfl (skipGap_blanks visible allowed _ 0 1) rfl ?_ fetches shorter
  intro k hk
  obtain rfl : column = k := by simpa using hk
  exact Nat.le_succ_of_le inside

/-- A plain text is scanned to the next line. -/
theorem scans_plain {cs : List Char} (plain : isPlainText cs = true) (ne : cs ≠ []) (inside : column ≤ behind)
    (hk : k ≤ column) (visible : Visible t) :
    ∃ s', (placed reversed (column :: indents) none allowed
        (.place line behind (' ' :: (cs ++ '\n' :: (blanks k ++ t))))).Scans s' ∧
      s'.Arrives (.scalar (String.ofList cs) .plain :: reversed) (column :: indents) k t := by
  obtain ⟨x, r, rfl⟩ := List.exists_cons_of_ne_nil ne
  have first := visible_of_isPlainText plain (r ++ '\n' :: (blanks k ++ t))
  obtain ⟨blank, line', -⟩ := first x rfl
  have start : startsWithIndicator (x :: (r ++ '\n' :: (blanks k ++ t))) = false := by
    have start := startsWithIndicator_of_isPlainText plain
    rwa [startsWithIndicator, atGap_append r _ rfl]
  obtain ⟨next, later, moves⟩ := Cursor.exists_behind_nextLine (x :: r) (b := '\n') rfl k line (behind + 1)
  have moved := Cursor.moveTo_place (x :: r ++ '\n' :: blanks k) t line (behind + 1)
  rw [moves, List.append_assoc, List.cons_append, List.cons_append] at moved
  have fetches : (placed reversed (column :: indents) none allowed
      (.place line (behind + 1) (x :: (r ++ '\n' :: (blanks k ++ t))))).fetch x (r ++ '\n' :: (blanks k ++ t)) =
        some (placed (.scalar (String.ofList (x :: r)) .plain :: reversed) (column :: indents)
          (saved reversed (column :: indents) allowed (.place line (behind + 1) (x :: (r ++ '\n' :: (blanks k ++ t)))))
          true (.place next k t)) := by
    rw [fetch_plain rfl start blank line' fun h => absurd h (Nat.succ_ne_zero behind)]
    refine (plainScalar_placed (p := ⟨x :: r, true, t⟩) ?_).trans (by rw [moved])
    exact readPlain_text plain ne (Nat.lt_succ_of_le hk) visible
  rw [List.cons_append]
  refine ⟨_, scans_scalar first inside fetches ?_,
    arrives_placed visible (spent_saved (Nat.lt_succ_of_le inside) later)⟩
  simp only [placed, Cursor.place, List.length_append, List.length_cons]
  omega

/-- A quoted text is scanned to the end of its line. -/
theorem scans_quoted {q : Char} {read : List Char → Option (List Char × List Char)} {body cs : List Char}
    (quote : ∀ (s : Scanner) r, s.fetch q r = s.quotedScalar read r) (hq : Visible [q]) (inside : column ≤ behind)
    (visible : Visible t) (reads : read (body ++ '\n' :: (blanks k ++ t)) = some (cs, '\n' :: (blanks k ++ t))) :
    ∃ s', (placed reversed (column :: indents) none allowed
        (.place line behind (' ' :: q :: (body ++ '\n' :: (blanks k ++ t))))).Scans s' ∧
      s'.Arrives (.scalar (String.ofList cs) .quoted :: reversed) (column :: indents) k t := by
  have moved := Cursor.moveTo_place (q :: body) ('\n' :: (blanks k ++ t)) line (behind + 1)
  have later := Cursor.le_behind (q :: body) line (behind + 1)
  have fetches : (placed reversed (column :: indents) none allowed
      (.place line (behind + 1) (q :: (body ++ '\n' :: (blanks k ++ t))))).fetch q (body ++ '\n' :: (blanks k ++ t)) =
        some (placed (.scalar (String.ofList cs) .quoted :: reversed) (column :: indents)
          (saved reversed (column :: indents) allowed
            (.place line (behind + 1) (q :: (body ++ '\n' :: (blanks k ++ t)))))
          false (.place (Cursor.behind line (behind + 1) (q :: body)).1 (Cursor.behind line (behind + 1) (q :: body)).2
            ('\n' :: (blanks k ++ t)))) := by
    rw [quote, quotedScalar_placed reads, ← moved]
    rfl
  refine ⟨_, scans_scalar (fun x hx => hq x hx) inside fetches ?_,
    arrives_nextLine visible (spent_saved (Nat.lt_succ_of_le inside) (Nat.lt_succ_of_le later))⟩
  simp only [placed, Cursor.place, List.length_append, List.length_cons]
  omega

/-- A literal block is scanned to the line behind it. -/
theorem scans_literal {cs : List Char} (ne : cs ≠ []) (printable : ∀ c ∈ cs, isPrintable c = true)
    (inside : column ≤ behind) (hk : k ≤ column) (visible : Visible t) :
    ∃ s', (placed reversed (column :: indents) none allowed
        (.place line behind (' ' :: (literal (column + 2) cs ++ (blanks k ++ t))))).Scans s' ∧
      s'.Arrives (.scalar (String.ofList cs) .literal :: reversed) (column :: indents) k t := by
  obtain ⟨body, b, ends, hb⟩ := exists_literal_concat (column + 2) cs
  obtain ⟨next, -, moves⟩ := Cursor.exists_behind_nextLine body hb k line (behind + 1)
  have moved := Cursor.moveTo_place (body ++ b :: blanks k) t line (behind + 1)
  have written : body ++ b :: blanks k ++ t = '|' :: (literalBody (column + 2) cs ++ (blanks k ++ t)) := by
    rw [← List.cons_append, ← literal_eq, ends]
    simp
  rw [moves, written] at moved
  have fetches : (placed reversed (column :: indents) none allowed
      (.place line (behind + 1) ('|' :: (literalBody (column + 2) cs ++ (blanks k ++ t))))).fetch '|'
        (literalBody (column + 2) cs ++ (blanks k ++ t)) =
      some (placed (.scalar (String.ofList cs) .literal :: reversed) (column :: indents) none true
        (.place next k t)) := by
    have indicator : ∀ (s : Scanner) r, s.inFlow = false → s.fetch '|' r = s.blockScalar false r := by
      intro s r flow
      simp [fetch, flow, atDocumentMark]
    rw [indicator _ _ rfl]
    refine (blockScalar_placed t ?_).trans (by rw [moved])
    exact readBlock_literal ne printable hk visible
  rw [literal_eq, List.cons_append]
  refine ⟨_, scans_scalar (by simp [Visible, isBlank, isBreak]) inside fetches ?_, arrives_placed visible nofun⟩
  simp only [placed, Cursor.place, List.length_append]
  omega

theorem scans_double (cs : List Char) (inside : column ≤ behind) (visible : Visible t) :
    ∃ s', (placed reversed (column :: indents) none allowed
        (.place line behind (' ' :: (double cs ++ '\n' :: (blanks k ++ t))))).Scans s' ∧
      s'.Arrives (.scalar (String.ofList cs) .quoted :: reversed) (column :: indents) k t := by
  have quote : ∀ (s : Scanner) r, s.fetch '"' r = s.quotedScalar readDouble r := fun s r => by
    simp [fetch, atDocumentMark]
  have reads := readDouble_flatMap ('\n' :: (blanks k ++ t)) cs
  rw [List.append_cons] at reads
  exact scans_quoted quote (by simp [Visible, isBlank, isBreak]) inside visible reads

theorem scans_single {cs : List Char} (single : isSingleText cs = true) (inside : column ≤ behind)
    (visible : Visible t) :
    ∃ s', (placed reversed (column :: indents) none allowed
        (.place line behind (' ' :: (Yaml.single (column + 2) cs ++ '\n' :: (blanks k ++ t))))).Scans s' ∧
      s'.Arrives (.scalar (String.ofList cs) .quoted :: reversed) (column :: indents) k t := by
  have quote : ∀ (s : Scanner) r, s.fetch '\'' r = s.quotedScalar readSingle r := fun s r => by
    simp [fetch, atDocumentMark]
  have reads : readSingle (singleChars (column + 2) false cs ++ '\'' :: '\n' :: (blanks k ++ t)) =
      some (cs, '\n' :: (blanks k ++ t)) := readSingle_singleChars (Nat.succ_ne_zero _) single (by simp)
  rw [List.append_cons] at reads
  exact scans_quoted quote (by simp [Visible, isBlank, isBreak]) inside visible reads

end

end Scanner

/-- The style in which a text is written. -/
def textStyle (s : String) : Style :=
  if s.toList.contains '\n' then if isLiteralText s.toList then .literal else .quoted
  else if isPlainText s.toList && !isAmbiguous s then .plain
  else .quoted

/-- What can be written for a text, with its style. -/
inductive WrittenText (column : Nat) (s : String) : List Char → Style → Prop where
  | literal (ne : s.toList ≠ []) (block : isLiteralText s.toList = true) :
      WrittenText column s (literal column s.toList) .literal
  | plain (ne : s.toList ≠ []) (plain : isPlainText s.toList = true) :
      WrittenText column s (s.toList ++ ['\n']) .plain
  | single (single : isSingleText s.toList = true) :
      WrittenText column s (Yaml.single column s.toList ++ ['\n']) .quoted
  | double : WrittenText column s (double s.toList ++ ['\n']) .quoted

theorem writtenText (column : Nat) (s : String) : WrittenText column s (writeText column s) (textStyle s) := by
  rw [writeText, textStyle, flowText]
  split
  next feed =>
    split
    next block => exact .literal (by rintro h; simp [h] at feed) block
    next => exact .double
  next =>
    split
    next plain =>
      simp only [Bool.and_eq_true, Bool.not_eq_true'] at plain
      refine .plain (fun empty => ?_) plain.1
      rw [String.toList_eq_nil_iff.1 empty] at plain
      exact absurd plain.2 (by decide)
    next =>
      split
      next single => exact .single single
      next => exact .double

namespace Scanner

section
variable {reversed : List Token} {column : Nat} {indents : List Nat} {allowed : Bool} {line behind k : Nat}
  {t : List Char}

/-- A text is scanned in whichever style it is written. -/
theorem scans_text (s : String) (inside : column ≤ behind) (hk : k ≤ column) (visible : Visible t) :
    ∃ s', (placed reversed (column :: indents) none allowed
        (.place line behind (' ' :: (writeText (column + 2) s ++ (blanks k ++ t))))).Scans s' ∧
      s'.Arrives (.scalar s (textStyle s) :: reversed) (column :: indents) k t := by
  have written := writtenText (column + 2) s
  generalize writeText (column + 2) s = cs, textStyle s = style at written ⊢
  cases written with
  | literal ne block =>
    simp only [isLiteralText, Bool.and_eq_true, Bool.not_eq_true'] at block
    simpa using scans_literal ne (isPrintable_of_hasSpecial block.2) inside hk visible
  | plain ne plain => simpa using scans_plain plain ne inside hk visible
  | single single => simpa using scans_single single inside visible
  | double => simpa using scans_double s.toList inside visible

end

end Scanner

end Yaml

end PeerTaint
