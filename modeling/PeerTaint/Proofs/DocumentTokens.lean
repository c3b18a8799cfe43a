import PeerTaint.Proofs.Scanning

/-!
Written documents are scanned into the tokens of the trees they were written from.

The text of a value is followed by a line that is indented no further than its key. Under this condition the
text of a tree is scanned into its tokens, by induction on the tree and over the entries of a mapping. What is
written is printable, so that the scanner sees it as it is.
-/

namespace PeerTaint

namespace Yaml

/-! ## Trees -/

/-- The tokens of an item in a sequence of texts. -/
def itemTokens (s : String) : List Token := [.blockEntry, .scalar s (textStyle s)]

mutual

/-- The tokens of a tree. -/
def Tree.tokens : Tree → List Token
  | .word s => [.scalar s .plain]
  | .text s => [.scalar s (textStyle s)]
  | .texts [] => [.flowSequenceStart, .flowSequenceEnd]
  | .texts items => items.flatMap itemTokens
  | .map entries => .blockMappingStart :: entryTokens entries ++ [.blockEnd]

/-- The tokens of a mapping's entries. -/
def entryTokens : List (String × Tree) → List Token
  | [] => []
  | (key, value) :: entries => .key :: .scalar key .plain :: .value :: value.tokens ++ entryTokens entries

end

/-- Trees whose text can be read back: words need no quotes, and mappings have entries, with names as keys. -/
inductive Tree.Legible : Tree → Prop where
  | word {s : String} (ne : s ≠ "") (plain : isPlainText s.toList = true) : Legible (.word s)
  | text (s : String) : Legible (.text s)
  | texts (items : List String) : Legible (.texts items)
  | map {entries : List (String × Tree)} (ne : entries ≠ []) (names : ∀ e ∈ entries, IsName e.1)
      (values : ∀ e ∈ entries, Legible e.2) : Legible (.map entries)

/-! ## Lines behind a value -/

/-- Text that can follow a value: its first line is not indented any further. -/
def Follows (column : Nat) (rest : List Char) : Prop := ∃ k t, k ≤ column ∧ Visible t ∧ rest = blanks k ++ t

theorem Follows.mono {column column' : Nat} {rest : List Char} (h : Follows column rest) (le : column ≤ column') :
    Follows column' rest := by
  obtain ⟨k, t, hk, visible, rfl⟩ := h
  exact ⟨k, t, Nat.le_trans hk le, visible, rfl⟩

theorem follows_items {column : Nat} {rest : List Char} (h : Follows column rest) (items : List String) :
    Follows column (writeItems column items ++ rest) := by
  cases items with
  | nil => exact h
  | cons s items =>
    refine ⟨column, '-' :: ' ' :: writeText (column + 2) s ++ writeItems column items ++ rest, Nat.le_refl _, ?_, ?_⟩
    · simp [Visible, isBlank, isBreak]
    · simp [writeItems]

theorem IsName.visible {key : String} (h : IsName key) (rest : List Char) : Visible (key.toList ++ rest) := by
  have plain := h.isWord.isPlainText
  obtain ⟨x, r, hk⟩ := h.exists_cons
  rw [hk] at plain ⊢
  exact visible_of_isPlainText plain (r ++ rest)

theorem follows_entries {column : Nat} {rest : List Char} (h : Follows column rest) {entries : List (String × Tree)}
    (names : ∀ e ∈ entries, IsName e.1) : Follows column (writeEntries column entries ++ rest) := by
  cases entries with
  | nil => exact h
  | cons e entries =>
    obtain ⟨key, value⟩ := e
    refine ⟨column, key.toList ++ (':' :: writeValue column value ++ writeEntries column entries ++ rest),
      Nat.le_refl _, (names _ List.mem_cons_self).visible _, ?_⟩
    simp [writeEntries]

namespace Scanner

/-- The scanner arrives at a text behind its indentation. -/
def Meets (s : Scanner) (reversed : List Token) (indents : List Nat) (text : List Char) : Prop :=
  s.Arrives reversed indents (text.takeWhile (· = ' ')).length (text.dropWhile (· = ' '))

theorem meets_iff {s : Scanner} {reversed : List Token} {indents : List Nat} {k : Nat} {t : List Char}
    (visible : Visible t) : s.Meets reversed indents (blanks k ++ t) ↔ s.Arrives reversed indents k t := by
  have space : ∀ b ∈ blanks k, decide (b = ' ') = true := fun b hb => decide_eq_true (List.eq_of_mem_replicate hb)
  have none : t.takeWhile (· = ' ') = [] ∧ t.dropWhile (· = ' ') = t := by
    cases t with
    | nil => exact ⟨rfl, rfl⟩
    | cons x t =>
      have blank := (visible x rfl).1
      simp only [isBlank, Bool.or_eq_false_iff, decide_eq_false_iff_not] at blank
      simp [blank.1]
  rw [Meets, List.takeWhile_append_of_pos space, List.dropWhile_append_of_pos space, none.1, none.2, List.append_nil,
    blanks, List.length_replicate]

section
variable {s : Scanner} {reversed reversed' : List Token} {indents indents' : List Nat} {column line behind : Nat}
  {rest : List Char}

/-- A block ends in front of text that is not indented as its entries are. -/
theorem Meets.close {k : Nat} (h : s.Meets reversed (k :: indents) rest) (follows : Follows column rest)
    (deeper : column < k) : s.Meets (.blockEnd :: reversed) indents rest := by
  obtain ⟨j, t, hj, visible, rfl⟩ := follows
  rw [meets_iff visible] at h ⊢
  exact h.close (Nat.lt_of_le_of_lt hj deeper)

theorem meets_nextLine (follows : Follows column rest) (allowed : Bool) :
    (placed reversed indents none allowed (.place line behind ('\n' :: rest))).Meets reversed indents rest := by
  obtain ⟨k, t, -, visible, rfl⟩ := follows
  exact (meets_iff visible).2 (arrives_nextLine visible nofun)

/-! ## Sequences -/

theorem scans_text_follows (s : String) (inside : column ≤ behind) (follows : Follows column rest) (allowed : Bool) :
    ∃ s', (placed reversed (column :: indents) none allowed
        (.place line behind (' ' :: (writeText (column + 2) s ++ rest)))).Scans s' ∧
      s'.Meets (.scalar s (textStyle s) :: reversed) (column :: indents) rest := by
  obtain ⟨k, t, hk, visible, rfl⟩ := follows
  simpa only [meets_iff visible] using scans_text s inside hk visible

/-- The hyphen of an item at the column of a mapping opens no block. -/
theorem fetch_hyphen (r : List Char) (line : Nat) :
    (placed reversed (column :: indents) none true (.place line column ('-' :: ' ' :: r))).fetch '-' (' ' :: r) =
      some (placed (.blockEntry :: reversed) (column :: indents) none true (.place line (column + 1) (' ' :: r))) := by
  have entry : (placed reversed (column :: indents) none true (.place line column ('-' :: ' ' :: r))).blockEntry =
      some (placed (.blockEntry :: reversed) (column :: indents) none true (.place line (column + 1) (' ' :: r))) := by
    rw [blockEntry, if_neg (by simp [placed])]
    change Option.map _ ((placed reversed (column :: indents) none true _).openBlock column _ _).dropKey = _
    rw [openBlock_stays]
    rfl
  rw [← entry]
  simp [fetch, atDocumentMark, atGap, isBlank]

/-- An item of a sequence at the column of its key. -/
theorem Meets.scans_item {x : String}
    (h : s.Meets reversed (column :: indents) (blanks column ++ '-' :: ' ' :: (writeText (column + 2) x ++ rest)))
    (follows : Follows column rest) :
    ∃ s', s.Scans s' ∧ s'.Meets ((itemTokens x).reverse ++ reversed) (column :: indents) rest := by
  rw [meets_iff (by simp [Visible, isBlank, isBreak])] at h
  have hyphen : ∃ s', s.Scans s' ∧ ∃ line, s' = placed (.blockEntry :: reversed) (column :: indents) none true
      (.place line (column + 1) (' ' :: (writeText (column + 2) x ++ rest))) := by
    exact h.scans (by simp) fun line => ⟨_, fetch_hyphen _ line, Nat.le_refl _, line, rfl⟩
  obtain ⟨s₁, scans, line, rfl⟩ := hyphen
  obtain ⟨s', scans', meets⟩ := scans_text_follows x (Nat.le_succ column) follows true
  exact ⟨s', scans.trans scans', meets⟩

theorem Meets.scans_items (items : List String)
    (h : s.Meets reversed (column :: indents) (writeItems column items ++ rest)) (follows : Follows column rest) :
    ∃ s', s.Scans s' ∧ s'.Meets ((items.flatMap itemTokens).reverse ++ reversed) (column :: indents) rest := by
  induction items generalizing s reversed with
  | nil => exact ⟨s, .refl s, h⟩
  | cons x items ih =>
    have first : s.Meets reversed (column :: indents)
        (blanks column ++ '-' :: ' ' :: (writeText (column + 2) x ++ (writeItems column items ++ rest))) := by
      simpa [writeItems] using h
    obtain ⟨s₁, scans₁, meets₁⟩ := first.scans_item (follows_items follows items)
    obtain ⟨s₂, scans₂, meets₂⟩ := ih meets₁
    exact ⟨s₂, scans₁.trans scans₂, by simpa using meets₂⟩

/-- The scanner inside brackets. -/
def bracketed (reversed : List Token) (indents : List Nat) (cursor : Cursor) : Scanner :=
  { placed reversed indents none true cursor with outer := [none] }

/-- A sequence without items is written between brackets. -/
theorem scans_brackets (inside : column ≤ behind) (follows : Follows column rest) :
    ∃ s', (placed reversed (column :: indents) none false
        (.place line behind (' ' :: '[' :: ']' :: '\n' :: rest))).Scans s' ∧
      s'.Meets (.flowSequenceEnd :: .flowSequenceStart :: reversed) (column :: indents) rest := by
  have bracket : Visible (']' :: '\n' :: rest) := by simp [Visible, isBlank, isBreak]
  have opens : (placed reversed (column :: indents) none false
      (.place line behind (' ' :: '[' :: ']' :: '\n' :: rest))).Scans
        (bracketed (.flowSequenceStart :: reversed) (column :: indents)
          (.place line (behind + 2) (']' :: '\n' :: rest))) := by
    refine scans_scalar (by simp [Visible, isBlank, isBreak]) inside ?_ (Nat.le_refl _)
    simp [fetch, atDocumentMark]
    rfl
  have closes : (bracketed (.flowSequenceStart :: reversed) (column :: indents)
      (.place line (behind + 2) (']' :: '\n' :: rest))).Scans
        (placed (.flowSequenceEnd :: .flowSequenceStart :: reversed) (column :: indents) none false
          (.place line (behind + 3) ('\n' :: rest))) := by
    refine .of_fetch (toNextToken_eq (skipGap_visible bracket true true _ 0)) rfl ?_ (Nat.lt_succ_self _)
    simp [fetch, atDocumentMark]
    rfl
  exact ⟨_, opens.trans closes, meets_nextLine follows false⟩

/-! ## Mappings -/

/-- A value is scanned from the colon of its key to the text behind it. -/
def Scannable (v : Tree) : Prop :=
  ∀ {reversed : List Token} {column : Nat} {indents : List Nat} {line behind : Nat} {rest : List Char},
    column ≤ behind → Follows column rest →
      ∃ s', (placed reversed (column :: indents) none false
          (.place line behind (writeValue column v ++ rest))).Scans s' ∧
        s'.Meets (v.tokens.reverse ++ reversed) (column :: indents) rest

theorem atGap_writeValue (v : Tree) (rest : List Char) : atGap (writeValue column v ++ rest) = true := by
  rcases v with s | s | (_ | _) | entries <;> rfl

/-- An entry of a mapping, which may open it. -/
theorem Meets.scans_entry {key : String} {v : Tree}
    (h : s.Meets reversed indents (blanks column ++ (key.toList ++ ':' :: (writeValue column v ++ rest))))
    (block : Block column reversed indents reversed' (column :: indents')) (name : IsName key) (value : Scannable v)
    (follows : Follows column rest) :
    ∃ s', s.Scans s' ∧
      s'.Meets ((.key :: .scalar key .plain :: .value :: v.tokens).reverse ++ reversed') (column :: indents') rest := by
  rw [meets_iff (name.visible _)] at h
  obtain ⟨line, behind, inside, scans⟩ := h.scans_key name block (atGap_writeValue v rest)
  obtain ⟨s', scans', meets⟩ := value (Nat.le_of_lt inside) follows
  exact ⟨s', scans.trans scans', by simpa using meets⟩

theorem Meets.scans_entries {entries : List (String × Tree)} (names : ∀ e ∈ entries, IsName e.1)
    (values : ∀ e ∈ entries, Scannable e.2)
    (h : s.Meets reversed (column :: indents) (writeEntries column entries ++ rest)) (follows : Follows column rest) :
    ∃ s', s.Scans s' ∧ s'.Meets ((entryTokens entries).reverse ++ reversed) (column :: indents) rest := by
  induction entries generalizing s reversed with
  | nil => exact ⟨s, .refl s, h⟩
  | cons e entries ih =>
    obtain ⟨key, v⟩ := e
    have names' := fun e he => names e (List.mem_cons_of_mem _ he)
    have first : s.Meets reversed (column :: indents)
        (blanks column ++ (key.toList ++ ':' :: (writeValue column v ++ (writeEntries column entries ++ rest)))) := by
      simpa [writeEntries] using h
    obtain ⟨s₁, scans₁, meets₁⟩ := first.scans_entry (.stays _ _) (names _ List.mem_cons_self)
      (values _ List.mem_cons_self) (follows_entries follows names')
    obtain ⟨s₂, scans₂, meets₂⟩ := ih names' (fun e he => values e (List.mem_cons_of_mem _ he)) meets₁
    exact ⟨s₂, scans₁.trans scans₂, by simpa [entryTokens] using meets₂⟩

/-- A mapping is opened by its first key. -/
theorem Meets.scans_map {entries : List (String × Tree)} (ne : entries ≠ []) (names : ∀ e ∈ entries, IsName e.1)
    (values : ∀ e ∈ entries, Scannable e.2) (h : s.Meets reversed indents (writeEntries column entries ++ rest))
    (deeper : ∀ k ∈ indents.head?, k < column) (follows : Follows column rest) :
    ∃ s', s.Scans s' ∧
      s'.Meets ((entryTokens entries).reverse ++ .blockMappingStart :: reversed) (column :: indents) rest := by
  obtain ⟨⟨key, v⟩, entries, rfl⟩ := List.exists_cons_of_ne_nil ne
  have names' := fun e he => names e (List.mem_cons_of_mem _ he)
  have first : s.Meets reversed indents
      (blanks column ++ (key.toList ++ ':' :: (writeValue column v ++ (writeEntries column entries ++ rest)))) := by
    simpa [writeEntries] using h
  obtain ⟨s₁, scans₁, meets₁⟩ := first.scans_entry (.opens _ deeper) (names _ List.mem_cons_self)
    (values _ List.mem_cons_self) (follows_entries follows names')
  obtain ⟨s₂, scans₂, meets₂⟩ := meets₁.scans_entries names' (fun e he => values e (List.mem_cons_of_mem _ he)) follows
  exact ⟨s₂, scans₁.trans scans₂, by simpa [entryTokens] using meets₂⟩

end

end Scanner

open Scanner

/-- The text of a legible value is scanned into its tokens. -/
theorem Tree.Legible.scannable {v : Tree} (h : v.Legible) : Scannable v := by
  induction h with
  | @word s ne plain =>
    intro reversed column indents line behind rest inside follows
    obtain ⟨k, t, hk, visible, rfl⟩ := follows
    have nonempty : s.toList ≠ [] := fun empty => ne (String.toList_eq_nil_iff.1 empty)
    simpa [writeValue, Tree.tokens, meets_iff visible] using scans_plain plain nonempty inside hk visible
  | text s =>
    intro reversed column indents line behind rest inside follows
    exact scans_text_follows s inside follows false
  | texts items =>
    intro reversed column indents line behind rest inside follows
    cases items with
    | nil => exact scans_brackets inside follows
    | cons x items =>
      exact Meets.scans_items (x :: items) (meets_nextLine (follows_items follows (x :: items)) false) follows
  | @map entries ne names _ values =>
    intro reversed column indents line behind rest inside follows
    have follows' := follows.mono (Nat.le_add_right column 2)
    have start : (placed reversed (column :: indents) none false
        (.place line behind ('\n' :: (writeEntries (column + 2) entries ++ rest)))).Meets reversed (column :: indents)
          (writeEntries (column + 2) entries ++ rest) := meets_nextLine (follows_entries follows' names) false
    obtain ⟨s', scans, meets⟩ := start.scans_map ne names values (by simp) follows'
    exact ⟨s', scans, by simpa [Tree.tokens] using meets.close follows (by omega)⟩

/-- At the end of the text the outermost mapping is closed. -/
theorem Scanner.Arrives.outputs {s : Scanner} {reversed : List Token} (h : s.Arrives reversed [0] 0 []) :
    s.Outputs (.blockEnd :: reversed).reverse := by
  obtain ⟨-, line, next⟩ := h
  rw [closeBlocks_inside (by simp)] at next
  intro fuel enough
  obtain ⟨fuel, rfl⟩ := Nat.exists_eq_add_one_of_ne_zero (Nat.ne_of_gt (Nat.zero_lt_of_lt enough))
  rw [run, next]
  rfl

/-- The text of a mapping is scanned into its tokens. -/
theorem outputs_writeEntries {entries : List (String × Tree)} (h : (Tree.map entries).Legible) :
    Outputs { cursor := .start (writeEntries 0 entries) } (Tree.map entries).tokens := by
  obtain _ | _ | _ | ⟨ne, names, values⟩ := h
  have follows : Follows 0 [] := ⟨0, [], Nat.le_refl 0, nofun, rfl⟩
  have start : (placed [] [] none true (.place 0 0 (writeEntries 0 entries ++ []))).Meets [] []
      (writeEntries 0 entries ++ []) := by
    obtain ⟨k, t, hk, visible, eq⟩ := follows_entries follows names
    obtain rfl : k = 0 := Nat.le_zero.1 hk
    rw [eq]
    exact (meets_iff visible).2 (arrives_placed visible nofun)
  obtain ⟨s', scans, meets⟩ := start.scans_map ne names (fun e he => (values e he).scannable) nofun follows
  have outputs := scans _ (Arrives.outputs meets)
  have tokens : (Token.blockEnd :: ((entryTokens entries).reverse ++ [.blockMappingStart])).reverse =
      (Tree.map entries).tokens := by
    simp [Tree.tokens]
  rw [List.append_nil, tokens] at outputs
  exact outputs

/-! ## Characters -/

/-- Text of characters that are written as themselves. -/
def Printable (cs : List Char) : Prop := ∀ c ∈ cs, isPrintable c = true

instance (cs : List Char) : Decidable (Printable cs) := List.decidableBAll _ cs

theorem printable_nil : Printable [] := List.forall_mem_nil _

theorem printable_append {xs ys : List Char} : Printable (xs ++ ys) ↔ Printable xs ∧ Printable ys :=
  List.forall_mem_append

theorem printable_cons {c : Char} {cs : List Char} : Printable (c :: cs) ↔ isPrintable c = true ∧ Printable cs :=
  List.forall_mem_cons

theorem printable_blanks (k : Nat) : Printable (blanks k) := fun c hc => by
  rw [List.eq_of_mem_replicate hc]
  rfl

theorem isAdmissible_of_isPrintable {c : Char} (h : isPrintable c = true) : isAdmissible c = true := by
  simp only [isPrintable, isAdmissible, inRanges, List.any_cons, List.any_nil, Bool.or_false, Bool.or_eq_true,
    Bool.and_eq_true, decide_eq_true_eq] at h ⊢
  omega

/-- The line ends of printable text are uniform. -/
theorem uniformBreaks_of_printable {cs : List Char} (h : Printable cs) : uniformBreaks cs = cs := by
  induction cs with
  | nil => rfl
  | cons c cs ih =>
    obtain ⟨hc, hcs⟩ := printable_cons.1 h
    have carriage : c ≠ '\r' := by
      rintro rfl
      exact absurd hc (by decide)
    have next : c ≠ '\u0085' := by
      rintro rfl
      exact absurd hc (by decide)
    rw [uniformBreaks, ih hcs, if_neg (by simp [carriage, next])]
    exact fun _ h => absurd h carriage

theorem printable_indentIf (broken : Bool) (column : Nat) : Printable (indentIf broken column) := by
  cases broken with
  | false => exact printable_nil
  | true => exact printable_blanks column

theorem printable_singleChars {cs : List Char} (h : Printable cs) (column : Nat) (broken : Bool) :
    Printable (singleChars column broken cs) := by
  induction cs generalizing broken with
  | nil => exact printable_indentIf broken column
  | cons c cs ih =>
    obtain ⟨hc, hcs⟩ := printable_cons.1 h
    rw [singleChars]
    split
    · refine printable_append.2 ⟨?_, ih hcs true⟩
      split
      · decide
      · exact printable_cons.2 ⟨hc, printable_nil⟩
    · refine printable_append.2 ⟨printable_append.2 ⟨printable_indentIf broken column, ?_⟩, ih hcs false⟩
      split
      · decide
      · exact printable_cons.2 ⟨hc, printable_nil⟩

theorem printable_literalChars {cs : List Char} (h : Printable cs) (column : Nat) (broken : Bool) :
    Printable (literalChars column broken cs) := by
  induction cs generalizing broken with
  | nil => exact printable_nil
  | cons c cs ih =>
    obtain ⟨hc, hcs⟩ := printable_cons.1 h
    rw [literalChars]
    split
    · exact printable_cons.2 ⟨hc, ih hcs true⟩
    · exact printable_append.2 ⟨printable_indentIf broken column, printable_cons.2 ⟨hc, ih hcs false⟩⟩

theorem printable_literal {cs : List Char} (h : Printable cs) (column : Nat) : Printable (literal column cs) := by
  have indentation : Printable (if startsOpen cs then ['2'] else []) := by split <;> decide
  have sign : Printable (literalChomping cs).sign := by cases literalChomping cs <;> decide
  have ending : Printable (literalEnd cs) := by
    rw [literalEnd]
    split <;> decide
  simp only [literal_eq, literalBody, printable_cons, printable_append]
  exact ⟨rfl, ⟨indentation, sign⟩, rfl, printable_literalChars h column true, ending⟩

theorem printable_hexDigits (width n : Nat) : Printable (hexDigits width n) := by
  have digit : ∀ d < 16, isPrintable (upperHexDigit d) = true := by decide
  induction width generalizing n with
  | zero => exact printable_nil
  | succ width ih =>
    rw [hexDigits]
    exact printable_append.2 ⟨ih _, printable_cons.2 ⟨digit _ (Nat.mod_lt n (by decide)), printable_nil⟩⟩

theorem printable_escapeSequence (c : Char) : Printable (escapeSequence c) := by
  have letter : ∀ l, escapeLetter? c = some l → isPrintable l = true := by
    intro l h
    unfold escapeLetter? at h
    split at h <;> cases h <;> rfl
  rw [escapeSequence]
  split
  next l hl => exact printable_cons.2 ⟨rfl, printable_cons.2 ⟨letter l hl, printable_nil⟩⟩
  next =>
    split
    · exact printable_cons.2 ⟨rfl, printable_cons.2 ⟨rfl, printable_hexDigits 2 _⟩⟩
    · split
      · exact printable_cons.2 ⟨rfl, printable_cons.2 ⟨rfl, printable_hexDigits 4 _⟩⟩
      · exact printable_cons.2 ⟨rfl, printable_cons.2 ⟨rfl, printable_hexDigits 8 _⟩⟩

theorem printable_doubleChar (c : Char) : Printable (doubleChar c) := by
  obtain escaped | ⟨plain, printable, -⟩ := doubleChar_eq c
  · exact escaped ▸ printable_escapeSequence c
  · exact plain ▸ printable_cons.2 ⟨printable, printable_nil⟩

theorem printable_of_isPlainText {cs : List Char} (h : isPlainText cs = true) : Printable cs :=
  fun c hc => ((PlainTail.of_isPlainText h).inline c hc).1

theorem printable_writeText (column : Nat) (s : String) : Printable (writeText column s) := by
  have written := writtenText column s
  generalize writeText column s = cs, textStyle s = style at written ⊢
  cases written with
  | literal ne block =>
    simp only [isLiteralText, Bool.and_eq_true, Bool.not_eq_true'] at block
    exact printable_literal (isPrintable_of_hasSpecial block.2) column
  | plain ne plain => exact printable_append.2 ⟨printable_of_isPlainText plain, by decide⟩
  | single single =>
    have chars := printable_singleChars (SingleText.of_isSingleText single).printable column false
    simp only [Yaml.single, printable_append, printable_cons]
    exact ⟨⟨⟨rfl, chars⟩, rfl, printable_nil⟩, rfl, printable_nil⟩
  | double =>
    have chars : Printable (s.toList.flatMap doubleChar) := by
      intro c hc
      obtain ⟨d, -, hd⟩ := List.mem_flatMap.1 hc
      exact printable_doubleChar d c hd
    simp only [Yaml.double, printable_append, printable_cons]
    exact ⟨⟨⟨rfl, chars⟩, rfl, printable_nil⟩, rfl, printable_nil⟩

theorem printable_writeItems (column : Nat) (items : List String) : Printable (writeItems column items) := by
  intro c hc
  obtain ⟨s, -, hs⟩ := List.mem_flatMap.1 hc
  exact (printable_append.2 ⟨printable_blanks column, printable_cons.2 ⟨rfl, printable_cons.2 ⟨rfl,
    printable_writeText (column + 2) s⟩⟩⟩) c hs

theorem printable_writeEntries {entries : List (String × Tree)} {column : Nat} (names : ∀ e ∈ entries, IsName e.1)
    (values : ∀ e ∈ entries, Printable (writeValue column e.2)) : Printable (writeEntries column entries) := by
  induction entries with
  | nil => exact printable_nil
  | cons e entries ih =>
    obtain ⟨key, v⟩ := e
    have rest := ih (fun e he => names e (List.mem_cons_of_mem _ he)) fun e he => values e (List.mem_cons_of_mem _ he)
    have name : Printable key.toList := fun c hc => (names _ List.mem_cons_self).isWord.printable hc
    have value := values _ List.mem_cons_self
    simp only [writeEntries, printable_append, printable_cons]
    exact ⟨⟨⟨printable_blanks column, name⟩, rfl, value⟩, rest⟩

theorem Tree.Legible.printable {v : Tree} (h : v.Legible) (column : Nat) : Printable (writeValue column v) := by
  induction h generalizing column with
  | @word s ne plain =>
    simp only [writeValue, printable_append, printable_cons]
    exact ⟨⟨rfl, printable_of_isPlainText plain⟩, rfl, printable_nil⟩
  | text s => exact printable_cons.2 ⟨rfl, printable_writeText (column + 2) s⟩
  | texts items =>
    cases items with
    | nil => exact (by decide : Printable [' ', '[', ']', '\n'])
    | cons x items => exact printable_cons.2 ⟨rfl, printable_writeItems column (x :: items)⟩
  | map ne names _ values =>
    exact printable_cons.2 ⟨rfl, printable_writeEntries names fun e he => values e he (column + 2)⟩

/-- The tokens of a written document. -/
theorem tokens?_render {entries : List (String × Tree)} (h : (Tree.map entries).Legible) :
    tokens? (render entries) = some (Tree.map entries).tokens := by
  have printable : Printable (writeEntries 0 entries) := by
    obtain _ | _ | _ | ⟨-, names, values⟩ := h
    exact printable_writeEntries names fun e he => (values e he).printable 0
  have admissible : (writeEntries 0 entries).all isAdmissible = true :=
    List.all_eq_true.2 fun c hc => isAdmissible_of_isPrintable (printable c hc)
  rw [tokens?, render, String.toList_ofList, if_pos admissible, uniformBreaks_of_printable printable]
  exact outputs_writeEntries h _ (Nat.lt_succ_self _)

end Yaml

end PeerTaint
