import Mathlib.Data.List.DropRight
import PeerTaint.Json.Read
import PeerTaint.Json.Write

/-!
JSON text is read back.

`Spells cs j` says that the reader takes `cs` for `j`, whatever follows that cannot belong to a number. There is one
rule for each form of a value, with any blanks between its parts, so the same rules serve for both ways of writing.
-/

namespace PeerTaint

namespace Json

/-- A value that text can express: no part of it is garbled or a number in another form. -/
inductive Plain : Json → Prop
  | null : Plain null
  | bool (b : Bool) : Plain (bool b)
  | nat (n : Nat) : Plain (nat n)
  | str (s : String) : Plain (str s)
  | arr {items : List Json} (h : ∀ v ∈ items, Plain v) : Plain (arr items)
  | obj {members : List (String × Json)} (h : ∀ m ∈ members, Plain m.2) : Plain (obj members)

/-! ## Blanks -/

/-- A text of blanks. -/
def Blanks (gap : List Char) : Prop := ∀ c ∈ gap, isBlank c = true

theorem blanks_nil : Blanks [] := by
  intro c hc
  cases hc

theorem blanks_newLine (level : Nat) : Blanks (newLine level) := by
  intro c hc
  rcases List.mem_cons.1 hc with rfl | hc
  · rfl
  · rw [List.eq_of_mem_replicate hc]
    rfl

theorem skipBlanks_append {gap : List Char} (h : Blanks gap) (cs : List Char) :
    skipBlanks (gap ++ cs) = skipBlanks cs :=
  List.dropWhile_append_of_pos h

theorem skipBlanks_cons {c : Char} (h : isBlank c = false) (cs : List Char) : skipBlanks (c :: cs) = c :: cs :=
  List.dropWhile_cons_of_neg (by simp [h])

theorem skipBlanks_skipBlanks (cs : List Char) : skipBlanks (skipBlanks cs) = skipBlanks cs :=
  List.dropWhile_idempotent _ _

/-! ## Numbers -/

/-- A text whose first character cannot continue a number. -/
def Closed (cs : List Char) : Prop :=
  ∀ c ∈ cs.head?, Decimal.isDigit c = false ∧ c ≠ '.' ∧ c ≠ 'e' ∧ c ≠ 'E'

theorem closed_nil : Closed [] := by
  intro c hc
  cases hc

theorem closed_cons {c : Char} (h : Decimal.isDigit c = false ∧ c ≠ '.' ∧ c ≠ 'e' ∧ c ≠ 'E') (cs : List Char) :
    Closed (c :: cs) := by
  intro d hd
  cases hd
  exact h

/-- What starts with a blank, or follows blanks, does not continue a number. -/
theorem closed_append {gap cs : List Char} (h : Blanks gap) (closed : Closed cs) : Closed (gap ++ cs) := by
  cases gap with
  | nil => exact closed
  | cons c gap =>
    have blank := h c List.mem_cons_self
    simp only [isBlank, Bool.or_eq_true, decide_eq_true_eq] at blank
    refine closed_cons ?_ _
    rcases blank with ((rfl | rfl) | rfl) | rfl <;> decide

theorem takeWhile_digits {ds cs : List Char} (digits : ∀ c ∈ ds, Decimal.isDigit c = true) (closed : Closed cs) :
    (ds ++ cs).takeWhile Decimal.isDigit = ds ∧ (ds ++ cs).dropWhile Decimal.isDigit = cs := by
  rw [List.takeWhile_append_of_pos digits, List.dropWhile_append_of_pos digits]
  cases cs with
  | nil => simp
  | cons c cs => simp [(closed c rfl).1]

theorem readNatural_digits (n : Nat) {cs : List Char} (closed : Closed cs) :
    readNatural (Decimal.digits n ++ cs) = some (n, cs) := by
  have digits : ∀ c ∈ Decimal.digits n, Decimal.isDigit c = true := fun c hc => Decimal.isDigit_of_mem_digits hc
  obtain ⟨take, drop⟩ := takeWhile_digits digits closed
  rw [readNatural, take, drop]
  split
  next h => exact absurd h (Decimal.digits_ne_nil n)
  next h => cases Decimal.digits_eq_zero h
  next => rw [Decimal.value_digits]

theorem skipFraction_of_closed {cs : List Char} (closed : Closed cs) : skipFraction cs = some cs := by
  unfold skipFraction
  split
  next => exact absurd rfl (closed '.' rfl).2.1
  next => rfl

theorem skipExponent_of_closed {cs : List Char} (closed : Closed cs) : skipExponent cs = some cs := by
  unfold skipExponent
  split
  all_goals first | rfl | exact absurd rfl (closed _ rfl).2.2.1 | exact absurd rfl (closed _ rfl).2.2.2

/-- The first character of a numeral is a digit. -/
theorem digits_eq_cons (n : Nat) : ∃ d ds, Decimal.digits n = d :: ds ∧ Decimal.isDigit d = true := by
  obtain ⟨d, ds, h⟩ := List.exists_cons_of_ne_nil (Decimal.digits_ne_nil n)
  exact ⟨d, ds, h, Decimal.isDigit_of_mem_digits (n := n) (by rw [h]; exact List.mem_cons_self)⟩

theorem readNumber_digits (n : Nat) {cs : List Char} (closed : Closed cs) :
    readNumber (Decimal.digits n ++ cs) = some (nat n, cs) := by
  have unsigned : ∀ rest, Decimal.digits n ++ cs ≠ '-' :: rest := by
    intro rest h
    obtain ⟨d, ds, hd, digit⟩ := digits_eq_cons n
    rw [hd, List.cons_append] at h
    cases h
    exact absurd digit (by decide)
  rw [readNumber]
  · simp [readNatural_digits n closed, skipFraction_of_closed closed, skipExponent_of_closed closed]
  · exact unsigned

/-! ## Texts -/

/-- The piece of a text that a character is written as. -/
def unitOf (c : Char) : TextUnit :=
  if c < ' ' ∧ c ∉ ['\x08', '\x0c', '\n', '\r', '\t'] then .code c.toNat else .char c

theorem hexDigit?_hexDigit : ∀ n < 16, hexDigit? (hexDigit n) = some n := by decide

theorem codeUnit?_control {n : Nat} (h : n < 32) :
    codeUnit? '0' '0' (hexDigit (n / 16)) (hexDigit (n % 16)) = some n := by
  have zero : hexDigit? '0' = some 0 := by decide
  rw [codeUnit?, zero, hexDigit?_hexDigit _ (by omega), hexDigit?_hexDigit _ (by omega)]
  exact congrArg some (by omega : ((0 * 16 + 0) * 16 + n / 16) * 16 + n % 16 = n)

/-- A written character is read as one piece. -/
theorem readUnits_escapeChar (c : Char) (cs : List Char) :
    readUnits (escapeChar c ++ cs) = (readUnits cs).map (unitBefore (unitOf c)) := by
  unfold escapeChar
  split
  iterate 7 rfl
  next quote slash back feed line ret tab =>
    split
    next control =>
      have small : c.toNat < 32 := control
      have unit : unitOf c = .code c.toNat :=
        if_pos ⟨control, by simpa using ⟨back, feed, line, ret, tab⟩⟩
      simp only [List.cons_append, List.nil_append, readUnits, codeUnit?_control small, unit]
    next visible =>
      have unit : unitOf c = .char c := if_neg fun h => visible h.1
      rw [List.cons_append, List.nil_append, readUnits, if_neg (by rintro (h | h); exacts [slash h, visible h]), unit]
      · exact quote
      · intro _ _ _ _ _ h _
        exact slash h
      · intro _ _ h _
        exact slash h

theorem readUnits_flatMap (s cs : List Char) :
    readUnits (s.flatMap escapeChar ++ '"' :: cs) = some (s.map unitOf, cs) := by
  induction s with
  | nil => simp [readUnits]
  | cons c s ih =>
    rw [List.flatMap_cons, List.append_assoc, readUnits_escapeChar, ih]
    rfl

theorem characters?_unitOf (c : Char) (us : List TextUnit) :
    characters? (unitOf c :: us) = (characters? us).map (c :: ·) := by
  unfold unitOf
  split
  next h =>
    have small : c.toNat < 32 := h.1
    have single : isLeading c.toNat = false ∧ isTrailing c.toNat = false := by
      simp only [isLeading, isTrailing, Bool.and_eq_false_iff, decide_eq_false_iff_not]
      omega
    cases us with
    | nil => simp [characters?, single, Char.ofNat_toNat]
    | cons u us => cases u <;> simp [characters?, single, Char.ofNat_toNat]
  next => simp [characters?]

theorem characters?_map (s : List Char) : characters? (s.map unitOf) = some s := by
  induction s with
  | nil => simp [characters?]
  | cons c s ih => rw [List.map_cons, characters?_unitOf, ih]; rfl

theorem readText_quoted (s : String) (cs : List Char) :
    readText (s.toList.flatMap escapeChar ++ '"' :: cs) = some (some s, cs) := by
  simp [readText, readUnits_flatMap, characters?_map]

/-! ## Values -/

/-- The reader takes a text for a value and leaves what follows it. -/
def Spells (cs : List Char) (j : Json) : Prop :=
  ∀ fuel rest, Closed rest → 2 * cs.length < fuel → readValue fuel (cs ++ rest) = some (j, rest)

/-- The reader takes a text for the items of an array, with the closing bracket. -/
def SpellsItems (cs : List Char) (items : List Json) : Prop :=
  ∀ fuel rest, 2 * cs.length < fuel → readItems fuel (cs ++ rest) = some (items, rest)

/-- The reader takes a text for the members of an object, with the closing bracket. -/
def SpellsMembers (cs : List Char) (members : List (String × Json)) : Prop :=
  ∀ fuel rest, 2 * cs.length < fuel →
    readMembers fuel (cs ++ rest) = some (members.map fun m => (some m.1, m.2), rest)

theorem exists_fuel {k fuel : Nat} (h : k < fuel) : ∃ f, fuel = f + 1 := ⟨fuel - 1, by omega⟩

theorem readValue_skipBlanks (fuel : Nat) (cs : List Char) : readValue fuel (skipBlanks cs) = readValue fuel cs := by
  cases fuel with
  | zero => rfl
  | succ fuel => rw [readValue, readValue, skipBlanks_skipBlanks]

theorem readItems_skipBlanks (fuel : Nat) (cs : List Char) : readItems fuel (skipBlanks cs) = readItems fuel cs := by
  cases fuel with
  | zero => rfl
  | succ fuel => rw [readItems, readItems, readValue_skipBlanks]

theorem readMembers_skipBlanks (fuel : Nat) (cs : List Char) :
    readMembers fuel (skipBlanks cs) = readMembers fuel cs := by
  cases fuel with
  | zero => rfl
  | succ fuel => rw [readMembers, readMembers, skipBlanks_skipBlanks]

theorem Spells.gap {cs : List Char} {j : Json} (h : Spells cs j) {gap : List Char} (blanks : Blanks gap) :
    Spells (gap ++ cs) j := by
  intro fuel rest closed enough
  rw [List.append_assoc, ← readValue_skipBlanks, skipBlanks_append blanks, readValue_skipBlanks]
  rw [List.length_append] at enough
  exact h fuel rest closed (by omega)

theorem spells_null : Spells ['n', 'u', 'l', 'l'] null := by
  intro fuel rest closed enough
  obtain ⟨fuel, rfl⟩ := exists_fuel enough
  rfl

theorem spells_bool (b : Bool) : Spells (writeAtom (bool b)) (bool b) := by
  intro fuel rest closed enough
  obtain ⟨fuel, rfl⟩ := exists_fuel enough
  cases b <;> rfl

/-- What starts with a digit is read as a number. -/
theorem readValue_digit (fuel : Nat) {d : Char} (digit : Decimal.isDigit d = true) (cs : List Char) :
    readValue (fuel + 1) (d :: cs) = readNumber (d :: cs) := by
  have other : ∀ c, Decimal.isDigit c = false → d ≠ c := by
    rintro c hc rfl
    rw [digit] at hc
    cases hc
  have visible : isBlank d = false := by
    simp [isBlank, other ' ' rfl, other '\n' rfl, other '\t' rfl, other '\r' rfl]
  rw [readValue, skipBlanks_cons visible]
  split
  next h => exact absurd (List.cons.inj h).1 (other 'n' rfl)
  next h => exact absurd (List.cons.inj h).1 (other 't' rfl)
  next h => exact absurd (List.cons.inj h).1 (other 'f' rfl)
  next h => exact absurd (List.cons.inj h).1 (other '"' rfl)
  next h => exact absurd (List.cons.inj h).1 (other '[' rfl)
  next h => exact absurd (List.cons.inj h).1 (other '\x7b' rfl)
  next => rfl

theorem spells_nat (n : Nat) : Spells (Decimal.digits n) (nat n) := by
  intro fuel rest closed enough
  obtain ⟨fuel, rfl⟩ := exists_fuel enough
  rw [← readNumber_digits n closed]
  obtain ⟨d, ds, hd, digit⟩ := digits_eq_cons n
  rw [hd, List.cons_append]
  exact readValue_digit fuel digit _

theorem spells_str (s : String) : Spells (quoted s) (str s) := by
  intro fuel rest closed enough
  obtain ⟨fuel, rfl⟩ := exists_fuel enough
  have text : readText (s.toList.flatMap escapeChar ++ ['"'] ++ rest) = some (some s, rest) := by
    rw [List.append_assoc]
    exact readText_quoted s rest
  rw [quoted, List.cons_append, List.cons_append, readValue, skipBlanks_cons rfl]
  simp only [text]

/-! ## Arrays -/

theorem spells_arr_nil : Spells ['[', ']'] (arr []) := by
  intro fuel rest closed enough
  obtain ⟨fuel, rfl⟩ := exists_fuel enough
  rfl

/-- An array, from its items and the closing bracket. No item starts with a closing bracket, since it can be read. -/
theorem SpellsItems.spells_arr {cs : List Char} {items : List Json} (h : SpellsItems cs items) :
    Spells ('[' :: cs) (arr items) := by
  intro fuel rest closed enough
  obtain ⟨fuel, rfl⟩ := exists_fuel enough
  rw [List.length_cons] at enough
  have read := h fuel rest (by omega)
  rw [List.cons_append, readValue, skipBlanks_cons rfl]
  simp only
  split
  next r he =>
    rw [← readItems_skipBlanks, he] at read
    cases fuel with
    | zero => cases read
    | succ fuel =>
      have : readValue fuel (']' :: r) = none := by
        cases fuel with
        | zero => rfl
        | succ fuel => rfl
      rw [readItems, this] at read
      cases read
  next => rw [readItems_skipBlanks, read]; rfl

theorem Spells.last {cs : List Char} {j : Json} (h : Spells cs j) {gap : List Char} (blanks : Blanks gap) :
    SpellsItems (cs ++ (gap ++ [']'])) [j] := by
  intro fuel rest enough
  obtain ⟨fuel, rfl⟩ := exists_fuel enough
  simp only [List.length_append, List.length_singleton] at enough
  have closed : Closed (gap ++ ([']'] ++ rest)) := closed_append blanks (closed_cons (by decide) _)
  rw [readItems, List.append_assoc, List.append_assoc, h fuel _ closed (by omega)]
  simp only [skipBlanks_append blanks]
  rfl

theorem Spells.item {cs : List Char} {j : Json} (h : Spells cs j) {ds : List Char} {items : List Json}
    (tail : SpellsItems ds items) : SpellsItems (cs ++ ',' :: ds) (j :: items) := by
  intro fuel rest enough
  obtain ⟨fuel, rfl⟩ := exists_fuel enough
  simp only [List.length_append, List.length_cons] at enough
  rw [readItems, List.append_assoc, List.cons_append, h fuel _ (closed_cons (by decide) _) (by omega)]
  simp only [skipBlanks_cons (rfl : isBlank ',' = false), tail fuel rest (by omega)]
  rfl

/-! ## Objects -/

theorem spells_obj_nil : Spells ['\x7b', '\x7d'] (obj []) := by
  intro fuel rest closed enough
  obtain ⟨fuel, rfl⟩ := exists_fuel enough
  rfl

/-- Reading undoes writing item by item. -/
theorem mapM_map_eq_some {α β : Type} {item : β → Option α} {write : α → β} {as : List α}
    (h : ∀ a ∈ as, item (write a) = some a) : (as.map write).mapM item = some as := by
  induction as with
  | nil => rfl
  | cons a as ih =>
    rw [List.map_cons, List.mapM_cons, h a List.mem_cons_self, ih fun b hb => h b (List.mem_cons_of_mem _ hb)]
    rfl

theorem ofMembers_map (members : List (String × Json)) :
    ofMembers (members.map fun m => (some m.1, m.2)) = obj members := by
  rw [ofMembers, mapM_map_eq_some]
  intro m hm
  rfl

/-- An object, from its members and the closing bracket. No member starts with a closing bracket. -/
theorem SpellsMembers.spells_obj {cs : List Char} {members : List (String × Json)} (h : SpellsMembers cs members) :
    Spells ('\x7b' :: cs) (obj members) := by
  intro fuel rest closed enough
  obtain ⟨fuel, rfl⟩ := exists_fuel enough
  rw [List.length_cons] at enough
  have read := h fuel rest (by omega)
  rw [List.cons_append, readValue, skipBlanks_cons rfl]
  simp only
  split
  next r he =>
    rw [← readMembers_skipBlanks, he] at read
    cases fuel with
    | zero => cases read
    | succ fuel => cases read
  next => rw [readMembers_skipBlanks, read, Option.map_some, ofMembers_map]

/-- A member up to its value: blanks, its key in quotes and a colon. -/
def lead (gap : List Char) (key : String) : List Char := gap ++ (quoted key ++ [':'])

theorem skipBlanks_lead {gap : List Char} (blanks : Blanks gap) (key : String) (cs : List Char) :
    skipBlanks (lead gap key ++ cs) = '"' :: (key.toList.flatMap escapeChar ++ '"' :: ':' :: cs) := by
  rw [lead, List.append_assoc, skipBlanks_append blanks, List.append_assoc, quoted, List.cons_append, List.cons_append,
    skipBlanks_cons rfl, List.append_assoc]
  rfl

theorem Spells.lastMember {cs : List Char} {j : Json} (h : Spells cs j) {gap gap' : List Char} (blanks : Blanks gap)
    (blanks' : Blanks gap') (key : String) :
    SpellsMembers (lead gap key ++ (cs ++ (gap' ++ ['\x7d']))) [(key, j)] := by
  intro fuel rest enough
  obtain ⟨fuel, rfl⟩ := exists_fuel enough
  simp only [List.length_append, List.length_singleton] at enough
  have closed : Closed (gap' ++ (['\x7d'] ++ rest)) := closed_append blanks' (closed_cons (by decide) _)
  rw [List.append_assoc, List.append_assoc, List.append_assoc, readMembers, skipBlanks_lead blanks]
  simp only [readText_quoted, skipBlanks_cons (rfl : isBlank ':' = false), h fuel _ closed (by omega),
    skipBlanks_append blanks']
  rfl

theorem Spells.member {cs : List Char} {j : Json} (h : Spells cs j) {gap : List Char} (blanks : Blanks gap)
    (key : String) {ds : List Char} {members : List (String × Json)} (tail : SpellsMembers ds members) :
    SpellsMembers (lead gap key ++ (cs ++ ',' :: ds)) ((key, j) :: members) := by
  intro fuel rest enough
  obtain ⟨fuel, rfl⟩ := exists_fuel enough
  simp only [List.length_append, List.length_cons] at enough
  have closed : Closed (',' :: (ds ++ rest)) := closed_cons (by decide) _
  rw [List.append_assoc, List.append_assoc, List.cons_append, readMembers, skipBlanks_lead blanks]
  simp only [readText_quoted, skipBlanks_cons (rfl : isBlank ':' = false), h fuel _ closed (by omega),
    skipBlanks_cons (rfl : isBlank ',' = false), tail fuel rest (by omega)]
  rfl

/-! ## Written values -/

/-- Texts with commas between them. -/
def joined {α : Type} (text : α → List Char) : List α → List Char
  | [] => []
  | [a] => text a
  | a :: as => text a ++ ',' :: joined text as

theorem joined_cons_cons {α : Type} (text : α → List Char) (a b : α) (as : List α) :
    joined text (a :: b :: as) = text a ++ ',' :: joined text (b :: as) := by
  rw [joined]
  simp

theorem eq_joined {α : Type} {text : α → List Char} {write : List α → List Char} (none : write [] = [])
    (one : ∀ a, write [a] = text a) (more : ∀ a b as, write (a :: b :: as) = text a ++ ',' :: write (b :: as))
    (as : List α) : write as = joined text as := by
  induction as with
  | nil => exact none
  | cons a as ih =>
    cases as with
    | nil => exact one a
    | cons b as => rw [more, joined_cons_cons, ih]

theorem prettyItems_eq (level : Nat) :
    prettyItems level = joined fun v => newLine level ++ v.prettyChars level :=
  funext (eq_joined rfl (fun _ => rfl) fun _ _ _ => rfl)

theorem prettyMembers_eq (level : Nat) :
    prettyMembers level = joined fun m => lead (newLine level) m.1 ++ ([' '] ++ m.2.prettyChars level) :=
  funext (eq_joined rfl (fun m => by simp [prettyMembers, lead]) fun m n ms => by simp [prettyMembers, lead])

theorem compactItems_eq : compactItems = joined compactChars :=
  funext (eq_joined rfl (fun _ => rfl) fun _ _ _ => rfl)

theorem compactMembers_eq : compactMembers = joined fun m => lead [] m.1 ++ m.2.compactChars :=
  funext (eq_joined rfl (fun m => by simp [compactMembers, lead]) fun m n ms => by simp [compactMembers, lead])

/-- An array is spelled by its items with commas between them. -/
theorem spells_arr_joined (text : Json → List Char) {items : List Json} (ne : items ≠ [])
    (h : ∀ v ∈ items, Spells (text v) v) {gap : List Char} (blanks : Blanks gap) :
    Spells ('[' :: (joined text items ++ (gap ++ [']']))) (arr items) := by
  suffices tail : SpellsItems (joined text items ++ (gap ++ [']'])) items from tail.spells_arr
  induction items with
  | nil => exact absurd rfl ne
  | cons v items ih =>
    have first := h v List.mem_cons_self
    cases items with
    | nil => exact first.last blanks
    | cons w items =>
      have tail := ih (List.cons_ne_nil _ _) fun v hv => h v (List.mem_cons_of_mem _ hv)
      rw [joined_cons_cons, List.append_assoc, List.cons_append]
      exact first.item tail

/-- An object is spelled by its members with commas between them. -/
theorem spells_obj_joined (text : Json → List Char) {members : List (String × Json)} (ne : members ≠ [])
    (h : ∀ m ∈ members, Spells (text m.2) m.2) {gap gap' : List Char} (blanks : Blanks gap) (blanks' : Blanks gap') :
    Spells ('\x7b' :: (joined (fun m => lead gap m.1 ++ text m.2) members ++ (gap' ++ ['\x7d']))) (obj members) := by
  suffices tail : SpellsMembers (joined (fun m => lead gap m.1 ++ text m.2) members ++ (gap' ++ ['\x7d'])) members from
    tail.spells_obj
  induction members with
  | nil => exact absurd rfl ne
  | cons m members ih =>
    have first := h m List.mem_cons_self
    cases members with
    | nil =>
      rw [joined, List.append_assoc]
      exact first.lastMember blanks blanks' m.1
    | cons w members =>
      have tail := ih (List.cons_ne_nil _ _) fun m hm => h m (List.mem_cons_of_mem _ hm)
      rw [joined_cons_cons, List.append_assoc, List.append_assoc, List.cons_append]
      exact first.member blanks m.1 tail

theorem Plain.spells_pretty {j : Json} (h : Plain j) (level : Nat) : Spells (j.prettyChars level) j := by
  induction h generalizing level with
  | null => exact spells_null
  | bool b => exact spells_bool b
  | nat n => exact spells_nat n
  | str s => exact spells_str s
  | @arr items _ ih =>
    cases items with
    | nil => exact spells_arr_nil
    | cons v items =>
      rw [prettyChars, prettyItems_eq, List.cons_append, List.cons_append, List.append_assoc]
      · exact spells_arr_joined (fun v => newLine (level + 1) ++ v.prettyChars (level + 1)) (List.cons_ne_nil v items)
          (fun v hv => (ih v hv (level + 1)).gap (blanks_newLine _)) (blanks_newLine level)
      · simp
  | @obj members _ ih =>
    cases members with
    | nil => exact spells_obj_nil
    | cons m members =>
      have space : Blanks [' '] := by simp [Blanks, isBlank]
      rw [prettyChars, prettyMembers_eq, List.cons_append, List.cons_append, List.append_assoc]
      · exact spells_obj_joined (fun v => [' '] ++ v.prettyChars (level + 1)) (List.cons_ne_nil m members)
          (fun m hm => (ih m hm (level + 1)).gap space) (blanks_newLine _) (blanks_newLine level)
      · simp

theorem Plain.spells_compact {j : Json} (h : Plain j) : Spells j.compactChars j := by
  induction h with
  | null => exact spells_null
  | bool b => exact spells_bool b
  | nat n => exact spells_nat n
  | str s => exact spells_str s
  | @arr items _ ih =>
    cases items with
    | nil => exact spells_arr_nil
    | cons v items =>
      rw [compactChars, compactItems_eq]
      exact spells_arr_joined compactChars (List.cons_ne_nil v items) ih blanks_nil
  | @obj members _ ih =>
    cases members with
    | nil => exact spells_obj_nil
    | cons m members =>
      rw [compactChars, compactMembers_eq]
      exact spells_obj_joined compactChars (List.cons_ne_nil m members) ih blanks_nil blanks_nil

theorem Spells.ofText?_eq {cs : List Char} {j : Json} (h : Spells cs j) : ofText? (String.ofList cs) = some j := by
  have read := h (2 * cs.length + 2) [] closed_nil (by omega)
  rw [List.append_nil] at read
  rw [ofText?, String.length_ofList, String.toList_ofList, read]
  rfl

/-- A value laid out over several lines is read back. -/
theorem Plain.ofText?_pretty {j : Json} (h : Plain j) : ofText? j.pretty = some j := (h.spells_pretty 0).ofText?_eq

/-- A value on one line is read back. -/
theorem Plain.ofText?_compact {j : Json} (h : Plain j) : ofText? j.compact = some j := h.spells_compact.ofText?_eq

end Json

end PeerTaint
