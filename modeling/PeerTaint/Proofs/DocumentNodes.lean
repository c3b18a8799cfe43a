import PeerTaint.Proofs.DocumentTokens

/-!
The tokens of a tree are read as its node.

Reading a node takes its tokens from the front and leaves the rest. Where there are no anchors, references and tags,
nothing else in the state changes.
-/

namespace PeerTaint

namespace Yaml

namespace Reader

variable {α β : Type}

/-- A step takes some tokens from the front, gives a value and leaves the rest. -/
def Yields (x : Reader α) (ts : List Token) (a : α) (ts' : List Token) : Prop :=
  ∀ s : ReadState, x.run { s with tokens := ts } = some (a, { s with tokens := ts' })

theorem Yields.bind {x : Reader α} {f : α → Reader β} {ts ts' ts'' : List Token} {a : α} {b : β}
    (hx : Yields x ts a ts') (hf : Yields (f a) ts' b ts'') : Yields (x >>= f) ts b ts'' := by
  intro s
  rw [StateT.run_bind, hx s]
  exact hf s

theorem yields_pure (a : α) (ts : List Token) : Yields (pure a) ts a ts := fun _ => rfl

theorem yields_peek (ts : List Token) : Yields peek ts ts.head? ts := fun _ => rfl

theorem yields_skip (t : Token) (ts : List Token) : Yields skip (t :: ts) () ts := fun _ => rfl

theorem yields_accept (t : Token) (ts : List Token) : Yields (accept t) (t :: ts) true ts := by
  refine (yields_peek _).bind ?_
  rw [List.head?_cons, if_pos rfl]
  exact (yields_skip t ts).bind (yields_pure true ts)

theorem yields_accept_not {t : Token} {ts : List Token} (h : ts.head? ≠ some t) : Yields (accept t) ts false ts := by
  refine (yields_peek _).bind ?_
  rw [if_neg h]
  exact yields_pure false ts

theorem yields_expect (t : Token) (ts : List Token) : Yields (expect t) (t :: ts) () ts :=
  (yields_accept t ts).bind (yields_pure () ts)

/-! ## Nodes -/

/-- Tokens with which the node of a tree starts. -/
def opensNode : Token → Bool
  | .scalar .. | .flowSequenceStart | .blockEntry | .blockMappingStart => true
  | _ => false

section
variable {t : Token} {ts ts' : List Token} {a : Node}

theorem yields_properties (h : opensNode t = true) (ts : List Token) : Yields properties (t :: ts) {} (t :: ts) := by
  cases t with
  | scalar | flowSequenceStart | blockEntry | blockMappingStart => exact fun _ => rfl
  | _ => cases h

/-- A node without properties is its content. -/
theorem Yields.node (h : opensNode t = true) {fuel : Nat} {block afterKey : Bool}
    (content : Yields (content fuel block afterKey {}) (t :: ts) a ts') :
    Yields (Reader.node (fuel + 1) block afterKey) (t :: ts) a ts' := by
  have rest := (yields_properties h ts).bind content
  rw [Reader.node]
  refine (yields_peek _).bind ?_
  cases t with
  | scalar | flowSequenceStart | blockEntry | blockMappingStart => exact rest
  | _ => cases h

/-- Something stands where none of some tokens is next. -/
theorem Yields.orEmpty {stops : List Token} (other : t ∉ stops) {x : Reader Node} (hx : Yields x (t :: ts) a ts') :
    Yields (Reader.orEmpty stops x) (t :: ts) a ts' := by
  refine (yields_peek _).bind ?_
  simp only [List.head?_cons, List.contains_eq_mem, decide_eq_false other]
  exact hx

end

theorem yields_scalar (text : String) (style : Style) {fuel : Nat} (enough : 2 ≤ fuel) (block afterKey : Bool)
    (ts : List Token) :
    Yields (node fuel block afterKey) (.scalar text style :: ts) (.scalar text style none) ts := by
  obtain ⟨fuel, rfl⟩ := Nat.exists_eq_add_of_le' enough
  refine Yields.node rfl ?_
  rw [content]
  exact (yields_peek _).bind ((yields_skip _ ts).bind (yields_pure _ ts))

end Reader

/-! ## Trees -/

/-- The node of a text. -/
def textNode (s : String) : Node := .scalar s (textStyle s) none

mutual

/-- The node of a tree. -/
def Tree.node : Tree → Node
  | .word s => .scalar s .plain none
  | .text s => textNode s
  | .texts items => .seq (items.map textNode)
  | .map entries => .map (entryNodes entries)

/-- The nodes of a mapping's entries. -/
def entryNodes : List (String × Tree) → List (Node × Node)
  | [] => []
  | (key, value) :: entries => (.scalar key .plain none, value.node) :: entryNodes entries

end

namespace Reader

/-- The items of a sequence are read up to a token that is no item. -/
theorem yields_plainItems (items : List String) {fuel : Nat} (enough : items.length + 2 ≤ fuel) {rest : List Token}
    (stop : rest.head? ≠ some .blockEntry) :
    Yields (plainItems fuel) (items.flatMap itemTokens ++ rest) (items.map textNode) rest := by
  induction items generalizing fuel with
  | nil =>
    obtain _ | fuel := fuel
    · simp at enough
    rw [plainItems]
    exact (yields_accept_not stop).bind (yields_pure [] rest)
  | cons s items ih =>
    obtain _ | fuel := fuel
    · simp at enough
    rw [List.length_cons] at enough
    have item : Yields (orEmpty [.blockEntry, .key, .value, .blockEnd] (node fuel true false))
        (.scalar s (textStyle s) :: (items.flatMap itemTokens ++ rest)) (textNode s)
        (items.flatMap itemTokens ++ rest) :=
      .orEmpty (by simp) (yields_scalar s _ (by omega) true false _)
    rw [plainItems]
    exact (yields_accept _ _).bind (item.bind ((ih (by omega)).bind (yields_pure _ rest)))

theorem length_flatMap_itemTokens (items : List String) : (items.flatMap itemTokens).length = 2 * items.length := by
  simp [itemTokens, Nat.mul_comm]

theorem yields_flowItems_end (fuel : Nat) (ts : List Token) :
    Yields (flowItems (fuel + 1) true) (.flowSequenceEnd :: ts) [] ts := by
  rw [flowItems]
  exact (yields_accept _ ts).bind (yields_pure [] ts)

/-- A value is read from its tokens, up to a token that is no item. -/
def Readable (v : Tree) : Prop :=
  ∀ {fuel : Nat} {rest : List Token}, 2 * v.tokens.length + 2 ≤ fuel → rest.head? ≠ some .blockEntry →
    Yields (node fuel true true) (v.tokens ++ rest) v.node rest

theorem exists_tokens_cons (v : Tree) : ∃ t ts, v.tokens = t :: ts ∧ t ∉ [Token.key, .value, .blockEnd] := by
  cases v with
  | word | text | map => exact ⟨_, _, rfl, by simp⟩
  | texts items => cases items <;> exact ⟨_, _, rfl, by simp⟩

theorem head?_entryTokens (entries : List (String × Tree)) (ts : List Token) :
    (entryTokens entries ++ .blockEnd :: ts).head? ≠ some .blockEntry := by
  cases entries <;> simp [entryTokens]

/-- The entries of a mapping are read up to its end. -/
theorem yields_blockEntries {entries : List (String × Tree)} (readable : ∀ e ∈ entries, Readable e.2) {fuel : Nat}
    (enough : 2 * (entryTokens entries).length + 1 ≤ fuel) (rest : List Token) :
    Yields (blockEntries fuel) (entryTokens entries ++ .blockEnd :: rest) (entryNodes entries) rest := by
  induction entries generalizing fuel with
  | nil =>
    obtain _ | fuel := fuel
    · simp at enough
    rw [blockEntries]
    exact (yields_accept_not (by simp [entryTokens])).bind ((yields_expect _ rest).bind (yields_pure [] rest))
  | cons e entries ih =>
    obtain ⟨key, v⟩ := e
    obtain _ | fuel := fuel
    · simp at enough
    simp only [entryTokens, List.length_cons, List.length_append] at enough
    have name : Yields (orEmpty [.key, .value, .blockEnd] (node fuel true true))
        (.scalar key .plain :: .value :: (v.tokens ++ (entryTokens entries ++ .blockEnd :: rest)))
        (.scalar key .plain none) (.value :: (v.tokens ++ (entryTokens entries ++ .blockEnd :: rest))) :=
      .orEmpty (by simp) (yields_scalar key _ (by omega) true true _)
    have value : Yields (orEmpty [.key, .value, .blockEnd] (node fuel true true))
        (v.tokens ++ (entryTokens entries ++ .blockEnd :: rest)) v.node (entryTokens entries ++ .blockEnd :: rest) := by
      have room : 2 * v.tokens.length + 2 ≤ fuel := by omega
      have reads := readable (key, v) List.mem_cons_self room (head?_entryTokens entries rest)
      obtain ⟨t, ts, ht, other⟩ := exists_tokens_cons v
      rw [ht] at reads ⊢
      exact .orEmpty other reads
    have room : 2 * (entryTokens entries).length + 1 ≤ fuel := by omega
    have next := ih (fun e he => readable e (List.mem_cons_of_mem _ he)) room
    have tokens : entryTokens ((key, v) :: entries) ++ .blockEnd :: rest =
        .key :: .scalar key .plain :: .value :: (v.tokens ++ (entryTokens entries ++ .blockEnd :: rest)) := by
      simp [entryTokens]
    rw [blockEntries, tokens]
    exact (yields_accept _ _).bind (name.bind (((yields_accept _ _).bind value).bind (next.bind (yields_pure _ rest))))

/-- A mapping is read from its tokens. -/
theorem yields_map {entries : List (String × Tree)} (readable : ∀ e ∈ entries, Readable e.2) {fuel : Nat}
    (enough : 2 * (Tree.map entries).tokens.length + 2 ≤ fuel) (afterKey : Bool) (rest : List Token) :
    Yields (node fuel true afterKey) ((Tree.map entries).tokens ++ rest) (Tree.map entries).node rest := by
  obtain ⟨fuel, rfl⟩ := Nat.exists_eq_add_of_le' (Nat.le_of_add_left_le enough)
  simp only [Tree.tokens, List.length_cons, List.length_append] at enough
  have room : 2 * (entryTokens entries).length + 1 ≤ fuel := by omega
  have tokens : (Tree.map entries).tokens ++ rest =
      .blockMappingStart :: (entryTokens entries ++ .blockEnd :: rest) := by
    simp [Tree.tokens]
  rw [tokens]
  refine Yields.node rfl ?_
  rw [content]
  refine (yields_peek _).bind ((yields_skip _ _).bind ?_)
  exact (yields_blockEntries readable room rest).bind (yields_pure _ rest)

end Reader

open Reader

/-- The tokens of a legible tree are read as its node. -/
theorem Tree.Legible.readable {v : Tree} (h : v.Legible) : Readable v := by
  induction h with
  | word | text =>
    intro fuel rest enough _
    exact yields_scalar _ _ (by omega) true true rest
  | texts items =>
    intro fuel rest enough stop
    cases items with
    | nil =>
      obtain ⟨fuel, rfl⟩ := Nat.exists_eq_add_of_le' (show 3 ≤ fuel by simp [Tree.tokens] at enough; omega)
      refine Yields.node rfl ?_
      rw [content]
      refine (yields_peek _).bind ((yields_skip _ _).bind ?_)
      exact (yields_flowItems_end fuel rest).bind (yields_pure _ rest)
    | cons s items =>
      obtain ⟨fuel, rfl⟩ := Nat.exists_eq_add_of_le' (show 2 ≤ fuel by omega)
      refine Yields.node rfl ?_
      rw [content]
      refine (yields_peek _).bind ?_
      refine (yields_plainItems (s :: items) ?_ stop).bind (yields_pure _ rest)
      have length : (Tree.texts (s :: items)).tokens.length = 2 * (s :: items).length :=
        length_flatMap_itemTokens (s :: items)
      rw [List.length_cons] at length ⊢
      omega
  | map ne names _ values =>
    intro fuel rest enough _
    exact yields_map values enough true rest

/-! ## Documents -/

theorem yields_directives {t : Token} (h : opensNode t = true) (fuel : Nat) (seen : Bool) (ts : List Token) :
    Yields (directives (fuel + 1) seen) (t :: ts) seen (t :: ts) := by
  rw [directives]
  refine (yields_peek _).bind ?_
  cases t with
  | scalar | flowSequenceStart | blockEntry | blockMappingStart => exact yields_pure seen _
  | _ => cases h

theorem yields_documentEnds (fuel : Nat) : Yields (documentEnds fuel) [] () [] := by
  cases fuel with
  | zero => exact yields_pure () []
  | succ fuel => exact (yields_accept_not (by simp)).bind (yields_pure () [])

theorem run_bind {α β : Type} {x : Reader α} {f : α → Reader β} {s s' : ReadState} {a : α} {r : Option (β × ReadState)}
    (hx : x.run s = some (a, s')) (hf : (f a).run s' = r) : (x >>= f).run s = r := by
  rw [StateT.run_bind, hx]
  exact hf

/-- A document is read from the tokens of its root. -/
theorem run_document {t : Token} {ts : List Token} {root : Node} {fuel : Nat} (h : opensNode t = true)
    (reads : Yields (node (fuel + 1) true false) (t :: ts) root []) :
    (document (fuel + 1)).run { tokens := t :: ts } = some (root, { tokens := [], handles := standardHandles }) := by
  have start : (t :: ts).head? ≠ some .documentStart := by
    rintro ⟨⟩
    cases h
  rw [document]
  refine run_bind (yields_peek (t :: ts) { tokens := [] }) ?_
  refine run_bind (yields_directives h fuel false ts { tokens := [] }) ?_
  refine run_bind rfl ?_
  refine run_bind (yields_accept_not start { tokens := [], handles := standardHandles }) ?_
  refine run_bind (reads { tokens := [], handles := standardHandles }) ?_
  refine run_bind (yields_documentEnds (fuel + 1) { tokens := [], handles := standardHandles }) ?_
  rfl

/-- A written document is read back as the tree it was written from. -/
theorem read?_render {entries : List (String × Tree)} (h : (Tree.map entries).Legible) :
    read? (render entries) = some ⟨(Tree.map entries).node, {}⟩ := by
  have readable : ∀ e ∈ entries, Readable e.2 := by
    obtain _ | _ | _ | ⟨-, -, values⟩ := h
    exact fun e he => (values e he).readable
  have reads := yields_map readable (Nat.le_add_right _ 2) false []
  rw [List.append_nil] at reads
  have document : (document (2 * (Tree.map entries).tokens.length + 4)).run { tokens := (Tree.map entries).tokens } =
      some ((Tree.map entries).node, { tokens := [], handles := standardHandles }) := run_document rfl reads
  rw [read?, tokens?_render h, Option.bind_eq_bind, Option.bind_some, document]
  rfl

end Yaml

end PeerTaint
