import PeerTaint.Config.Document
import PeerTaint.Proofs.DocumentNodes

/-!
A configuration is read back from its document.

The document has all sections with all fields, and each field is read from the node of the tree it was written
as. Numbers that do not fit into 64 bits are the only values that are lost; a configuration that passes the checks
has none. Whether it passes them is found out when the document is read, with the same answer.
-/

namespace PeerTaint

open Yaml

/-! ## Numbers -/

namespace Decimal

theorem hexValue?_of_isDigit {c : Char} (h : isDigit c = true) :
    hexValue? c = some (c.toNat - 48) ∧ c.toNat - 48 < 10 := by
  simp only [isDigit, Bool.and_eq_true, decide_eq_true_eq] at h
  have range : '0' ≤ c ∧ c ≤ '9' := by
    simp only [Char.le_def, UInt32.le_iff_toNat_le]
    exact h
  exact ⟨by rw [hexValue?, if_pos range]; rfl, by omega⟩

/-- Decimal digits are read as the number they denote. -/
theorem natOfDigits?_eq {cs : List Char} (ne : cs ≠ []) (h : ∀ c ∈ cs, isDigit c = true) :
    natOfDigits? 10 cs = some (value cs) := by
  rw [natOfDigits?, if_neg (by simpa using ne), value]
  -- The number read so far is any number.
  generalize 0 = n
  clear ne
  induction cs generalizing n with
  | nil => rfl
  | cons c cs ih =>
    obtain ⟨digit, small⟩ := hexValue?_of_isDigit (h c List.mem_cons_self)
    have next := ih (fun c hc => h c (List.mem_cons_of_mem _ hc)) (10 * n + (c.toNat - 48))
    simpa [digit, small, Nat.mul_comm n] using next

theorem unsigned?_digits (n : Nat) : unsigned? (digits n) = some n := by
  have number := natOfDigits?_eq (digits_ne_nil n) fun c hc => isDigit_of_mem_digits hc
  rw [value_digits] at number
  obtain ⟨c, cs, hd⟩ := List.exists_cons_of_ne_nil (digits_ne_nil n)
  have zero : c = '0' → cs = [] := by
    rintro rfl
    exact digits_eq_zero hd
  have base : baseAndDigits (c :: cs) = (10, c :: cs) := by
    unfold baseAndDigits
    split <;> simp_all
  have needless : hasNeedlessZero (c :: cs) = false := by
    unfold hasNeedlessZero
    split <;> simp_all
  rw [hd] at number ⊢
  rw [unsigned?, base, needless]
  exact number

theorem natOfText?_decimal (n : Nat) : natOfText? (decimal n) = some n := by
  have plus : withoutPlus (digits n) = digits n := by
    unfold withoutPlus
    split
    next cs h =>
      have digit : isDigit '+' = true := isDigit_of_mem_digits (n := n) (by rw [h]; exact List.mem_cons_self)
      exact absurd digit (by decide)
    next => rfl
  rw [natOfText?, decimal, String.toList_ofList, plus, unsigned?_digits]

theorem isWord_digits (n : Nat) : IsWord (digits n) := by
  intro c hc
  have digit := isDigit_of_mem_digits hc
  simp only [isDigit, Bool.and_eq_true, decide_eq_true_eq] at digit
  have alphanumeric : c.isDigit = true := by
    simp only [Char.isDigit, Bool.and_eq_true, decide_eq_true_eq, UInt32.le_iff_toNat_le]
    exact digit
  rw [Char.isAlphanum, alphanumeric, Bool.or_true, Bool.true_or]

end Decimal

/-! ## Values -/

section
variable {α β : Type}

/-- A value is read, whatever the anchors are. -/
def Decodes (x : Decode α) (v : α) : Prop := ∀ a, x.run a = some v

theorem Decodes.bind {x : Decode α} {f : α → Decode β} {v : α} {w : β} (hx : Decodes x v) (hf : Decodes (f v) w) :
    Decodes (x >>= f) w := by
  intro a
  rw [ReaderT.run_bind, hx a]
  exact hf a

theorem decodes_pure (v : α) : Decodes (pure v) v := fun _ => rfl

theorem decodes_mapM {f : α → Decode β} {g : β → α} {xs : List β} (h : ∀ x ∈ xs, Decodes (f (g x)) x) :
    Decodes ((xs.map g).mapM f) xs := by
  induction xs with
  | nil => exact decodes_pure []
  | cons x xs ih =>
    rw [List.map_cons, List.mapM_cons]
    have rest := ih fun x hx => h x (List.mem_cons_of_mem _ hx)
    exact (h x List.mem_cons_self).bind (rest.bind (decodes_pure _))

theorem decodes_text (s : String) : Decodes (textNode s).text? s := fun _ => rfl

theorem decodes_texts (items : List String) : Decodes ((Tree.texts items).node.list? (·.text?)) items := by
  have items : Decodes ((items.map textNode).mapM (·.text?)) items := decodes_mapM fun s _ => decodes_text s
  exact items

theorem decodes_boolTree (b : Bool) : Decodes (boolTree b).node.bool? b := by
  cases b <;> exact fun _ => rfl

theorem decodes_natTree {n bound : Nat} (h : n < bound) : Decodes ((natTree n).node.below? bound) n := by
  intro a
  have number : (natOfText? (decimal n)).filter (· < bound) = some n := by
    rw [Decimal.natOfText?_decimal]
    simp [h]
  exact congrArg (fun x : Option Nat => (x : Decode Nat).run a) number

/-- A written mapping has its entries as fields, if their names are the expected ones. -/
theorem decodes_fields {names : List String} {entries : List (String × Yaml.Tree)} (h : entries.map (·.1) = names)
    (distinct : names.Nodup) :
    Decodes ((Yaml.Tree.map entries).node.fields? names) (entries.map fun e => (e.1, e.2.node)) := by
  have fields : Decodes ((entryNodes entries).mapM fun e => do return (← e.1.text?, e.2))
      (entries.map fun e => (e.1, e.2.node)) := by
    clear h
    induction entries with
    | nil => exact decodes_pure []
    | cons e entries ih =>
      rw [entryNodes, List.mapM_cons]
      exact (decodes_pure _).bind (ih.bind (decodes_pure _))
  have keys : (entries.map fun e => (e.1, e.2.node)).map (·.1) = names := by
    rw [List.map_map]
    exact h
  have target : Decodes (Yaml.Tree.map entries).node.target (.map (entryNodes entries)) := fun _ => rfl
  refine target.bind (fields.bind ?_)
  rw [keys, if_pos (by simp [distinct])]
  exact decodes_pure _

theorem decodes_required {fields : List (String × Yaml.Node)} {name : String} {item : Yaml.Node → Decode α}
    {n : Yaml.Node} {v : α} (found : fields.lookup name = some n) (h : Decodes (item n) v) :
    Decodes (required fields name item) v := by
  rw [required, found]
  exact h

theorem decodes_withDefault {fields : List (String × Yaml.Node)} {name : String} {item : Yaml.Node → Decode α}
    {n : Yaml.Node} {v default : α} (found : fields.lookup name = some n) (h : Decodes (item n) v) :
    Decodes (withDefault fields name item default) v := by
  rw [withDefault, found]
  exact h

end

/-! ## Sections -/

theorem ProgramNaming.decodes (n : ProgramNaming) : Decodes (ProgramNaming.ofNode? n.toTree.node) n := by
  refine Decodes.bind (decodes_fields rfl (by decide)) ?_
  refine (decodes_required rfl (decodes_texts _)).bind ?_
  exact (decodes_required rfl (decodes_texts _)).bind (decodes_pure _)

theorem Naming.decodes (n : Naming) : Decodes (Naming.ofNode? n.toTree.node) n := by
  refine Decodes.bind (decodes_fields rfl (by decide)) ?_
  refine (decodes_withDefault rfl (decodes_text _)).bind ?_
  refine (decodes_withDefault rfl n.first.decodes).bind ?_
  refine (decodes_withDefault rfl n.second.decodes).bind ?_
  refine (decodes_withDefault rfl (decodes_text _)).bind ?_
  refine (decodes_withDefault rfl (decodes_text _)).bind ?_
  exact (decodes_withDefault rfl (decodes_text _)).bind (decodes_pure _)

theorem GraphConfig.decodes (c : GraphConfig) : Decodes (GraphConfig.ofNode? c.toTree.node) c := by
  refine Decodes.bind (decodes_fields rfl (by decide)) ?_
  refine (decodes_withDefault rfl (decodes_boolTree _)).bind ?_
  exact (decodes_withDefault rfl (decodes_boolTree _)).bind (decodes_pure _)

theorem InputConfig.decodes {c : InputConfig} (h : c.argvIndex < bound64) :
    Decodes (InputConfig.ofNode? c.toTree.node) c := by
  refine Decodes.bind (decodes_fields rfl (by decide)) ?_
  refine (decodes_withDefault rfl (decodes_texts _)).bind ?_
  refine (decodes_withDefault rfl (decodes_natTree h)).bind ?_
  refine (decodes_withDefault rfl (decodes_text _)).bind ?_
  exact (decodes_withDefault rfl (decodes_text _)).bind (decodes_pure _)

theorem ReachabilityConfig.decodes {c : ReachabilityConfig} (h : c.maxPaths < bound64) :
    Decodes (ReachabilityConfig.ofNode? c.toTree.node) c := by
  refine Decodes.bind (decodes_fields rfl (by decide)) ?_
  refine (decodes_withDefault rfl (decodes_boolTree _)).bind ?_
  exact (decodes_withDefault rfl (decodes_natTree h)).bind (decodes_pure _)

/-! ## Documents -/

/-- A section that is given. -/
theorem decodes_optional_map {α : Type} {fields : List (String × Yaml.Node)} {name : String}
    {item : Yaml.Node → Decode α} {entries : List (String × Yaml.Tree)} {v : α}
    (found : fields.lookup name = some (Yaml.Tree.map entries).node)
    (h : Decodes (item (Yaml.Tree.map entries).node) v) :
    Decodes (Yaml.optional fields name item) (some v) := by
  intro a
  simp only [Yaml.optional, found]
  exact congrArg (Option.map some) (h a)

theorem decodes_version {fields : List (String × Yaml.Node)}
    (found : fields.lookup "version" = some (natTree formatVersion).node) :
    Decodes (Yaml.optional fields "version" (·.below? bound32)) (some formatVersion) := by
  have written : natTree formatVersion = .word "1" := by
    rw [natTree, decimal, Decimal.digits]
    rfl
  intro a
  have number := decodes_natTree (by decide : formatVersion < bound32) a
  rw [written] at found number
  simp only [Yaml.optional, found]
  exact congrArg (Option.map some) number

namespace EngineConfig

/-- The entries of a configuration's document. -/
def entries (c : EngineConfig) : List (String × Yaml.Tree) :=
  [("version", natTree formatVersion), ("naming", c.naming.toTree), ("graph", c.graph.toTree),
    ("inputs", c.inputs.toTree), ("reachability", c.reachability.toTree)]

/-- All sections are read back. -/
theorem decodes_entries {c : EngineConfig} (argv : c.inputs.argvIndex < bound64)
    (paths : c.reachability.maxPaths < bound64) :
    Decodes (ConfigDocument.ofNode? (Yaml.Tree.map c.entries).node)
      ⟨some formatVersion, some c.naming, some c.graph, some c.inputs, some c.reachability⟩ := by
  refine Decodes.bind (decodes_fields rfl (by decide)) ?_
  refine (decodes_version rfl).bind ?_
  refine (decodes_optional_map rfl c.naming.decodes).bind ?_
  refine (decodes_optional_map rfl c.graph.decodes).bind ?_
  refine (decodes_optional_map rfl (InputConfig.decodes argv)).bind ?_
  exact (decodes_optional_map rfl (ReachabilityConfig.decodes paths)).bind (decodes_pure _)

end EngineConfig

/-! ## Written sections are legible -/

theorem legible_word {s : String} (ne : s ≠ "") (word : IsWord s.toList) : (Tree.word s).Legible :=
  .word ne word.isPlainText

theorem legible_natTree (n : Nat) : (natTree n).Legible := by
  have written : (decimal n).toList = Decimal.digits n := String.toList_ofList
  refine legible_word (fun empty => ?_) (by rw [written]; exact Decimal.isWord_digits n)
  rw [empty] at written
  exact Decimal.digits_ne_nil n written.symm

theorem legible_boolTree (b : Bool) : (boolTree b).Legible := by
  cases b <;> exact legible_word (by decide) (by decide)

/-- A mapping is legible if its keys are names and its values are legible. -/
theorem legible_map (keys : List String) {entries : List (String × Yaml.Tree)} (h : entries.map (·.1) = keys)
    (ne : keys ≠ []) (names : ∀ k ∈ keys, IsName k) (values : ∀ v ∈ entries.map (·.2), v.Legible) :
    (Yaml.Tree.map entries).Legible := by
  subst h
  refine .map (by simpa using ne) (fun e he => names _ (List.mem_map_of_mem he)) fun e he => ?_
  exact values _ (List.mem_map_of_mem he)

theorem ProgramNaming.legible (n : ProgramNaming) : n.toTree.Legible :=
  legible_map ["send_prefixes", "recv_prefixes"] rfl (by decide) (by decide) (by simp [Tree.Legible.texts])

theorem Naming.legible (n : Naming) : n.toTree.Legible :=
  legible_map ["program2_prefix", "program1", "program2", "receive_callback", "sensor_update", "message_post"] rfl
    (by decide) (by decide) (by simp [Tree.Legible.text, ProgramNaming.legible])

theorem GraphConfig.legible (c : GraphConfig) : c.toTree.Legible :=
  legible_map ["include_control_flow", "splice_calls"] rfl (by decide) (by decide) (by simp [legible_boolTree])

theorem InputConfig.legible (c : InputConfig) : c.toTree.Legible :=
  legible_map ["entry_points", "argv_index", "message_post_buffer", "network_tag"] rfl (by decide) (by decide)
    (by simp [Tree.Legible.texts, legible_natTree, Tree.Legible.text])

theorem ReachabilityConfig.legible (c : ReachabilityConfig) : c.toTree.Legible :=
  legible_map ["retain_paths", "max_paths"] rfl (by decide) (by decide) (by simp [legible_boolTree, legible_natTree])

theorem EngineConfig.legible_entries (c : EngineConfig) : (Yaml.Tree.map c.entries).Legible :=
  legible_map ["version", "naming", "graph", "inputs", "reachability"] rfl (by decide) (by decide)
    (by simp [EngineConfig.entries, legible_natTree, c.naming.legible, c.graph.legible, c.inputs.legible,
      c.reachability.legible])

/-! ## Configurations -/

theorem InputConfig.argvIndex_le_of_validate {c : InputConfig} (h : c.validate = .ok ()) :
    c.argvIndex ≤ maxArgvIndex := by
  rw [validate] at h
  split at h
  · cases h
  split at h
  · cases h
  split at h
  · cases h
  next fits => exact Nat.le_of_not_lt fits

theorem ReachabilityConfig.maxPaths_le_of_validate {c : ReachabilityConfig} (h : c.validate = .ok ()) :
    c.maxPaths ≤ maxRetainedPaths := by
  rw [validate] at h
  split at h
  · cases h
  next fits => exact Nat.le_of_not_lt fun large => fits (.inr large)

namespace EngineConfig

/-- The numbers of a configuration that passes the checks fit into 64 bits. -/
theorem bounds_of_validate {c : EngineConfig} (h : c.validate = .ok ()) :
    c.inputs.argvIndex < bound64 ∧ c.reachability.maxPaths < bound64 := by
  rw [validate] at h
  cases naming : c.naming.validate with
  | error e => rw [naming] at h; cases h
  | ok =>
    cases inputs : c.inputs.validate with
    | error e => rw [naming, inputs] at h; cases h
    | ok =>
      rw [naming, inputs] at h
      exact ⟨Nat.lt_of_le_of_lt (InputConfig.argvIndex_le_of_validate inputs) (by decide),
        Nat.lt_of_le_of_lt (ReachabilityConfig.maxPaths_le_of_validate h) (by decide)⟩

/-- Reading a written configuration checks it and gives it back. -/
theorem ofText_render_eq {c : EngineConfig} (argv : c.inputs.argvIndex < bound64)
    (paths : c.reachability.maxPaths < bound64) : ofText c.render = c.validate.map fun _ => c := by
  have document : (Yaml.read? c.render).bind (fun d => ConfigDocument.ofNode? d.root d.anchors) =
      some ⟨some formatVersion, some c.naming, some c.graph, some c.inputs, some c.reachability⟩ := by
    rw [show c.render = Yaml.render c.entries from rfl, read?_render c.legible_entries]
    exact decodes_entries argv paths {}
  have config : ConfigDocument.config
      ⟨some formatVersion, some c.naming, some c.graph, some c.inputs, some c.reachability⟩ = .ok c := by
    simp [ConfigDocument.config]
  rw [ofText, document]
  simp only [config]
  change (c.validate >>= fun _ => pure c) = _
  cases c.validate <;> rfl

/-- A written configuration is read back if it passes the checks, and otherwise refused with the fault that they
find. Documents hold numbers of 64 bits; those of a configuration that passes the checks always fit. -/
theorem ofText_render (c : EngineConfig) :
    (c.validate = .ok () → ofText c.render = .ok c) ∧
      ∀ e, c.inputs.argvIndex < bound64 → c.reachability.maxPaths < bound64 → c.validate = .error e →
        ofText c.render = .error e := by
  refine ⟨fun ok => ?_, fun e argv paths fault => ?_⟩
  · obtain ⟨argv, paths⟩ := bounds_of_validate ok
    rw [ofText_render_eq argv paths, ok]
    rfl
  · rw [ofText_render_eq argv paths, fault]
    rfl

/-- A configuration whose texts look like something else or cannot stand plainly. -/
def masked (networkTag : String) : EngineConfig where
  naming := {
    secondPrefix := "null"
    first := ⟨["- it's", "yes: no # maybe", " \n\tblank "], ["0x1F", "~"]⟩
    second := ⟨[], ["  \"\\", "'"]⟩
    sensorUpdate := "\n\nsensor" }
  inputs := {
    entryPoints := ["", "true", "---", "&main", "\u2028\x07\u00e9"]
    messagePostBuffer := "|\n  \x7bbuf\x7d\n\n"
    networkTag }

theorem ofText_render_masked :
    ((masked "1.5e3").validate = .ok () ∧ ofText (masked "1.5e3").render = .ok (masked "1.5e3")) ∧
      (masked "").validate = .error .emptyNetworkTag ∧ ofText (masked "").render = .error .emptyNetworkTag := by
  have ok : (masked "1.5e3").validate = .ok () := by decide +kernel
  have fault : (masked "").validate = .error .emptyNetworkTag := by decide +kernel
  exact ⟨⟨ok, (ofText_render _).1 ok⟩, fault, (ofText_render _).2 _ (by decide) (by decide) fault⟩

end EngineConfig

end PeerTaint
