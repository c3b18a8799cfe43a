import PeerTaint.Json.Report
import PeerTaint.Proofs.JsonText

/-!
Reports and nodes are read back from JSON.

A record is written with all of its fields, and each field is read from the member it was written as. The readers
refuse numbers that are too large for their place; `Fits` says of a value that all its numbers have room.
-/

namespace PeerTaint

namespace Json

attribute [simp] Plain.null Plain.bool Plain.nat Plain.str

section

variable {α β κ : Type}

/-! ## Parts of a reader -/

theorem bind_eq_some {x : Option α} {f : α → Option β} {a : α} {b : β} (hx : x = some a) (hf : f a = some b) :
    (x >>= f) = some b := by
  rw [hx]
  exact hf

theorem below?_nat {n bound : Nat} (h : n < bound) : below? bound (nat n) = some n := if_pos h

/-- A record with all of its fields is read with these fields. -/
theorem record?_obj {names : List String} {members : List (String × Json)} (h : members.map (·.1) = names)
    (distinct : names.Nodup) (strict : Bool) : record? names strict (obj members) = some ⟨members, false⟩ := by
  have known : (members.filter fun m => names.contains m.1) = members := by
    refine List.filter_eq_self.2 fun m hm => ?_
    rw [← h]
    simpa using ⟨m.2, hm⟩
  have once : noneTwice (members.map (·.1)) = true := by
    rw [h]
    exact decide_eq_true distinct
  simp only [record?, known, once, decide_true, Bool.or_true, Bool.true_and, if_true]

theorem required_eq_some {r : Record} {name : String} {item : Json → Option α} {j : Json} {a : α}
    (found : r.value? name = some j) (h : item j = some a) : r.required name item = some a := by
  rw [Record.required, found]
  exact h

theorem optional_eq_some {r : Record} {name : String} {item : Json → Option α} {j : Json} {a : Option α}
    (found : r.value? name = some j) (h : option? item j = some a) : r.optional name item = some a := by
  rw [Record.optional, found]
  exact h

theorem option?_ofOption {item : Json → Option α} {write : α → Json} (given : ∀ a, write a ≠ null) {o : Option α}
    (h : ∀ a ∈ o, item (write a) = some a) : option? item (ofOption write o) = some o := by
  cases o with
  | none => rfl
  | some a =>
    rw [ofOption, option?]
    · rw [h a rfl]
      rfl
    · exact given a

theorem list?_ofList {item : Json → Option α} {write : α → Json} {as : List α}
    (h : ∀ a ∈ as, item (write a) = some a) : list? item (ofList write as) = some as := mapM_map_eq_some h

theorem map?_ofMap [Key κ] [DecidableEq κ] {key : String → Option κ} {text : κ → String} {item : Json → Option α}
    {write : α → Json} {m : SortedMap κ α} (keys : ∀ k ∈ m.keys, key (text k) = some k)
    (items : ∀ a ∈ m.values, item (write a) = some a) : map? key item (ofMap text write m) = some m := by
  have entries : ((m.entries.map fun e => (text e.1, write e.2)).mapM fun e => do
      return (← key e.1, ← item e.2)) = some m.entries := by
    refine mapM_map_eq_some fun e he => ?_
    rw [keys e.1 (List.mem_map_of_mem he), items e.2 (List.mem_map_of_mem he)]
    rfl
  rw [ofMap, map?, entries, Option.map_some, SortedMap.ofList_entries]

/-! ## Parts of a writer -/

theorem plain_ofOption {write : α → Json} (h : ∀ a, Plain (write a)) (o : Option α) : Plain (ofOption write o) := by
  cases o with
  | none => exact .null
  | some a => exact h a

theorem plain_ofList {write : α → Json} (h : ∀ a, Plain (write a)) (as : List α) : Plain (ofList write as) := by
  refine .arr fun j hj => ?_
  obtain ⟨a, -, rfl⟩ := List.mem_map.1 hj
  exact h a

theorem plain_ofMap [Key κ] {text : κ → String} {write : α → Json} (h : ∀ a, Plain (write a)) (m : SortedMap κ α) :
    Plain (ofMap text write m) := by
  refine .obj fun e he => ?_
  obtain ⟨d, -, rfl⟩ := List.mem_map.1 he
  exact h d.2

theorem plain_tagged {j : Json} (h : Plain j) (name : String) : Plain (tagged name j) := by
  refine .obj fun e he => ?_
  rw [List.mem_singleton.1 he]
  exact h

end

end Json

open Json

/-! ## Names -/

theorem Program.ofJson?_toJson (p : Program) : ofJson? p.toJson = some p := by cases p <;> rfl

theorem Opcode.ofJson?_toJson (o : Opcode) : ofJson? o.toJson = some o := by cases o <;> rfl

theorem EdgeKind.ofJson?_toJson (k : EdgeKind) : ofJson? k.toJson = some k := by cases k <;> rfl

theorem Origin.ofJson?_toJson (o : Origin) : ofJson? o.toJson = some o := by cases o <;> rfl

theorem Category.ofJson?_toJson (c : Category) : ofJson? c.toJson = some c := by cases c <;> rfl

theorem NodeCategory.ofTag?_tag (c : NodeCategory) : ofTag? c.tag = some c := by cases c <;> rfl

/-- A handle is read back from its decimal numeral. -/
theorem handleKey?_decimal {n : NodeId} (h : n < bound32) : handleKey? (decimal n) = some n := by
  have read : Decimal.read? (decimal n).toList = some n := by
    rw [decimal, String.toList_ofList, Decimal.read?_digits]
  rw [handleKey?, read]
  exact if_pos ⟨h, rfl⟩

/-! ## Nodes -/

/-- The number of a value has 32 bits. -/
def Value.Fits (v : Value) : Prop := v.id < bound32

/-- The line number has 32 bits. -/
def Location.Fits (l : Location) : Prop := l.line < bound32

/-- All numbers of a call have room. -/
structure CallInfo.Fits (c : CallInfo) : Prop where
  args : ∀ n, some n ∈ c.args → n < bound32
  result : ∀ v ∈ c.result, v.Fits

/-- All numbers of what a node stands for have room. -/
def NodeKind.Fits : NodeKind → Prop
  | op _ value => ∀ v ∈ value, v.Fits
  | call info | netRead info | netWrite info => info.Fits
  | var value | input value _ _ => value.Fits
  | mem key => key < bound32

/-- All numbers of a node have room. -/
structure Node.Fits (n : Node) : Prop where
  id : n.id < bound32
  count : n.count < bound32
  levels : ∀ l ∈ n.levels, l < bound32
  location : ∀ l ∈ n.location, l.Fits
  kind : n.kind.Fits
  successors : ∀ m ∈ n.successors.keys, m < bound32
  predecessors : ∀ m ∈ n.predecessors.keys, m < bound32

theorem Value.ofJson?_toJson {v : Value} (h : v.Fits) : ofJson? v.toJson = some v := by
  refine bind_eq_some (record?_obj (by rfl) (by decide) false) ?_
  refine bind_eq_some (required_eq_some rfl v.program.ofJson?_toJson) ?_
  exact bind_eq_some (required_eq_some rfl (below?_nat h)) rfl

theorem Location.ofJson?_toJson {l : Location} (h : l.Fits) : ofJson? l.toJson = some l := by
  refine bind_eq_some (record?_obj (by rfl) (by decide) false) ?_
  refine bind_eq_some (required_eq_some rfl (rfl : str? (.str l.file) = some l.file)) ?_
  exact bind_eq_some (required_eq_some rfl (below?_nat h)) rfl

theorem option?_value {o : Option Value} (h : ∀ v ∈ o, v.Fits) :
    option? Value.ofJson? (ofOption Value.toJson o) = some o :=
  option?_ofOption (fun v => by simp [Value.toJson]) fun v hv => Value.ofJson?_toJson (h v hv)

theorem CallInfo.ofJson?_toJson {c : CallInfo} (h : c.Fits) : ofJson? c.toJson = some c := by
  have target : option? str? (ofOption .str c.target) = some c.target :=
    option?_ofOption (fun s => by simp) fun s _ => rfl
  have args : list? (option? nat32?) (ofList (ofOption .nat) c.args) = some c.args := by
    refine list?_ofList fun a ha => option?_ofOption (fun n => by simp) fun n hn => ?_
    exact below?_nat (h.args n (hn ▸ ha))
  refine bind_eq_some (record?_obj (by rfl) (by decide) false) ?_
  refine bind_eq_some (optional_eq_some rfl target) ?_
  refine bind_eq_some (required_eq_some rfl args) ?_
  exact bind_eq_some (optional_eq_some rfl (option?_value h.result)) rfl

theorem NodeKind.ofJson?_toJson {kind : NodeKind} (h : kind.Fits) : ofJson? kind.toJson = some kind := by
  cases kind with
  | op opcode value =>
    refine bind_eq_some (NodeCategory.ofTag?_tag .op) ?_
    refine bind_eq_some (record?_obj (by rfl) (by decide) false) ?_
    refine bind_eq_some (required_eq_some rfl opcode.ofJson?_toJson) ?_
    exact bind_eq_some (optional_eq_some rfl (option?_value h)) rfl
  | call info =>
    refine bind_eq_some (NodeCategory.ofTag?_tag .call) ?_
    exact congrArg (Option.map call) (CallInfo.ofJson?_toJson h)
  | var value =>
    refine bind_eq_some (NodeCategory.ofTag?_tag .var) ?_
    refine bind_eq_some (record?_obj (by rfl) (by decide) false) ?_
    exact bind_eq_some (required_eq_some rfl (Value.ofJson?_toJson h)) rfl
  | mem key =>
    refine bind_eq_some (NodeCategory.ofTag?_tag .mem) ?_
    refine bind_eq_some (record?_obj (by rfl) (by decide) false) ?_
    exact bind_eq_some (required_eq_some rfl (below?_nat h)) rfl
  | netRead info =>
    refine bind_eq_some (NodeCategory.ofTag?_tag .netRead) ?_
    exact congrArg (Option.map netRead) (CallInfo.ofJson?_toJson h)
  | netWrite info =>
    refine bind_eq_some (NodeCategory.ofTag?_tag .netWrite) ?_
    exact congrArg (Option.map netWrite) (CallInfo.ofJson?_toJson h)
  | input value origin name =>
    refine bind_eq_some (NodeCategory.ofTag?_tag .input) ?_
    refine bind_eq_some (record?_obj (by rfl) (by decide) false) ?_
    refine bind_eq_some (required_eq_some rfl (Value.ofJson?_toJson h)) ?_
    refine bind_eq_some (required_eq_some rfl origin.ofJson?_toJson) ?_
    exact bind_eq_some (required_eq_some rfl (rfl : str? (.str name) = some name)) rfl

theorem map?_adjacencyJson {m : SortedMap NodeId EdgeKind} (h : ∀ n ∈ m.keys, n < bound32) :
    map? handleKey? EdgeKind.ofJson? (Node.adjacencyJson m) = some m :=
  map?_ofMap (fun n hn => handleKey?_decimal (h n hn)) fun k _ => k.ofJson?_toJson

theorem Node.ofJson?_toJson {n : Node} (h : n.Fits) : ofJson? n.toJson = some n := by
  have levels : list? nat32? (ofSet .nat n.levels) = some n.levels.elems :=
    list?_ofList fun l hl => below?_nat (h.levels l hl)
  have location : option? Location.ofJson? (ofOption Location.toJson n.location) = some n.location :=
    option?_ofOption (fun l => by simp [Location.toJson]) fun l hl => Location.ofJson?_toJson (h.location l hl)
  refine bind_eq_some (record?_obj (by rfl) (by decide) false) ?_
  refine bind_eq_some (required_eq_some rfl (below?_nat h.id)) ?_
  refine bind_eq_some (required_eq_some rfl n.program.ofJson?_toJson) ?_
  refine bind_eq_some (required_eq_some rfl (rfl : str? (.str n.label) = some n.label)) ?_
  refine bind_eq_some (required_eq_some rfl (rfl : bool? (.bool n.visible) = some n.visible)) ?_
  refine bind_eq_some (required_eq_some rfl (below?_nat h.count)) ?_
  refine bind_eq_some (required_eq_some rfl levels) ?_
  refine bind_eq_some (optional_eq_some rfl location) ?_
  refine bind_eq_some (required_eq_some rfl (rfl : bool? (.bool n.netDependent) = some n.netDependent)) ?_
  refine bind_eq_some (required_eq_some rfl (NodeKind.ofJson?_toJson h.kind)) ?_
  refine bind_eq_some (required_eq_some rfl (map?_adjacencyJson h.successors)) ?_
  refine bind_eq_some (required_eq_some rfl (map?_adjacencyJson h.predecessors)) ?_
  rw [SortedSet.ofList_elems]
  rfl

/-! ## Reports -/

/-- All numbers of the statistics have room. -/
structure GraphStats.Fits (s : GraphStats) : Prop where
  nodes : s.nodes < bound64
  edges : s.edges < bound64
  nodesByKind : ∀ n ∈ s.nodesByKind.values, n < bound64
  dataEdges : s.dataEdges < bound64
  controlEdges : s.controlEdges < bound64
  crossProgramEdges : s.crossProgramEdges < bound64
  arrayChecks : ∀ p, s.arrayChecks.get p < bound64

/-- All numbers of the report on a program have room. -/
structure ProgramReport.Fits (r : ProgramReport) : Prop where
  arrayCount : r.arrayCount < bound64
  counts : ∀ c, r.counts.get c < bound64
  falsePositives : r.counts.falsePositives < bound64

/-- All numbers of a report have room. -/
structure AnalysisReport.Fits (r : AnalysisReport) : Prop where
  programs : ∀ p ∈ r.programs, p.Fits
  graph : r.graph.Fits

theorem PerProgram.ofJson?_toJson {α : Type} {item : Json → Option α} {write : α → Json} {s : PerProgram α}
    (h : ∀ p, item (write (s.get p)) = some (s.get p)) : ofJson? item (s.toJson write) = some s := by
  have slots : pair? item (.arr [write s.first, write s.second]) = some (s.first, s.second) :=
    bind_eq_some (h .first) (bind_eq_some (h .second) rfl)
  refine bind_eq_some (record?_obj (by rfl) (by decide) false) ?_
  exact bind_eq_some (required_eq_some rfl slots) rfl

theorem GraphStats.ofJson?_toJson {s : GraphStats} (h : s.Fits) : ofJson? s.toJson = some s := by
  have kinds : map? NodeCategory.ofTag? nat64? (ofMap NodeCategory.tag .nat s.nodesByKind) = some s.nodesByKind :=
    map?_ofMap (fun c _ => c.ofTag?_tag) fun n hn => below?_nat (h.nodesByKind n hn)
  have checks : PerProgram.ofJson? nat64? (s.arrayChecks.toJson .nat) = some s.arrayChecks :=
    PerProgram.ofJson?_toJson fun p => below?_nat (h.arrayChecks p)
  refine bind_eq_some (record?_obj (by rfl) (by decide) false) ?_
  refine bind_eq_some (required_eq_some rfl (below?_nat h.nodes)) ?_
  refine bind_eq_some (required_eq_some rfl (below?_nat h.edges)) ?_
  refine bind_eq_some (required_eq_some rfl kinds) ?_
  refine bind_eq_some (required_eq_some rfl (below?_nat h.dataEdges)) ?_
  refine bind_eq_some (required_eq_some rfl (below?_nat h.controlEdges)) ?_
  refine bind_eq_some (required_eq_some rfl (below?_nat h.crossProgramEdges)) ?_
  exact bind_eq_some (required_eq_some rfl checks) rfl

theorem ReportedPath.ofJson?_toJson (p : ReportedPath) : ofJson? p.toJson = some p := by
  have labels : list? str? (ofList .str p.labels) = some p.labels := list?_ofList fun s _ => rfl
  refine bind_eq_some (record?_obj (by rfl) (by decide) false) ?_
  refine bind_eq_some (required_eq_some rfl p.category.ofJson?_toJson) ?_
  exact bind_eq_some (required_eq_some rfl labels) rfl

theorem CategoryCounts.ofJson?_toJson {c : CategoryCounts} (h : ∀ k, c.get k < bound64)
    (falsePositives : c.falsePositives < bound64) : ofJson? c.toJson = some c := by
  refine bind_eq_some (record?_obj (by rfl) (by decide) false) ?_
  refine bind_eq_some (required_eq_some rfl (below?_nat (h .local))) ?_
  refine bind_eq_some (required_eq_some rfl (below?_nat (h .network))) ?_
  refine bind_eq_some (required_eq_some rfl (below?_nat (h .cross))) ?_
  exact bind_eq_some (required_eq_some rfl (below?_nat falsePositives)) rfl

theorem ProgramReport.ofJson?_toJson {r : ProgramReport} (h : r.Fits) : ofJson? r.toJson = some r := by
  have paths : list? ReportedPath.ofJson? (ofList ReportedPath.toJson r.paths) = some r.paths :=
    list?_ofList fun p _ => p.ofJson?_toJson
  refine bind_eq_some (record?_obj (by rfl) (by decide) false) ?_
  refine bind_eq_some (required_eq_some rfl r.program.ofJson?_toJson) ?_
  refine bind_eq_some (required_eq_some rfl (below?_nat h.arrayCount)) ?_
  refine bind_eq_some (required_eq_some rfl (CategoryCounts.ofJson?_toJson h.counts h.falsePositives)) ?_
  exact bind_eq_some (required_eq_some rfl paths) rfl

theorem AnalysisReport.ofJson?_toJson {r : AnalysisReport} (h : r.Fits) : ofJson? r.toJson = some r := by
  have programs : list? ProgramReport.ofJson? (ofList ProgramReport.toJson r.programs) = some r.programs :=
    list?_ofList fun p hp => ProgramReport.ofJson?_toJson (h.programs p hp)
  refine bind_eq_some (record?_obj (by rfl) (by decide) false) ?_
  refine bind_eq_some (required_eq_some rfl programs) ?_
  exact bind_eq_some (required_eq_some rfl (GraphStats.ofJson?_toJson h.graph)) rfl

/-! ## Text -/

theorem Program.plain (p : Program) : p.toJson.Plain := .str _

theorem Value.plain (v : Value) : v.toJson.Plain := .obj (by simp [v.program.plain])

theorem CallInfo.plain (c : CallInfo) : c.toJson.Plain :=
  .obj (by simp [plain_ofOption, plain_ofList, Value.plain])

theorem NodeKind.plain (kind : NodeKind) : kind.toJson.Plain := by
  cases kind with
  | op opcode value => exact plain_tagged (.obj (by simp [Opcode.toJson, plain_ofOption, Value.plain])) _
  | call info => exact plain_tagged info.plain _
  | var value => exact plain_tagged (.obj (by simp [value.plain])) _
  | mem key => exact plain_tagged (.obj (by simp)) _
  | netRead info => exact plain_tagged info.plain _
  | netWrite info => exact plain_tagged info.plain _
  | input value origin name => exact plain_tagged (.obj (by simp [value.plain, Origin.toJson])) _

theorem Location.plain (l : Location) : l.toJson.Plain := .obj (by simp)

theorem Node.plain (n : Node) : n.toJson.Plain := by
  have adjacency (m : SortedMap NodeId EdgeKind) : (adjacencyJson m).Plain := plain_ofMap (fun k => .str _) m
  exact .obj (by simp [n.program.plain, ofSet, plain_ofList, plain_ofOption, Location.plain, n.kind.plain, adjacency])

theorem PerProgram.plain {α : Type} {write : α → Json} (h : ∀ a, (write a).Plain) (s : PerProgram α) :
    (s.toJson write).Plain := .obj (by simpa using .arr (by simp [h]))

theorem GraphStats.plain (s : GraphStats) : s.toJson.Plain :=
  .obj (by simp [plain_ofMap, PerProgram.plain])

theorem ReportedPath.plain (p : ReportedPath) : p.toJson.Plain :=
  .obj (by simp [Category.toJson, plain_ofList])

theorem ProgramReport.plain (r : ProgramReport) : r.toJson.Plain := by
  have counts : r.counts.toJson.Plain := .obj (by simp)
  exact .obj (by simp [r.program.plain, counts, plain_ofList, ReportedPath.plain])

theorem AnalysisReport.plain (r : AnalysisReport) : r.toJson.Plain :=
  .obj (by simp [plain_ofList, ProgramReport.plain, r.graph.plain])

/-- A report is read back from its text, and a node from its JSON value and from the text of that. -/
theorem report_and_node_read_back :
    (∀ r : AnalysisReport, r.Fits → AnalysisReport.ofText? r.render = some r) ∧
      ∀ n : Node, n.Fits → Node.ofJson? n.toJson = some n ∧
        (Json.ofText? n.toJson.compact).bind Node.ofJson? = some n := by
  refine ⟨fun r fits => ?_, fun n fits => ⟨Node.ofJson?_toJson fits, ?_⟩⟩
  · rw [AnalysisReport.ofText?, AnalysisReport.render, r.plain.ofText?_pretty]
    exact AnalysisReport.ofJson?_toJson fits
  · rw [n.plain.ofText?_compact]
    exact Node.ofJson?_toJson fits

/-- A report with the largest numbers and labels that have to be escaped. -/
def brimmingReport : AnalysisReport where
  programs := [{
    program := .second
    arrayCount := 18446744073709551615
    counts := ⟨18446744073709551615, 0, 18446744073709551615, 1⟩
    paths := [⟨.cross, ["input:net:\x00\n\"\\", "mem:\u00fc\u2028", ""]⟩, ⟨.local, []⟩] }]
  graph := {
    nodes := 18446744073709551615
    edges := 0
    nodesByKind := .ofList [(.netRead, 18446744073709551615), (.op, 0)]
    dataEdges := 10
    controlEdges := 100
    crossProgramEdges := 18446744073709551615
    arrayChecks := ⟨18446744073709551615, 0⟩ }

/-- A node with the largest numbers that receives from the network. -/
def brimmingNode : Node where
  id := 4294967295
  program := .second
  label := "recv \x1f\x7f\t\x2f"
  count := 4294967295
  levels := .ofList [0, 10, 4294967295]
  location := some ⟨"", 4294967295⟩
  kind := .netRead ⟨none, [none, some 4294967295, some 0], some ⟨.first, 4294967295⟩⟩
  successors := .ofList [(10, .control), (9, .data), (4294967295, .data)]

theorem report_and_node_read_back_brimming :
    (brimmingReport.Fits ∧ AnalysisReport.ofText? brimmingReport.render = some brimmingReport) ∧
      brimmingNode.Fits ∧ Node.ofJson? brimmingNode.toJson = some brimmingNode ∧
      (Json.ofText? brimmingNode.toJson.compact).bind Node.ofJson? = some brimmingNode := by
  have report : brimmingReport.Fits := by
    refine ⟨fun p hp => ?_, ⟨by decide, by decide, by decide, by decide, by decide, by decide, fun p => ?_⟩⟩
    · rw [List.mem_singleton.1 hp]
      exact ⟨by decide, fun c => by cases c <;> decide, by decide⟩
    · cases p <;> decide
  have node : brimmingNode.Fits := by
    refine ⟨by decide, by decide, fun l hl => ?_, fun l hl => ?_, ⟨fun n hn => ?_, fun v hv => ?_⟩, by decide,
      by decide⟩
    · have listed : l ∈ [0, 10, 4294967295] := SortedSet.mem_ofList.1 hl
      exact (by decide : ∀ l ∈ [0, 10, 4294967295], l < bound32) l listed
    · cases hl
      exact (by decide : 4294967295 < bound32)
    · have listed : n = 4294967295 ∨ n = 0 := by simpa using hn
      rcases listed with rfl | rfl <;> decide
    · cases hv
      exact (by decide : 4294967295 < bound32)
  exact ⟨⟨report, report_and_node_read_back.1 _ report⟩, node, report_and_node_read_back.2 _ node⟩

end PeerTaint
