import Groundwork.Report.Basic
import Mathlib.Data.List.Basic

/-!
# What a report keeps of every node

A report is made node by node: each adds a block with its imports and outputs, or else a warning.
So every node has exactly one entry in the report, at its place in the provisioning order, whatever
the generators are and whatever ids the order lists.  Where generators are taken out of a registry,
the entries of the nodes with their tags become warnings and all other entries stay.

Main results:

- `Plan.map_id_ordered_eq_filter`, `Plan.exists_first_of_mem_ordered`: the nodes that the order of a
  plan names.
- `Report.ofNodes_append_singleton`: what one more node adds to a report.
- `Plan.generateAll_eq_foldl`: a report is made by adding the nodes in provisioning order.
- `Registry.generate_without_of_mem`, `Registry.generate_without_of_not_mem`: what becomes of a node
  without some generators.
- `Plan.generateAll_entries`: the entries of a report, and what becomes of them without some
  generators.
-/

namespace Groundwork

namespace Plan

variable {p : Plan}

/-! ## The nodes that an order names -/

/-- Ids pick resources of these ids; those that no resource has are passed over. -/
theorem map_id_filterMap_get? (p : Plan) (ids : List String) :
    (ids.filterMap p.get?).map (·.id) = ids.filter (· ∈ p.resources.map (·.id)) := by
  induction ids with
  | nil => rfl
  | cons id rest ih =>
    cases h : p.get? id with
    | none =>
      have hnone : id ∉ p.resources.map (·.id) := by
        simpa [get?, List.find?_eq_none] using h
      rw [List.filterMap_cons_none h, ih, List.filter_cons_of_neg (by simpa using hnone)]
    | some r =>
      have hid : r.id = id := by simpa using List.find?_some h
      have hmem : id ∈ p.resources.map (·.id) :=
        List.mem_map.2 ⟨r, List.mem_of_find?_eq_some h, hid⟩
      rw [List.filterMap_cons_some h, List.map_cons, ih, hid,
        List.filter_cons_of_pos (by simpa using hmem)]

/-- While there is no order the nodes stand as they are declared. -/
theorem ordered_of_order_eq_nil (h : p.order = []) : p.ordered = p.resources := by
  simp [ordered, h]

/-- An order names its nodes one by one, repetitions kept. -/
theorem ordered_of_order_ne_nil (h : p.order ≠ []) : p.ordered = p.order.filterMap p.get? := by
  simp [ordered, h]

/-- The nodes that an order names have its ids, but for those that no resource has. -/
theorem map_id_ordered_eq_filter (h : p.order ≠ []) :
    p.ordered.map (·.id) = p.order.filter (· ∈ p.resources.map (·.id)) := by
  rw [ordered_of_order_ne_nil h, map_id_filterMap_get?]

/-- Of resources with the same id an order names the first. -/
theorem exists_first_of_mem_ordered (h : p.order ≠ []) {r : Resource} (hr : r ∈ p.ordered) :
    ∃ before after, p.resources = before ++ r :: after ∧ ∀ q ∈ before, q.id ≠ r.id := by
  rw [ordered_of_order_ne_nil h] at hr
  obtain ⟨id, -, hget⟩ := List.mem_filterMap.1 hr
  obtain ⟨hid, before, after, hresources, hbefore⟩ := List.find?_eq_some_iff_append.1 hget
  obtain rfl : r.id = id := of_decide_eq_true hid
  exact ⟨before, after, hresources, fun q hq => by simpa using hbefore q hq⟩

end Plan

namespace Report

variable {registry : Registry} {nodes : List Resource}

/-! ## One node after the other -/

/-- Puts an import at the end unless it is there. -/
def addImport (imports : List String) (i : String) : List String :=
  if i ∈ imports then imports else imports ++ [i]

/-- The report before any node. -/
def start (project : ProjectInfo) : Report := ⟨project, [], [], [], []⟩

/-- The report with one more node. -/
def add (registry : Registry) (report : Report) (r : Resource) : Report :=
  match registry.generate r with
  | .ok a =>
    { report with
      imports := a.imports.foldl addImport report.imports
      blocks := report.blocks ++ [⟨r.id, r.typeTag, a.code⟩]
      outputs := report.outputs ++ a.outputs }
  | .error e => { report with warnings := report.warnings ++ [⟨r.id, e.message⟩] }

/-- The report on some nodes. -/
def ofNodes (project : ProjectInfo) (registry : Registry) (nodes : List Resource) : Report :=
  let made := artifacts registry nodes
  { project := project
    imports := (made.flatMap (·.2.imports)).eraseDups
    blocks := made.map fun (r, a) => ⟨r.id, r.typeTag, a.code⟩
    outputs := made.flatMap (·.2.outputs)
    warnings := warningsOf registry nodes }

theorem eraseDups_append_singleton (imports : List String) (i : String) :
    (imports ++ [i]).eraseDups = addImport imports.eraseDups i := by
  rw [List.eraseDups_append, addImport]
  by_cases h : i ∈ imports
  · simp [h, List.removeAll]
  · simp [h, List.removeAll, List.eraseDups_cons]

/-- Adding imports one by one leaves out those that have come before. -/
theorem foldl_addImport (before imports : List String) :
    imports.foldl addImport before.eraseDups = (before ++ imports).eraseDups := by
  induction imports generalizing before with
  | nil => simp
  | cons i rest ih =>
    rw [List.foldl_cons, ← eraseDups_append_singleton, ih, List.append_assoc,
      List.singleton_append]

/-- One more node adds its block, imports and outputs to a report, or else a warning. -/
theorem ofNodes_append_singleton (project : ProjectInfo) (registry : Registry)
    (nodes : List Resource) (r : Resource) :
    ofNodes project registry (nodes ++ [r]) = (ofNodes project registry nodes).add registry r := by
  cases h : registry.generate r with
  | ok a => simp [ofNodes, add, artifacts, warningsOf, h, foldl_addImport]
  | error e => simp [ofNodes, add, artifacts, warningsOf, h]

/-- Adding nodes to a report on others gives the report on all of them. -/
theorem foldl_add (project : ProjectInfo) (registry : Registry) (before nodes : List Resource) :
    nodes.foldl (add registry) (ofNodes project registry before) =
      ofNodes project registry (before ++ nodes) := by
  induction nodes generalizing before with
  | nil => simp
  | cons r rest ih =>
    rw [List.foldl_cons, ← ofNodes_append_singleton, ih, List.append_assoc, List.singleton_append]

/-! ## Entries -/

/-- What a node becomes in a report. -/
def entry (registry : Registry) (r : Resource) : CodeBlock ⊕ Warning :=
  match registry.generate r with
  | .ok a => .inl ⟨r.id, r.typeTag, a.code⟩
  | .error e => .inr ⟨r.id, e.message⟩

/-- The blocks are the entries of the nodes that became something. -/
theorem map_artifacts_eq_filterMap_entry (registry : Registry) (nodes : List Resource) :
    ((artifacts registry nodes).map fun made => CodeBlock.mk made.1.id made.1.typeTag made.2.code) =
      nodes.filterMap fun r => (entry registry r).getLeft? := by
  rw [artifacts, List.map_filterMap]
  apply List.filterMap_congr
  intro r _
  cases h : registry.generate r <;> simp [entry, h]

/-- The warnings are the entries of the other nodes. -/
theorem warningsOf_eq_filterMap_entry (registry : Registry) (nodes : List Resource) :
    warningsOf registry nodes = nodes.filterMap fun r => (entry registry r).getRight? := by
  apply List.filterMap_congr
  intro r _
  cases h : registry.generate r <;> simp [entry, h]

/-- No node is lost, and none has two entries. -/
theorem length_artifacts_add_length_warningsOf (registry : Registry) (nodes : List Resource) :
    (artifacts registry nodes).length + (warningsOf registry nodes).length = nodes.length := by
  induction nodes with
  | nil => rfl
  | cons r rest ih =>
    cases h : registry.generate r with
    | ok a =>
      rw [artifacts, warningsOf, List.filterMap_cons_some (by rw [h]),
        List.filterMap_cons_none (by rw [h]), ← artifacts, ← warningsOf, List.length_cons,
        List.length_cons]
      omega
    | error e =>
      rw [artifacts, warningsOf, List.filterMap_cons_none (by rw [h]),
        List.filterMap_cons_some (by rw [h]), ← artifacts, ← warningsOf, List.length_cons,
        List.length_cons]
      omega

end Report

/-! ## Fewer generators -/

namespace Registry

variable {tags : List String} {r : Resource}

/-- Tags that are left keep their generators. -/
theorem get?_without_of_not_mem (registry : Registry) {tag : String} (h : tag ∉ tags) :
    (registry.without tags).get? tag = registry.get? tag := by
  rw [get?, without, OrderedMap.get?_filterKeys, if_pos (decide_eq_true h), ← get?]

/-- Tags that are taken out have no generator. -/
theorem get?_without_of_mem (registry : Registry) {tag : String} (h : tag ∈ tags) :
    (registry.without tags).get? tag = none := by
  rw [get?, without, OrderedMap.get?_filterKeys, if_neg (by simpa using h)]

/-- Without the generator for its tag a node becomes nothing. -/
theorem generate_without_of_mem (registry : Registry) (h : r.typeTag ∈ tags) :
    (registry.without tags).generate r = .error (.unknownType r.id r.typeTag) := by
  rw [generate, get?_without_of_mem registry h]

/-- Any other node becomes what it did. -/
theorem generate_without_of_not_mem (registry : Registry) (h : r.typeTag ∉ tags) :
    (registry.without tags).generate r = registry.generate r := by
  rw [generate, get?_without_of_not_mem registry h, ← generate]

end Registry

namespace Report

variable {registry : Registry} {nodes : List Resource} {tags : List String}

/-- What becomes of an entry without some generators. -/
theorem entry_without (registry : Registry) (tags : List String) (r : Resource) :
    entry (registry.without tags) r =
      if r.typeTag ∈ tags then .inr ⟨r.id, (GenerateError.unknownType r.id r.typeTag).message⟩
      else entry registry r := by
  split
  next h => rw [entry, Registry.generate_without_of_mem registry h]
  next h => rw [entry, Registry.generate_without_of_not_mem registry h, ← entry]

/-- The artifacts that are left are those of the nodes with other tags. -/
theorem artifacts_without (registry : Registry) (tags : List String) (nodes : List Resource) :
    artifacts (registry.without tags) nodes =
      artifacts registry (nodes.filter (·.typeTag ∉ tags)) := by
  rw [artifacts, artifacts, List.filterMap_filter]
  apply List.filterMap_congr
  intro r _
  by_cases h : r.typeTag ∈ tags
  · simp [h, Registry.generate_without_of_mem]
  · simp [h, Registry.generate_without_of_not_mem]

/-- The artifacts of the nodes with other tags, picked from the artifacts of all nodes. -/
theorem artifacts_filter (registry : Registry) (tags : List String) (nodes : List Resource) :
    artifacts registry (nodes.filter (·.typeTag ∉ tags)) =
      (artifacts registry nodes).filter (·.1.typeTag ∉ tags) := by
  rw [artifacts, artifacts, List.filterMap_filter, List.filter_filterMap]
  apply List.filterMap_congr
  intro r _
  cases hg : registry.generate r with
  | ok a => by_cases h : r.typeTag ∈ tags <;> simp [h, Option.filter]
  | error e => by_cases h : r.typeTag ∈ tags <;> simp [h]

end Report

namespace Plan

/-- A report is made by adding the nodes one after the other in provisioning order. -/
theorem generateAll_eq_foldl (p : Plan) (registry : Registry) :
    p.generateAll registry = p.ordered.foldl (Report.add registry) (.start p.project) := by
  exact (Report.foldl_add p.project registry [] p.ordered).symm

/-- The nodes of a plan are its resources while there is no order, else those that the order names:
ids of no resource are passed over, repetitions are kept, and of resources with the same id the
first is meant.  Whatever the generators answer, every one of these nodes has exactly one entry in
the report: a block if its generator makes something of it, else a warning, both in provisioning
order; imports are those of the blocks, each where it is first needed, and outputs those of the
blocks.  Without the generators for some tags the nodes with these tags have warnings about an
unknown type at their places; all other entries are the same, and imports and outputs are those of
the blocks that are left. -/
theorem generateAll_entries (p : Plan) (registry : Registry) (tags : List String) :
    let report := p.generateAll registry
    let rest := p.generateAll (registry.without tags)
    ((p.order = [] → p.ordered = p.resources) ∧
        (p.order ≠ [] →
          p.ordered.map (·.id) = p.order.filter (· ∈ p.resources.map (·.id)) ∧
          ∀ r ∈ p.ordered, ∃ before after,
            p.resources = before ++ r :: after ∧ ∀ q ∈ before, q.id ≠ r.id)) ∧
      (report = p.ordered.foldl (Report.add registry) (.start p.project) ∧
        report.blocks = (p.ordered.map (Report.entry registry)).filterMap Sum.getLeft? ∧
        report.warnings = (p.ordered.map (Report.entry registry)).filterMap Sum.getRight? ∧
        report.blocks.length + report.warnings.length = p.ordered.length ∧
        report.imports = ((Report.artifacts registry p.ordered).flatMap (·.2.imports)).eraseDups ∧
        report.outputs = (Report.artifacts registry p.ordered).flatMap (·.2.outputs)) ∧
      p.ordered.map (Report.entry (registry.without tags)) =
        (p.ordered.map fun r =>
          if r.typeTag ∈ tags then
            .inr ⟨r.id, (GenerateError.unknownType r.id r.typeTag).message⟩
          else Report.entry registry r) ∧
      rest.blocks = report.blocks.filter (·.resourceType ∉ tags) ∧
      rest.warnings = (p.ordered.filterMap fun r =>
        if r.typeTag ∈ tags then
          some ⟨r.id, (GenerateError.unknownType r.id r.typeTag).message⟩
        else (Report.entry registry r).getRight?) ∧
      rest.imports = ((Report.artifacts registry
        (p.ordered.filter (·.typeTag ∉ tags))).flatMap (·.2.imports)).eraseDups ∧
      rest.outputs = (Report.artifacts registry
        (p.ordered.filter (·.typeTag ∉ tags))).flatMap (·.2.outputs) := by
  intro report rest
  have hblocks := Report.map_artifacts_eq_filterMap_entry registry p.ordered
  have hwarnings := Report.warningsOf_eq_filterMap_entry registry p.ordered
  have hentries : p.ordered.map (Report.entry (registry.without tags)) =
      p.ordered.map fun r =>
        if r.typeTag ∈ tags then
          .inr ⟨r.id, (GenerateError.unknownType r.id r.typeTag).message⟩
        else Report.entry registry r :=
    List.map_congr_left fun r _ => Report.entry_without registry tags r
  have hrest := Report.artifacts_without registry tags p.ordered
  refine ⟨⟨ordered_of_order_eq_nil, fun h =>
      ⟨map_id_ordered_eq_filter h, fun r hr => exists_first_of_mem_ordered h hr⟩⟩,
    ⟨generateAll_eq_foldl p registry, ?_, ?_, ?_, rfl, rfl⟩, hentries, ?_, ?_, ?_, ?_⟩
  · rw [List.filterMap_map]
    exact hblocks
  · rw [List.filterMap_map]
    exact hwarnings
  · simp only [report, generateAll, List.length_map]
    exact Report.length_artifacts_add_length_warningsOf registry p.ordered
  · simp only [rest, report, generateAll, hrest, Report.artifacts_filter, List.filter_map]
    rfl
  · simp only [rest, generateAll, Report.warningsOf_eq_filterMap_entry, Report.entry_without]
    apply List.filterMap_congr
    intro r _
    split <;> rfl
  · simp only [rest, generateAll, hrest]
  · simp only [rest, generateAll, hrest]

/-- A generator of notes, which bind an output and need no imports. -/
def noteGenerator : Definition where
  id := "gcp:note"
  kind := .secret
  schema := .null
  defaultConfig := .null
  generate r := .ok (.plain [] ("// " ++ r.name) [r.name])

/-- A generator of frames, which need the same import twice. -/
def frameGenerator : Definition where
  id := "gcp:frame"
  kind := .bucket
  schema := .null
  defaultConfig := .null
  generate r := .ok (.plain ["import wood", "import wood"] ("hang " ++ r.name) [])

/-- A generator of maps that accepts none, and says so in words of its own. -/
def chartGenerator : Definition where
  id := "gcp:chart"
  kind := .topic
  schema := .null
  defaultConfig := .null
  generate r := .error (.configMismatch r.id r.typeTag "coast" "desert")

/-- The registry of the annex. -/
def annexRegistry : Registry :=
  (Registry.empty.registerAll
    [⟨.flat, noteGenerator⟩, ⟨.flat, frameGenerator⟩, ⟨.flat, chartGenerator⟩]).1

/-- A node of the annex. -/
def annexNode (id typeTag name : String) : Resource :=
  ⟨id, typeTag, name, .secret ⟨name, none, none⟩, [], none⟩

/-- The annex has two notes of the same id, and its order lists one id twice and one that no node
has. -/
def annex : Plan where
  project := ⟨"annex", "us-central1", "annex-1", .flat⟩
  resources :=
    [annexNode "note" "gcp:note" "first", annexNode "chart" "gcp:chart" "sea",
      annexNode "frame" "gcp:frame" "oak", annexNode "note" "gcp:note" "second"]
  order := ["frame", "ghost", "note", "chart", "note"]

/-- In the annex the first note is written twice, between a frame and a map that is refused; without
the generator of frames nothing but the frame and its import is lost. -/
theorem generateAll_entries_annex :
    let report := annex.generateAll annexRegistry
    let rest := annex.generateAll (annexRegistry.without ["gcp:frame"])
    annex.ordered.map (·.id) = ["frame", "note", "chart", "note"] ∧
      report.blocks =
        [⟨"frame", "gcp:frame", "hang oak"⟩, ⟨"note", "gcp:note", "// first"⟩,
          ⟨"note", "gcp:note", "// first"⟩] ∧
      report.warnings =
        [⟨"chart", "'chart' (gcp:chart) carries a desert config, expected coast"⟩] ∧
      report.imports = ["import wood"] ∧ report.outputs = ["first", "first"] ∧
      rest.blocks =
        [⟨"note", "gcp:note", "// first"⟩, ⟨"note", "gcp:note", "// first"⟩] ∧
      rest.warnings =
        [⟨"frame", "unknown resource type 'gcp:frame' for 'frame'"⟩,
          ⟨"chart", "'chart' (gcp:chart) carries a desert config, expected coast"⟩] ∧
      rest.imports = [] ∧ rest.outputs = ["first", "first"] := by
  obtain ⟨⟨-, hordered⟩, ⟨-, hblocks, hwarnings, -, himports, houtputs⟩, -, hblocks', hwarnings',
    himports', houtputs'⟩ := generateAll_entries annex annexRegistry ["gcp:frame"]
  obtain ⟨hids, -⟩ := hordered (by simp [annex])
  exact ⟨hids.trans (by decide +kernel), hblocks.trans (by decide +kernel),
    hwarnings.trans (by decide +kernel), himports.trans (by decide +kernel),
    houtputs.trans (by decide +kernel),
    hblocks'.trans (by rw [hblocks]; decide +kernel), hwarnings'.trans (by decide +kernel),
    himports'.trans (by decide +kernel), houtputs'.trans (by decide +kernel)⟩

end Plan

end Groundwork
