import Groundwork.Digest.PlanHash
import Groundwork.Proofs.Report.Entries
import Groundwork.Proofs.Resolution.Compiled

/-!
# Reports are complete

A compiled plan is generated without a warning: the registry has a generator for every node, the
generator is for the node's settings, and it makes something of them.  The report therefore has one
block for each resource, in provisioning order.

Main results:

- `Plan.map_id_ordered`: the ordered resources of a plan stand under the ids of its order.
- `Report.map_fst_artifacts`: where every node becomes something, the artifacts are those of all
  nodes in order.
- `Plan.generateAll_complete`: a compiled plan has a block for each resource and no warning.
-/

namespace Groundwork

namespace Plan

variable {p : Plan}

/-! ## Resources in order -/

/-- The ordered resources of a plan stand under the ids of its order. -/
theorem map_id_ordered (h : p.order.Perm (p.resources.map (·.id))) :
    p.ordered.map (·.id) = p.order := by
  by_cases hempty : p.order = []
  · rw [hempty] at h
    rw [ordered_of_order_eq_nil hempty, hempty]
    exact h.nil_eq.symm
  · rw [map_id_ordered_eq_filter hempty, List.filter_eq_self]
    exact fun id hid => decide_eq_true (h.subset hid)

/-- The ordered resources are resources. -/
theorem mem_resources_of_mem_ordered {r : Resource} (h : r ∈ p.ordered) : r ∈ p.resources := by
  unfold ordered at h
  split at h
  · exact h
  · obtain ⟨id, -, hid⟩ := List.mem_filterMap.1 h
    exact List.mem_of_find?_eq_some hid

end Plan

namespace OrderedMap

/-- Entries under distinct keys are kept as they are. -/
theorem keys_ofList {α : Type} {entries : List (String × α)}
    (h : (entries.map (·.1)).Nodup) : (ofList entries).keys = entries.map (·.1) := by
  rw [ofList, keys, entries_insertAll (by simpa [empty] using h)]
  rfl

end OrderedMap

namespace Report

variable {registry : Registry} {nodes : List Resource}

/-! ## Artifacts and warnings -/

/-- Where every node becomes something, the artifacts are those of all nodes, in order. -/
theorem map_fst_artifacts (h : ∀ r ∈ nodes, ∃ a, registry.generate r = .ok a) :
    (artifacts registry nodes).map (·.1) = nodes := by
  induction nodes with
  | nil => rfl
  | cons r rest ih =>
    obtain ⟨a, ha⟩ := h r List.mem_cons_self
    have hrest := ih fun s hs => h s (List.mem_cons_of_mem r hs)
    rw [artifacts, List.filterMap_cons_some (by rw [ha]), List.map_cons, ← artifacts, hrest]

/-- Where every node becomes something, there is no warning. -/
theorem warningsOf_eq_nil (h : ∀ r ∈ nodes, ∃ a, registry.generate r = .ok a) :
    warningsOf registry nodes = [] := by
  rw [warningsOf, List.filterMap_eq_nil_iff]
  intro r hr
  obtain ⟨a, ha⟩ := h r hr
  rw [ha]

end Report

namespace Plan

/-! ## Reports on compiled plans -/

/-- The blocks of a report stand under the ids of the nodes that became something. -/
theorem map_resourceId_blocks (p : Plan) (registry : Registry) :
    (p.generateAll registry).blocks.map (·.resourceId) =
      ((Report.artifacts registry p.ordered).map (·.1)).map (·.id) := by
  simp only [generateAll, List.map_map]
  rfl

/-- The warnings of a report are those of its nodes, in order. -/
theorem warnings_generateAll (p : Plan) (registry : Registry) :
    (p.generateAll registry).warnings = Report.warningsOf registry p.ordered :=
  rfl

/-- Every node of a compiled plan has a generator, which is for its settings and makes something of
them. -/
theorem exists_generator {d : Description} (h : d.Compiles p) {r : Resource}
    (hr : r ∈ p.resources) :
    ∃ g, Registry.builtin.get? r.typeTag = some g ∧ r.config.kind = g.kind ∧
      ∃ a, g.generate r = .ok a := by
  obtain ⟨k, hk, hnode, haccepts⟩ := h.served hr
  exact Backend.exists_generate hk hnode.typeTag_eq hnode.kind_eq haccepts

/-- Every node of a compiled plan becomes something. -/
theorem exists_generated {d : Description} (h : d.Compiles p) {r : Resource}
    (hr : r ∈ p.ordered) : ∃ a, Registry.builtin.generate r = .ok a := by
  obtain ⟨g, hget, -, a, ha⟩ := exists_generator h (mem_resources_of_mem_ordered hr)
  exact ⟨a, by rw [Registry.generate, hget]; exact ha⟩

/-- No node of a compiled plan is warned about. -/
theorem warnings_eq_nil {d : Description} (h : d.Compiles p) :
    (p.generateAll .builtin).warnings = [] := by
  rw [warnings_generateAll, Report.warningsOf_eq_nil fun r hr => exists_generated h hr]

/-- A compiled plan is generated without a warning, with one block for each resource in provisioning
order, and its hashes stand in that order: every type tag is registered, for the settings that the
node has, and the generator makes something of them. -/
theorem generateAll_complete {d : Description} {p : Plan} (h : d.compile = .ok p) :
    (p.generateAll .builtin).warnings = [] ∧
      (∀ r ∈ p.resources, ∃ g, Registry.builtin.get? r.typeTag = some g ∧
        r.config.kind = g.kind ∧ ∃ a, g.generate r = .ok a) ∧
      (p.generateAll .builtin).blocks.map (·.resourceId) = p.order ∧
      p.order.Perm (p.resources.map (·.id)) ∧ p.order.Nodup ∧
      p.resourceHashes.keys = p.order := by
  have hcompiles := Description.compile_eq_ok_iff.1 h
  have hperm := hcompiles.isGreedyOrder.perm
  have hnodup : p.order.Nodup := hperm.nodup_iff.2 hcompiles.nodup_ids
  refine ⟨warnings_eq_nil hcompiles, fun r hr => exists_generator hcompiles hr, ?_, hperm, hnodup,
    ?_⟩
  · rw [map_resourceId_blocks, Report.map_fst_artifacts fun r hr => exists_generated hcompiles hr,
      map_id_ordered hperm]
  · have hkeys : (p.ordered.map fun r => (r.id, r.hash)).map (·.1) = p.order := by
      rw [List.map_map]
      exact map_id_ordered hperm
    rw [resourceHashes, OrderedMap.keys_ofList (by rw [hkeys]; exact hnodup), hkeys]

end Plan

/-- A shop: a topic, a function that it triggers, a container that refers to both of them, and a
load balancer in front. -/
def Description.storefront (b : Backend) : Description where
  project := ⟨"storefront", "us-central1", none, b⟩
  serviceAccount := none
  buckets := []
  secrets := []
  topics := [⟨"orders", none⟩]
  queues := []
  networks := [{
    name := "main"
    subnets := []
    firewall := []
    registry := none
    containers := [{
      name := "api"
      image := none
      port := 8080
      cpu := "1"
      memory := "512Mi"
      minInstances := 0
      maxInstances := 10
      env := .ofList [("ORDERS", "@topic/orders"), ("MAILER", "@function/mailer")]
      secrets := ∅
      allowUnauthenticated := true
      dependsOn := [] }]
    functions := [{
      name := "mailer"
      runtime := "nodejs20"
      entryPoint := "handler"
      source := none
      memory := "256Mi"
      timeoutSeconds := 60
      triggerTopic := some "@topic/orders"
      env := ∅
      secrets := ∅
      allowUnauthenticated := false
      dependsOn := [] }]
    databases := []
    caches := []
    uis := []
    loadBalancer := some ⟨none, false, none, [], none⟩ }]
  crons := []
  kernel := none
  hybridKernel := none
  kubernetes := none

namespace Plan

/-- The shop as flat code: the function comes before the container that calls it. -/
theorem generateAll_complete_storefront :
    ∃ p, (Description.storefront .flat).compile = .ok p ∧
      p.order = ["topic-orders", "function-mailer", "container-api", "load-balancer-main"] ∧
      (p.generateAll .builtin).warnings = [] ∧
      (∀ r ∈ p.resources, ∃ g, Registry.builtin.get? r.typeTag = some g ∧
        r.config.kind = g.kind ∧ ∃ a, g.generate r = .ok a) ∧
      (p.generateAll .builtin).blocks.map (·.resourceId) = p.order ∧
      p.order.Perm (p.resources.map (·.id)) ∧ p.order.Nodup ∧
      p.resourceHashes.keys = p.order := by
  have horder : (Description.storefront .flat).compile.toOption.map (·.order) =
      some ["topic-orders", "function-mailer", "container-api", "load-balancer-main"] := by
    decide +kernel
  cases hcompile : (Description.storefront .flat).compile with
  | error e =>
    rw [hcompile] at horder
    cases horder
  | ok p =>
    rw [hcompile] at horder
    exact ⟨p, rfl, Option.some.inj horder, generateAll_complete hcompile⟩

end Plan

end Groundwork
