import Groundwork.Proofs.Resolution.Cluster
import Groundwork.Proofs.Resolution.Inventory

/-!
# What workloads wait for

A workload waits for what its network gives it to stand on, for all that its environment and its
trigger refer to, and for what it lists.  Nothing else of its network is waited for, and nothing of
another network: what a site is does not depend on the networks resolved before it.

Main results:

- `Description.Legal.base_workloadSite`: what a network gives its workloads to wait for.
- `Description.Legal.nodes_of_resolves`: a resolved workload waits for its site and for what it asks
  for.
- `Description.Compiles.mem_ids_of_mem_requests`: whatever a workload asks for is there.
- `Description.dependsOn_of_compile`: what every workload of a compiled plan waits for.
-/

namespace Groundwork

namespace Description

variable (d : Description)

/-! ## Ids that a workload asks for -/

/-- The id of the node that a reference means: in a cluster, workloads are deployments. -/
def targetId (ref : Reference) : String :=
  if d.project.backend = .manifest ∧ ref.type.isWorkload then
    ResourceKind.deployment.nodeId ref.name
  else ref.resourceId

/-- The id that an entry of a dependency list means: that of a reference's node, or the entry. -/
def entryId (entry : String) : String :=
  match Reference.parse? entry with
  | some ref => d.targetId ref
  | none => entry

/-- The ids that a workload asks for: by its variables, by what triggers it, and by its list. -/
def requests (w : Workload) : List String :=
  (Reference.extract (Project.effectiveValues w.env w.secrets)).map d.targetId
    ++ (w.trigger.bind Reference.parse?).toList.map d.targetId
    ++ w.listed.map d.entryId

/-- The id of the node that a workload is: in a cluster, its deployment. -/
def workloadId (w : Workload) : String :=
  (if d.project.backend = .manifest then ResourceKind.deployment else w.kind).nodeId w.name

/-- The ids that a network gives its workloads of a kind to wait for: its node in flat code, its
connector, registry and kernel in constructs, and the namespace and config map in a cluster. -/
def base (n : NetworkSpec) (kind : ResourceKind) : List String :=
  match d.project.backend with
  | .flat => if n.hasInfrastructure then [ResourceKind.network.nodeId n.name] else []
  | .construct =>
    ResourceKind.connector.nodeId n.name ::
      n.registry.toList.map (ResourceKind.registry.nodeId ·.name)
      ++ if kind.isKernel then []
        else (d.kernelsIn n).map fun k => k.1.resourceKind.nodeId k.2.name
  | .manifest => d.scaffoldIds

variable {d}

/-! ## Kinds of workloads and references -/

/-- The kinds of node that workloads are. -/
def workloadKinds : List ResourceKind :=
  [.deployment, .container, .function, .ui, .kernel, .hybridKernel]

/-- The id of a workload is of a kind of workload. -/
theorem firstWord_of_workloadId_eq {n : NetworkSpec} {w : Workload} (hw : w ∈ d.workloadsIn n)
    {k : ResourceKind} {name : String} (h : k.nodeId name = d.workloadId w) :
    ∃ kind ∈ workloadKinds, k.firstWord = kind.firstWord := by
  refine ⟨_, ?_, ResourceKind.firstWord_eq_of_nodeId_eq h⟩
  by_cases hb : d.project.backend = .manifest
  · rw [if_pos hb]
    exact List.mem_cons_self
  rw [if_neg hb]
  simp only [workloadsIn, NetworkSpec.workloads, List.mem_append, List.mem_map] at hw
  rcases hw with ⟨⟨variant, k⟩, -, rfl⟩ | (⟨spec, -, rfl⟩ | ⟨spec, -, rfl⟩) | ⟨spec, -, rfl⟩
  · cases variant <;> simp [workloadKinds, Workload.ofKernel, KernelVariant.resourceKind]
  all_goals simp [workloadKinds, Workload.ofContainer, Workload.ofFunction, Workload.ofUi]

/-- The id that a reference means is of a deployment or of the kind of the reference. -/
theorem firstWord_of_targetId_eq {ref : Reference} {k : ResourceKind} {name : String}
    (h : d.targetId ref = k.nodeId name) :
    k.firstWord = ResourceKind.deployment.firstWord ∨ k = ref.type.resourceKind := by
  unfold targetId at h
  split at h
  · exact Or.inl (ResourceKind.firstWord_eq_of_nodeId_eq h).symm
  · rw [ref.resourceId_eq_nodeId] at h
    exact Or.inr (ReferenceType.nodeId_eq_iff.1 h.symm).1

/-- What no reference can mean is asked for exactly if it is listed. -/
theorem nodeId_mem_requests_iff {w : Workload} {k : ResourceKind} {name : String}
    (hdeployment : k.firstWord ≠ ResourceKind.deployment.firstWord)
    (hreference : ∀ t : ReferenceType, k ≠ t.resourceKind) :
    k.nodeId name ∈ d.requests w ↔ k.nodeId name ∈ w.listed := by
  have hmeant : ∀ ref, d.targetId ref ≠ k.nodeId name := fun ref heq =>
    (firstWord_of_targetId_eq heq).elim hdeployment (hreference ref.type)
  constructor
  · intro h
    rcases List.mem_append.1 h with h | h
    · rcases List.mem_append.1 h with h | h
      all_goals
        obtain ⟨ref, -, heq⟩ := List.mem_map.1 h
        exact absurd heq (hmeant ref)
    · obtain ⟨entry, hentry, heq⟩ := List.mem_map.1 h
      unfold entryId at heq
      split at heq
      · exact absurd heq (hmeant _)
      · exact heq ▸ hentry
  · intro h
    refine List.mem_append_right _ (List.mem_map.2 ⟨_, h, ?_⟩)
    rw [entryId, Reference.parse?_nodeId]

/-! ## References and sites of a legal description -/

/-- The node that a reference points at in a project is the one that it means. -/
theorem Legal.referenceNode_eq (h : d.Legal) (ref : Reference) :
    (Project.of d).referenceNode ref = d.targetId ref := by
  have hsome : (Project.of d).cluster.isSome ↔ d.project.backend = .manifest :=
    h.cluster?_isSome_iff
  simp only [Project.referenceNode, targetId, Bool.and_eq_true, hsome]

theorem Legal.dependencyId_eq (h : d.Legal) (entry : String) :
    (Project.of d).dependencyId entry = d.entryId entry := by
  unfold Project.dependencyId entryId
  cases Reference.parse? entry with
  | some ref => exact h.referenceNode_eq ref
  | none => rfl

/-- Workloads wait for their site as the one base of their network and kind. -/
theorem Legal.base_workloadSite (h : d.Legal) (n : NetworkSpec) (kind : ResourceKind) :
    ((Project.of d).workloadSite n kind).base = d.base n kind := by
  unfold base
  cases hb : d.project.backend with
  | manifest =>
    have hb' : (Project.of d).backend = .manifest := hb
    obtain ⟨c, hc⟩ := h.exists_cluster_iff.2 hb
    rw [Project.workloadSite, Project.siteWithKernel_eq_self hb', ite_self, Project.base_site hc,
      h.scaffoldIds_eq, hc]
    rfl
  | construct =>
    have hb' : (Project.of d).backend = .construct := hb
    have hc := h.cluster_eq_none_iff.2 (by rw [hb]; decide)
    cases hkind : kind.isKernel with
    | true =>
      simp [Project.workloadSite, hkind, Project.site, hc, hb', Project.bareSite]
    | false =>
      simp [Project.workloadSite, hkind, Project.siteWithKernel, Project.site, hc, hb',
        Project.bareSite, h.kernelsIn_eq]
  | flat =>
    have hb' : (Project.of d).backend = .flat := hb
    have hc := h.cluster_eq_none_iff.2 (by rw [hb]; decide)
    have hself : (Project.of d).siteWithKernel ((Project.of d).site n) = (Project.of d).site n := by
      rw [Project.siteWithKernel, hb']
      rfl
    rw [Project.workloadSite, hself, ite_self]
    by_cases hinfra : n.hasInfrastructure <;>
      simp [Project.site, hc, hb', Project.bareSite, hinfra]

end Description

/-! ## What a workload waits for -/

namespace Project

variable {p : Project}

/-- The nodes that a trigger comes from are those that its reference points at. -/
theorem topicNodes_eq {function : String} {text : Option String} {topic : Option EnvValue}
    {topicNodes : List String} (h : p.trigger function text = .ok (topic, topicNodes)) :
    topicNodes = (text.bind Reference.parse?).toList.map p.referenceNode := by
  cases text with
  | none =>
    cases h
    rfl
  | some value =>
    rw [Option.bind_some]
    simp only [trigger] at h
    split at h
    · rename_i hnone
      cases h
      rw [hnone]
      rfl
    · rename_i ref href
      split at h
      · obtain ⟨value, -, hresult⟩ := bind_eq_ok_iff.1 h
        cases hresult
        rw [href]
        rfl
      · cases h

end Project

namespace Description

variable {d : Description}

/-- A resolved workload has a node of its id, which waits for the site and for what the workload
asks for; in a cluster a service that waits for the namespace and that node comes after it. -/
theorem Legal.nodes_of_resolves (h : d.Legal) {site : Site} {w : Workload}
    {nodes : List Resource} (hnodes : (Project.of d).Resolves site w nodes) :
    ∃ r, r.id = d.workloadId w ∧ r.network = some site.spec.name ∧
      r.dependsOn = (site.base ++ d.requests w).eraseDups ∧
      (nodes = [r] ∨ ∃ c service, (Project.of d).cluster = some c ∧ nodes = [r, service] ∧
        service.dependsOn = [c.namespaceId, r.id]) := by
  obtain ⟨env, topicNodes, pod, config, rfl, -, hsettings⟩ := hnodes
  have hdepends : (Project.of d).dependencies site
      ((Project.of d).referencedNodes w.env w.secrets ++ topicNodes) w.listed =
        (site.base ++ d.requests w).eraseDups := by
    rw [Project.dependencies, Project.referencedNodes, Project.topicNodes_eq hsettings.trigger_eq,
      funext h.referenceNode_eq, funext h.dependencyId_eq, requests]
    simp only [List.append_assoc]
  rw [hdepends]
  unfold Project.workloadNodes workloadId
  by_cases hb : d.project.backend = .manifest
  · obtain ⟨c, hc⟩ := h.exists_cluster_iff.2 hb
    rw [if_pos hb, hc]
    exact ⟨_, rfl, rfl, rfl, Or.inr ⟨c, _, rfl, rfl, rfl⟩⟩
  · rw [if_neg hb, h.cluster_eq_none_iff.2 hb]
    exact ⟨_, rfl, rfl, rfl, Or.inl rfl⟩

/-- A plan has the node of a workload, which waits for what its network gives it to wait for and
then for what it asks for, every node once. -/
theorem Compiles.exists_node {p : Plan} (h : d.Compiles p) {n : NetworkSpec}
    (hn : n ∈ d.networks) {w : Workload} (hw : w ∈ d.workloadsIn n) :
    ∃ r ∈ p.resources, r.id = d.workloadId w ∧ r.network = some n.name ∧
      r.dependsOn = (d.base n w.kind ++ d.requests w).eraseDups := by
  obtain ⟨nodes, hsubset, hresolves⟩ := h.exists_resolves hn hw
  obtain ⟨r, hid, hnetwork, hdepends, hnodes⟩ := h.legal.nodes_of_resolves hresolves
  rw [Project.spec_workloadSite] at hnetwork
  rw [h.legal.base_workloadSite] at hdepends
  have hr : r ∈ nodes := by
    rcases hnodes with rfl | ⟨c, service, -, rfl, -⟩
    · exact List.mem_singleton_self r
    · exact List.mem_cons_self
  exact ⟨r, hsubset hr, hid, hnetwork, hdepends⟩

/-- Whatever a workload of a compiled plan asks for is there. -/
theorem Compiles.mem_ids_of_mem_requests {p : Plan} (h : d.Compiles p) {w : Workload}
    (hw : w ∈ d.workloads) {id : String} (hid : id ∈ d.requests w) :
    id ∈ p.resources.map (·.id) := by
  obtain ⟨n, hn, hrun⟩ := h.legal.exists_workloadsIn (validate_eq_nil_iff.1 h.valid) hw
  obtain ⟨r, hr, -, -, hdepends⟩ := h.exists_node hn hrun
  refine h.isGreedyOrder.noDangling r hr id ?_
  rw [hdepends, List.mem_eraseDups]
  exact List.mem_append_right _ hid

/-- In a compiled plan the node of a workload is found under its id, in the network that runs it; it
waits exactly for what this network gives it to wait for and then for what it asks for, every node
once. -/
theorem dependsOn_of_compile {p : Plan} (h : d.compile = .ok p) {n : NetworkSpec}
    (hn : n ∈ d.networks) {w : Workload} (hw : w ∈ d.workloadsIn n) :
    ∃ r, p.get? (d.workloadId w) = some r ∧ r.network = some n.name ∧
      r.dependsOn = (d.base n w.kind ++ d.requests w).eraseDups := by
  have hcompiles := compile_eq_ok_iff.1 h
  obtain ⟨r, hr, hid, hnetwork, hdepends⟩ := hcompiles.exists_node hn hw
  exact ⟨r, hid ▸ Plan.get?_of_mem hcompiles.nodup_ids hr, hnetwork, hdepends⟩

/-- Constructs with a registry, a kernel and a container, and a function that a topic triggers. -/
def pipeline : Description :=
  { ofNetworks ⟨"shop", "us-central1", none, .construct⟩ [] with
    secrets := [⟨"token", none⟩]
    topics := [⟨"orders", none⟩]
    networks := [
      { NetworkSpec.ofContainers "main" ["api"] with
        registry := some ⟨"images", "DOCKER"⟩
        functions := [
          { FunctionSpec.named "worker" with
            triggerTopic := some "@topic/orders"
            env := .ofList [("TOKEN", "none"), ("API", "@container/api")]
            secrets := .ofList [("TOKEN", "@secret/token")]
            dependsOn := ["@container/api", "kernel-engine", "secret-token"] }] }]
    kernel := some ⟨"engine", none, none, "e2-medium", 8080, ∅, ∅⟩ }

/-- The function waits for the connector, the registry and the kernel, then for the secret that
takes the place of a variable, the container and the topic; its list adds nothing. -/
theorem dependsOn_of_compile_pipeline :
    ∃ p, pipeline.compile = .ok p ∧ ∃ r, p.get? "function-worker" = some r ∧
      r.network = some "main" ∧
      r.dependsOn = ["connector-main", "registry-images", "kernel-engine", "secret-token",
        "container-api", "topic-orders"] := by
  have hsome : pipeline.compile.toOption.isSome := by decide +kernel
  cases hcompile : pipeline.compile with
  | error e =>
    rw [hcompile] at hsome
    cases hsome
  | ok p =>
    obtain ⟨r, hr, hnetwork, hdepends⟩ := dependsOn_of_compile hcompile List.mem_cons_self
      (List.mem_append_right _ (List.mem_append_left _ (List.mem_append_right _
        List.mem_cons_self)))
    exact ⟨p, rfl, r, hr, hnetwork, hdepends.trans (by decide +kernel)⟩

end Description

end Groundwork
