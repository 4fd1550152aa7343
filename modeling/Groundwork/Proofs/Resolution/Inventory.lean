import Groundwork.Proofs.Resolution.Ids
import Groundwork.Proofs.Resolution.Workloads

/-!
# The inventory of a plan

Which nodes a plan has can be said from its description alone.  What is outside any network comes
first, then network after network, then the scheduled jobs; a network begins with what it is itself,
followed by its kernel, its workloads and data stores, and its load balancer.  Each backend leaves
out what it has no counterpart for.

Main results:

- `Description.Legal.map_id_resources`: the ids of a resolved project are those that its
  description says, in order.
- `Project.Origin.nodup_dependsOn`: no node waits for the same node twice.
- `Description.inventory_of_compile`: nothing is lost, added or repeated.
-/

namespace Groundwork

/-- The ids of what stands for a workload: its own node, or in a cluster its deployment and the
service in front of it. -/
def Backend.workloadIds (b : Backend) (kind : ResourceKind) (name : String) : List String :=
  if b = .manifest then [ResourceKind.deployment.nodeId name, ResourceKind.service.nodeId name]
  else [kind.nodeId name]

namespace Description

variable (d : Description)

/-! ## Ids that a description stands for -/

/-- The ids of the namespace and the config map of a cluster. -/
def scaffoldIds : List String :=
  if d.project.backend = .manifest then
    (d.kubernetes.bind (·.namespaceName)).toList.map
        (fun name => ResourceKind.clusterNamespace.nodeId (sanitizeLabel name))
      ++ [ResourceKind.configMap.nodeId d.project.name]
  else []

/-- The ids of what is outside any network, before the networks. -/
def globalIds : List String :=
  d.scaffoldIds
    ++ d.serviceAccount.toList.map (ResourceKind.serviceAccount.nodeId ·.name)
    ++ d.buckets.map (ResourceKind.bucket.nodeId ·.name)
    ++ d.secrets.map (ResourceKind.secret.nodeId ·.name)
    ++ d.topics.map (ResourceKind.topic.nodeId ·.name)
    ++ d.queues.map (ResourceKind.queue.nodeId ·.name)

/-- The ids of what a network is itself: flat code has a node for it only if something lives inside
it, constructs reach it through a connector, and a cluster has nothing of it but its rules. -/
def siteIds (n : NetworkSpec) : List String :=
  let network := [ResourceKind.network.nodeId n.name]
  let subnets := n.subnets.map (ResourceKind.subnet.nodeId ·.name)
  let rules := n.firewall.map (ResourceKind.firewall.nodeId ·.name)
  let connector := [ResourceKind.connector.nodeId n.name]
  let registry := n.registry.toList.map (ResourceKind.registry.nodeId ·.name)
  match d.project.backend with
  | .flat => (if n.hasInfrastructure then network else []) ++ subnets ++ rules ++ registry
  | .construct => network ++ subnets ++ rules ++ connector ++ registry
  | .manifest => n.firewall.map (ResourceKind.networkPolicy.nodeId ·.name)

/-- The ids of all that a network becomes. -/
def idsIn (n : NetworkSpec) : List String :=
  let workload (kind : ResourceKind) (name : String) := d.project.backend.workloadIds kind name
  let balancer : ResourceKind := if d.project.backend = .manifest then .ingress else .loadBalancer
  d.siteIds n
    ++ (d.kernelsIn n).flatMap (fun k => workload k.1.resourceKind k.2.name)
    ++ n.containers.flatMap (workload .container ·.name)
    ++ n.functions.flatMap (workload .function ·.name)
    ++ n.databases.map (ResourceKind.database.nodeId ·.name)
    ++ n.caches.map (ResourceKind.cache.nodeId ·.name)
    ++ n.uis.flatMap (workload .ui ·.name)
    ++ n.loadBalancer.toList.map (fun lb => balancer.nodeId (lb.name.getD n.name))

/-- The ids of all that a description becomes. -/
def nodeIds : List String :=
  d.globalIds ++ d.networks.flatMap d.idsIn ++ d.crons.map (ResourceKind.cron.nodeId ·.name)

variable {d}

/-! ## Ids of what is declared -/

/-- The namespace of a cluster is the one that the description names, as a label. -/
theorem exists_namespaceName {c : Cluster} (hc : d.cluster? = some c) :
    ∃ name, d.kubernetes.bind (·.namespaceName) = some name ∧
      c.namespaceName = sanitizeLabel name := by
  unfold cluster? at hc
  split at hc
  · rename_i k _ hk
    simp only [Option.bind_eq_bind, Option.bind_eq_some_iff] at hc
    obtain ⟨name, hname, registry, -, hcluster⟩ := hc
    cases hcluster
    exact ⟨name, by rw [hk, Option.bind_some, hname], rfl⟩
  · cases hc

/-- The namespace and the config map of a legal description are those of its cluster. -/
theorem Legal.scaffoldIds_eq (h : d.Legal) :
    d.scaffoldIds = (Project.of d).cluster.toList.flatMap fun c =>
      [c.namespaceId, (Project.of d).configMapId] := by
  unfold scaffoldIds
  by_cases hb : d.project.backend = .manifest
  · obtain ⟨c, hc⟩ := h.exists_cluster_iff.2 hb
    obtain ⟨name, hname, hlabel⟩ := exists_namespaceName hc
    rw [if_pos hb, hc, hname]
    simp [← hlabel, Cluster.namespaceId, Project.configMapId, Project.name, Project.of]
  · rw [if_neg hb, h.cluster_eq_none_iff.2 hb]
    rfl

/-- The declarations of a workload have the ids that the backend gives it. -/
theorem Legal.map_id_workloadDeclarations (h : d.Legal) (n : NetworkSpec) (kind : ResourceKind)
    (name : String) :
    ((Project.of d).workloadDeclarations n kind name).map (·.id) =
      d.project.backend.workloadIds kind name := by
  unfold Project.workloadDeclarations Backend.workloadIds
  by_cases hb : d.project.backend = .manifest
  · obtain ⟨c, hc⟩ := h.exists_cluster_iff.2 hb
    rw [if_pos hb, hc]
    rfl
  · rw [if_neg hb, h.cluster_eq_none_iff.2 hb]
    rfl

/-- The global declarations have the ids that are listed for them. -/
theorem Legal.map_id_globalDeclarations (h : d.Legal) :
    (Project.of d).globalDeclarations.map (·.id) = d.globalIds := by
  have hscaffold : ((Project.of d).cluster.toList.flatMap fun c =>
      [(⟨.clusterNamespace, c.namespaceName, none⟩ : Declaration),
        ⟨.configMap, (Project.of d).name, none⟩]).map (·.id) = d.scaffoldIds := by
    rw [h.scaffoldIds_eq, List.map_flatMap]
    rfl
  simp only [Project.globalDeclarations, globalIds, List.map_append, List.map_map, hscaffold]
  rfl

/-- The declarations of a network have the ids that are listed for it. -/
theorem Legal.map_id_networkDeclarations (h : d.Legal) (n : NetworkSpec) :
    ((Project.of d).networkDeclarations n).map (·.id) = d.siteIds n := by
  unfold Project.networkDeclarations siteIds
  cases hb : d.project.backend with
  | manifest =>
    obtain ⟨c, hc⟩ := h.exists_cluster_iff.2 hb
    simp only [hc, List.map_map]
    rfl
  | construct =>
    have hc := h.cluster_eq_none_iff.2 (by rw [hb]; decide)
    have hb' : (Project.of d).backend = .construct := hb
    simp [hc, Project.bareSite, hb', Function.comp_def, Declaration.id]
  | flat =>
    have hc := h.cluster_eq_none_iff.2 (by rw [hb]; decide)
    have hb' : (Project.of d).backend = .flat := hb
    by_cases hinfra : n.hasInfrastructure <;>
      simp [hc, Project.bareSite, hb', hinfra, Function.comp_def, Declaration.id]

/-- What a network declares has the ids of all that the network becomes. -/
theorem Legal.map_id_networkChunks (h : d.Legal) (n : NetworkSpec) :
    ((Project.of d).networkChunks n).flatten.map (·.id) = d.idsIn n := by
  have hsome : (Project.of d).cluster.isSome ↔ d.project.backend = .manifest :=
    h.cluster?_isSome_iff
  simp only [Project.networkChunks, idsIn, List.flatten_append, List.map_append,
    List.flatten_singleton, ← List.flatMap_def, List.map_flatMap, h.map_id_networkDeclarations,
    h.map_id_workloadDeclarations, h.kernelsIn_eq, List.map_map]
  have hbalancer : ∀ lb, ((Project.of d).balancerDeclaration n lb).id =
      (if d.project.backend = .manifest then ResourceKind.ingress else .loadBalancer).nodeId
        (lb.name.getD n.name) := by
    intro lb
    rw [Declaration.id, Project.balancerDeclaration, if_congr hsome rfl rfl]
  simp only [List.map_singleton, hbalancer, ← List.map_eq_flatMap]
  rfl

/-- What a description declares has the ids of all that the description becomes. -/
theorem Legal.map_id_declarations (h : d.Legal) :
    (Project.of d).declarations.map (·.id) = d.nodeIds := by
  rw [Project.declarations_eq, List.map_append, List.map_append, h.map_id_globalDeclarations,
    List.map_flatMap, List.flatMap_congr fun n _ => h.map_id_networkChunks n, List.map_map]
  rfl

end Description

namespace Project

variable {p : Project}

/-- What every node of the scope waits for is listed once. -/
theorem nodup_scopeDependencies (p : Project) : p.scopeDependencies.Nodup := by
  unfold scopeDependencies
  cases p.cluster with
  | none => exact List.nodup_nil
  | some c => exact List.nodup_singleton _

/-- Global nodes wait for each node once. -/
theorem nodup_dependsOn_of_mem_globalNodes {r : Resource} (hr : r ∈ p.globalNodes) :
    r.dependsOn.Nodup := by
  simp only [globalNodes, List.mem_append, List.mem_flatMap, List.mem_map, Option.mem_toList,
    clusterNodes, List.mem_cons, List.not_mem_nil, or_false] at hr
  rcases hr with ((((⟨c, -, rfl | rfl⟩ | ⟨spec, -, rfl⟩) | ⟨spec, -, rfl⟩) | ⟨spec, -, rfl⟩) |
    ⟨spec, -, rfl⟩) | ⟨spec, -, rfl⟩
  · exact List.nodup_nil
  · exact List.nodup_singleton _
  all_goals exact p.nodup_scopeDependencies

/-- What all workloads of a network wait for is listed once. -/
theorem nodup_base_bareSite (n : NetworkSpec) : (p.bareSite n).base.Nodup := by
  simp only [bareSite]
  split
  · exact List.nodup_singleton _
  · exact Option.toList_nodup _

/-- The nodes of a network wait for each node once. -/
theorem nodup_dependsOn_of_mem_networkNodes {n : NetworkSpec} {r : Resource}
    (hr : r ∈ p.networkNodes n) : r.dependsOn.Nodup := by
  unfold networkNodes at hr
  cases hc : p.cluster with
  | some c =>
    simp only [hc, policyNodes, List.mem_map] at hr
    obtain ⟨rule, -, rfl⟩ := hr
    exact List.nodup_singleton _
  | none =>
    simp only [hc, cloudNetworkNodes, List.mem_append, List.mem_map, Option.mem_toList] at hr
    rcases hr with (((⟨_, -, rfl⟩ | ⟨s, -, rfl⟩) | ⟨rule, -, rfl⟩) | ⟨_, -, rfl⟩) |
      ⟨registry, -, rfl⟩
    · exact List.nodup_nil
    · exact Option.toList_nodup _
    · exact Option.toList_nodup _
    · exact Option.toList_nodup _
    · exact nodup_base_bareSite n

/-- What data waits for is listed once. -/
theorem nodup_dataDependencies (site : Site) : (p.dataDependencies site).Nodup := by
  unfold dataDependencies
  split
  · exact List.nodup_singleton _
  · exact p.nodup_scopeDependencies

/-- The nodes of a workload wait for each node once. -/
theorem Resolves.nodup_dependsOn {site : Site} {w : Workload} {nodes : List Resource}
    (h : p.Resolves site w nodes) {r : Resource} (hr : r ∈ nodes) : r.dependsOn.Nodup := by
  obtain ⟨env, topicNodes, pod, config, rfl, -, -⟩ := h
  rcases mem_workloadNodes_iff.1 hr with ⟨c, -, hr⟩ | ⟨-, rfl⟩
  · simp only [podNodes, List.mem_cons, List.not_mem_nil, or_false] at hr
    rcases hr with rfl | rfl
    · exact nodup_eraseDups _
    · -- A namespace and a deployment have ids that begin with different words.
      refine List.nodup_cons.2 ⟨fun hmem => ?_, List.nodup_singleton _⟩
      exact absurd (ResourceKind.firstWord_eq_of_nodeId_eq (List.mem_singleton.1 hmem)) (by decide)
  · exact nodup_eraseDups _

/-- No node waits for the same node twice. -/
theorem Origin.nodup_dependsOn {r : Resource} (h : p.Origin r) : r.dependsOn.Nodup := by
  cases h with
  | global hr => exact nodup_dependsOn_of_mem_globalNodes hr
  | network _ hr => exact nodup_dependsOn_of_mem_networkNodes hr
  | kernel _ _ hnodes hr => exact (kernelNodes_resolves hnodes).nodup_dependsOn hr
  | container _ _ hnodes hr => exact (containerNodes_resolves hnodes).nodup_dependsOn hr
  | function _ _ hnodes hr => exact (functionNodes_resolves hnodes).nodup_dependsOn hr
  | database _ _ hr => exact hr ▸ nodup_dataDependencies _
  | cache _ _ hr => exact hr ▸ nodup_dataDependencies _
  | ui _ _ hnodes hr => exact (uiNodes_resolves hnodes).nodup_dependsOn hr
  | loadBalancer _ _ hnodes hr =>
    obtain ⟨targets, -, ⟨c, -, rfl⟩ | ⟨-, rfl⟩⟩ := loadBalancerNodes_cases hnodes
    · exact List.mem_singleton.1 hr ▸ nodup_eraseDups _
    · exact List.mem_singleton.1 hr ▸ nodup_eraseDups _
  | cron _ hnodes hr =>
    obtain ⟨kind, target, c, -, -, rfl⟩ := cronNodes_cases hnodes
    exact List.mem_singleton.1 hr ▸ List.nodup_singleton _

end Project

namespace Description

variable {d : Description} {p : Plan}

/-! ## The inventory -/

/-- The ids of a resolved project are those that its description says, in order. -/
theorem Legal.map_id_resources (h : d.Legal) {resources : List Resource}
    (hresources : (Project.of d).resources = .ok resources) :
    resources.map (·.id) = d.nodeIds := by
  rw [← h.map_id_declarations, Project.map_id_of_realizes (Project.realizes_resources hresources)]

/-- The ids of a compiled plan are distinct and are exactly those that the description says, in
order; a kernel stands under each of its ids once; and no node waits for the same node twice. -/
theorem inventory_of_compile (h : d.compile = .ok p) :
    (p.resources.map (·.id)).Nodup ∧ p.resources.map (·.id) = d.nodeIds ∧
      (∀ k ∈ d.kernelVariants,
        ∀ id ∈ d.project.backend.workloadIds k.1.resourceKind k.2.name,
          (p.resources.map (·.id)).count id = 1) ∧
      ∀ r ∈ p.resources, r.dependsOn.Nodup := by
  have hcompiles := compile_eq_ok_iff.1 h
  have hids := hcompiles.legal.map_id_resources hcompiles.resources_eq
  refine ⟨hcompiles.nodup_ids, hids, ?_, fun r hr => (hcompiles.origin hr).nodup_dependsOn⟩
  intro k hk id hid
  obtain ⟨n, hn, hkn⟩ :=
    hcompiles.legal.exists_kernelsIn (validate_eq_nil_iff.1 hcompiles.valid) hk
  have hmem : id ∈ d.idsIn n := by
    simp only [idsIn, List.mem_append, List.mem_flatMap]
    exact Or.inl (Or.inl (Or.inl (Or.inl (Or.inl (Or.inl (Or.inr ⟨k, hkn, hid⟩))))))
  refine List.count_eq_one_of_mem hcompiles.nodup_ids ?_
  rw [hids, nodeIds]
  exact List.mem_append_left _ (List.mem_append_right _ (List.mem_flatMap.2 ⟨n, hn, hmem⟩))

/-- A cluster with two networks: a container behind a load balancer, and a database with the kernel
that asks for the network by its name. -/
def backOffice : Description :=
  { inCluster [] with
    serviceAccount := some ⟨"runner", none, []⟩
    networks := [
      { NetworkSpec.ofContainers "front" ["web"] with
        subnets := [⟨"inner", "10.0.0.0/24", none⟩]
        firewall := [⟨"https", "tcp", ["443"], []⟩]
        loadBalancer := some ⟨none, false, none, [], none⟩ },
      { NetworkSpec.ofContainers "back" ["worker"] with
        databases := [⟨"ledger", "POSTGRES_15", "db-f1-micro", 10⟩] }]
    hybridKernel := some ⟨"engine", some "back", none, "e2-medium", 8080, ∅, ∅⟩ }

/-- The kernel comes first in the network that it names, as a deployment and a service. -/
theorem inventory_of_compile_backOffice :
    ∃ p, backOffice.compile = .ok p ∧
      p.resources.map (·.id) =
        ["namespace-shop", "config-shop", "service-account-runner", "network-policy-https",
          "deployment-web", "service-web", "ingress-front", "deployment-engine", "service-engine",
          "deployment-worker", "service-worker", "database-ledger"] ∧
      (∀ id ∈ ["deployment-engine", "service-engine"],
        (p.resources.map (·.id)).count id = 1) ∧
      ∀ r ∈ p.resources, r.dependsOn.Nodup := by
  have hsome : backOffice.compile.toOption.isSome := by decide +kernel
  cases hcompile : backOffice.compile with
  | error e =>
    rw [hcompile] at hsome
    cases hsome
  | ok p =>
    obtain ⟨-, hids, hkernel, hnodup⟩ := inventory_of_compile hcompile
    refine ⟨p, rfl, hids.trans (by decide +kernel), ?_, hnodup⟩
    exact hkernel _ List.mem_cons_self

end Description

end Groundwork
