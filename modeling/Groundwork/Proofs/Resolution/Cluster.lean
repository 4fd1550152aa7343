import Groundwork.Proofs.Resolution.Workloads

/-!
# Workloads in a cluster

In a cluster every workload of a description is a deployment and the service in front of it, and
there are no other deployments and services.

Main results:

- `Project.Deployed`: the deployment and the service of a workload.
- `Description.Compiles.deployed_of_mem`: whose the deployments and services of a plan are.
- `Description.Compiles.exists_deployed`: every workload has its deployment and its service.
-/

namespace Groundwork

namespace Project

variable {p : Project} {c : Cluster}

/-! ## Deployments and their services -/

/-- The settings of the deployment of a workload. -/
def deploymentConfig (p : Project) (c : Cluster) (name : String) (pod : Pod) :
    DeploymentConfig where
  deploymentName := sanitizeLabel name
  namespaceName := c.namespaceName
  image := pod.image
  port := pod.port
  replicas := c.replicas
  env := pod.env
  configMap := p.configMapName
  cpu := pod.cpu
  memory := pod.memory

/-- The settings of the service of a workload. -/
def serviceConfig (c : Cluster) (name : String) (pod : Pod) : ServiceConfig where
  serviceName := sanitizeLabel name
  namespaceName := c.namespaceName
  selector := sanitizeLabel name
  port := servicePort
  targetPort := pod.port

/-- The deployment and the service that a workload becomes in a cluster, with the environment that
its own resolves to.  The deployment waits for the namespace, the config map and all that the
workload refers to, and the service waits for the deployment. -/
inductive Deployed (p : Project) (c : Cluster) (w : Workload) : Resource → Resource → Prop
  | intro {site : Site} {pod : Pod} {topicNodes : List String} (hw : p.HasWorkload w)
      (hbase : site.base = [c.namespaceId, p.configMapId])
      (henv : p.resolveEnv w.env w.secrets = .ok pod.env) :
      Deployed p c w
        (p.node .deployment w.name (.deployment (p.deploymentConfig c w.name pod))
          (p.dependencies site (p.referencedNodes w.env w.secrets ++ topicNodes) w.listed)
          (some site.spec.name))
        (p.node .service w.name (.service (serviceConfig c w.name pod))
          [c.namespaceId, ResourceKind.deployment.nodeId w.name] (some site.spec.name))

/-- A workload is resolved in a cluster by being deployed. -/
theorem Resolves.deployed (hc : p.cluster = some c) {site : Site}
    (hbase : site.base = [c.namespaceId, p.configMapId]) {w : Workload} (hw : p.HasWorkload w)
    {nodes : List Resource} (h : p.Resolves site w nodes) :
    ∃ deployment service, p.Deployed c w deployment service ∧ nodes = [deployment, service] := by
  obtain ⟨env, topicNodes, pod, config, rfl, rfl, hsettings⟩ := h
  rw [workloadNodes, hc]
  exact ⟨_, _, .intro hw hbase hsettings.resolveEnv_eq, rfl⟩

/-! ## The steps of a cluster -/

theorem base_site (hc : p.cluster = some c) (n : NetworkSpec) :
    (p.site n).base = [c.namespaceId, p.configMapId] := by
  rw [site, hc]

/-- In a cluster no workload waits for the kernel. -/
theorem siteWithKernel_eq_self (hb : p.backend = .manifest) (site : Site) :
    p.siteWithKernel site = site := by
  rw [siteWithKernel, hb]
  rfl

theorem IsNode.kind_not_mem {k : ResourceKind} {kinds : List ConfigKind} {r : Resource}
    (h : p.IsNode k r) (hk : k.configKind ∉ kinds) : r.config.kind ∉ kinds :=
  h.kind_eq ▸ hk

/-- A node of one of several kinds has none of some other settings. -/
theorem kind_not_mem_of_mem {kinds : List ResourceKind} {others : List ConfigKind} {r : Resource}
    (hkinds : ∀ k ∈ kinds, k.configKind ∉ others) (hr : ∃ k ∈ kinds, p.IsNode k r) :
    r.config.kind ∉ others := by
  obtain ⟨k, hk, hnode⟩ := hr
  exact hnode.kind_not_mem (hkinds k hk)

/-- A resolved workload becomes none of some settings if neither objects of a cluster nor its own
kind have them. -/
theorem Resolves.kind_not_mem {others : List ConfigKind} {site : Site} {w : Workload}
    {nodes : List Resource} (h : p.Resolves site w nodes) {k : ResourceKind} (hw : w.kind = k)
    (hkinds : ∀ k' ∈ [ResourceKind.deployment, .service, k], k'.configKind ∉ others) {r : Resource}
    (hr : r ∈ nodes) : r.config.kind ∉ others := by
  rcases h.isNode hr with ⟨-, k', hk', hnode⟩ | ⟨-, hnode⟩
  · exact hnode.kind_not_mem (hkinds k' (List.mem_append_left [k] hk'))
  · rw [hw] at hnode
    exact hnode.kind_not_mem (hkinds k (by simp))

/-- A step of a network that gives a deployment or a service resolves a workload. -/
theorem resolves_of_mem_networkSteps (hb : p.backend = .manifest) {n : NetworkSpec}
    (hn : n ∈ p.description.networks) {nodes : List Resource}
    (hnodes : .ok nodes ∈ p.networkSteps n) {r : Resource} (hr : r ∈ nodes)
    (hkind : r.config.kind ∈ [ConfigKind.deployment, .service]) :
    ∃ w, p.HasWorkload w ∧ p.Resolves (p.site n) w nodes := by
  simp only [networkSteps, siteWithKernel_eq_self hb, List.mem_append, List.mem_map,
    List.mem_singleton, Except.ok.injEq, Option.mem_toList] at hnodes
  rcases hnodes with ((((((hself | ⟨⟨variant, k⟩, hk, heq⟩) | ⟨spec, hspec, heq⟩) |
    ⟨spec, hspec, heq⟩) | hdatabases) | hcaches) | ⟨spec, hspec, heq⟩) | ⟨lb, hlb, heq⟩
  · rcases isNode_of_mem_networkNodes (hself ▸ hr) with
      ⟨-, hnode⟩ | ⟨-, -, hnode⟩ | ⟨-, hnode⟩
    · exact absurd hkind (hnode.kind_not_mem (by decide))
    · exact absurd hkind (hnode.kind_not_mem (by decide))
    · exact absurd hkind (kind_not_mem_of_mem (by decide) hnode)
  · exact ⟨_, .kernel (kernel?_of_kernelOf? hk), kernelNodes_resolves heq⟩
  · exact ⟨_, .container hn hspec, containerNodes_resolves heq⟩
  · exact ⟨_, .function hn hspec, functionNodes_resolves heq⟩
  · subst hdatabases
    obtain ⟨spec, -, rfl⟩ := List.mem_map.1 hr
    exact absurd hkind (IsNode.kind_not_mem (k := .database) (isNode_node rfl) (by decide))
  · subst hcaches
    obtain ⟨spec, -, rfl⟩ := List.mem_map.1 hr
    exact absurd hkind (IsNode.kind_not_mem (k := .cache) (isNode_node rfl) (by decide))
  · exact ⟨_, .ui hn hspec, uiNodes_resolves heq⟩
  · obtain ⟨targets, -, ⟨c, -, rfl⟩ | ⟨-, rfl⟩⟩ := loadBalancerNodes_cases heq
    · obtain rfl := List.mem_singleton.1 hr
      exact absurd hkind (IsNode.kind_not_mem (k := .ingress) (isNode_node rfl) (by decide))
    · obtain rfl := List.mem_singleton.1 hr
      exact absurd hkind (IsNode.kind_not_mem (k := .loadBalancer) (isNode_node rfl) (by decide))

/-- A step that gives a deployment or a service resolves a workload of a network. -/
theorem resolves_of_mem_steps (hb : p.backend = .manifest) {nodes : List Resource}
    (hnodes : .ok nodes ∈ p.steps) {r : Resource} (hr : r ∈ nodes)
    (hkind : r.config.kind ∈ [ConfigKind.deployment, .service]) :
    ∃ n ∈ p.description.networks, ∃ w, p.HasWorkload w ∧ p.Resolves (p.site n) w nodes := by
  simp only [steps, List.mem_append, List.mem_singleton, Except.ok.injEq, List.mem_flatMap,
    List.mem_map] at hnodes
  rcases hnodes with (rfl | ⟨n, hn, hstep⟩) | ⟨spec, -, hstep⟩
  · rcases isNode_of_mem_globalNodes hr with ⟨-, hnode⟩ | hnode
    · exact absurd hkind (kind_not_mem_of_mem (by decide) hnode)
    · exact absurd hkind (kind_not_mem_of_mem (by decide) hnode)
  · exact ⟨n, hn, resolves_of_mem_networkSteps hb hn hstep hr hkind⟩
  · obtain ⟨kind, target, c, -, -, rfl⟩ := cronNodes_cases hstep
    obtain rfl := List.mem_singleton.1 hr
    exact absurd hkind (IsNode.kind_not_mem (k := .cron) (isNode_node rfl) (by decide))

end Project

/-! ## Compiled clusters -/

namespace Description

variable {d : Description}

theorem mem_kernels_of_kernel? {k : KernelVariant × KernelSpec}
    (hk : (Project.of d).kernel? = some k) : k.2 ∈ d.kernels := by
  unfold Project.kernel? at hk
  unfold kernels
  split at hk
  · rename_i spec hnative
    cases hk
    exact List.mem_append_left _ (Option.mem_toList.2 hnative)
  · rename_i spec hnative hhybrid
    cases hk
    exact List.mem_append_right _ (Option.mem_toList.2 hhybrid)
  · cases hk

namespace Compiles

variable {p : Plan} {c : Cluster}

/-- The deployments and services of a plan are those of the workloads of its description. -/
theorem deployed_of_mem (h : d.Compiles p) (hc : (Project.of d).cluster = some c) {r : Resource}
    (hr : r ∈ p.resources) (hkind : r.config.kind ∈ [ConfigKind.deployment, .service]) :
    ∃ w, ∃ deployment ∈ p.resources, ∃ service ∈ p.resources,
      (Project.of d).Deployed c w deployment service ∧ (r = deployment ∨ r = service) := by
  have hb : (Project.of d).backend = .manifest := h.cluster_isSome_iff.1 (by rw [hc]; rfl)
  obtain ⟨nodes, hstep, hmem⟩ := Project.exists_step_of_mem h.resources_eq hr
  obtain ⟨_, hnodes, hsubset⟩ := Project.step_of_resources_eq_ok h.resources_eq hstep
  cases hnodes
  obtain ⟨n, -, w, hw, hresolves⟩ := Project.resolves_of_mem_steps hb hstep hmem hkind
  obtain ⟨deployment, service, hdeployed, rfl⟩ :=
    hresolves.deployed hc (Project.base_site hc n) hw
  refine ⟨w, deployment, hsubset List.mem_cons_self, service,
    hsubset (List.mem_cons_of_mem _ List.mem_cons_self), hdeployed, ?_⟩
  simpa using hmem

/-- A deployment in a plan belongs to a workload. -/
theorem deployed_of_deployment (h : d.Compiles p) (hc : (Project.of d).cluster = some c)
    {r : Resource} (hr : r ∈ p.resources) {e : DeploymentConfig}
    (he : r.config = .deployment e) :
    ∃ w, ∃ service ∈ p.resources, (Project.of d).Deployed c w r service := by
  have hkind : r.config.kind ∈ [ConfigKind.deployment, .service] := by
    rw [he]
    exact List.mem_cons_self
  obtain ⟨w, deployment, -, service, hservice, hdeployed, rfl | rfl⟩ :=
    h.deployed_of_mem hc hr hkind
  · exact ⟨w, service, hservice, hdeployed⟩
  · cases hdeployed
    cases he

/-- A service in a plan belongs to a workload. -/
theorem deployed_of_service (h : d.Compiles p) (hc : (Project.of d).cluster = some c)
    {r : Resource} (hr : r ∈ p.resources) {s : ServiceConfig} (hs : r.config = .service s) :
    ∃ w, ∃ deployment ∈ p.resources, (Project.of d).Deployed c w deployment r := by
  have hkind : r.config.kind ∈ [ConfigKind.deployment, .service] := by
    rw [hs]
    exact List.mem_cons_of_mem _ List.mem_cons_self
  obtain ⟨w, deployment, hdeployment, service, -, hdeployed, rfl | rfl⟩ :=
    h.deployed_of_mem hc hr hkind
  · cases hdeployed
    cases hs
  · exact ⟨w, deployment, hdeployment, hdeployed⟩

/-- Every workload of a description has its deployment and its service in the plan. -/
theorem exists_deployed (h : d.Compiles p) (hc : (Project.of d).cluster = some c) {w : Workload}
    (hw : (Project.of d).HasWorkload w) :
    ∃ deployment ∈ p.resources, ∃ service ∈ p.resources,
      (Project.of d).Deployed c w deployment service := by
  have hb : (Project.of d).backend = .manifest := h.cluster_isSome_iff.1 (by rw [hc]; rfl)
  obtain ⟨n, hn, hrun⟩ := h.legal.exists_workloadsIn (validate_eq_nil_iff.1 h.valid)
    (h.legal.mem_workloads_iff.2 hw)
  obtain ⟨nodes, hsubset, hresolves⟩ := h.exists_resolves hn hrun
  have hbase : ((Project.of d).workloadSite n w.kind).base =
      [c.namespaceId, (Project.of d).configMapId] := by
    rw [Project.workloadSite, Project.siteWithKernel_eq_self hb, ite_self, Project.base_site hc]
  obtain ⟨deployment, service, hdeployed, rfl⟩ := hresolves.deployed hc hbase hw
  exact ⟨deployment, hsubset List.mem_cons_self, service,
    hsubset (List.mem_cons_of_mem _ List.mem_cons_self), hdeployed⟩

end Compiles

end Description

end Groundwork
