import Groundwork.Proofs.Registry.Builtin
import Groundwork.Proofs.Resolution.Environment

/-!
# The nodes of a project

What the parts of a description become.  Every node has the id, the type tag and the settings of its
kind (`Project.IsNode`).  The four kinds of workload are resolved alike: `Workload` is what they
have in common, and `Project.Resolves` says what becomes of it.

Main results:

- `Project.containerNodes_resolves` and its siblings: each kind of workload is resolved as such.
- `Project.isNode_of_mem_globalNodes`, `Project.isNode_of_mem_networkNodes`,
  `Project.isNode_of_mem_workloadNodes`: the kinds of node that each part becomes.
-/

namespace Groundwork

/-! ## Nodes of a kind -/

/-- A node of a kind: its id, its type tag and its settings are those of the kind. -/
structure Project.IsNode (p : Project) (k : ResourceKind) (r : Resource) : Prop where
  id_eq : r.id = k.nodeId r.name
  typeTag_eq : r.typeTag = p.backend.typeTag k
  kind_eq : r.config.kind = k.configKind

namespace Project

variable {p : Project}

/-- A node that is made for a kind, with settings of that kind, is a node of the kind. -/
theorem isNode_node {k : ResourceKind} {name : String} {config : ResourceConfig}
    {dependsOn : List String} {network : Option String} (hconfig : config.kind = k.configKind) :
    p.IsNode k (p.node k name config dependsOn network) :=
  ⟨rfl, rfl, hconfig⟩

/-- The kinds of node outside any network. -/
theorem isNode_of_mem_globalNodes {r : Resource} (hr : r ∈ p.globalNodes) :
    (p.cluster.isSome ∧ ∃ k ∈ [ResourceKind.clusterNamespace, .configMap], p.IsNode k r) ∨
      ∃ k ∈ [ResourceKind.serviceAccount, .bucket, .secret, .topic, .queue], p.IsNode k r := by
  simp only [globalNodes, List.mem_append, List.mem_flatMap, List.mem_map, Option.mem_toList] at hr
  rcases hr with ((((⟨c, hc, hr⟩ | ⟨spec, -, rfl⟩) | ⟨spec, -, rfl⟩) | ⟨spec, -, rfl⟩) |
    ⟨spec, -, rfl⟩) | ⟨spec, -, rfl⟩
  · simp only [clusterNodes, List.mem_cons, List.not_mem_nil, or_false] at hr
    have hsome : p.cluster.isSome := by rw [hc]; rfl
    rcases hr with rfl | rfl
    · exact Or.inl ⟨hsome, .clusterNamespace, by simp, isNode_node rfl⟩
    · exact Or.inl ⟨hsome, .configMap, by simp, isNode_node rfl⟩
  · exact Or.inr ⟨.serviceAccount, by simp, isNode_node rfl⟩
  · exact Or.inr ⟨.bucket, by simp, isNode_node rfl⟩
  · exact Or.inr ⟨.secret, by simp, isNode_node rfl⟩
  · exact Or.inr ⟨.topic, by simp, isNode_node rfl⟩
  · exact Or.inr ⟨.queue, by simp, isNode_node rfl⟩

/-- Only constructs reach a network through a connector. -/
theorem connector_bareSite_isSome_iff (n : NetworkSpec) :
    (p.bareSite n).connector.isSome ↔ p.backend = .construct := by
  simp only [bareSite]
  by_cases hb : p.backend = .construct
  · simp [hb]
  · simp [hb]

/-- The kinds of node that a network itself becomes. -/
theorem isNode_of_mem_networkNodes {n : NetworkSpec} {r : Resource} (hr : r ∈ p.networkNodes n) :
    (p.cluster.isSome ∧ p.IsNode .networkPolicy r) ∨
      (p.cluster = none ∧ p.backend = .construct ∧ p.IsNode .connector r) ∨
      (p.cluster = none ∧
        ∃ k ∈ [ResourceKind.network, .subnet, .firewall, .registry], p.IsNode k r) := by
  unfold networkNodes at hr
  cases hc : p.cluster with
  | some c =>
    simp only [hc, policyNodes, List.mem_map] at hr
    obtain ⟨rule, -, rfl⟩ := hr
    exact Or.inl ⟨rfl, isNode_node rfl⟩
  | none =>
    simp only [hc, cloudNetworkNodes, List.mem_append, List.mem_map, Option.mem_toList] at hr
    rcases hr with (((⟨_, -, rfl⟩ | ⟨s, -, rfl⟩) | ⟨rule, -, rfl⟩) | ⟨_, hconnector, rfl⟩) |
      ⟨registry, -, rfl⟩
    · exact Or.inr (Or.inr ⟨rfl, .network, by simp, isNode_node rfl⟩)
    · exact Or.inr (Or.inr ⟨rfl, .subnet, by simp, isNode_node rfl⟩)
    · exact Or.inr (Or.inr ⟨rfl, .firewall, by simp, isNode_node rfl⟩)
    · have hconstruct := (connector_bareSite_isSome_iff (p := p) n).1 (by rw [hconnector]; rfl)
      exact Or.inr (Or.inl ⟨rfl, hconstruct, isNode_node rfl⟩)
    · exact Or.inr (Or.inr ⟨rfl, .registry, by simp, isNode_node rfl⟩)

/-! ## Workloads -/

/-- What a workload's node is: a deployment and its service in a cluster, else one node. -/
theorem mem_workloadNodes_iff {site : Site} {kind : ResourceKind} {name : String} {pod : Pod}
    {config : ResourceConfig} {dependsOn : List String} {r : Resource} :
    r ∈ p.workloadNodes site kind name pod config dependsOn ↔
      (∃ c, p.cluster = some c ∧ r ∈ p.podNodes c site name pod dependsOn) ∨
        (p.cluster = none ∧
          r = p.node kind name config dependsOn (some site.spec.name)) := by
  unfold workloadNodes
  cases hc : p.cluster with
  | some c => simp
  | none => simp

/-- The kinds of node that a workload becomes. -/
theorem isNode_of_mem_workloadNodes {site : Site} {kind : ResourceKind} {name : String} {pod : Pod}
    {config : ResourceConfig} {dependsOn : List String} {r : Resource}
    (hconfig : config.kind = kind.configKind)
    (hr : r ∈ p.workloadNodes site kind name pod config dependsOn) :
    (p.cluster.isSome ∧ ∃ k ∈ [ResourceKind.deployment, .service], p.IsNode k r) ∨
      (p.cluster = none ∧ p.IsNode kind r) := by
  rcases mem_workloadNodes_iff.1 hr with ⟨c, hc, hr⟩ | ⟨hc, rfl⟩
  · simp only [podNodes, List.mem_cons, List.not_mem_nil, or_false] at hr
    have hsome : p.cluster.isSome := by rw [hc]; rfl
    rcases hr with rfl | rfl
    · exact Or.inl ⟨hsome, .deployment, by simp, isNode_node rfl⟩
    · exact Or.inl ⟨hsome, .service, by simp, isNode_node rfl⟩
  · exact Or.inr ⟨hc, isNode_node hconfig⟩

end Project

/-- What the kinds of workload have in common. -/
structure Workload where
  kind : ResourceKind
  name : String
  env : OrderedMap String
  secrets : OrderedMap String
  /-- The dependencies that are written out. -/
  listed : List String
  /-- What a function is triggered by. -/
  trigger : Option String

namespace Workload

def ofContainer (spec : ContainerSpec) : Workload :=
  ⟨.container, spec.name, spec.env, spec.secrets, spec.dependsOn, none⟩

def ofFunction (spec : FunctionSpec) : Workload :=
  ⟨.function, spec.name, spec.env, spec.secrets, spec.dependsOn, spec.triggerTopic⟩

def ofUi (spec : UiSpec) : Workload :=
  ⟨.ui, spec.name, spec.env, spec.secrets, spec.dependsOn, none⟩

def ofKernel (variant : KernelVariant) (spec : KernelSpec) : Workload :=
  ⟨variant.resourceKind, spec.name, spec.env, spec.secrets, [], none⟩

end Workload

/-- What triggers a function. -/
def ResourceConfig.trigger? : ResourceConfig → Option EnvValue
  | .function c => c.triggerTopic
  | _ => none

namespace Project

variable {p : Project}

/-- The settings that a workload is given: of its kind, with its environment and its trigger
resolved; `topicNodes` are the nodes that the trigger comes from. -/
structure IsSettings (p : Project) (w : Workload) (config : ResourceConfig) (env : Environment)
    (topicNodes : List String) : Prop where
  kind_eq : config.kind = w.kind.configKind
  env_eq : config.env? = some env
  resolveEnv_eq : p.resolveEnv w.env w.secrets = .ok env
  trigger_eq : p.trigger w.name w.trigger = .ok (config.trigger?, topicNodes)

/-- A workload becomes some nodes at a site: with the resolved environment, and waiting for the
site, for all that the workload refers to and for what it lists. -/
def Resolves (p : Project) (site : Site) (w : Workload) (nodes : List Resource) : Prop :=
  ∃ (env : Environment) (topicNodes : List String) (pod : Pod) (config : ResourceConfig),
    nodes = p.workloadNodes site w.kind w.name pod config
        (p.dependencies site (p.referencedNodes w.env w.secrets ++ topicNodes) w.listed) ∧
      pod.env = env ∧ p.IsSettings w config env topicNodes

/-- A workload waits for all that its site makes it wait for. -/
theorem base_subset_dependencies (site : Site) (references listed : List String) :
    site.base ⊆ p.dependencies site references listed := by
  intro id hid
  rw [dependencies, List.mem_eraseDups]
  exact List.mem_append_left _ (List.mem_append_left _ hid)

/-- Nodes of an environment are waited for once, as all else is. -/
theorem dependencies_eraseDups (site : Site) (references more listed : List String) :
    p.dependencies site (references.eraseDups ++ more) listed =
      p.dependencies site (references ++ more) listed := by
  simp only [dependencies, ← List.append_assoc]
  simp only [List.append_assoc _ more, eraseDups_append_eraseDups]

theorem containerNodes_resolves {site : Site} {spec : ContainerSpec} {nodes : List Resource}
    (h : p.containerNodes site spec = .ok nodes) : p.Resolves site (.ofContainer spec) nodes := by
  rw [containerNodes, bind_eq_ok_iff] at h
  obtain ⟨⟨env, _⟩, henv, hrest⟩ := h
  obtain ⟨hvalues, rfl⟩ := environment_eq_ok_iff.1 henv
  have hnodes := (Except.ok.inj hrest).symm
  rw [← List.append_nil (List.eraseDups _), dependencies_eraseDups] at hnodes
  exact ⟨env, [], _, _, hnodes, rfl, ⟨rfl, rfl, hvalues, rfl⟩⟩

theorem functionNodes_resolves {site : Site} {spec : FunctionSpec} {nodes : List Resource}
    (h : p.functionNodes site spec = .ok nodes) : p.Resolves site (.ofFunction spec) nodes := by
  rw [functionNodes, bind_eq_ok_iff] at h
  obtain ⟨⟨env, _⟩, henv, hrest⟩ := h
  obtain ⟨hvalues, rfl⟩ := environment_eq_ok_iff.1 henv
  rw [bind_eq_ok_iff] at hrest
  obtain ⟨⟨topic, topicNodes⟩, htopic, hrest⟩ := hrest
  have hnodes := (Except.ok.inj hrest).symm
  rw [dependencies_eraseDups] at hnodes
  exact ⟨env, topicNodes, _, _, hnodes, rfl, ⟨rfl, rfl, hvalues, htopic⟩⟩

theorem uiNodes_resolves {site : Site} {spec : UiSpec} {nodes : List Resource}
    (h : p.uiNodes site spec = .ok nodes) : p.Resolves site (.ofUi spec) nodes := by
  rw [uiNodes, bind_eq_ok_iff] at h
  obtain ⟨⟨env, _⟩, henv, hrest⟩ := h
  obtain ⟨hvalues, rfl⟩ := environment_eq_ok_iff.1 henv
  have hnodes := (Except.ok.inj hrest).symm
  rw [← List.append_nil (List.eraseDups _), dependencies_eraseDups] at hnodes
  exact ⟨env, [], _, _, hnodes, rfl, ⟨rfl, rfl, hvalues, rfl⟩⟩

theorem kernelNodes_resolves {site : Site} {variant : KernelVariant} {spec : KernelSpec}
    {nodes : List Resource} (h : p.kernelNodes site variant spec = .ok nodes) :
    p.Resolves site (.ofKernel variant spec) nodes := by
  rw [kernelNodes, bind_eq_ok_iff] at h
  obtain ⟨⟨env, _⟩, henv, hrest⟩ := h
  obtain ⟨hvalues, rfl⟩ := environment_eq_ok_iff.1 henv
  have hnodes := (Except.ok.inj hrest).symm
  rw [← List.append_nil (List.eraseDups _), dependencies_eraseDups] at hnodes
  have hkind : ConfigKind.kernel = variant.resourceKind.configKind := by
    cases variant with
    | native => rfl
    | hybrid => rfl
  exact ⟨env, [], _, _, hnodes, rfl, ⟨hkind, rfl, hvalues, rfl⟩⟩

/-- The kernel of a network is the kernel of the project. -/
theorem kernel?_of_kernelOf? {n : NetworkSpec} {k : KernelVariant × KernelSpec}
    (h : p.kernelOf? n = some k) : p.kernel? = some k := by
  unfold kernelOf? at h
  split at h
  · exact h
  · cases h

/-- The kinds of node that a resolved workload becomes. -/
theorem Resolves.isNode {site : Site} {w : Workload} {nodes : List Resource}
    (h : p.Resolves site w nodes) {r : Resource} (hr : r ∈ nodes) :
    (p.cluster.isSome ∧ ∃ k ∈ [ResourceKind.deployment, .service], p.IsNode k r) ∨
      (p.cluster = none ∧ p.IsNode w.kind r) := by
  obtain ⟨env, topicNodes, pod, config, rfl, -, hsettings⟩ := h
  exact isNode_of_mem_workloadNodes hsettings.kind_eq hr

/-! ## Load balancers and scheduled jobs -/

/-- A load balancer leads somewhere, and is an ingress in a cluster and a node of its own kind
elsewhere. -/
theorem loadBalancerNodes_cases {site : Site} {lb : LoadBalancerSpec} {nodes : List Resource}
    (h : p.loadBalancerNodes site lb = .ok nodes) :
    ∃ targets, site.spec.routeTargets lb = .ok targets ∧
      ((∃ c, p.cluster = some c ∧ nodes = [p.ingressNode c site.spec lb targets]) ∨
        (p.cluster = none ∧ nodes = [p.balancerNode site lb targets])) := by
  rw [loadBalancerNodes, bind_eq_ok_iff] at h
  obtain ⟨targets, htargets, hnodes⟩ := h
  refine ⟨targets, mapError_eq_ok_iff.1 htargets, ?_⟩
  cases hc : p.cluster with
  | some c =>
    simp only [hc] at hnodes
    exact Or.inl ⟨c, rfl, (Except.ok.inj hnodes).symm⟩
  | none =>
    simp only [hc] at hnodes
    exact Or.inr ⟨rfl, (Except.ok.inj hnodes).symm⟩

/-- A scheduled job calls the address that a reference to its target becomes, and waits for its
target. -/
theorem cronNodes_cases {spec : CronSpec} {nodes : List Resource}
    (h : p.cronNodes spec = .ok nodes) :
    ∃ (kind : RouteBackendKind) (target : String) (c : CronConfig),
      p.description.cronTarget spec.target = .ok (kind, target) ∧
        p.renderReference ⟨kind.referenceType, target, none⟩ = .ok c.targetUrl ∧
        nodes = [p.node .cron spec.name (.cron c) [kind.resourceKind.nodeId target] none] := by
  rw [cronNodes, bind_eq_ok_iff] at h
  obtain ⟨⟨kind, target⟩, htarget, hrest⟩ := h
  rw [bind_eq_ok_iff] at hrest
  obtain ⟨url, hurl, hnodes⟩ := hrest
  exact ⟨kind, target, _, mapError_eq_ok_iff.1 htarget, mapError_eq_ok_iff.1 hurl,
    (Except.ok.inj hnodes).symm⟩

end Project

end Groundwork
