import Groundwork.Proofs.Resolution.Ids
import Groundwork.Proofs.Resolution.Origins

/-!
# Names that objects of a cluster have for each other

Objects of a cluster name each other: deployments name the config map and secrets, services their
deployments, ingresses services, and variables hold the addresses of services.  Each of these names
is computed where it is used, and again where the object is made.  In a compiled plan every one of
them is the name of an object that is there.

Main results:

- `Description.Links`: every name that an object has for another leads to it.
- `Description.links_of_compile`: so it is in every compiled plan.
-/

namespace Groundwork

/-- The value of a field of an object. -/
def Json.field? : Json → String → Option Json
  | .object fields, name => fields.lookup name
  | _, _ => none

/-- The address of a service inside the cluster. -/
def ServiceConfig.address (s : ServiceConfig) : String :=
  "http://" ++ s.serviceName ++ "." ++ s.namespaceName ++ ".svc.cluster.local"

/-- Every name that an object of a plan has for another leads to an object of that name, in the same
namespace and, where the one waits for the other, before it in the order. -/
structure Description.Links (d : Description) (p : Plan) : Prop where
  /-- The config map that a deployment reads. -/
  configMap : ∀ r ∈ p.resources, ∀ e, r.config = .deployment e →
    ∃ t ∈ p.resources, ∃ m, t.config = .configMap m ∧ m.mapName = e.configMap ∧
      m.namespaceName = e.namespaceName ∧ Provisioning.Precedes p.order t.id r.id
  /-- The secrets that the variables of a deployment are keys of; their manifests have the keys. -/
  secret : ∀ r ∈ p.resources, ∀ e, r.config = .deployment e → ∀ key name field,
    (key, .secretKeyRef name field) ∈ e.env.entries →
    ∃ t ∈ p.resources, ∃ s, t.config = .secret s ∧ s.secretId = name ∧
      s.namespaceName = some e.namespaceName ∧ Provisioning.Precedes p.order t.id r.id ∧
      ∃ document, Registry.builtin.generate t = .ok (.manifest document) ∧
        ((document.field? "stringData").bind (·.field? field)).isSome
  /-- The deployment that a service selects. -/
  deployment : ∀ r ∈ p.resources, ∀ s, r.config = .service s →
    ∃ t ∈ p.resources, ∃ e, t.config = .deployment e ∧ t.name = r.name ∧
      e.deploymentName = s.selector ∧ e.port = s.targetPort ∧
      e.namespaceName = s.namespaceName ∧ Provisioning.Precedes p.order t.id r.id
  /-- The services that the rules of an ingress lead to. -/
  service : ∀ r ∈ p.resources, ∀ i, r.config = .ingress i → ∀ rule ∈ i.rules,
    ∃ t ∈ p.resources, ∃ s, t.config = .service s ∧ s.serviceName = rule.service ∧
      s.port = rule.port ∧ s.namespaceName = i.namespaceName ∧
      Provisioning.Precedes p.order t.id r.id
  /-- The services whose addresses stand for references to workloads. -/
  address : ∀ r ∈ p.resources, ∀ e, r.config = .deployment e →
    ∃ w, (Project.of d).HasWorkload w ∧ w.name = r.name ∧
      ∀ key text ref, (key, text) ∈ (Project.effectiveValues w.env w.secrets).entries →
        Reference.parse? text = some ref → ref.type.isWorkload → ref.output = .ok "url" →
        ∃ t ∈ p.resources, ∃ s, t.config = .service s ∧ t.name = ref.name ∧
          s.namespaceName = e.namespaceName ∧ (key, .literal s.address) ∈ e.env.entries

namespace Project

variable {p : Project} {c : Cluster}

/-! ## Where secrets and ingresses come from -/

/-- Secrets and ingresses come from outside the networks or out of load balancers. -/
theorem Origin.global_or_balancer {r : Resource} (h : p.Origin r)
    (hkind : r.config.kind ∈ [ConfigKind.secret, .ingress]) :
    r ∈ p.globalNodes ∨ ∃ n ∈ p.description.networks, ∃ lb nodes,
      p.loadBalancerNodes (p.siteWithKernel (p.site n)) lb = .ok nodes ∧ r ∈ nodes := by
  have hpart : r.config.kind ∈ [ConfigKind.secret, .ingress, .loadBalancer, .cron] :=
    List.mem_append_left [ConfigKind.loadBalancer, .cron] hkind
  rcases h.exists_part hpart with hr | ⟨n, hn, lb, -, nodes, hnodes, hr⟩ | ⟨_, -, _, hnodes, hr⟩
  · exact Or.inl hr
  · exact Or.inr ⟨n, hn, lb, nodes, hnodes, hr⟩
  · obtain ⟨kind, target, c, -, -, rfl⟩ := cronNodes_cases hnodes
    obtain rfl := List.mem_singleton.1 hr
    exact absurd hkind (IsNode.kind_not_mem (k := .cron) (isNode_node rfl) (by decide))

/-- Every secret is declared by the description. -/
theorem Origin.exists_secret {r : Resource} (h : p.Origin r) {s : SecretConfig}
    (hs : r.config = .secret s) : ∃ spec ∈ p.description.secrets, r = p.secretNode spec := by
  have hkind : r.config.kind ∈ [ConfigKind.secret, .ingress] := by
    rw [hs]
    exact List.mem_cons_self
  rcases h.global_or_balancer hkind with hr | ⟨n, -, lb, nodes, hnodes, hr⟩
  · simp only [globalNodes, List.mem_append, List.mem_flatMap, List.mem_map,
      Option.mem_toList, clusterNodes, List.mem_cons, List.not_mem_nil, or_false] at hr
    rcases hr with ((((⟨c, -, rfl | rfl⟩ | ⟨spec, -, rfl⟩) | ⟨spec, -, rfl⟩) | ⟨spec, hspec, rfl⟩) |
      ⟨spec, -, rfl⟩) | ⟨spec, -, rfl⟩
    all_goals first | exact ⟨spec, hspec, rfl⟩ | cases hs
  · obtain ⟨targets, -, ⟨c, -, rfl⟩ | ⟨-, rfl⟩⟩ := loadBalancerNodes_cases hnodes
    · rw [List.mem_singleton.1 hr] at hs
      cases hs
    · rw [List.mem_singleton.1 hr] at hs
      cases hs

/-- Every ingress stands for the load balancer of a network. -/
theorem Origin.exists_ingress (hc : p.cluster = some c) {r : Resource} (h : p.Origin r)
    {i : IngressConfig} (hi : r.config = .ingress i) :
    ∃ n ∈ p.description.networks, ∃ lb targets, n.routeTargets lb = .ok targets ∧
      r = p.ingressNode c n lb targets := by
  have hkind : r.config.kind ∈ [ConfigKind.secret, .ingress] := by
    rw [hi]
    exact List.mem_cons_of_mem _ List.mem_cons_self
  rcases h.global_or_balancer hkind with hr | ⟨n, hn, lb, nodes, hnodes, hr⟩
  · simp only [globalNodes, List.mem_append, List.mem_flatMap, List.mem_map,
      Option.mem_toList, clusterNodes, List.mem_cons, List.not_mem_nil, or_false] at hr
    rcases hr with ((((⟨c, -, rfl | rfl⟩ | ⟨spec, -, rfl⟩) | ⟨spec, -, rfl⟩) | ⟨spec, -, rfl⟩) |
      ⟨spec, -, rfl⟩) | ⟨spec, -, rfl⟩
    all_goals cases hi
  · obtain ⟨targets, htargets, ⟨c', hc', rfl⟩ | ⟨hnone, -⟩⟩ := loadBalancerNodes_cases hnodes
    · rw [hc, Option.some.injEq] at hc'
      subst hc'
      rw [spec_siteWithKernel_site] at htargets hr
      exact ⟨n, hn, lb, targets, htargets, List.mem_singleton.1 hr⟩
    · rw [hc] at hnone
      cases hnone

/-- In a cluster the config map of the project is a global node. -/
theorem configMap_mem_globalNodes (hc : p.cluster = some c) :
    p.node .configMap p.name (.configMap ⟨p.configMapName, c.namespaceName, p.configData⟩)
      [c.namespaceId] none ∈ p.globalNodes := by
  simp [globalNodes, hc, clusterNodes]

/-! ## Values of references in a cluster -/

/-- The value of a reference in a cluster: what the cluster knows it by, or a placeholder. -/
theorem renderReference_cluster (hb : p.backend = .manifest) (hc : p.cluster = some c)
    {ref : Reference} {v : EnvValue} (h : p.renderReference ref = .ok v) :
    ∃ output, ref.output = .ok output ∧
      (clusterValue? c ref output = some v ∨
        clusterValue? c ref output = none ∧ ∃ text, v = .interpolation text) := by
  rw [renderReference, bind_eq_ok_iff] at h
  obtain ⟨output, houtput, h⟩ := h
  obtain ⟨text, -, h⟩ := bind_eq_ok_iff.1 h
  refine ⟨output, houtput, ?_⟩
  have hv := (Except.ok.inj h).symm
  simp only [hb, hc] at hv
  cases hvalue : clusterValue? c ref output with
  | some value =>
    rw [hvalue] at hv
    exact Or.inl (by rw [hv]; rfl)
  | none =>
    rw [hvalue] at hv
    exact Or.inr ⟨rfl, _, hv⟩

/-- What a network declares under a name is a workload of that name. -/
theorem hasWorkload_of_declares {n : NetworkSpec} (hn : n ∈ p.description.networks)
    {kind : RouteBackendKind} {name : String} (h : n.Declares kind name) :
    ∃ w, p.HasWorkload w ∧ w.name = name := by
  cases kind with
  | container =>
    obtain ⟨spec, hspec, rfl⟩ := h
    exact ⟨_, .container hn hspec, rfl⟩
  | function =>
    obtain ⟨spec, hspec, rfl⟩ := h
    exact ⟨_, .function hn hspec, rfl⟩
  | ui =>
    obtain ⟨spec, hspec, rfl⟩ := h
    exact ⟨_, .ui hn hspec, rfl⟩

/-- Only references to secrets become keys of secrets, and all of them mean one key. -/
theorem clusterValue?_eq_secretKeyRef {ref : Reference} {output name field : String}
    (h : clusterValue? c ref output = some (.secretKeyRef name field)) :
    ref.type = .secret ∧ name = sanitizeLabel ref.name ∧ field = secretKey := by
  simp only [clusterValue?] at h
  split at h
  · rename_i htype
    split at h
    · cases h
    · cases h
      exact ⟨htype, rfl, rfl⟩
  · split at h
    · cases h
    · cases h

/-- References to the addresses of workloads become the addresses of their services. -/
theorem clusterValue?_url {ref : Reference} (h : ref.type.isWorkload = true) :
    clusterValue? c ref "url" = some (.literal
      ("http://" ++ sanitizeLabel ref.name ++ "." ++ c.namespaceName ++ ".svc.cluster.local")) := by
  have hsecret : ref.type ≠ .secret := by
    intro hsecret
    rw [hsecret] at h
    cases h
  simp [clusterValue?, hsecret, h]

end Project

namespace Project.Deployed

variable {p : Project} {c : Cluster} {w : Workload} {deployment service : Resource}

/-! ## The environment of a deployment -/

/-- A deployed workload is one of the project. -/
theorem hasWorkload (h : p.Deployed c w deployment service) : p.HasWorkload w := by
  cases h with
  | intro hw hbase henv => exact hw

/-- A deployment is named after its workload. -/
theorem name_eq (h : p.Deployed c w deployment service) : w.name = deployment.name := by
  cases h with
  | intro hw hbase henv => rfl

/-- A deployment is in the namespace of the cluster. -/
theorem namespaceName_eq (h : p.Deployed c w deployment service) {e : DeploymentConfig}
    (he : deployment.config = .deployment e) : e.namespaceName = c.namespaceName := by
  cases h with
  | intro hw hbase henv =>
    cases he
    rfl

/-- The environment of a deployment is that of its workload, resolved. -/
theorem resolveEnv_eq (h : p.Deployed c w deployment service) {e : DeploymentConfig}
    (he : deployment.config = .deployment e) : p.resolveEnv w.env w.secrets = .ok e.env := by
  cases h with
  | intro hw hbase henv =>
    cases he
    exact henv

/-- A deployment waits for all that its workload refers to. -/
theorem referenceNode_mem (h : p.Deployed c w deployment service) {key text : String}
    {ref : Reference} (htext : (key, text) ∈ (effectiveValues w.env w.secrets).entries)
    (href : Reference.parse? text = some ref) : p.referenceNode ref ∈ deployment.dependsOn := by
  have hextract : ref ∈ Reference.extract (effectiveValues w.env w.secrets) :=
    List.mem_filterMap.2 ⟨text, List.mem_map.2 ⟨(key, text), htext, rfl⟩, href⟩
  cases h with
  | intro hw hbase henv =>
    exact mem_dependencies_of_mem (List.mem_append_left _ (List.mem_map_of_mem hextract))

end Project.Deployed

namespace Description.Compiles

variable {d : Description} {p : Plan} {c : Cluster}

/-! ## Links -/

/-- The config map that a deployment reads is in the plan, in the same namespace. -/
theorem configMap_link (h : d.Compiles p) (hc : (Project.of d).cluster = some c) {r : Resource}
    (hr : r ∈ p.resources) {e : DeploymentConfig} (he : r.config = .deployment e) :
    ∃ t ∈ p.resources, ∃ m, t.config = .configMap m ∧ m.mapName = e.configMap ∧
      m.namespaceName = e.namespaceName ∧ Provisioning.Precedes p.order t.id r.id := by
  obtain ⟨w, service, -, hdeployed⟩ := h.deployed_of_deployment hc hr he
  have hmap := h.globalNodes_subset (Project.configMap_mem_globalNodes hc)
  cases hdeployed with
  | intro hw hbase henv =>
    cases he
    refine ⟨_, hmap, _, rfl, rfl, rfl, h.precedes hr ?_⟩
    simp [Project.node, Project.dependencies, hbase, Project.configMapId]

/-- The deployment that a service selects is in the plan, with the same port and namespace. -/
theorem deployment_link (h : d.Compiles p) (hc : (Project.of d).cluster = some c) {r : Resource}
    (hr : r ∈ p.resources) {s : ServiceConfig} (hs : r.config = .service s) :
    ∃ t ∈ p.resources, ∃ e, t.config = .deployment e ∧ t.name = r.name ∧
      e.deploymentName = s.selector ∧ e.port = s.targetPort ∧
      e.namespaceName = s.namespaceName ∧ Provisioning.Precedes p.order t.id r.id := by
  obtain ⟨w, deployment, hdeployment, hdeployed⟩ := h.deployed_of_service hc hr hs
  cases hdeployed with
  | intro hw hbase henv =>
    cases hs
    refine ⟨_, hdeployment, _, rfl, rfl, rfl, rfl, rfl, h.precedes hr ?_⟩
    exact List.mem_cons_of_mem _ List.mem_cons_self

/-- The service that a rule of an ingress leads to is in the plan. -/
theorem service_link (h : d.Compiles p) (hc : (Project.of d).cluster = some c) {r : Resource}
    (hr : r ∈ p.resources) {i : IngressConfig} (hi : r.config = .ingress i) {rule : IngressRule}
    (hrule : rule ∈ i.rules) :
    ∃ t ∈ p.resources, ∃ s, t.config = .service s ∧ s.serviceName = rule.service ∧
      s.port = rule.port ∧ s.namespaceName = i.namespaceName ∧
      Provisioning.Precedes p.order t.id r.id := by
  obtain ⟨n, hn, lb, targets, htargets, rfl⟩ := (h.origin hr).exists_ingress hc hi
  cases hi
  obtain ⟨target, htarget, rfl⟩ := List.mem_map.1 hrule
  -- The workload that the route leads to is declared, so it has a service.
  obtain ⟨w, hw, hname⟩ := Project.hasWorkload_of_declares hn
    ((NetworkSpec.routeTargets_eq_ok_iff.1 htargets).declares target htarget)
  obtain ⟨_, -, service, hservice, hdeployed⟩ := h.exists_deployed hc hw
  cases hdeployed with
  | intro hw hbase henv =>
    refine ⟨_, hservice, _, rfl, by rw [← hname]; rfl, rfl, rfl, h.precedes hr ?_⟩
    have hid : ResourceKind.service.nodeId target.backend ∈
        targets.flatMap fun t =>
          [ResourceKind.deployment.nodeId t.backend, ResourceKind.service.nodeId t.backend] :=
      List.mem_flatMap.2 ⟨target, htarget, List.mem_cons_of_mem _ List.mem_cons_self⟩
    rw [hname]
    exact List.mem_eraseDups.2 (List.mem_cons_of_mem _ hid)

/-- The manifest of a secret has the key that references to secrets mean. -/
theorem manifest_secret_field {s : SecretConfig} :
    (((Manifest.secret s).field? "stringData").bind (·.field? secretKey)).isSome := by
  simp [Manifest.secret, Manifest.document, Manifest.nested, Json.field?, List.lookup_cons,
    secretKey]

/-- The secret that a variable refers to is in the plan. -/
theorem secret_link (h : d.Compiles p) (hc : (Project.of d).cluster = some c) {r : Resource}
    (hr : r ∈ p.resources) {e : DeploymentConfig} (he : r.config = .deployment e)
    {key name field : String} (hv : (key, .secretKeyRef name field) ∈ e.env.entries) :
    ∃ t ∈ p.resources, ∃ s, t.config = .secret s ∧ s.secretId = name ∧
      s.namespaceName = some e.namespaceName ∧ Provisioning.Precedes p.order t.id r.id ∧
      ∃ document, Registry.builtin.generate t = .ok (.manifest document) ∧
        ((document.field? "stringData").bind (·.field? field)).isSome := by
  have hb : (Project.of d).backend = .manifest := h.cluster_isSome_iff.1 (by rw [hc]; rfl)
  obtain ⟨w, service, -, hdeployed⟩ := h.deployed_of_deployment hc hr he
  obtain ⟨text, htext, hvalue⟩ := OrderedMap.mem_entries_traverse (hdeployed.resolveEnv_eq he) hv
  rcases Reference.resolveValue_cases hvalue with hliteral | ⟨ref, href, hrender⟩
  · cases hliteral
  obtain ⟨output, -, hvalue | ⟨-, text, hplaceholder⟩⟩ :=
    Project.renderReference_cluster hb hc hrender
  · obtain ⟨htype, rfl, rfl⟩ := Project.clusterValue?_eq_secretKeyRef hvalue
    have hnode : (Project.of d).referenceNode ref = ref.resourceId := by
      simp [Project.referenceNode, htype, ReferenceType.isWorkload]
    have hdepends := hdeployed.referenceNode_mem htext href
    rw [hnode] at hdepends
    obtain ⟨t, ht, hid, hname, hsecret, -, hprecedes⟩ := h.exists_target hr hdepends
    rw [htype] at hsecret
    obtain ⟨s, hs⟩ : ∃ s, t.config = .secret s := by
      have hkind := hsecret.kind_eq
      cases hconfig : t.config <;> first | exact ⟨_, rfl⟩ | (rw [hconfig] at hkind; cases hkind)
    obtain ⟨spec, hspec, rfl⟩ := (h.origin ht).exists_secret hs
    cases hs
    have hgenerator : Definition.ofManifest (Backend.manifest.typeTag .secret) .secret
        Manifest.secret ∈ Backend.manifest.definitions := by
      simp [Backend.definitions, Backend.manifestDefinitions]
    have htag := hsecret.typeTag_eq
    rw [hb] at htag
    refine ⟨_, ht, _, rfl, ?_, ?_, hprecedes, _,
      Backend.generate_ofManifest hgenerator htag rfl, manifest_secret_field⟩
    · have hspecname : spec.name = ref.name := hname
      simp only [Project.cloudName, hb, Backend.resourceName, hspecname]
    · rw [hdeployed.namespaceName_eq he, Project.namespaceName, hc]
      rfl
  · cases hplaceholder

/-- A node with the id of a deployment is one. -/
theorem deployment_of_id (h : d.Compiles p) (hb : d.project.backend = .manifest) {t : Resource}
    (ht : t ∈ p.resources) {name : String} (hid : t.id = ResourceKind.deployment.nodeId name) :
    ∃ e, t.config = .deployment e ∧ t.name = name := by
  obtain ⟨k, hk, hnode, -⟩ := h.served ht
  rw [hnode.id_eq] at hid
  have hmem : ResourceKind.deployment ∈ (Project.of d).backend.kinds := by
    rw [show (Project.of d).backend = .manifest from hb]
    decide
  rcases ResourceKind.nodeId_eq_cases hk hmem hid with
    ⟨rfl | ⟨-, hkernel⟩, hname⟩ | ⟨-, hservice, -⟩ | ⟨-, haccount, -⟩
  · have hkind := hnode.kind_eq
    obtain ⟨e, he⟩ : ∃ e, t.config = .deployment e := by
      cases hconfig : t.config <;>
        first | exact ⟨_, rfl⟩ | (rw [hconfig] at hkind; cases hkind)
    exact ⟨e, he, hname⟩
  · exact absurd hkernel (by decide)
  · cases hservice
  · cases haccount

/-- A variable that refers to where a workload is found holds the address of a service in the plan,
of the same name and in the same namespace. -/
theorem address_link (h : d.Compiles p) (hc : (Project.of d).cluster = some c) {r : Resource}
    (hr : r ∈ p.resources) {e : DeploymentConfig} (he : r.config = .deployment e) :
    ∃ w, (Project.of d).HasWorkload w ∧ w.name = r.name ∧
      ∀ key text ref, (key, text) ∈ (Project.effectiveValues w.env w.secrets).entries →
        Reference.parse? text = some ref → ref.type.isWorkload → ref.output = .ok "url" →
        ∃ t ∈ p.resources, ∃ s, t.config = .service s ∧ t.name = ref.name ∧
          s.namespaceName = e.namespaceName ∧ (key, .literal s.address) ∈ e.env.entries := by
  have hb : (Project.of d).backend = .manifest := h.cluster_isSome_iff.1 (by rw [hc]; rfl)
  obtain ⟨w, service, -, hdeployed⟩ := h.deployed_of_deployment hc hr he
  refine ⟨w, hdeployed.hasWorkload, hdeployed.name_eq, ?_⟩
  intro key text ref htext href hworkload houtput
  -- The deployment waits for that of the workload that is meant, which has a service.
  have hnode : (Project.of d).referenceNode ref = ResourceKind.deployment.nodeId ref.name := by
    simp [Project.referenceNode, hc, hworkload]
  have hdepends := hdeployed.referenceNode_mem htext href
  rw [hnode] at hdepends
  obtain ⟨t, ht, hid⟩ := List.mem_map.1 (h.isGreedyOrder.noDangling r hr _ hdepends)
  obtain ⟨e', he', hname⟩ := h.deployment_of_id hb ht hid
  obtain ⟨w', service', hservice, hdeployed'⟩ := h.deployed_of_deployment hc ht he'
  obtain ⟨v, hv, hmem⟩ := OrderedMap.exists_mem_traverse (hdeployed.resolveEnv_eq he) htext
  rw [Reference.resolveValue, href] at hv
  obtain ⟨output, houtput', hvalue⟩ := Project.renderReference_cluster hb hc hv
  rw [houtput, Except.ok.injEq] at houtput'
  rw [← houtput', Project.clusterValue?_url hworkload] at hvalue
  rcases hvalue with hvalue | ⟨hnone, -⟩
  · cases hvalue
    cases hdeployed' with
    | intro hw' hbase henv =>
      refine ⟨_, hservice, _, rfl, hname, (hdeployed.namespaceName_eq he).symm, ?_⟩
      rw [ServiceConfig.address]
      rw [← show w'.name = ref.name from hname] at hmem
      exact hmem
  · cases hnone

end Description.Compiles

namespace Description

/-- Every name that an object of a compiled cluster has for another leads to it. -/
theorem links_of_compile {d : Description} {p : Plan} (h : d.compile = .ok p)
    (hb : d.project.backend = .manifest) : d.Links p := by
  have hcompiles := compile_eq_ok_iff.1 h
  obtain ⟨c, hc⟩ := Option.isSome_iff_exists.1 (hcompiles.cluster_isSome_iff.2 hb)
  exact {
    configMap := fun r hr e he => hcompiles.configMap_link hc hr he
    secret := fun r hr e he key name field hv => hcompiles.secret_link hc hr he hv
    deployment := fun r hr s hs => hcompiles.deployment_link hc hr hs
    service := fun r hr i hi rule hrule => hcompiles.service_link hc hr hi hrule
    address := fun r hr e he => hcompiles.address_link hc hr he }

/-- A cluster with a secret, a worker, and a container that refers to both, behind a load
balancer. -/
def checkout : Description :=
  { inCluster [] with
    secrets := [⟨"token", none⟩]
    networks := [
      { NetworkSpec.ofContainers "main" [] with
        containers := [
          { ContainerSpec.named "api" with
            env := .ofList [("WORKER", "@container/worker"), ("TOKEN", "@secret/token")] },
          .named "worker"]
        loadBalancer := some ⟨none, false, none, [], none⟩ }] }

/-- The worker comes before the container that calls it, which finds its address and its secret. -/
theorem links_of_compile_checkout :
    ∃ p, checkout.compile = .ok p ∧
      p.order = ["namespace-shop", "config-shop", "secret-token", "deployment-worker",
        "deployment-api", "service-api", "service-worker", "ingress-main"] ∧
      p.resources.filterMap (·.config.env?.map (·.entries)) =
        [[("WORKER", .literal "http://worker.shop.svc.cluster.local"),
          ("TOKEN", .secretKeyRef "token" "value")], []] ∧
      checkout.Links p := by
  have hplan : checkout.compile.toOption.map (fun p =>
      (p.order, p.resources.filterMap (·.config.env?.map (·.entries)))) =
      some (["namespace-shop", "config-shop", "secret-token", "deployment-worker",
        "deployment-api", "service-api", "service-worker", "ingress-main"],
        [[("WORKER", .literal "http://worker.shop.svc.cluster.local"),
          ("TOKEN", .secretKeyRef "token" "value")], []]) := by
    decide +kernel
  cases hcompile : checkout.compile with
  | error e =>
    rw [hcompile] at hplan
    cases hplan
  | ok p =>
    rw [hcompile] at hplan
    obtain ⟨horder, henv⟩ := Prod.mk.inj (Option.some.inj hplan)
    exact ⟨p, rfl, horder, henv, links_of_compile hcompile rfl⟩

end Description

end Groundwork
