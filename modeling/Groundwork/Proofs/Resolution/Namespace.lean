import Groundwork.Proofs.Provisioning.Placement
import Groundwork.Proofs.Resolution.Requests

/-!
# The namespace of a cluster

All manifests of a project live in one namespace.  It reaches them in different ways: nodes outside
any network take it from the project, workloads from the site of their network, and services,
ingresses and policies name it themselves.  None of these ways leaves a node out.

Main results:

- `Project.Origin.inNamespace`: whatever a part of a description becomes in a cluster is in its
  namespace.
- `Description.namespace_of_compile`: the namespace comes first, and all other nodes wait for it and
  carry it.
-/

namespace Groundwork

/-- The namespace that some settings carry. -/
def ResourceConfig.namespaceName? : ResourceConfig → Option String
  | .serviceAccount c => c.namespaceName
  | .bucket c => c.namespaceName
  | .secret c => c.namespaceName
  | .topic c => c.namespaceName
  | .queue c => c.namespaceName
  | .database c => c.namespaceName
  | .cache c => c.namespaceName
  | .clusterNamespace c => some c.namespaceName
  | .configMap c => some c.namespaceName
  | .deployment c => some c.namespaceName
  | .service c => some c.namespaceName
  | .ingress c => some c.namespaceName
  | .networkPolicy c => some c.namespaceName
  | _ => none

namespace Project

variable {p : Project} {c : Cluster} {r : Resource}

/-! ## Nodes in a namespace -/

/-- A node waits for the namespace of a cluster, and its settings carry that namespace. -/
structure InNamespace (c : Cluster) (r : Resource) : Prop where
  waits : c.namespaceId ∈ r.dependsOn
  carries : r.config.namespaceName? = some c.namespaceName

/-- The node of the namespace of a cluster. -/
def namespaceNode (p : Project) (c : Cluster) : Resource :=
  p.node .clusterNamespace c.namespaceName (.clusterNamespace ⟨c.namespaceName⟩) [] none

theorem namespaceNode_mem_globalNodes (hc : p.cluster = some c) :
    p.namespaceNode c ∈ p.globalNodes := by
  simp [globalNodes, hc, clusterNodes, namespaceNode]

theorem scopeDependencies_eq (hc : p.cluster = some c) : p.scopeDependencies = [c.namespaceId] := by
  rw [scopeDependencies, hc]
  rfl

/-- Outside any network, all but the namespace itself is in the namespace. -/
theorem inNamespace_of_mem_globalNodes (hc : p.cluster = some c) (hr : r ∈ p.globalNodes) :
    r = p.namespaceNode c ∨ InNamespace c r := by
  have hglobal : ∀ kind name config, config.namespaceName? = p.namespaceName →
      InNamespace c (p.globalNode kind name config) := by
    intro kind name config hconfig
    refine ⟨?_, hconfig.trans ?_⟩
    · rw [globalNode, node, scopeDependencies_eq hc]
      exact List.mem_singleton_self _
    · rw [namespaceName, hc]
      rfl
  simp only [globalNodes, hc, Option.toList_some, List.flatMap_cons, List.flatMap_nil,
    List.append_nil, clusterNodes, List.mem_append, List.mem_cons, List.not_mem_nil, or_false,
    List.mem_map] at hr
  rcases hr with (((((rfl | rfl) | ⟨spec, -, rfl⟩) | ⟨spec, -, rfl⟩) | ⟨spec, -, rfl⟩) |
    ⟨spec, -, rfl⟩) | ⟨spec, -, rfl⟩
  · exact Or.inl rfl
  · exact Or.inr ⟨List.mem_singleton_self _, rfl⟩
  all_goals exact Or.inr (hglobal _ _ _ rfl)

/-- The rules of a network become policies in the namespace. -/
theorem inNamespace_of_mem_networkNodes (hc : p.cluster = some c) {n : NetworkSpec}
    (hr : r ∈ p.networkNodes n) : InNamespace c r := by
  rw [networkNodes, hc] at hr
  obtain ⟨rule, -, rfl⟩ := List.mem_map.1 hr
  exact ⟨List.mem_singleton_self _, rfl⟩

/-- A workload becomes a deployment and a service in the namespace. -/
theorem Resolves.inNamespace (hc : p.cluster = some c) {n : NetworkSpec} {w : Workload}
    {nodes : List Resource} (h : p.Resolves (p.site n) w nodes) (hr : r ∈ nodes) :
    InNamespace c r := by
  obtain ⟨env, topicNodes, pod, config, rfl, -, -⟩ := h
  rw [workloadNodes, hc] at hr
  rcases List.mem_pair.1 hr with rfl | rfl
  · refine ⟨base_subset_dependencies _ _ _ ?_, rfl⟩
    rw [base_site hc]
    exact List.mem_cons_self
  · exact ⟨List.mem_cons_self, rfl⟩

/-- Databases and caches have no network to wait for in a cluster. -/
theorem dataDependencies_eq (hc : p.cluster = some c) (n : NetworkSpec) :
    p.dataDependencies (p.site n) = [c.namespaceId] := by
  have hnetwork : (p.site n).networkId = none := by rw [site, hc]
  rw [dataDependencies, hnetwork]
  exact scopeDependencies_eq hc

/-- Whatever a part of a description becomes in a cluster is in its namespace, or is the namespace
itself; a cluster has no scheduled jobs. -/
theorem Origin.inNamespace (hb : p.backend = .manifest) (hc : p.cluster = some c)
    (hcrons : p.description.crons = []) (h : p.Origin r) :
    r = p.namespaceNode c ∨ InNamespace c r := by
  have hnamespace : p.namespaceName = some c.namespaceName := by
    rw [namespaceName, hc]
    rfl
  cases h with
  | global hr => exact inNamespace_of_mem_globalNodes hc hr
  | network _ hr => exact Or.inr (inNamespace_of_mem_networkNodes hc hr)
  | kernel _ _ hnodes hr => exact Or.inr ((kernelNodes_resolves hnodes).inNamespace hc hr)
  | container _ _ hnodes hr =>
    rw [siteWithKernel_eq_self hb] at hnodes
    exact Or.inr ((containerNodes_resolves hnodes).inNamespace hc hr)
  | function _ _ hnodes hr =>
    rw [siteWithKernel_eq_self hb] at hnodes
    exact Or.inr ((functionNodes_resolves hnodes).inNamespace hc hr)
  | ui _ _ hnodes hr =>
    rw [siteWithKernel_eq_self hb] at hnodes
    exact Or.inr ((uiNodes_resolves hnodes).inNamespace hc hr)
  | database _ _ hr =>
    rw [siteWithKernel_eq_self hb] at hr
    subst hr
    refine Or.inr ⟨?_, hnamespace⟩
    rw [databaseNode, node, dataDependencies_eq hc]
    exact List.mem_singleton_self _
  | cache _ _ hr =>
    rw [siteWithKernel_eq_self hb] at hr
    subst hr
    refine Or.inr ⟨?_, hnamespace⟩
    rw [cacheNode, node, dataDependencies_eq hc]
    exact List.mem_singleton_self _
  | loadBalancer _ _ hnodes hr =>
    obtain ⟨targets, -, ⟨c', hc', rfl⟩ | ⟨hnone, -⟩⟩ := loadBalancerNodes_cases hnodes
    · obtain rfl : c = c' := Option.some.inj (hc.symm.trans hc')
      obtain rfl := List.mem_singleton.1 hr
      refine Or.inr ⟨?_, rfl⟩
      rw [ingressNode, node, List.mem_eraseDups]
      exact List.mem_cons_self
    · rw [hc] at hnone
      cases hnone
  | cron hspec _ _ =>
    rw [hcrons] at hspec
    cases hspec

end Project

namespace Description

variable {d : Description} {p : Plan}

/-- In a cluster the node of the namespace that the description names comes first in the order.  All
other nodes list it among what they wait for, and the settings of every node carry that
namespace. -/
theorem namespace_of_compile (h : d.compile = .ok p) (hb : d.project.backend = .manifest) :
    ∃ name, d.kubernetes.bind (·.namespaceName) = some name ∧
      ∃ t ∈ p.resources, t.config = .clusterNamespace ⟨sanitizeLabel name⟩ ∧
        p.order.head? = some t.id ∧
        ∀ r ∈ p.resources, (r = t ∨ t.id ∈ r.dependsOn) ∧
          r.config.namespaceName? = some (sanitizeLabel name) := by
  have hcompiles := compile_eq_ok_iff.1 h
  obtain ⟨c, hc⟩ := hcompiles.legal.exists_cluster_iff.2 hb
  have hcrons : d.crons = [] := by
    refine List.eq_nil_iff_forall_not_mem.2 fun spec hspec => ?_
    have hflat := hcompiles.legal.backend_of_cron hspec
    rw [hb] at hflat
    cases hflat
  have hall : ∀ r ∈ p.resources,
      r = (Project.of d).namespaceNode c ∨ Project.InNamespace c r :=
    fun r hr => (hcompiles.origin hr).inNamespace hb hc hcrons
  have hnode : (Project.of d).namespaceNode c ∈ p.resources :=
    hcompiles.globalNodes_subset (Project.namespaceNode_mem_globalNodes hc)
  obtain ⟨name, hname, hlabel⟩ := exists_namespaceName hc
  have hwait : ∀ r ∈ p.resources, r = (Project.of d).namespaceNode c ∨
      ((Project.of d).namespaceNode c).id ∈ r.dependsOn :=
    fun r hr => (hall r hr).imp_right (·.waits)
  refine ⟨name, hname, ?_⟩
  rw [← hlabel]
  refine ⟨_, hnode, rfl, hcompiles.isGreedyOrder.head?_eq hnode hwait, ?_⟩
  intro r hr
  refine ⟨hwait r hr, ?_⟩
  rcases hall r hr with rfl | hin
  · rfl
  · exact hin.carries

/-- The account, the policy, the ingress, the database and all pods of two networks are in one
namespace. -/
theorem namespace_of_compile_backOffice :
    ∃ p, backOffice.compile = .ok p ∧ ∃ t ∈ p.resources,
      t.config = .clusterNamespace ⟨"shop"⟩ ∧ p.order.head? = some t.id ∧
      ∀ r ∈ p.resources, (r = t ∨ t.id ∈ r.dependsOn) ∧ r.config.namespaceName? = some "shop" := by
  have hsome : backOffice.compile.toOption.isSome := by decide +kernel
  have hlabel : sanitizeLabel "shop" = "shop" := by decide +kernel
  cases hcompile : backOffice.compile with
  | error e =>
    rw [hcompile] at hsome
    cases hsome
  | ok p =>
    obtain ⟨name, hname, hnamespace⟩ := namespace_of_compile hcompile rfl
    obtain rfl : "shop" = name := Option.some.inj hname
    rw [hlabel] at hnamespace
    exact ⟨p, rfl, hnamespace⟩

end Description

end Groundwork
