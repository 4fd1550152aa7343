import Groundwork.Proofs.Provisioning.Sort
import Groundwork.Proofs.Resolution.Legality
import Groundwork.Proofs.Resolution.Nodes
import Groundwork.Proofs.Resolution.Routing

/-!
# Compiled plans

A description compiles exactly if it is valid and legal, all its steps succeed with distinct ids,
and its nodes have a provisioning order.  From then on the description's cluster, its features and
its backend agree, which decides the kinds of node that can occur.

Main results:

- `Description.compile_eq_ok_iff`: when a description compiles, and what it becomes.
- `Description.Compiles.served`: the registry makes something of every node.
-/

namespace Groundwork

/-- A description becomes an ordered plan. -/
structure Description.Compiles (d : Description) (p : Plan) : Prop where
  valid : d.validate = []
  legal : d.Legal
  project_eq : p.project = (Project.of d).info
  resources_eq : (Project.of d).resources = .ok p.resources
  sort_eq : Provisioning.sort p.resources = .ok p.order

/-- Resolution succeeds exactly if the description is legal and its steps succeed. -/
theorem Description.resolve_eq_ok_iff {d : Description} {p : Plan} :
    d.resolve = .ok p ↔
      d.Legal ∧ ∃ resources, (Project.of d).resources = .ok resources ∧
        p = ⟨(Project.of d).info, resources, []⟩ := by
  simp only [resolve, bind_eq_ok_iff]
  constructor
  · rintro ⟨_, hlegal, resources, hresources, hplan⟩
    exact ⟨hlegal, resources, hresources, (Except.ok.inj hplan).symm⟩
  · rintro ⟨hlegal, resources, hresources, rfl⟩
    exact ⟨(), hlegal, resources, hresources, rfl⟩

/-- Compilation succeeds exactly if validation, legality, resolution and ordering do. -/
theorem Description.compile_eq_ok_iff {d : Description} {p : Plan} :
    d.compile = .ok p ↔ d.Compiles p := by
  unfold compile
  cases hvalid : d.validate with
  | cons e rest =>
    simp only [reduceCtorEq, false_iff]
    intro h
    rw [h.valid] at hvalid
    cases hvalid
  | nil =>
    simp only [bind_eq_ok_iff, mapError_eq_ok_iff, resolve_eq_ok_iff, Plan.arrange]
    constructor
    · rintro ⟨_, ⟨hlegal, resources, hresources, rfl⟩, order, horder, hp⟩
      cases hp
      exact ⟨hvalid, hlegal, rfl, hresources, horder⟩
    · rintro ⟨-, hlegal, hproject, hresources, hsort⟩
      refine ⟨_, ⟨hlegal, p.resources, hresources, rfl⟩, p.order, hsort, ?_⟩
      rw [← hproject]
      rfl

/-- What compiles is resolved before it is ordered. -/
theorem Description.Compiles.resolve_eq {d : Description} {p : Plan} (h : d.Compiles p) :
    d.resolve = .ok ⟨(Project.of d).info, p.resources, []⟩ :=
  Description.resolve_eq_ok_iff.2 ⟨h.legal, p.resources, h.resources_eq, rfl⟩

namespace Plan

variable {p : Plan}

/-! ## Looking up nodes -/

/-- What an id picks has that id. -/
theorem id_of_get? {id : String} {r : Resource} (h : p.get? id = some r) : r.id = id := by
  have hid := List.find?_some h
  exact of_decide_eq_true hid

/-- The id of a resource picks a resource of that id. -/
theorem exists_get?_of_mem {id : String} (h : id ∈ p.resources.map (·.id)) :
    ∃ r, p.get? id = some r ∧ r.id = id := by
  obtain ⟨s, hs, rfl⟩ := List.mem_map.1 h
  have hsome : (p.get? s.id).isSome := by
    rw [get?, List.find?_isSome]
    exact ⟨s, hs, by simp⟩
  obtain ⟨r, hr⟩ := Option.isSome_iff_exists.1 hsome
  exact ⟨r, hr, id_of_get? hr⟩

/-- Where ids are distinct, the id of a resource picks that resource. -/
theorem get?_of_mem (hids : (p.resources.map (·.id)).Nodup) {r : Resource}
    (hr : r ∈ p.resources) : p.get? r.id = some r := by
  obtain ⟨s, hs, hid⟩ := exists_get?_of_mem (List.mem_map_of_mem hr)
  rw [hs, List.inj_on_of_nodup_map hids (List.mem_of_find?_eq_some hs) hr hid]

end Plan

/-! ## Served nodes -/

/-- Flat code has no frontends, so the routes of a legal description lead somewhere. -/
theorem Description.Legal.strandedRoute?_eq_none {d : Description} (h : d.Legal)
    {dialect : Code.Dialect} {n : NetworkSpec} (hn : n ∈ d.networks)
    (hdialect : d.project.backend.dialect? = some dialect) {lb : LoadBalancerSpec}
    {c : LoadBalancerConfig} (hroutes : n.RoutesTo lb c.routes) :
    Code.strandedRoute? dialect c = none := by
  apply Code.strandedRoute?_eq_none
  rintro rfl t ht hui
  have hdeclared := hroutes.declares t ht
  rw [hui] at hdeclared
  obtain ⟨spec, hspec, -⟩ := hdeclared
  exact h.backend_of_ui hn hspec (Backend.eq_flat_of_dialect? hdialect)

namespace Project

variable {p : Project}

/-- The site of a network is that network, with the kernel among what workloads wait for or not. -/
theorem spec_siteWithKernel_site (n : NetworkSpec) :
    (p.siteWithKernel (p.site n)).spec = n := by
  unfold siteWithKernel site bareSite
  split <;> split <;> rfl

/-- A node that the registry makes something of: its kind is known to the backend, and its settings
can be expressed. -/
def Served (p : Project) (r : Resource) : Prop :=
  ∃ k ∈ p.backend.kinds, p.IsNode k r ∧ p.backend.Accepts r.config

/-- A node of one of several known kinds is served, unless it could be a load balancer. -/
theorem served_of_mem {kinds : List ResourceKind} {r : Resource}
    (hkinds : ∀ k ∈ kinds, k ∈ p.backend.kinds ∧ k.configKind ≠ .loadBalancer)
    (hr : ∃ k ∈ kinds, p.IsNode k r) : p.Served r := by
  obtain ⟨k, hk, hnode⟩ := hr
  refine ⟨k, (hkinds k hk).1, hnode, Backend.accepts_of_kind_ne ?_⟩
  rw [hnode.kind_eq]
  exact (hkinds k hk).2

theorem served_of_isNode {k : ResourceKind} {r : Resource} (hk : k ∈ p.backend.kinds)
    (hkind : k.configKind ≠ .loadBalancer) (hr : p.IsNode k r) : p.Served r :=
  ⟨k, hk, hr, Backend.accepts_of_kind_ne (hr.kind_eq ▸ hkind)⟩

end Project

namespace Description

namespace Compiles

variable {d : Description} {p : Plan}

/-- The cluster of a compiled description is there exactly for manifests. -/
theorem cluster_isSome_iff (h : d.Compiles p) :
    (Project.of d).cluster.isSome ↔ d.project.backend = .manifest :=
  h.legal.cluster?_isSome_iff

theorem cluster_eq_none_iff (h : d.Compiles p) :
    (Project.of d).cluster = none ↔ d.project.backend ≠ .manifest :=
  h.legal.cluster_eq_none_iff

/-- The ids of a compiled plan are distinct. -/
theorem nodup_ids (h : d.Compiles p) : (p.resources.map (·.id)).Nodup := by
  obtain ⟨-, -, -, hnodup⟩ := Project.resources_eq_ok_iff.1 h.resources_eq
  exact hnodup

/-- The order of a compiled plan is the greedy order of its resources. -/
theorem isGreedyOrder (h : d.Compiles p) :
    Provisioning.IsGreedyOrder p.resources p.order :=
  Provisioning.sort_eq_ok_iff.1 h.sort_eq

/-- What a node waits for stands before it. -/
theorem precedes (h : d.Compiles p) {r : Resource} (hr : r ∈ p.resources) {id : String}
    (hid : id ∈ r.dependsOn) : Provisioning.Precedes p.order id r.id := by
  have horder := h.isGreedyOrder
  have hmem : r.id ∈ p.order := horder.perm.mem_iff.2 (List.mem_map_of_mem hr)
  exact horder.greedy.precedes h.nodup_ids hr hmem hid

/-- Every node of a compiled plan comes out of some part of the description. -/
theorem origin (h : d.Compiles p) {r : Resource} (hr : r ∈ p.resources) :
    (Project.of d).Origin r :=
  Project.origin_of_mem_resources h.resources_eq hr

/-- What is outside any network is in the plan. -/
theorem globalNodes_subset (h : d.Compiles p) : (Project.of d).globalNodes ⊆ p.resources := by
  have hstep : .ok (Project.of d).globalNodes ∈ (Project.of d).steps := by
    simp [Project.steps]
  obtain ⟨_, hnodes, hsubset⟩ := Project.step_of_resources_eq_ok h.resources_eq hstep
  cases hnodes
  exact hsubset

/-- What a network is itself is in the plan. -/
theorem networkNodes_subset (h : d.Compiles p) {n : NetworkSpec} (hn : n ∈ d.networks) :
    (Project.of d).networkNodes n ⊆ p.resources := by
  have hstep : .ok ((Project.of d).networkNodes n) ∈ (Project.of d).networkSteps n := by
    simp [Project.networkSteps]
  obtain ⟨_, hnodes, hsubset⟩ := Project.step_of_resources_eq_ok h.resources_eq
    (Project.mem_steps_of_mem_networkSteps hn hstep)
  cases hnodes
  exact hsubset

/-- The nodes of a workload are served if the backend knows the workload's kind, or has deployments
in its place. -/
theorem served_of_resolves (h : d.Compiles p) {site : Site} {w : Workload}
    {nodes : List Resource} (hnodes : (Project.of d).Resolves site w nodes) {r : Resource}
    (hr : r ∈ nodes) (hkind : w.kind.configKind ≠ .loadBalancer)
    (hknown : d.project.backend ≠ .manifest → w.kind ∈ d.project.backend.kinds) :
    (Project.of d).Served r := by
  rcases hnodes.isNode hr with ⟨hcluster, hpod⟩ | ⟨hcluster, hnode⟩
  · have hb : (Project.of d).backend = .manifest := h.cluster_isSome_iff.1 hcluster
    refine Project.served_of_mem ?_ hpod
    rw [hb]
    decide
  · exact Project.served_of_isNode (hknown (h.cluster_eq_none_iff.1 hcluster)) hkind hnode

/-- A load balancer is served: it has routes, and flat code has no frontends to lead to. -/
theorem served_of_loadBalancer (h : d.Compiles p) {n : NetworkSpec} (hn : n ∈ d.networks)
    {lb : LoadBalancerSpec} {nodes : List Resource} {site : Site} (hsite : site.spec = n)
    (hnodes : (Project.of d).loadBalancerNodes site lb = .ok nodes) {r : Resource}
    (hr : r ∈ nodes) : (Project.of d).Served r := by
  obtain ⟨targets, htargets, ⟨c, hcluster, rfl⟩ | ⟨hcluster, rfl⟩⟩ :=
    Project.loadBalancerNodes_cases hnodes
  · have hb : (Project.of d).backend = .manifest :=
      h.cluster_isSome_iff.1 (by rw [hcluster]; rfl)
    have hnode : (Project.of d).IsNode .ingress r :=
      List.mem_singleton.1 hr ▸ Project.isNode_node rfl
    exact Project.served_of_isNode (by rw [hb]; decide) (by decide) hnode
  · have hb : (Project.of d).backend ≠ .manifest := h.cluster_eq_none_iff.1 hcluster
    have hknown : ResourceKind.loadBalancer ∈ (Project.of d).backend.kinds :=
      Backend.mem_kinds_of_ne_manifest (by decide) hb
    have hnode : (Project.of d).IsNode .loadBalancer r :=
      List.mem_singleton.1 hr ▸ Project.isNode_node rfl
    refine ⟨.loadBalancer, hknown, hnode, ?_⟩
    rw [List.mem_singleton.1 hr]
    intro c hc
    cases hc
    rw [hsite] at htargets
    have hroutes := NetworkSpec.routeTargets_eq_ok_iff.1 htargets
    exact ⟨hroutes.ne_nil, fun _ hdialect => h.legal.strandedRoute?_eq_none hn hdialect hroutes⟩

/-- The registry makes something of every node of a compiled plan. -/
theorem served (h : d.Compiles p) {r : Resource} (hr : r ∈ p.resources) :
    (Project.of d).Served r := by
  cases h.origin hr with
  | global hr =>
    rcases Project.isNode_of_mem_globalNodes hr with ⟨hcluster, hnode⟩ | hnode
    · have hb : (Project.of d).backend = .manifest := h.cluster_isSome_iff.1 hcluster
      refine Project.served_of_mem ?_ hnode
      rw [hb]
      decide
    · refine Project.served_of_mem ?_ hnode
      cases (Project.of d).backend <;> decide
  | network hn hr =>
    rcases Project.isNode_of_mem_networkNodes hr with
      ⟨hcluster, hnode⟩ | ⟨-, hb, hnode⟩ | ⟨hcluster, hnode⟩
    · have hb : (Project.of d).backend = .manifest := h.cluster_isSome_iff.1 hcluster
      exact Project.served_of_isNode (by rw [hb]; decide) (by decide) hnode
    · exact Project.served_of_isNode (by rw [hb]; decide) (by decide) hnode
    · have hb : (Project.of d).backend ≠ .manifest := h.cluster_eq_none_iff.1 hcluster
      obtain ⟨k, hk, hnode⟩ := hnode
      refine Project.served_of_mem ?_ ⟨k, hk, hnode⟩
      intro k hk
      exact ⟨Backend.mem_kinds_of_ne_manifest (List.mem_append_left _ hk) hb,
        (by decide : ∀ k ∈ [ResourceKind.network, .subnet, .firewall, .registry],
          k.configKind ≠ .loadBalancer) k hk⟩
  | @kernel n variant spec nodes hn hspec hnodes hr =>
    have hflat := h.legal.backend_of_kernel (Project.kernel?_of_kernelOf? hspec)
    have hkinds : variant.resourceKind ∈ Backend.construct.kinds ∧
        variant.resourceKind.configKind ≠ .loadBalancer := by
      cases variant <;> decide
    refine h.served_of_resolves (Project.kernelNodes_resolves hnodes) hr hkinds.2 ?_
    intro hmanifest
    rw [Backend.eq_construct hflat hmanifest]
    exact hkinds.1
  | container hn hspec hnodes hr =>
    refine h.served_of_resolves (Project.containerNodes_resolves hnodes) hr ?_ ?_
    · exact ConfigKind.noConfusion
    · exact Backend.mem_kinds_of_ne_manifest (by simp [Workload.ofContainer])
  | function hn hspec hnodes hr =>
    refine h.served_of_resolves (Project.functionNodes_resolves hnodes) hr ?_ ?_
    · exact ConfigKind.noConfusion
    · exact Backend.mem_kinds_of_ne_manifest (by simp [Workload.ofFunction])
  | database hn hspec hr =>
    have hb := h.legal.backend_of_database hn hspec
    have hnode : (Project.of d).IsNode .database r := hr ▸ Project.isNode_node rfl
    exact Project.served_of_isNode (Backend.mem_kinds_of_ne_construct (by decide) hb) (by decide)
      hnode
  | cache hn hspec hr =>
    have hb := h.legal.backend_of_cache hn hspec
    have hnode : (Project.of d).IsNode .cache r := hr ▸ Project.isNode_node rfl
    exact Project.served_of_isNode (Backend.mem_kinds_of_ne_construct (by decide) hb) (by decide)
      hnode
  | ui hn hspec hnodes hr =>
    have hflat := h.legal.backend_of_ui hn hspec
    refine h.served_of_resolves (Project.uiNodes_resolves hnodes) hr ?_ ?_
    · exact ConfigKind.noConfusion
    · intro hmanifest
      rw [Backend.eq_construct hflat hmanifest]
      exact List.mem_of_elem_eq_true rfl
  | loadBalancer hn hspec hnodes hr =>
    exact h.served_of_loadBalancer hn (Project.spec_siteWithKernel_site _) hnodes hr
  | cron hspec hnodes hr =>
    have hb : (Project.of d).backend = .flat := h.legal.backend_of_cron hspec
    obtain ⟨kind, target, c, -, -, rfl⟩ := Project.cronNodes_cases hnodes
    have hnode : (Project.of d).IsNode .cron r :=
      List.mem_singleton.1 hr ▸ Project.isNode_node rfl
    exact Project.served_of_isNode (by rw [hb]; decide) (by decide) hnode

end Compiles

end Description

end Groundwork
