import Groundwork.Proofs.Resolution.Cluster
import Groundwork.Proofs.Resolution.Distinct
import Groundwork.Proofs.Resolution.Origins

/-!
# The names of nodes

Validation checks the names under which a description declares something, and nodes are named by
them.  Only two kinds of name are never checked: that of a namespace and that of a load balancer.
Code has no namespaces, so its nodes have allowed names exactly if the load balancers have.

Main results:

- `Project.isValidName_of_mem_declarations`: the names of declarations are allowed.
- `Description.Compiles.isValidName_of_mem`: the names of nodes are allowed.
- `Plan.validNames_iff`: when all names in a compiled plan for code are allowed.
-/

namespace Groundwork

namespace Project

variable {d : Description} {a : Declaration}

theorem isValidName_of_mem_globalDeclarations (hd : d.Valid)
    (ha : a ∈ (Project.of d).globalDeclarations) (hkind : a.kind ≠ .clusterNamespace) :
    isValidName a.name = true := by
  simp only [globalDeclarations, List.mem_append, List.mem_flatMap, List.mem_map,
    Option.mem_toList] at ha
  rcases ha with ((((⟨c, -, hc⟩ | ⟨spec, hspec, rfl⟩) | ⟨spec, hspec, rfl⟩) | ⟨spec, hspec, rfl⟩) |
    ⟨spec, hspec, rfl⟩) | ⟨spec, hspec, rfl⟩
  · simp only [List.mem_cons, List.not_mem_nil, or_false] at hc
    rcases hc with rfl | rfl
    · exact absurd rfl hkind
    · exact hd.project
  · exact hd.serviceAccount spec hspec
  · exact hd.buckets.valid _ (List.mem_map_of_mem hspec)
  · exact hd.secrets.valid _ (List.mem_map_of_mem hspec)
  · exact hd.topics.valid _ (List.mem_map_of_mem hspec)
  · exact hd.queues.valid _ (List.mem_map_of_mem hspec)

variable {n : NetworkSpec}

theorem isValidName_of_mem_networkDeclarations (hname : isValidName n.name = true) (hn : n.Valid)
    (ha : a ∈ (Project.of d).networkDeclarations n) : isValidName a.name = true := by
  unfold networkDeclarations at ha
  split at ha
  · obtain ⟨rule, hrule, rfl⟩ := List.mem_map.1 ha
    exact hn.firewall.valid _ (List.mem_map_of_mem hrule)
  · simp only [List.mem_append, List.mem_map, Option.mem_toList] at ha
    rcases ha with (((⟨_, -, rfl⟩ | ⟨s, hs, rfl⟩) | ⟨rule, hrule, rfl⟩) | ⟨_, -, rfl⟩) |
      ⟨registry, hregistry, rfl⟩
    · exact hname
    · exact hn.subnets.valid _ (List.mem_map_of_mem hs)
    · exact hn.firewall.valid _ (List.mem_map_of_mem hrule)
    · exact hname
    · exact hn.registry registry hregistry

/-- The workloads of a network have allowed names, its kernel included. -/
theorem isValidName_of_mem_workloadsOf (hd : d.Valid) (hn : n.Valid)
    (ha : a ∈ (Project.of d).workloadsOf n) : isValidName a.name = true := by
  rcases name_of_mem_workloadsOf ha with ⟨k, hk, hname⟩ | hname
  · rw [hname]
    exact (hd.kernels _ (Description.mem_kernels_of_kernel? (kernel?_of_kernelOf? hk))).1
  · simp only [NetworkSpec.workloadNames, List.mem_append] at hname
    rcases hname with (hcontainer | hfunction) | hui
    · exact hn.containers.valid _ hcontainer
    · exact hn.functions.valid _ hfunction
    · exact hn.uis.valid _ hui

theorem name_of_mem_workloadDeclarations {p : Project} {kind : ResourceKind} {name : String}
    (ha : a ∈ p.workloadDeclarations n kind name) : a.name = name := by
  unfold workloadDeclarations at ha
  split at ha
  · simp only [List.mem_cons, List.not_mem_nil, or_false] at ha
    rcases ha with rfl | rfl <;> rfl
  · rw [List.mem_singleton.1 ha]

/-- The names under which something is declared are allowed, apart from those that are not
checked. -/
theorem isValidName_of_mem_declarations (hd : d.Valid) (ha : a ∈ (Project.of d).declarations)
    (hkind : a.kind ∉ [ResourceKind.clusterNamespace, .loadBalancer, .ingress]) :
    isValidName a.name = true := by
  rcases mem_declarations_iff.1 ha with hglobal | ⟨n, hn, hinside⟩ | ⟨spec, hspec, rfl⟩
  · refine isValidName_of_mem_globalDeclarations hd hglobal fun h => hkind ?_
    rw [h]
    exact List.mem_cons_self
  · have hvalid := hd.inside n hn
    rcases mem_networkChunks_iff.1 hinside with
      hself | ⟨w, hw, hdeclared⟩ | ⟨spec, hspec, rfl⟩ | ⟨spec, hspec, rfl⟩ | ⟨lb, -, rfl⟩
    · have hname := hd.networks.valid _ (List.mem_map_of_mem hn)
      exact isValidName_of_mem_networkDeclarations hname hvalid hself
    · rw [name_of_mem_workloadDeclarations hdeclared]
      exact isValidName_of_mem_workloadsOf hd hvalid hw
    · exact hvalid.data.valid _ (List.mem_append_left _ (List.mem_map_of_mem hspec))
    · exact hvalid.data.valid _ (List.mem_append_right _ (List.mem_map_of_mem hspec))
    · refine absurd ?_ hkind
      by_cases hc : (Project.of d).cluster.isSome <;> simp [balancerDeclaration, hc]
  · exact hd.crons.valid _ (List.mem_map_of_mem hspec)

end Project

/-- The names of the nodes of a compiled plan are allowed, apart from those that are not checked. -/
theorem Description.Compiles.isValidName_of_mem {d : Description} {p : Plan} (h : d.Compiles p)
    {r : Resource} (hr : r ∈ p.resources)
    (hkind : r.config.kind ∉ [ConfigKind.clusterNamespace, .loadBalancer, .ingress]) :
    isValidName r.name = true := by
  have hrealizes := Project.realizes_resources h.resources_eq
  obtain ⟨a, ha, hnode⟩ : ∃ a ∈ (Project.of d).declarations, (Project.of d).Realizes a r := by
    obtain ⟨i, hi, rfl⟩ := List.mem_iff_getElem.1 hr
    have hi' : i < (Project.of d).declarations.length := by
      rw [hrealizes.length_eq]
      exact hi
    exact ⟨_, List.getElem_mem hi', hrealizes.get hi' hi⟩
  rw [hnode.name_eq]
  refine Project.isValidName_of_mem_declarations (Description.validate_eq_nil_iff.1 h.valid) ha ?_
  intro hmem
  rw [hnode.kind_eq] at hkind
  simp only [List.mem_cons, List.not_mem_nil, or_false] at hmem
  rcases hmem with hk | hk | hk
  all_goals
    rw [hk] at hkind
    exact hkind (by decide)

/-! ## Plans for code -/

/-- The id for an allowed name has only allowed characters. -/
theorem ResourceKind.isValidName_nodeId (k : ResourceKind) {name : String}
    (h : isValidName name = true) : isValidName (k.nodeId name) = true := by
  have hprefix : k.idPrefix.toList.all Reference.isNameChar = true := by
    cases k <;> decide
  have hhyphen : "-".toList.all Reference.isNameChar = true := by decide
  simp only [isValidName, Bool.and_eq_true] at h
  simp only [isValidName, nodeId, String.toList_append, List.all_append, hprefix, hhyphen, h.2]
  simp

namespace Description.Compiles

variable {d : Description} {p : Plan} {r : Resource}

/-- The id of a node with an allowed name is allowed. -/
theorem isValidName_id (h : d.Compiles p) (hr : r ∈ p.resources)
    (hname : isValidName r.name = true) : isValidName r.id = true := by
  obtain ⟨k, -, hnode, -⟩ := h.served hr
  rw [hnode.id_eq]
  exact k.isValidName_nodeId hname

/-- In code the names of nodes other than load balancers are allowed. -/
theorem isValidName_of_kind_ne (h : d.Compiles p) (hb : d.project.backend ≠ .manifest)
    (hr : r ∈ p.resources) (hkind : r.config.kind ≠ .loadBalancer) :
    isValidName r.name = true := by
  obtain ⟨k, hk, hnode, -⟩ := h.served hr
  have hcode : ∀ b : Backend, b ≠ .manifest → ∀ k ∈ b.kinds,
      k.configKind ≠ .clusterNamespace ∧ k.configKind ≠ .ingress := by
    intro b hb
    cases b with
    | flat => decide
    | construct => decide
    | manifest => exact absurd rfl hb
  have hother := hcode _ hb k hk
  rw [← hnode.kind_eq] at hother
  refine h.isValidName_of_mem hr ?_
  simp only [List.mem_cons, List.not_mem_nil, or_false, not_or]
  exact ⟨hother.1, hkind, hother.2⟩

/-- A load balancer has the name that it is given, or else that of its network. -/
theorem exists_balancer_spec (h : d.Compiles p) (hr : r ∈ p.resources)
    (hkind : r.config.kind = .loadBalancer) :
    ∃ n ∈ d.networks, ∃ lb, n.loadBalancer = some lb ∧ r.name = lb.name.getD n.name := by
  obtain ⟨c, hc⟩ := ResourceConfig.exists_loadBalancer hkind
  obtain ⟨-, n, hn, lb, hlb, -, rfl⟩ := (h.origin hr).exists_balancer hc
  refine ⟨n, hn, lb, hlb, ?_⟩
  simp only [Project.balancerNode, Project.node, Project.spec_siteWithKernel_site]

/-- Every declared load balancer is a node of a compiled plan for code. -/
theorem exists_balancer_node (h : d.Compiles p) (hb : d.project.backend ≠ .manifest)
    {n : NetworkSpec} (hn : n ∈ d.networks) {lb : LoadBalancerSpec}
    (hlb : n.loadBalancer = some lb) :
    ∃ r ∈ p.resources, r.name = lb.name.getD n.name := by
  have hstep : (Project.of d).loadBalancerNodes
      ((Project.of d).siteWithKernel ((Project.of d).site n)) lb ∈
        (Project.of d).networkSteps n := by
    refine List.mem_append_right _ (List.mem_map_of_mem ?_)
    simp [hlb]
  obtain ⟨nodes, hnodes, hsubset⟩ := Project.step_of_resources_eq_ok h.resources_eq
    (Project.mem_steps_of_mem_networkSteps hn hstep)
  obtain ⟨targets, -, ⟨c, hc, -⟩ | ⟨-, rfl⟩⟩ := Project.loadBalancerNodes_cases hnodes
  · rw [h.cluster_eq_none_iff.2 hb] at hc
    cases hc
  · refine ⟨_, hsubset (List.mem_singleton_self _), ?_⟩
    simp only [Project.balancerNode, Project.node, Project.spec_siteWithKernel_site]

end Description.Compiles

namespace Plan

variable {d : Description} {p : Plan}

/-- All nodes have allowed names, and their ids are allowed too. -/
def ValidNames (p : Plan) : Prop :=
  ∀ r ∈ p.resources, isValidName r.name = true ∧ isValidName r.id = true

/-- In a compiled plan for code all nodes but load balancers have allowed names and ids, and all
nodes have exactly if the names that are given to load balancers are allowed. -/
theorem validNames_iff (h : d.compile = .ok p) (hb : d.project.backend ≠ .manifest) :
    (∀ r ∈ p.resources, r.config.kind ≠ .loadBalancer →
      isValidName r.name = true ∧ isValidName r.id = true) ∧
    (p.ValidNames ↔ ∀ n ∈ d.networks, ∀ lb, n.loadBalancer = some lb →
      ∀ name, lb.name = some name → isValidName name = true) := by
  have hcompiles := Description.compile_eq_ok_iff.1 h
  have hothers : ∀ r ∈ p.resources, r.config.kind ≠ .loadBalancer →
      isValidName r.name = true ∧ isValidName r.id = true := by
    intro r hr hkind
    have hname := hcompiles.isValidName_of_kind_ne hb hr hkind
    exact ⟨hname, hcompiles.isValidName_id hr hname⟩
  refine ⟨hothers, fun hall n hn lb hlb name hgiven => ?_, fun hgiven r hr => ?_⟩
  · obtain ⟨r, hr, hname⟩ := hcompiles.exists_balancer_node hb hn hlb
    have hvalid := (hall r hr).1
    rwa [hname, hgiven] at hvalid
  · by_cases hkind : r.config.kind = .loadBalancer
    · obtain ⟨n, hn, lb, hlb, hspec⟩ := hcompiles.exists_balancer_spec hr hkind
      have hname : isValidName r.name = true := by
        rw [hspec]
        cases hlbname : lb.name with
        | none =>
          have hvalid := Description.validate_eq_nil_iff.1 hcompiles.valid
          exact hvalid.networks.valid _ (List.mem_map_of_mem hn)
        | some name => exact hgiven n hn lb hlb name hlbname
      exact ⟨hname, hcompiles.isValidName_id hr hname⟩
    · exact hothers r hr hkind

end Plan

/-- Flat code with a container behind a load balancer of some name. -/
def Description.behind (balancer : String) : Description :=
  ofNetworks ⟨"shop", "us-central1", none, .flat⟩ [
    { NetworkSpec.ofContainers "main" ["api"] with
      loadBalancer := some ⟨some balancer, false, none, [], none⟩ }]

/-- Behind a load balancer with an allowed name all nodes have allowed names. -/
theorem Plan.validNames_iff_edge :
    ∃ p, (Description.behind "edge").compile = .ok p ∧
      p.order = ["container-api", "load-balancer-edge"] ∧ p.ValidNames := by
  have horder : (Description.behind "edge").compile.toOption.map (·.order) =
      some ["container-api", "load-balancer-edge"] := by
    decide +kernel
  cases hcompile : (Description.behind "edge").compile with
  | error e =>
    rw [hcompile] at horder
    cases horder
  | ok p =>
    rw [hcompile] at horder
    refine ⟨p, rfl, Option.some.inj horder, ?_⟩
    refine (validNames_iff hcompile (by decide)).2.2 fun n hn lb hlb name hname => ?_
    obtain rfl := List.mem_singleton.1 hn
    cases hlb
    cases hname
    decide

/-- A load balancer keeps a name with a blank and upper-case letters, and so does its id. -/
theorem Plan.not_validNames_spaced :
    ∃ p, (Description.behind "Edge LB").compile = .ok p ∧
      (∃ r ∈ p.resources, r.name = "Edge LB" ∧ r.id = "load-balancer-Edge LB") ∧
      ¬ p.ValidNames := by
  have hnames : (Description.behind "Edge LB").compile.toOption.map (fun p =>
        p.resources.map fun r => (r.name, r.id)) =
      some [("api", "container-api"), ("Edge LB", "load-balancer-Edge LB")] := by
    decide +kernel
  cases hcompile : (Description.behind "Edge LB").compile with
  | error e =>
    rw [hcompile] at hnames
    cases hnames
  | ok p =>
    rw [hcompile] at hnames
    have hbalancer : ("Edge LB", "load-balancer-Edge LB") ∈
        p.resources.map fun r => (r.name, r.id) := by
      rw [show (p.resources.map fun r => (r.name, r.id)) = _ from Option.some.inj hnames]
      exact List.mem_cons_of_mem _ (List.mem_singleton_self _)
    obtain ⟨r, hr, hpair⟩ := List.mem_map.1 hbalancer
    obtain ⟨hname, hid⟩ := Prod.mk.inj hpair
    refine ⟨p, rfl, ⟨r, hr, hname, hid⟩, fun hall => ?_⟩
    have hvalid := (hall r hr).1
    rw [hname] at hvalid
    exact absurd hvalid (by decide)

end Groundwork
