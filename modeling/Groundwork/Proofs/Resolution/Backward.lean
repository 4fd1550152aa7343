import Groundwork.Proofs.Resolution.Requests

/-!
# Nodes wait for earlier nodes

A resolution gives its nodes in an order in which they can be provisioned: apart from what workloads
ask for, every node waits only for nodes before it.  Each step is looked at by itself, with the ids
that the steps before it have declared.

Main results:

- `Description.Steady.grounded`: steps that are steady one by one give grounded nodes.
- `Description.Legal.steady_networkSteps`, `Description.Legal.steady_steps`: the steps of a network
  and of a project are steady.
- `Description.backward_of_resolve`: the nodes of a resolved description wait for earlier nodes, and
  the order of declaration is the provisioning order if no workload asks for anything.
-/

namespace Groundwork

namespace Description

variable (d : Description)

/-! ## Grounded nodes and steady steps -/

/-- A workload with an id asks for another id. -/
def Asks (id wanted : String) : Prop :=
  ∃ n ∈ d.networks, ∃ w ∈ d.workloadsIn n, id = d.workloadId w ∧ wanted ∈ d.requests w

/-- The ids of what stands for the kernel of a network. -/
def kernelIds (n : NetworkSpec) : List String :=
  (d.kernelsIn n).flatMap fun k => d.project.backend.workloadIds k.1.resourceKind k.2.name

/-- Nodes that come after some ids wait only for these and for nodes before them, apart from what
workloads ask for. -/
def Grounded (earlier : List String) : List Resource → Prop
  | [] => True
  | r :: rest =>
    (∀ id ∈ r.dependsOn, id ∈ earlier ∨ d.Asks r.id id) ∧ Grounded (earlier ++ [r.id]) rest

/-- Steps that are taken after some ids are there give grounded nodes, as far as they succeed. -/
def Steady (earlier : List String) : List (Except CompileError (List Resource)) → Prop
  | [] => True
  | step :: rest => ∀ nodes, step = .ok nodes →
    d.Grounded earlier nodes ∧ Steady (earlier ++ nodes.map (·.id)) rest

variable {d} {earlier others : List String}

/-- Nodes are grounded in what is there before them and in each other, step by step. -/
theorem grounded_append_iff {nodes more : List Resource} :
    d.Grounded earlier (nodes ++ more) ↔
      d.Grounded earlier nodes ∧ d.Grounded (earlier ++ nodes.map (·.id)) more := by
  induction nodes generalizing earlier with
  | nil => simp [Grounded]
  | cons r rest ih =>
    simp only [List.cons_append, Grounded, ih, List.map_cons, List.append_assoc, List.nil_append,
      and_assoc]

/-- More may be added behind. -/
theorem append_subset_append {l l' : List String} (h : l ⊆ l') (more : List String) :
    l ++ more ⊆ l' ++ more :=
  List.append_subset.2
    ⟨List.subset_append_of_subset_left _ h, List.subset_append_right _ _⟩

/-- More ids to begin with do no harm. -/
theorem Grounded.mono {nodes : List Resource} (h : d.Grounded earlier nodes)
    (hsubset : earlier ⊆ others) : d.Grounded others nodes := by
  induction nodes generalizing earlier others with
  | nil => trivial
  | cons r rest ih =>
    exact ⟨fun id hid => (h.1 id hid).imp_left fun hmem => hsubset hmem,
      ih h.2 (append_subset_append hsubset _)⟩

/-- Nodes that do not wait for each other. -/
theorem grounded_of_forall {nodes : List Resource}
    (h : ∀ r ∈ nodes, ∀ id ∈ r.dependsOn, id ∈ earlier ∨ d.Asks r.id id) :
    d.Grounded earlier nodes := by
  induction nodes generalizing earlier with
  | nil => trivial
  | cons r rest ih =>
    refine ⟨h r List.mem_cons_self, ih fun s hs id hid => ?_⟩
    exact (h s (List.mem_cons_of_mem r hs) id hid).imp_left (List.mem_append_left _)

/-- Nodes made of the parts of a description that wait only for what is there. -/
theorem grounded_map {α : Type} {l : List α} {f : α → Resource}
    (h : ∀ x ∈ l, (f x).dependsOn ⊆ earlier) : d.Grounded earlier (l.map f) := by
  refine grounded_of_forall fun r hr id hid => Or.inl ?_
  obtain ⟨x, hx, rfl⟩ := List.mem_map.1 hr
  exact h x hx hid

/-- Steps that can be taken after some nodes can be taken after more. -/
theorem Steady.mono {steps : List (Except CompileError (List Resource))}
    (h : d.Steady earlier steps) (hsubset : earlier ⊆ others) : d.Steady others steps := by
  induction steps generalizing earlier others with
  | nil => trivial
  | cons step rest ih =>
    intro nodes hnodes
    obtain ⟨hgrounded, hrest⟩ := h nodes hnodes
    exact ⟨hgrounded.mono hsubset, ih hrest (append_subset_append hsubset _)⟩

/-- A step that does not fail. -/
theorem steady_ok {nodes : List Resource} (h : d.Grounded earlier nodes) :
    d.Steady earlier [.ok nodes] := by
  rintro _ ⟨⟩
  exact ⟨h, trivial⟩

/-- Every step gives grounded nodes by itself. -/
theorem steady_of_forall {steps : List (Except CompileError (List Resource))}
    (h : ∀ step ∈ steps, ∀ nodes, step = .ok nodes → d.Grounded earlier nodes) :
    d.Steady earlier steps := by
  induction steps generalizing earlier with
  | nil => trivial
  | cons step rest ih =>
    refine fun nodes hnodes => ⟨h step List.mem_cons_self nodes hnodes, ih ?_⟩
    intro step' hstep' nodes' hnodes'
    exact (h step' (List.mem_cons_of_mem _ hstep') nodes' hnodes').mono
      (List.subset_append_left _ _)

/-- Steps after others can count on what these declare. -/
theorem steady_append {chunks : List (List Declaration)}
    {steps more : List (Except CompileError (List Resource))}
    (hyield : List.Forall₂ (Project.of d).Yields chunks steps) (hsteps : d.Steady earlier steps)
    (hmore : d.Steady (earlier ++ chunks.flatten.map (·.id)) more) :
    d.Steady earlier (steps ++ more) := by
  induction hyield generalizing earlier with
  | nil => simpa using hmore
  | cons hchunk _ ih =>
    intro nodes hnodes
    obtain ⟨hgrounded, hrest⟩ := hsteps nodes hnodes
    refine ⟨hgrounded, ih hrest ?_⟩
    rw [Project.map_id_of_realizes (hchunk nodes hnodes), List.append_assoc]
    rwa [List.flatten_cons, List.map_append] at hmore

/-- Steps that are taken one after the other give grounded nodes. -/
theorem Steady.grounded {lists : List (List Resource)}
    (h : d.Steady earlier (lists.map Except.ok)) : d.Grounded earlier lists.flatten := by
  induction lists generalizing earlier with
  | nil => trivial
  | cons nodes rest ih =>
    obtain ⟨hnodes, hrest⟩ := h nodes rfl
    exact grounded_append_iff.2 ⟨hnodes, ih hrest⟩

/-! ## What there is to wait for -/

/-- A network gives its workloads ids outside any network, its own, or those of its kernel. -/
theorem mem_of_mem_base {n : NetworkSpec} {kind : ResourceKind} {id : String}
    (hid : id ∈ d.base n kind) :
    id ∈ d.globalIds ++ d.siteIds n ∨ kind.isKernel = false ∧ id ∈ d.kernelIds n := by
  unfold base at hid
  cases hb : d.project.backend with
  | flat =>
    simp only [hb] at hid
    split at hid <;> rename_i hinfra
    · exact Or.inl (List.mem_append_right _ (by simpa [siteIds, hb, hinfra] using Or.inl hid))
    · cases hid
  | construct =>
    simp only [hb, List.mem_append] at hid
    rcases hid with hid | hid
    · refine Or.inl (List.mem_append_right _ ?_)
      rw [siteIds, hb]
      rcases List.mem_cons.1 hid with rfl | hid
      · exact List.mem_append_left _ (List.mem_append_right _ List.mem_cons_self)
      · exact List.mem_append_right _ hid
    · split at hid <;> rename_i hkernel
      · cases hid
      · obtain ⟨k, hk, rfl⟩ := List.mem_map.1 hid
        refine Or.inr ⟨Bool.eq_false_iff.2 hkernel, List.mem_flatMap.2 ⟨k, hk, ?_⟩⟩
        rw [Backend.workloadIds, if_neg (by rw [hb]; decide)]
        exact List.mem_singleton_self _
  | manifest =>
    simp only [hb] at hid
    refine Or.inl (List.mem_append_left _ ?_)
    simp only [globalIds, List.mem_append]
    exact Or.inl (Or.inl (Or.inl (Or.inl (Or.inl hid))))

/-- What all workloads of a kind wait for is global or belongs to the network. -/
theorem base_subset (n : NetworkSpec) (kind : ResourceKind) :
    d.base n kind ⊆ d.globalIds ++ d.siteIds n ++ d.kernelIds n := by
  intro id hid
  rcases mem_of_mem_base hid with hid | ⟨-, hid⟩
  · exact List.mem_append_left _ hid
  · exact List.mem_append_right _ hid

/-- The kernel does not wait for the kernel. -/
theorem base_subset_of_isKernel (n : NetworkSpec) {kind : ResourceKind}
    (hkind : kind.isKernel = true) : d.base n kind ⊆ d.globalIds ++ d.siteIds n := by
  intro id hid
  rcases mem_of_mem_base hid with hid | ⟨hother, -⟩
  · exact hid
  · rw [hkind] at hother
    cases hother

/-- The declarations of the kernel of a network have the ids of the kernel there. -/
theorem Legal.map_id_kernelChunks (h : d.Legal) (n : NetworkSpec) :
    (((Project.of d).kernelOf? n).toList.map fun (variant, k) =>
      (Project.of d).workloadDeclarations n variant.resourceKind k.name).flatten.map (·.id) =
        d.kernelIds n := by
  simp only [kernelIds, ← List.flatMap_def, List.map_flatMap, h.map_id_workloadDeclarations,
    h.kernelsIn_eq]

/-- What every node of the scope waits for is global. -/
theorem Legal.scopeDependencies_subset (h : d.Legal) :
    (Project.of d).scopeDependencies ⊆ d.globalIds := by
  intro id hid
  obtain ⟨c, hc, rfl⟩ := List.mem_map.1 hid
  have hmem : c.namespaceId ∈ d.scaffoldIds := by
    rw [h.scaffoldIds_eq, Option.mem_toList.1 hc]
    exact List.mem_cons_self
  simp only [globalIds, List.mem_append]
  exact Or.inl (Or.inl (Or.inl (Or.inl (Or.inl hmem))))

/-- The node of a network, where a site has one, is the network's own. -/
theorem Legal.networkId_subset (h : d.Legal) (n : NetworkSpec) :
    ((Project.of d).siteWithKernel ((Project.of d).site n)).networkId.toList ⊆ d.siteIds n := by
  have hsite : ((Project.of d).siteWithKernel ((Project.of d).site n)).networkId =
      ((Project.of d).site n).networkId := by
    unfold Project.siteWithKernel
    split <;> rfl
  rw [hsite]
  unfold Project.site siteIds
  cases hb : d.project.backend with
  | manifest =>
    obtain ⟨c, hc⟩ := h.exists_cluster_iff.2 hb
    rw [hc]
    exact List.nil_subset _
  | construct =>
    have hc := h.cluster_eq_none_iff.2 (by rw [hb]; decide)
    have hb' : (Project.of d).backend = .construct := hb
    simp [hc, hb', Project.bareSite]
  | flat =>
    have hc := h.cluster_eq_none_iff.2 (by rw [hb]; decide)
    have hb' : (Project.of d).backend = .flat := hb
    by_cases hinfra : n.hasInfrastructure <;> simp [hc, hb', Project.bareSite, hinfra]

/-- What a chunk of a workload declares stands under the ids of the workload. -/
theorem Legal.mem_map_id_flatten (h : d.Legal) {chunks : List (List Declaration)}
    {n : NetworkSpec} {kind : ResourceKind} {name id : String}
    (hchunk : (Project.of d).workloadDeclarations n kind name ∈ chunks)
    (hid : id ∈ d.project.backend.workloadIds kind name) :
    id ∈ chunks.flatten.map (·.id) := by
  rw [← h.map_id_workloadDeclarations n] at hid
  obtain ⟨a, ha, rfl⟩ := List.mem_map.1 hid
  exact List.mem_map_of_mem (List.mem_flatten.2 ⟨_, hchunk, ha⟩)

/-- A workload of the network is among the declarations inside it. -/
theorem workloadDeclarations_mem_innerChunks {n : NetworkSpec} {kind : RouteBackendKind}
    {name : String} (h : n.Declares kind name) :
    (Project.of d).workloadDeclarations n kind.resourceKind name ∈
      (Project.of d).innerChunks n := by
  simp only [Project.innerChunks, List.mem_append]
  cases kind with
  | container =>
    obtain ⟨spec, hspec, rfl⟩ := h
    exact Or.inl (Or.inl (Or.inl (Or.inl (List.mem_map_of_mem hspec))))
  | function =>
    obtain ⟨spec, hspec, rfl⟩ := h
    exact Or.inl (Or.inl (Or.inl (Or.inr (List.mem_map_of_mem hspec))))
  | ui =>
    obtain ⟨spec, hspec, rfl⟩ := h
    exact Or.inr (List.mem_map_of_mem hspec)

/-! ## Nodes outside networks and networks themselves -/

/-- Global nodes wait for global nodes before them only. -/
theorem grounded_globalNodes (d : Description) : d.Grounded [] (Project.of d).globalNodes := by
  have hscope : (Project.of d).scopeDependencies ⊆
      ((Project.of d).cluster.toList.flatMap (Project.of d).clusterNodes).map (·.id) := by
    unfold Project.scopeDependencies
    cases (Project.of d).cluster with
    | none => exact List.nil_subset _
    | some c => exact List.cons_subset.2 ⟨List.mem_cons_self, List.nil_subset _⟩
  unfold Project.globalNodes
  simp only [List.append_assoc]
  refine grounded_append_iff.2 ⟨?_, grounded_of_forall fun r hr id hid => Or.inl ?_⟩
  · cases (Project.of d).cluster with
    | none => trivial
    | some c =>
      -- The config map waits for the namespace, which waits for nothing.
      exact ⟨fun id hid => absurd hid List.not_mem_nil, fun id hid => Or.inl hid, trivial⟩
  · simp only [List.mem_append, List.mem_map, Option.mem_toList] at hr
    rcases hr with ⟨spec, -, rfl⟩ | ⟨spec, -, rfl⟩ | ⟨spec, -, rfl⟩ | ⟨spec, -, rfl⟩ |
      ⟨spec, -, rfl⟩
    all_goals exact hscope hid

/-- The subnets, rules and connector of a network wait for its node, and its registry waits for the
connector of constructs or else for that node. -/
theorem grounded_cloudNetworkNodes (n : NetworkSpec) :
    d.Grounded earlier ((Project.of d).cloudNetworkNodes n) := by
  have hid : ∀ id ∈ ((Project.of d).bareSite n).networkId.toList,
      id = ResourceKind.network.nodeId n.name := by
    intro id hid
    simp only [Project.bareSite, Option.mem_toList] at hid
    split at hid
    · exact (Option.some.inj hid).symm
    · cases hid
  unfold Project.cloudNetworkNodes
  simp only [List.append_assoc]
  simp only [grounded_append_iff]
  have hnetwork : ∀ config, ((Project.of d).bareSite n).networkId.toList ⊆
      earlier ++ (((Project.of d).bareSite n).networkId.toList.map fun _ =>
        (Project.of d).node .network n.name config [] (some n.name)).map (·.id) := by
    intro config id hmem
    exact List.mem_append_right _ (List.mem_map.2
      ⟨_, List.mem_map_of_mem hmem, (hid id hmem).symm⟩)
  refine ⟨grounded_map fun _ _ => List.nil_subset _, grounded_map fun _ _ => hnetwork _,
    grounded_map fun _ _ => List.subset_append_of_subset_left _ (hnetwork _),
    grounded_map fun _ _ => List.subset_append_of_subset_left _
      (List.subset_append_of_subset_left _ (hnetwork _)), grounded_map fun registry _ => ?_⟩
  by_cases hb : (Project.of d).backend = .construct
  · simp [Project.bareSite, hb, Project.node]
  · have hbase : ((Project.of d).bareSite n).base =
        ((Project.of d).bareSite n).networkId.toList := by
      simp [Project.bareSite, hb]
    simp only [Project.node, hbase]
    exact List.subset_append_of_subset_left _ (List.subset_append_of_subset_left _
      (List.subset_append_of_subset_left _ (hnetwork _)))

/-- The nodes of a network wait for global nodes and for each other, backwards. -/
theorem Legal.grounded_networkNodes (h : d.Legal) (n : NetworkSpec) :
    d.Grounded d.globalIds ((Project.of d).networkNodes n) := by
  unfold Project.networkNodes
  cases hc : (Project.of d).cluster with
  | none => exact grounded_cloudNetworkNodes n
  | some c =>
    refine grounded_map fun rule _ id hid => h.scopeDependencies_subset ?_
    rwa [Project.scopeDependencies, hc]

/-! ## Workloads and data stores -/

/-- The node of a workload waits for the base of its network and kind and for what the workload
asks for, and a service behind it for the namespace and that node. -/
theorem Legal.grounded_of_resolves (h : d.Legal) {n : NetworkSpec} (hn : n ∈ d.networks)
    {w : Workload} (hw : w ∈ d.workloadsIn n) (hbase : d.base n w.kind ⊆ earlier)
    {nodes : List Resource}
    (hnodes : (Project.of d).Resolves ((Project.of d).workloadSite n w.kind) w nodes) :
    d.Grounded earlier nodes := by
  obtain ⟨r, hid, -, hdepends, hnodes⟩ := h.nodes_of_resolves hnodes
  rw [h.base_workloadSite] at hdepends
  have hr : ∀ id ∈ r.dependsOn, id ∈ earlier ∨ d.Asks r.id id := by
    intro id hmem
    rw [hdepends, List.mem_eraseDups] at hmem
    rcases List.mem_append.1 hmem with hmem | hmem
    · exact Or.inl (hbase hmem)
    · exact Or.inr ⟨n, hn, w, hw, hid, hmem⟩
  rcases hnodes with rfl | ⟨c, service, hc, rfl, hservice⟩
  · exact ⟨hr, trivial⟩
  · have hb : d.project.backend = .manifest := h.exists_cluster_iff.1 ⟨c, hc⟩
    have hnamespace : c.namespaceId ∈ d.base n w.kind := by
      rw [base, hb]
      simp only [h.scaffoldIds_eq, hc]
      exact List.mem_cons_self
    refine ⟨hr, fun id hmem => Or.inl ?_, trivial⟩
    rw [hservice] at hmem
    rcases List.mem_cons.1 hmem with rfl | hmem
    · exact List.mem_append_left _ (hbase hnamespace)
    · exact List.mem_append_right _ hmem

/-- What data waits for is global or belongs to the network. -/
theorem Legal.dataDependencies_subset (h : d.Legal) (n : NetworkSpec) :
    (Project.of d).dataDependencies
        ((Project.of d).siteWithKernel ((Project.of d).site n)) ⊆
      d.globalIds ++ d.siteIds n := by
  have hnetwork := h.networkId_subset n
  unfold Project.dataDependencies
  split
  · rename_i id hid
    rw [hid] at hnetwork
    exact List.subset_append_of_subset_right _ hnetwork
  · exact List.subset_append_of_subset_left _ h.scopeDependencies_subset

/-- The kernel waits for what the network itself gives it. -/
theorem Legal.grounded_kernelNodes (h : d.Legal) {n : NetworkSpec} (hn : n ∈ d.networks)
    {variant : KernelVariant} {k : KernelSpec}
    (hk : (Project.of d).kernelOf? n = some (variant, k)) {nodes : List Resource}
    (hnodes : (Project.of d).kernelNodes ((Project.of d).site n) variant k = .ok nodes) :
    d.Grounded (d.globalIds ++ d.siteIds n) nodes := by
  have hrun : .ofKernel variant k ∈ d.workloadsIn n := by
    refine List.mem_append_left _ (List.mem_map.2 ⟨(variant, k), ?_, rfl⟩)
    rw [h.kernelsIn_eq, hk]
    exact List.mem_singleton_self _
  have hkernel : (Workload.ofKernel variant k).kind.isKernel = true := by cases variant <;> rfl
  refine h.grounded_of_resolves hn hrun (base_subset_of_isKernel n hkernel) ?_
  rw [← Project.workloadSite_kernel n variant] at hnodes
  exact Project.kernelNodes_resolves hnodes

/-- All else that a network runs or keeps waits for that and for the kernel, but not for each
other. -/
theorem Legal.grounded_of_mem_innerSteps (h : d.Legal) {n : NetworkSpec} (hn : n ∈ d.networks)
    {nodes : List Resource} (hstep : .ok nodes ∈ (Project.of d).innerSteps n) :
    d.Grounded (d.globalIds ++ d.siteIds n ++ d.kernelIds n) nodes := by
  have hdata := List.subset_append_of_subset_left (d.kernelIds n) (h.dataDependencies_subset n)
  simp only [Project.innerSteps, List.mem_append, List.mem_map, List.mem_singleton,
    Except.ok.injEq] at hstep
  rcases hstep with (((⟨spec, hspec, hnodes⟩ | ⟨spec, hspec, hnodes⟩) | rfl) | rfl) |
    ⟨spec, hspec, hnodes⟩
  · have hrun : .ofContainer spec ∈ d.workloadsIn n := List.mem_append_right _
      (List.mem_append_left _ (List.mem_append_left _ (List.mem_map_of_mem hspec)))
    exact h.grounded_of_resolves hn hrun (base_subset n _) (Project.containerNodes_resolves hnodes)
  · have hrun : .ofFunction spec ∈ d.workloadsIn n := List.mem_append_right _
      (List.mem_append_left _ (List.mem_append_right _ (List.mem_map_of_mem hspec)))
    exact h.grounded_of_resolves hn hrun (base_subset n _) (Project.functionNodes_resolves hnodes)
  · exact grounded_map fun _ _ => hdata
  · exact grounded_map fun _ _ => hdata
  · have hrun : .ofUi spec ∈ d.workloadsIn n := List.mem_append_right _
      (List.mem_append_right _ (List.mem_map_of_mem hspec))
    exact h.grounded_of_resolves hn hrun (base_subset n _) (Project.uiNodes_resolves hnodes)

/-! ## Load balancers and scheduled jobs -/

/-- A load balancer waits for the namespace or its network, and for the workloads it leads to. -/
theorem Legal.balancer_dependsOn (h : d.Legal) {n : NetworkSpec} {lb : LoadBalancerSpec}
    {nodes : List Resource}
    (hnodes : (Project.of d).loadBalancerNodes
      ((Project.of d).siteWithKernel ((Project.of d).site n)) lb = .ok nodes) :
    ∃ r, nodes = [r] ∧ ∀ id ∈ r.dependsOn, id ∈ d.globalIds ++ d.siteIds n ∨
      ∃ kind name, n.Declares kind name ∧
        id ∈ d.project.backend.workloadIds kind.resourceKind name := by
  obtain ⟨targets, htargets, hnodes⟩ := Project.loadBalancerNodes_cases hnodes
  rw [Project.spec_siteWithKernel_site] at htargets hnodes
  have hdeclares := (NetworkSpec.routeTargets_eq_ok_iff.1 htargets).declares
  rcases hnodes with ⟨c, hc, rfl⟩ | ⟨hc, rfl⟩
  · have hb : d.project.backend = .manifest := h.exists_cluster_iff.1 ⟨c, hc⟩
    refine ⟨_, rfl, fun id hid => ?_⟩
    rw [Project.ingressNode, Project.node, List.mem_eraseDups] at hid
    rcases List.mem_cons.1 hid with rfl | hid
    · refine Or.inl (List.mem_append_left _ (h.scopeDependencies_subset ?_))
      rw [Project.scopeDependencies, hc]
      exact List.mem_cons_self
    · obtain ⟨t, ht, hid⟩ := List.mem_flatMap.1 hid
      refine Or.inr ⟨t.backendKind, t.backend, hdeclares t ht, ?_⟩
      rwa [Backend.workloadIds, if_pos hb]
  · have hb : d.project.backend ≠ .manifest := h.cluster_eq_none_iff.1 hc
    refine ⟨_, rfl, fun id hid => ?_⟩
    rw [Project.balancerNode, Project.node, List.mem_eraseDups] at hid
    rcases List.mem_append.1 hid with hid | hid
    · refine Or.inl (List.mem_append_right _ (h.networkId_subset n ?_))
      split at hid
      · cases hid
      · exact hid
    · obtain ⟨t, ht, rfl⟩ := List.mem_map.1 hid
      refine Or.inr ⟨t.backendKind, t.backend, hdeclares t ht, ?_⟩
      rw [Backend.workloadIds, if_neg hb]
      exact List.mem_singleton_self _

/-- The load balancer of a network comes after all that it leads to. -/
theorem Legal.grounded_loadBalancerNodes (h : d.Legal) {n : NetworkSpec} {lb : LoadBalancerSpec}
    {nodes : List Resource}
    (hnodes : (Project.of d).loadBalancerNodes
      ((Project.of d).siteWithKernel ((Project.of d).site n)) lb = .ok nodes) :
    d.Grounded (d.globalIds ++ d.siteIds n ++ d.kernelIds n
      ++ ((Project.of d).innerChunks n).flatten.map (·.id)) nodes := by
  obtain ⟨r, rfl, hdepends⟩ := h.balancer_dependsOn hnodes
  refine ⟨fun id hid => Or.inl ?_, trivial⟩
  rcases hdepends id hid with hid | ⟨kind, name, hdeclares, hid⟩
  · exact List.mem_append_left _ (List.mem_append_left _ hid)
  · exact List.mem_append_right _
      (h.mem_map_id_flatten (workloadDeclarations_mem_innerChunks hdeclares) hid)

/-- What a scheduled job calls is declared by a network. -/
theorem declares_of_mem_schedulable {n : NetworkSpec} {kind : RouteBackendKind} {name : String}
    (h : kind ∈ n.schedulable name) : n.Declares kind name := by
  rw [← NetworkSpec.mem_kindsOf_iff, NetworkSpec.kindsOf, List.append_assoc]
  exact List.mem_append_right _ h

/-- A scheduled job comes after all networks, and some network declares what it calls. -/
theorem Legal.grounded_cronNodes (h : d.Legal) {spec : CronSpec} (hspec : spec ∈ d.crons)
    {nodes : List Resource} (hnodes : (Project.of d).cronNodes spec = .ok nodes) :
    d.Grounded (d.globalIds
      ++ (d.networks.flatMap (Project.of d).networkChunks).flatten.map (·.id)) nodes := by
  obtain ⟨kind, target, c, htarget, -, rfl⟩ := Project.cronNodes_cases hnodes
  obtain ⟨n, hn, hkind⟩ := exists_of_cronTarget htarget
  have hchunk : (Project.of d).workloadDeclarations n kind.resourceKind target ∈
      d.networks.flatMap (Project.of d).networkChunks := by
    refine List.mem_flatMap.2 ⟨n, hn, ?_⟩
    rw [Project.networkChunks_eq]
    exact List.mem_append_right _ (List.mem_append_right _ (List.mem_append_left _
      (workloadDeclarations_mem_innerChunks (declares_of_mem_schedulable hkind))))
  refine ⟨fun id hid => Or.inl (List.mem_append_right _ (h.mem_map_id_flatten hchunk ?_)), trivial⟩
  rw [Backend.workloadIds, if_neg (by rw [h.backend_of_cron hspec]; decide)]
  exact hid

/-! ## Steps -/

/-- The steps of a network count only on what is outside any network. -/
theorem Legal.steady_networkSteps (h : d.Legal) {n : NetworkSpec} (hn : n ∈ d.networks) :
    d.Steady d.globalIds ((Project.of d).networkSteps n) := by
  rw [Project.networkSteps_eq]
  refine steady_append (.cons (Project.yields_ok (Project.realizes_networkNodes n)) .nil)
    (steady_ok (h.grounded_networkNodes n)) ?_
  rw [List.flatten_singleton, h.map_id_networkDeclarations]
  refine steady_append (Project.kernelSteps_yield n) (steady_of_forall ?_) ?_
  · intro step hstep nodes hnodes
    obtain ⟨⟨variant, k⟩, hk, rfl⟩ := List.mem_map.1 hstep
    exact h.grounded_kernelNodes hn (Option.mem_toList.1 hk) hnodes
  rw [h.map_id_kernelChunks]
  refine steady_append (Project.innerSteps_yield n) (steady_of_forall ?_) (steady_of_forall ?_)
  · exact fun step hstep nodes hnodes => h.grounded_of_mem_innerSteps hn (hnodes ▸ hstep)
  · intro step hstep nodes hnodes
    obtain ⟨lb, -, rfl⟩ := List.mem_map.1 hstep
    exact h.grounded_loadBalancerNodes hnodes

/-- Networks do not count on each other. -/
theorem Legal.steady_networks (h : d.Legal) {networks : List NetworkSpec}
    (hnetworks : networks ⊆ d.networks) (hearlier : d.globalIds ⊆ earlier) :
    d.Steady earlier (networks.flatMap (Project.of d).networkSteps) := by
  induction networks generalizing earlier with
  | nil => trivial
  | cons n rest ih =>
    rw [List.cons_subset] at hnetworks
    rw [List.flatMap_cons]
    refine steady_append (Project.networkSteps_yield n)
      ((h.steady_networkSteps hnetworks.1).mono hearlier) (ih hnetworks.2 ?_)
    exact List.subset_append_of_subset_left _ hearlier

/-- The steps of a project count only on the steps before them. -/
theorem Legal.steady_steps (h : d.Legal) : d.Steady [] (Project.of d).steps := by
  rw [Project.steps, List.append_assoc]
  refine steady_append (.cons (Project.yields_ok Project.realizes_globalNodes) .nil)
    (steady_ok (grounded_globalNodes d)) ?_
  rw [List.flatten_singleton, h.map_id_globalDeclarations, List.nil_append]
  refine steady_append (Project.networks_yield d.networks)
    (h.steady_networks (List.Subset.refl _) (List.Subset.refl _)) (steady_of_forall ?_)
  intro step hstep nodes hnodes
  obtain ⟨spec, hspec, rfl⟩ := List.mem_map.1 hstep
  exact h.grounded_cronNodes hspec hnodes

/-- The nodes of a resolved project are grounded. -/
theorem Legal.grounded_resources (h : d.Legal) {resources : List Resource}
    (hresources : (Project.of d).resources = .ok resources) : d.Grounded [] resources := by
  obtain ⟨lists, hsteps, rfl, -⟩ := Project.resources_eq_ok_iff.1 hresources
  exact Steady.grounded (hsteps ▸ h.steady_steps)

/-! ## Resolved descriptions -/

/-- Every node of a resolved description waits only for nodes before it and for what its workload
asks for.  If no workload asks for anything, the nodes are provisioned in the order in which they
are declared. -/
theorem backward_of_resolve {p : Plan} (h : d.resolve = .ok p) :
    (∀ before r after, p.resources = before ++ r :: after →
      ∀ id ∈ r.dependsOn, id ∈ before.map (·.id) ∨ d.Asks r.id id) ∧
    ((∀ n ∈ d.networks, ∀ w ∈ d.workloadsIn n, d.requests w = []) →
      p.arrange = .ok { p with order := p.resources.map (·.id) }) := by
  obtain ⟨hlegal, resources, hresources, rfl⟩ := resolve_eq_ok_iff.1 h
  obtain ⟨lists, hsteps, rfl, hids⟩ := Project.resources_eq_ok_iff.1 hresources
  have hgrounded : d.Grounded [] lists.flatten := Steady.grounded (hsteps ▸ hlegal.steady_steps)
  have hearlier : ∀ before r after, lists.flatten = before ++ r :: after →
      ∀ id ∈ r.dependsOn, id ∈ before.map (·.id) ∨ d.Asks r.id id := by
    intro before r after hsplit
    rw [hsplit] at hgrounded
    exact (grounded_append_iff.1 hgrounded).2.1
  refine ⟨hearlier, fun hnothing => ?_⟩
  have hbackward : Provisioning.Backward lists.flatten := by
    intro before r after hsplit id hid
    rcases hearlier before r after hsplit id hid with hmem | ⟨n, hn, w, hw, -, hrequest⟩
    · exact hmem
    · rw [hnothing n hn w hw] at hrequest
      cases hrequest
  exact bind_eq_ok_iff.2
    ⟨_, Provisioning.sort_eq_ok_iff.2 (hbackward.isGreedyOrder hids), rfl⟩

/-- Flat code with a job that calls a container behind a load balancer, next to a database. -/
def nightly : Description :=
  { ofNetworks ⟨"shop", "us-central1", none, .flat⟩ [
      { NetworkSpec.ofContainers "main" ["api"] with
        firewall := [⟨"https", "tcp", ["443"], []⟩]
        databases := [⟨"ledger", "POSTGRES_15", "db-f1-micro", 10⟩]
        loadBalancer := some ⟨none, false, none, [], none⟩ }] with
    crons := [⟨"report", "0 3 * * *", "api", "UTC", "/", "POST", none⟩] }

/-- Its nodes are provisioned as they are declared. -/
theorem backward_of_resolve_nightly :
    ∃ p, nightly.resolve = .ok p ∧
      p.arrange = .ok { p with order :=
        ["network-main", "firewall-https", "container-api", "database-ledger",
          "load-balancer-main", "cron-report"] } := by
  have hplan : nightly.resolve.toOption.map (fun p => p.resources.map (·.id)) =
      some ["network-main", "firewall-https", "container-api", "database-ledger",
        "load-balancer-main", "cron-report"] := by
    decide +kernel
  have hnothing : ∀ n ∈ nightly.networks, ∀ w ∈ nightly.workloadsIn n, nightly.requests w = [] := by
    decide +kernel
  cases hresolve : nightly.resolve with
  | error e =>
    rw [hresolve] at hplan
    cases hplan
  | ok p =>
    rw [hresolve] at hplan
    have hids : p.resources.map (·.id) = _ := Option.some.inj hplan
    exact ⟨p, rfl, hids ▸ (backward_of_resolve hresolve).2 hnothing⟩

end Description

end Groundwork
