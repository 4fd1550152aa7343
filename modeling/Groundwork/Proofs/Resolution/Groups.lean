import Groundwork.Proofs.Description.Validation
import Groundwork.Proofs.Resolution.Declarations

/-!
# Groups of declarations

What a description declares, sorted by kind.  A `Group` holds declarations of some kinds that are
all in one network or all outside any, and none of them twice.  Scopes are groups of one kind, and
groups without a common kind are one group, so each network and all that is outside them is a group.

Main results:

- `Project.mem_declarations_iff`, `Project.mem_networkChunks_iff`: what there is to declare.
- `Project.network_of_mem_declarations`: the kind of a declaration decides whether it has a network.
- `Project.nodup_declarations`: no declaration comes twice.
-/

namespace Groundwork

/-! ## Groups of declarations -/

/-- The kinds of node that networks hold. -/
def ResourceKind.inside : List ResourceKind :=
  [.networkPolicy, .network, .subnet, .firewall, .connector, .registry, .container, .function,
   .database, .cache, .kernel, .hybridKernel, .ui, .deployment, .service, .loadBalancer, .ingress]

/-- Declarations of some kinds, all in one network or all outside any, and none twice. -/
structure Group (kinds : List ResourceKind) (network : Option String)
    (group : List Declaration) : Prop where
  nodup : group.Nodup
  kind_mem : ∀ a ∈ group, a.kind ∈ kinds
  network_eq : ∀ a ∈ group, a.network = network

/-- Groups that have no kind in common are one group. -/
theorem Group.append {kinds kinds' : List ResourceKind} {network : Option String}
    {first second : List Declaration} (h : Group kinds network first)
    (h' : Group kinds' network second) (hapart : ∀ k ∈ kinds, k ∉ kinds') :
    Group (kinds ++ kinds') network (first ++ second) where
  nodup := by
    refine List.nodup_append.2 ⟨h.nodup, h'.nodup, ?_⟩
    rintro a ha b hb rfl
    exact hapart a.kind (h.kind_mem a ha) (h'.kind_mem a hb)
  kind_mem a ha := by
    rcases List.mem_append.1 ha with ha | ha
    · exact List.mem_append_left _ (h.kind_mem a ha)
    · exact List.mem_append_right _ (h'.kind_mem a ha)
  network_eq a ha := by
    rcases List.mem_append.1 ha with ha | ha
    · exact h.network_eq a ha
    · exact h'.network_eq a ha

/-- A group may be one of more kinds. -/
theorem Group.mono {kinds kinds' : List ResourceKind} {network : Option String}
    {group : List Declaration} (h : Group kinds network group) (hkinds : kinds ⊆ kinds') :
    Group kinds' network group :=
  ⟨h.nodup, fun a ha => hkinds (h.kind_mem a ha), h.network_eq⟩

/-- What is declared under distinct names is a group. -/
theorem group_map {α : Type} {l : List α} {name : α → String} (kind : ResourceKind)
    (network : Option String) (h : (l.map name).Nodup) :
    Group [kind] network (l.map fun x => ⟨kind, name x, network⟩) where
  nodup := by
    refine List.Nodup.of_map Declaration.name ?_
    simpa [Function.comp_def] using h
  kind_mem := by simp
  network_eq := by simp

/-- One declaration, or none, is a group. -/
theorem group_toList {α : Type} (o : Option α) (name : α → String) (kind : ResourceKind)
    (network : Option String) :
    Group [kind] network (o.toList.map fun x => ⟨kind, name x, network⟩) := by
  refine group_map kind network ?_
  cases o with
  | none => exact List.nodup_nil
  | some x => exact List.nodup_singleton _

namespace Project

variable {p : Project} {n : NetworkSpec}

/-! ## What a network declares -/

/-- The kernel of a network as a workload. -/
def kernelWorkload (p : Project) (n : NetworkSpec) : List Declaration :=
  (p.kernelOf? n).toList.map fun k => ⟨k.1.resourceKind, k.2.name, some n.name⟩

/-- The workloads of a network, each of its own kind, as they are declared outside a cluster. -/
def workloadsOf (p : Project) (n : NetworkSpec) : List Declaration :=
  p.kernelWorkload n
    ++ n.containers.map (fun spec => ⟨.container, spec.name, some n.name⟩)
    ++ n.functions.map (fun spec => ⟨.function, spec.name, some n.name⟩)
    ++ n.uis.map (fun spec => ⟨.ui, spec.name, some n.name⟩)

/-- What a network declares, grouped by what it is. -/
theorem networkChunks_perm (p : Project) (n : NetworkSpec) :
    (p.networkChunks n).flatten.Perm
      (p.networkDeclarations n
        ++ (p.workloadsOf n).flatMap (fun w => p.workloadDeclarations n w.kind w.name)
        ++ n.databases.map (fun spec => ⟨.database, spec.name, some n.name⟩)
        ++ n.caches.map (fun spec => ⟨.cache, spec.name, some n.name⟩)
        ++ n.loadBalancer.toList.map (p.balancerDeclaration n)) := by
  unfold networkChunks workloadsOf kernelWorkload
  simp only [List.flatten_append, List.flatten_cons, List.flatten_nil, List.append_nil,
    List.flatMap_append, List.flatMap_map, ← List.flatMap_def, List.append_assoc]
  rw [← List.map_eq_flatMap]
  -- Only the frontends stand elsewhere: after the databases and caches.
  refine List.Perm.append_left _ (List.Perm.append_left _ (List.Perm.append_left _
    (List.Perm.append_left _ ?_)))
  rw [← List.append_assoc, ← List.append_assoc, ← List.append_assoc, ← List.append_assoc]
  refine List.Perm.append_right _ ?_
  rw [List.append_assoc _ (n.databases.map _)]
  exact List.perm_append_comm

/-- The declarations of a network itself are a group. -/
theorem group_networkDeclarations (hn : n.Valid) :
    Group [.networkPolicy, .network, .subnet, .firewall, .connector, .registry] (some n.name)
      (p.networkDeclarations n) := by
  unfold networkDeclarations
  cases p.cluster with
  | some c => exact (group_map .networkPolicy _ hn.firewall.nodup).mono (by decide)
  | none =>
    have hnetwork := group_toList (p.bareSite n).networkId (fun _ => n.name) .network (some n.name)
    have hsubnets := group_map .subnet (some n.name) hn.subnets.nodup
    have hfirewall := group_map .firewall (some n.name) hn.firewall.nodup
    have hconnector :=
      group_toList (p.bareSite n).connector (fun _ => n.name) .connector (some n.name)
    have hregistry := group_toList n.registry (·.name) .registry (some n.name)
    refine (((((hnetwork.append hsubnets ?_).append hfirewall ?_).append hconnector ?_).append
      hregistry ?_).mono ?_)
    all_goals decide

/-- The kernel of a network is a group. -/
theorem group_kernelWorkload :
    Group [.kernel, .hybridKernel] (some n.name) (p.kernelWorkload n) := by
  unfold kernelWorkload
  cases p.kernelOf? n with
  | none => exact ⟨List.nodup_nil, by simp, by simp⟩
  | some k =>
    obtain ⟨variant, spec⟩ := k
    refine ⟨List.nodup_singleton _, ?_, by simp⟩
    cases variant with
    | native => simp [KernelVariant.resourceKind]
    | hybrid => simp [KernelVariant.resourceKind]

/-- The workloads of a network are a group. -/
theorem group_workloadsOf (hn : n.Valid) :
    Group [.kernel, .hybridKernel, .container, .function, .ui] (some n.name)
      (p.workloadsOf n) := by
  have hcontainers := group_map .container (some n.name) hn.containers.nodup
  have hfunctions := group_map .function (some n.name) hn.functions.nodup
  have huis := group_map .ui (some n.name) hn.uis.nodup
  exact ((group_kernelWorkload.append hcontainers (by decide)).append hfunctions
    (by decide)).append huis (by decide)

/-- Outside a cluster a workload is declared as it is. -/
theorem flatMap_workloadDeclarations (hn : n.Valid) (hc : p.cluster = none) :
    (p.workloadsOf n).flatMap (fun w => p.workloadDeclarations n w.kind w.name) =
      p.workloadsOf n := by
  have hself : ∀ w ∈ p.workloadsOf n, p.workloadDeclarations n w.kind w.name = [w] := by
    intro w hw
    rw [workloadDeclarations, hc, ← (group_workloadsOf hn).network_eq w hw]
    rfl
  rw [List.flatMap_congr hself, List.flatMap_singleton']

/-- In a cluster a workload is a deployment and a service. -/
theorem mem_workloadDeclarations {a : Declaration} {kind : ResourceKind} {name : String}
    (hc : p.cluster.isSome) :
    a ∈ p.workloadDeclarations n kind name ↔
      a = ⟨.deployment, name, some n.name⟩ ∨ a = ⟨.service, name, some n.name⟩ := by
  rw [workloadDeclarations, if_pos hc]
  simp

/-- The workloads of a network make a group, if their names are distinct wherever all of them become
deployments. -/
theorem group_workloadDeclarations (hn : n.Valid)
    (hnames : p.cluster.isSome → ((p.workloadsOf n).map (·.name)).Nodup) :
    Group [.kernel, .hybridKernel, .container, .function, .ui, .deployment, .service]
      (some n.name)
      ((p.workloadsOf n).flatMap fun w => p.workloadDeclarations n w.kind w.name) := by
  by_cases hc : p.cluster.isSome
  · have hmem : ∀ a, a ∈ ((p.workloadsOf n).flatMap fun w =>
        p.workloadDeclarations n w.kind w.name) → ∃ w ∈ p.workloadsOf n,
        a = ⟨.deployment, w.name, some n.name⟩ ∨ a = ⟨.service, w.name, some n.name⟩ := by
      intro a ha
      obtain ⟨w, hw, ha⟩ := List.mem_flatMap.1 ha
      exact ⟨w, hw, (mem_workloadDeclarations hc).1 ha⟩
    refine ⟨List.nodup_flatMap.2 ⟨?_, ?_⟩, ?_, ?_⟩
    · intro w _
      rw [workloadDeclarations, if_pos hc]
      simp
    · refine (List.pairwise_map.1 (hnames hc)).imp ?_
      intro w w' hne
      refine List.disjoint_left.2 fun a ha ha' => hne ?_
      rw [mem_workloadDeclarations hc] at ha ha'
      rcases ha with rfl | rfl <;> simpa using ha'
    · intro a ha
      obtain ⟨w, -, rfl | rfl⟩ := hmem a ha <;> simp
    · intro a ha
      obtain ⟨w, -, rfl | rfl⟩ := hmem a ha <;> rfl
  · rw [flatMap_workloadDeclarations hn (Option.not_isSome_iff_eq_none.1 hc)]
    exact (group_workloadsOf hn).mono (by decide)

/-- All that a network declares makes a group, if the names of its workloads are distinct wherever
all of them become deployments. -/
theorem group_networkChunks (hn : n.Valid)
    (hnames : p.cluster.isSome → ((p.workloadsOf n).map (·.name)).Nodup) :
    Group ResourceKind.inside (some n.name) (p.networkChunks n).flatten := by
  obtain ⟨hdatabases, hcaches, -⟩ := Validation.scope_append_iff.1 hn.data
  have hbalancer : Group [.ingress, .loadBalancer] (some n.name)
      (n.loadBalancer.toList.map (p.balancerDeclaration n)) := by
    cases n.loadBalancer with
    | none => exact ⟨List.nodup_nil, by simp, by simp⟩
    | some lb =>
      refine ⟨List.nodup_singleton _, ?_, by simp [balancerDeclaration]⟩
      by_cases hc : p.cluster.isSome <;> simp [balancerDeclaration, hc]
  have hall : Group ResourceKind.inside (some n.name) _ :=
    (((((group_networkDeclarations (p := p) hn).append
      (group_workloadDeclarations hn hnames) (by decide)).append
      (group_map .database _ hdatabases.nodup) (by decide)).append
      (group_map .cache _ hcaches.nodup) (by decide)).append hbalancer (by decide)).mono
      (by decide)
  have hperm := p.networkChunks_perm n
  exact ⟨hperm.nodup_iff.2 hall.nodup, fun a ha => hall.kind_mem a (hperm.mem_iff.1 ha),
    fun a ha => hall.network_eq a (hperm.mem_iff.1 ha)⟩

/-- What a network declares, one by one. -/
theorem mem_networkChunks_iff {a : Declaration} :
    a ∈ (p.networkChunks n).flatten ↔
      a ∈ p.networkDeclarations n ∨
      (∃ w ∈ p.workloadsOf n, a ∈ p.workloadDeclarations n w.kind w.name) ∨
      (∃ spec ∈ n.databases, a = ⟨.database, spec.name, some n.name⟩) ∨
      (∃ spec ∈ n.caches, a = ⟨.cache, spec.name, some n.name⟩) ∨
      ∃ lb ∈ n.loadBalancer, a = p.balancerDeclaration n lb := by
  rw [(p.networkChunks_perm n).mem_iff]
  simp only [List.mem_append, List.mem_flatMap, List.mem_map, Option.mem_toList, Option.mem_def,
    or_assoc, eq_comm (a := a)]

/-! ## What a project declares -/

/-- All declarations: the global ones, network by network, and the crons. -/
theorem declarations_eq (p : Project) :
    p.declarations = p.globalDeclarations
      ++ p.description.networks.flatMap (fun n => (p.networkChunks n).flatten)
      ++ p.description.crons.map fun spec => ⟨.cron, spec.name, none⟩ := by
  have hcrons : (p.description.crons.map fun spec =>
      [(⟨.cron, spec.name, none⟩ : Declaration)]).flatten =
      p.description.crons.map fun spec => ⟨.cron, spec.name, none⟩ := by
    rw [← List.flatMap_def, List.map_eq_flatMap]
  have hinside : (p.description.networks.flatMap p.networkChunks).flatten =
      p.description.networks.flatMap fun n => (p.networkChunks n).flatten := by
    rw [List.flatMap_def, List.flatten_flatten, List.map_map, List.flatMap_def]
    rfl
  rw [declarations, chunks, List.flatten_append, List.flatten_append, hcrons, hinside,
    List.flatten_singleton]

/-- Declarations are made outside any network, inside one, or as scheduled jobs. -/
theorem mem_declarations_iff {a : Declaration} :
    a ∈ p.declarations ↔
      a ∈ p.globalDeclarations ∨
      (∃ n ∈ p.description.networks, a ∈ (p.networkChunks n).flatten) ∨
      ∃ spec ∈ p.description.crons, a = ⟨.cron, spec.name, none⟩ := by
  rw [declarations_eq]
  simp only [List.mem_append, List.mem_flatMap, List.mem_map, or_assoc, eq_comm (a := a)]

/-- The global declarations are a group. -/
theorem group_globalDeclarations (hd : p.description.Valid) :
    Group [.clusterNamespace, .configMap, .serviceAccount, .bucket, .secret, .topic, .queue] none
      p.globalDeclarations := by
  have hcluster : Group [.clusterNamespace, .configMap] none
      (p.cluster.toList.flatMap fun c =>
        [⟨.clusterNamespace, c.namespaceName, none⟩, ⟨.configMap, p.name, none⟩]) := by
    cases p.cluster with
    | none => exact ⟨List.nodup_nil, by simp, by simp⟩
    | some c => exact ⟨by simp, by simp, by simp⟩
  have haccount := group_toList p.description.serviceAccount (·.name) .serviceAccount none
  exact ((((hcluster.append haccount (by decide)).append
    (group_map .bucket none hd.buckets.nodup) (by decide)).append
    (group_map .secret none hd.secrets.nodup) (by decide)).append
    (group_map .topic none hd.topics.nodup) (by decide)).append
    (group_map .queue none hd.queues.nodup) (by decide)

/-- The crons are a group. -/
theorem group_crons (hd : p.description.Valid) :
    Group [.cron] none (p.description.crons.map fun spec => ⟨.cron, spec.name, none⟩) :=
  group_map .cron none hd.crons.nodup

section Distinct

variable (hd : p.description.Valid)
  (hnames : p.cluster.isSome → ∀ n ∈ p.description.networks,
    ((p.workloadsOf n).map (·.name)).Nodup)

include hd hnames

/-- A declaration is made by a network exactly if its kind is of those that networks hold. -/
theorem network_of_mem_declarations {a : Declaration} (ha : a ∈ p.declarations) :
    a.kind ∈ ResourceKind.inside ∧ (∃ n ∈ p.description.networks, a.network = some n.name) ∨
      a.kind ∉ ResourceKind.inside ∧ a.network = none := by
  rcases mem_declarations_iff.1 ha with hglobal | ⟨n, hn, hinside⟩ | ⟨spec, -, rfl⟩
  · have hgroup := group_globalDeclarations hd
    have hkinds : ∀ k ∈ [ResourceKind.clusterNamespace, .configMap, .serviceAccount, .bucket,
        .secret, .topic, .queue], k ∉ ResourceKind.inside := by decide
    exact Or.inr ⟨hkinds _ (hgroup.kind_mem a hglobal), hgroup.network_eq a hglobal⟩
  · have hgroup := group_networkChunks (hd.inside n hn) fun hc => hnames hc n hn
    exact Or.inl ⟨hgroup.kind_mem a hinside, n, hn, hgroup.network_eq a hinside⟩
  · exact Or.inr ⟨(by decide : ResourceKind.cron ∉ ResourceKind.inside), rfl⟩

/-- No declaration of a valid project comes twice, if the names of a network's workloads are
distinct wherever all of them become deployments. -/
theorem nodup_declarations : p.declarations.Nodup := by
  have hglobal := group_globalDeclarations hd
  have hcrons := group_crons hd
  have hinside : ∀ n ∈ p.description.networks,
      Group ResourceKind.inside (some n.name) (p.networkChunks n).flatten :=
    fun n hn => group_networkChunks (hd.inside n hn) fun hc => hnames hc n hn
  have hnetwork : ∀ a ∈ p.description.networks.flatMap (fun n => (p.networkChunks n).flatten),
      a.network ≠ none := by
    intro a ha
    obtain ⟨n, hn, ha⟩ := List.mem_flatMap.1 ha
    rw [(hinside n hn).network_eq a ha]
    exact Option.some_ne_none _
  rw [declarations_eq]
  refine List.nodup_append.2 ⟨List.nodup_append.2 ⟨hglobal.nodup, ?_, ?_⟩, hcrons.nodup, ?_⟩
  · -- Networks have distinct names, and all that they declare carries them.
    refine List.nodup_flatMap.2 ⟨fun n hn => (hinside n hn).nodup, ?_⟩
    refine (List.pairwise_map.1 hd.networks.nodup).imp_of_mem ?_
    intro n m hn hm hne
    refine List.disjoint_left.2 fun a ha ha' => hne ?_
    have hsame := ((hinside n hn).network_eq a ha).symm.trans ((hinside m hm).network_eq a ha')
    exact Option.some.inj hsame
  · rintro a ha b hb rfl
    exact hnetwork a hb (hglobal.network_eq a ha)
  · rintro a ha b hb rfl
    rcases List.mem_append.1 ha with ha | ha
    · have hkind := hglobal.kind_mem a ha
      rw [List.mem_singleton.1 (hcrons.kind_mem a hb)] at hkind
      exact absurd hkind (by decide)
    · exact hnetwork a ha (hcrons.network_eq a hb)

end Distinct

/-- What stands for workloads is declared by the workloads of the networks. -/
theorem workload_of_kind (hd : p.description.Valid) {a : Declaration} (ha : a ∈ p.declarations)
    (hkind : a.kind ∈ [ResourceKind.kernel, .hybridKernel, .deployment, .service]) :
    ∃ n ∈ p.description.networks, ∃ w ∈ p.workloadsOf n,
      a ∈ p.workloadDeclarations n w.kind w.name := by
  have hno : ∀ kinds : List ResourceKind, a.kind ∈ kinds →
      (∀ k ∈ kinds, k ∉ [ResourceKind.kernel, .hybridKernel, .deployment, .service]) → False :=
    fun kinds hmem hkinds => hkinds a.kind hmem hkind
  rcases mem_declarations_iff.1 ha with hglobal | ⟨n, hn, hinside⟩ | ⟨spec, -, rfl⟩
  · exact (hno _ ((group_globalDeclarations hd).kind_mem a hglobal) (by decide)).elim
  · rcases mem_networkChunks_iff.1 hinside with
      hself | ⟨w, hw, hdeclared⟩ | ⟨spec, -, rfl⟩ | ⟨spec, -, rfl⟩ | ⟨lb, -, rfl⟩
    · have hgroup := group_networkDeclarations (p := p) (hd.inside n hn)
      exact (hno _ (hgroup.kind_mem a hself) (by decide)).elim
    · exact ⟨n, hn, w, hw, hdeclared⟩
    · exact (hno [.database] List.mem_cons_self (by decide)).elim
    · exact (hno [.cache] List.mem_cons_self (by decide)).elim
    · refine (hno [.ingress, .loadBalancer] ?_ (by decide)).elim
      by_cases hc : p.cluster.isSome <;> simp [balancerDeclaration, hc]
  · exact (hno [.cron] List.mem_cons_self (by decide)).elim

end Project

end Groundwork
