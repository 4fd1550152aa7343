import Groundwork.Proofs.Naming.Label
import Groundwork.Proofs.Provisioning.Placement
import Groundwork.Proofs.Resolution.Requests

/-!
# Images from the registry of a network

A workload that names no image takes the latest one of its own name in the registry of its network.
It carries the address of the registry and no reference to it, and flat code does not even wait for
the registry.  The registry is there first all the same: it is declared before all workloads of its
network, and waits for nothing that these do not wait for.

Main results:

- `Description.Legal.precedes_declared`: a network is declared before its workloads.
- `Description.image_of_compile`: the image of a workload is in a registry that comes before it.
-/

namespace Groundwork

namespace Project

variable {p : Project} {site : Site} {nodes : List Resource}

/-! ## Images of workloads -/

/-- Among the nodes of a workload in the cloud is its own, which runs its image at a site. -/
def RunsImage (p : Project) (site : Site) (w : Workload) (own : Option String)
    (nodes : List Resource) : Prop :=
  ∃ r ∈ nodes, r.id = w.kind.nodeId w.name ∧ r.config.image? = some (p.imageFor site own w.name)

theorem containerNodes_runsImage (hc : p.cluster = none) {spec : ContainerSpec}
    (h : p.containerNodes site spec = .ok nodes) :
    p.RunsImage site (.ofContainer spec) spec.image nodes := by
  rw [containerNodes, bind_eq_ok_iff] at h
  obtain ⟨env, -, hnodes⟩ := h
  cases hnodes
  exact ⟨_, mem_workloadNodes_iff.2 (Or.inr ⟨hc, rfl⟩), rfl, rfl⟩

theorem uiNodes_runsImage (hc : p.cluster = none) {spec : UiSpec}
    (h : p.uiNodes site spec = .ok nodes) : p.RunsImage site (.ofUi spec) spec.image nodes := by
  rw [uiNodes, bind_eq_ok_iff] at h
  obtain ⟨env, -, hnodes⟩ := h
  cases hnodes
  exact ⟨_, mem_workloadNodes_iff.2 (Or.inr ⟨hc, rfl⟩), rfl, rfl⟩

theorem kernelNodes_runsImage (hc : p.cluster = none) {variant : KernelVariant}
    {spec : KernelSpec} (h : p.kernelNodes site variant spec = .ok nodes) :
    p.RunsImage site (.ofKernel variant spec) spec.image nodes := by
  rw [kernelNodes, bind_eq_ok_iff] at h
  obtain ⟨env, -, hnodes⟩ := h
  cases hnodes
  exact ⟨_, mem_workloadNodes_iff.2 (Or.inr ⟨hc, rfl⟩), rfl, rfl⟩

/-- Outside a cluster images are in the registry of the network. -/
theorem registryUrl_workloadSite (hc : p.cluster = none) (n : NetworkSpec) (kind : ResourceKind) :
    (p.workloadSite n kind).registryUrl = n.registry.map p.registryUrl := by
  obtain ⟨base, hsite⟩ := exists_workloadSite_eq hc n kind
  rw [hsite]
  rfl

/-- No slash ends the address of a registry of an allowed name. -/
theorem trimSlashes_registryUrl (hb : p.backend ≠ .manifest) {registry : RegistrySpec}
    (hname : isValidName registry.name = true) :
    trimSlashes (p.registryUrl registry) = p.registryUrl registry := by
  have hcloud : ∃ start, p.cloudName registry.name = start ++ registry.name := by
    unfold cloudName Backend.resourceName
    cases hbackend : p.backend with
    | flat => exact ⟨"", by simp⟩
    | construct => exact ⟨p.name ++ "-", rfl⟩
    | manifest => exact absurd hbackend hb
  obtain ⟨start, hstart⟩ := hcloud
  rw [registryUrl, hstart, ← String.append_assoc]
  exact trimSlashes_append hname _

/-- A workload without an image of its own takes the latest one of its name. -/
theorem imageFor_none {registry : RegistrySpec} {name : String}
    (hurl : site.registryUrl = some (p.registryUrl registry))
    (htrim : trimSlashes (p.registryUrl registry) = p.registryUrl registry) :
    p.imageFor site none name = p.registryUrl registry ++ "/" ++ name ++ ":latest" := by
  rw [imageFor, Option.getD_none, hurl, Option.getD_some, imageTag, htrim]
  exact String.append_assoc

/-- The node of a registry waits for what its network is without it. -/
theorem registryNode_mem_networkNodes (hc : p.cluster = none) {n : NetworkSpec}
    {registry : RegistrySpec} (hregistry : n.registry = some registry) :
    ∃ s ∈ p.networkNodes n, s.id = ResourceKind.registry.nodeId registry.name ∧
      s.dependsOn = (p.bareSite n).base ∧
      ∃ c : RegistryConfig, s.config = .registry c ∧ c.url = p.registryUrl registry := by
  simp only [networkNodes, hc, cloudNetworkNodes, hregistry, Option.toList_some, List.map_singleton]
  exact ⟨_, List.mem_append_right _ List.mem_cons_self, rfl, rfl, _, rfl, rfl⟩

end Project

namespace Description

variable (d : Description)

/-- The kernel, the containers and the frontends of a network, with the images that they name. -/
def imagesIn (n : NetworkSpec) : List (Workload × Option String) :=
  (d.kernelsIn n).map (fun k => (.ofKernel k.1 k.2, k.2.image))
    ++ n.containers.map (fun spec => (.ofContainer spec, spec.image))
    ++ n.uis.map (fun spec => (.ofUi spec, spec.image))

variable {d} {p : Plan} {n : NetworkSpec}

theorem mem_workloadsIn_of_mem_imagesIn {w : Workload} {own : Option String}
    (hw : (w, own) ∈ d.imagesIn n) : w ∈ d.workloadsIn n := by
  simp only [imagesIn, List.mem_append, List.mem_map, Prod.mk.injEq] at hw
  simp only [workloadsIn, NetworkSpec.workloads, List.mem_append, List.mem_map]
  rcases hw with (⟨k, hk, rfl, -⟩ | ⟨spec, hspec, rfl, -⟩) | ⟨spec, hspec, rfl, -⟩
  · exact Or.inl ⟨k, hk, rfl⟩
  · exact Or.inr (Or.inl (Or.inl ⟨spec, hspec, rfl⟩))
  · exact Or.inr (Or.inr ⟨spec, hspec, rfl⟩)

/-- A plan has the node of a workload that runs an image, with that image. -/
theorem Compiles.exists_image (h : d.Compiles p) (hb : d.project.backend ≠ .manifest)
    (hn : n ∈ d.networks) {w : Workload} {own : Option String} (hw : (w, own) ∈ d.imagesIn n) :
    (Project.of d).RunsImage ((Project.of d).workloadSite n w.kind) w own p.resources := by
  have hc := h.cluster_eq_none_iff.2 hb
  have hstep : ∃ step ∈ (Project.of d).networkSteps n, ∀ nodes, step = .ok nodes →
      (Project.of d).RunsImage ((Project.of d).workloadSite n w.kind) w own nodes := by
    simp only [imagesIn, h.legal.kernelsIn_eq, List.mem_append, List.mem_map, Option.mem_toList,
      Prod.mk.injEq] at hw
    rcases hw with (⟨⟨variant, k⟩, hk, rfl, rfl⟩ | ⟨spec, hspec, rfl, rfl⟩) |
      ⟨spec, hspec, rfl, rfl⟩
    · exact ⟨_, Project.kernelNodes_mem_networkSteps hk,
        fun nodes hnodes => Project.kernelNodes_runsImage hc hnodes⟩
    · exact ⟨_, Project.containerNodes_mem_networkSteps hspec,
        fun nodes hnodes => Project.containerNodes_runsImage hc hnodes⟩
    · exact ⟨_, Project.uiNodes_mem_networkSteps hspec,
        fun nodes hnodes => Project.uiNodes_runsImage hc hnodes⟩
  obtain ⟨step, hstep, himage⟩ := hstep
  obtain ⟨nodes, hnodes, hsubset⟩ := Project.step_of_resources_eq_ok h.resources_eq
    (Project.mem_steps_of_mem_networkSteps hn hstep)
  obtain ⟨r, hr, hrun⟩ := himage nodes hnodes
  exact ⟨r, hsubset hr, hrun⟩

/-! ## What is declared first -/

/-- What a network becomes ends with what its workloads become. -/
theorem exists_idsIn_eq (n : NetworkSpec) :
    ∃ rest, d.idsIn n = d.siteIds n ++ rest ∧ ∀ w ∈ d.workloadsIn n, d.workloadId w ∈ rest := by
  have hid : ∀ w : Workload, d.workloadId w ∈ d.project.backend.workloadIds w.kind w.name := by
    intro w
    unfold workloadId Backend.workloadIds
    split <;> exact List.mem_cons_self
  unfold idsIn
  simp only [List.append_assoc]
  refine ⟨_, rfl, fun w hw => ?_⟩
  simp only [workloadsIn, NetworkSpec.workloads, List.mem_append, List.mem_map] at hw
  simp only [List.mem_append, List.mem_flatMap]
  rcases hw with ⟨k, hk, rfl⟩ | (⟨spec, hspec, rfl⟩ | ⟨spec, hspec, rfl⟩) | ⟨spec, hspec, rfl⟩
  · exact Or.inl ⟨k, hk, hid _⟩
  · exact Or.inr (Or.inl ⟨spec, hspec, hid _⟩)
  · exact Or.inr (Or.inr (Or.inl ⟨spec, hspec, hid _⟩))
  · exact Or.inr (Or.inr (Or.inr (Or.inr (Or.inr (Or.inl ⟨spec, hspec, hid _⟩)))))

/-- A network is declared before its workloads. -/
theorem Legal.precedes_declared (h : d.Legal) {resources : List Resource}
    (hresources : (Project.of d).resources = .ok resources) (hn : n ∈ d.networks) {id : String}
    (hid : id ∈ d.siteIds n) {w : Workload} (hw : w ∈ d.workloadsIn n) :
    Provisioning.Precedes (resources.map (·.id)) id (d.workloadId w) := by
  obtain ⟨rest, hrest, hworkloads⟩ := d.exists_idsIn_eq n
  obtain ⟨before, after, hnetworks⟩ := List.append_of_mem hn
  have hinside : Provisioning.Precedes (d.idsIn n) id (d.workloadId w) :=
    hrest ▸ Provisioning.precedes_append hid (hworkloads w hw)
  rw [h.map_id_resources hresources, nodeIds, hnetworks, List.flatMap_append, List.flatMap_cons]
  exact (((hinside.append_right _).append_left _).append_left _).append_right _

/-! ## Images of compiled descriptions -/

/-- All workloads of a network in the cloud wait for what its registry waits for. -/
theorem base_bareSite_subset (hb : d.project.backend ≠ .manifest) (n : NetworkSpec)
    (kind : ResourceKind) : ((Project.of d).bareSite n).base ⊆ d.base n kind := by
  unfold base Project.bareSite
  cases hbackend : d.project.backend with
  | flat =>
    have hb' : (Project.of d).backend = .flat := hbackend
    by_cases hinfra : n.hasInfrastructure <;> simp [hb', hinfra]
  | construct =>
    have hb' : (Project.of d).backend = .construct := hbackend
    simp [hb']
  | manifest => exact absurd hbackend hb

/-- In the cloud the registry of a network is part of what the network is itself. -/
theorem registryId_mem_siteIds (hb : d.project.backend ≠ .manifest) {registry : RegistrySpec}
    (hregistry : n.registry = some registry) :
    ResourceKind.registry.nodeId registry.name ∈ d.siteIds n := by
  unfold siteIds
  cases hbackend : d.project.backend with
  | flat => simp [hregistry]
  | construct => simp [hregistry]
  | manifest => exact absurd hbackend hb

/-- Flat code makes a workload wait for a registry only where the workload lists it. -/
theorem registryId_mem_dependsOn_iff (hb : d.project.backend = .flat) {w : Workload}
    {name : String} :
    ResourceKind.registry.nodeId name ∈ (d.base n w.kind ++ d.requests w).eraseDups ↔
      ResourceKind.registry.nodeId name ∈ w.listed := by
  have hbase : ResourceKind.registry.nodeId name ∉ d.base n w.kind := by
    intro hmem
    simp only [base, hb] at hmem
    split at hmem
    · have hword := ResourceKind.firstWord_eq_of_nodeId_eq (List.mem_singleton.1 hmem)
      exact absurd hword (by decide)
    · cases hmem
  rw [List.mem_eraseDups, List.mem_append, or_iff_right hbase]
  exact nodeId_mem_requests_iff (by decide) fun t => by cases t <;> decide

/-- In the cloud the image of a container, kernel or frontend that names none is the latest of its
name at the address of its network's registry, and the registry comes before it in the order.  In
flat code this is so although it waits for the registry only where it lists it. -/
theorem image_of_compile (h : d.compile = .ok p) (hb : d.project.backend ≠ .manifest)
    (hn : n ∈ d.networks) {registry : RegistrySpec} (hregistry : n.registry = some registry)
    {w : Workload} (hw : (w, none) ∈ d.imagesIn n) :
    ∃ s r, p.get? (ResourceKind.registry.nodeId registry.name) = some s ∧
      p.get? (w.kind.nodeId w.name) = some r ∧
      (∃ c, s.config = .registry c ∧
        r.config.image? = some (c.url ++ "/" ++ w.name ++ ":latest")) ∧
      Provisioning.Precedes p.order s.id r.id ∧
      (d.project.backend = .flat → (s.id ∈ r.dependsOn ↔ s.id ∈ w.listed)) := by
  have hcompiles := compile_eq_ok_iff.1 h
  have hc := hcompiles.cluster_eq_none_iff.2 hb
  have hrun := mem_workloadsIn_of_mem_imagesIn hw
  have hself : d.workloadId w = w.kind.nodeId w.name := by rw [workloadId, if_neg hb]
  obtain ⟨s, hs, hsid, hsdepends, c, hsconfig, hurl⟩ :=
    Project.registryNode_mem_networkNodes hc hregistry
  replace hs := hcompiles.networkNodes_subset hn hs
  obtain ⟨r, hr, hrid, hrimage⟩ := hcompiles.exists_image hb hn hw
  have hdepends : r.dependsOn = (d.base n w.kind ++ d.requests w).eraseDups := by
    obtain ⟨r', hr', hid, -, hdepends⟩ := hcompiles.exists_node hn hrun
    have hsame : r' = r := List.inj_on_of_nodup_map hcompiles.nodup_ids hr' hr
      (hid.trans (hself.trans hrid.symm))
    exact hsame ▸ hdepends
  refine ⟨s, r, hsid ▸ Plan.get?_of_mem hcompiles.nodup_ids hs,
    hrid ▸ Plan.get?_of_mem hcompiles.nodup_ids hr, ⟨c, hsconfig, ?_⟩, ?_, fun hflat => ?_⟩
  · have hvalid : isValidName registry.name = true :=
      ((validate_eq_nil_iff.1 hcompiles.valid).inside n hn).registry registry hregistry
    have htrim := Project.trimSlashes_registryUrl (p := Project.of d) hb hvalid
    have hsite := Project.registryUrl_workloadSite hc n w.kind
    rw [hregistry, Option.map_some] at hsite
    rw [hrimage, hurl, Project.imageFor_none hsite htrim]
  · -- Nothing but the order of declaration brings the registry of flat code forward.
    have hdeclared := hcompiles.legal.precedes_declared hcompiles.resources_eq hn
      (registryId_mem_siteIds hb hregistry) hrun
    rw [← hsid, hself, ← hrid] at hdeclared
    refine hcompiles.isGreedyOrder.precedes_of_subset hs hr hdeclared fun id hid => ?_
    rw [hdepends, List.mem_eraseDups]
    rw [hsdepends] at hid
    exact List.mem_append_left _ (base_bareSite_subset hb n w.kind hid)
  · rw [hdepends, hsid]
    exact registryId_mem_dependsOn_iff hflat

/-- Flat code with a registry and two containers of which the first lists the second. -/
def warehouse : Description :=
  ofNetworks ⟨"shop", "us-central1", none, .flat⟩ [
    { NetworkSpec.ofContainers "main" [] with
      registry := some ⟨"images", "DOCKER"⟩
      containers := [
        { ContainerSpec.named "api" with dependsOn := ["container-worker"] },
        .named "worker"] }]

/-- The first container comes after the registry that its image is in without waiting for it. -/
theorem image_of_compile_warehouse :
    ∃ p, warehouse.compile = .ok p ∧ ∃ s r, p.get? "registry-images" = some s ∧
      p.get? "container-api" = some r ∧
      (∃ c, s.config = .registry c ∧ r.config.image? = some (c.url ++ "/" ++ "api" ++ ":latest")) ∧
      Provisioning.Precedes p.order s.id r.id ∧ s.id ∉ r.dependsOn := by
  have hsome : warehouse.compile.toOption.isSome := by decide +kernel
  cases hcompile : warehouse.compile with
  | error e =>
    rw [hcompile] at hsome
    cases hsome
  | ok p =>
    obtain ⟨s, r, hs, hr, himage, hprecedes, hlisted⟩ := image_of_compile hcompile (by decide)
      List.mem_cons_self rfl (List.mem_append_left _ (List.mem_append_right _ List.mem_cons_self))
    refine ⟨p, rfl, s, r, hs, hr, himage, hprecedes, fun hmem => ?_⟩
    rw [hlisted rfl, Plan.id_of_get? hs] at hmem
    exact absurd hmem (by decide)

end Description

end Groundwork
