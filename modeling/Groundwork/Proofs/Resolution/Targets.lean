import Groundwork.Proofs.Resolution.Links
import Groundwork.Proofs.Resolution.Requests

/-!
# What references in environments are to

Ordering refuses a plan in which a workload refers to a node that is not there.  Outside a cluster
the id of a node tells its type, so every reference is to a declaration of its own type.  In a
cluster a container and a function are both deployments, whose ids forget the type: a reference to
a container is let through if anything that runs has its name.

Main results:

- `Description.name_mem_declaredNames`: what is declared as a node of some type is declared.
- `Description.Legal.nodup_workloadNames`: in a cluster no two workloads share a name.
- `Description.target_declared_iff`: when a reference in a compiled plan is to a declaration of its
  type.
-/

namespace Groundwork

theorem ReferenceType.resourceKind_injective : Function.Injective ReferenceType.resourceKind := by
  intro s t h
  cases s <;> cases t <;> first | rfl | cases h

namespace Description

/-- The names that are declared for resources of a type. -/
def declaredNames (d : Description) : ReferenceType → List String
  | .secret => d.secrets.map (·.name)
  | .database => d.networks.flatMap fun n => n.databases.map (·.name)
  | .bucket => d.buckets.map (·.name)
  | .cache => d.networks.flatMap fun n => n.caches.map (·.name)
  | .container => d.networks.flatMap fun n => n.containers.map (·.name)
  | .function => d.networks.flatMap fun n => n.functions.map (·.name)
  | .topic => d.topics.map (·.name)
  | .queue => d.queues.map (·.name)

variable {d : Description}

/-! ## Declarations of a type -/

theorem name_mem_of_global {a : Declaration} (ha : a ∈ (Project.of d).globalDeclarations)
    {t : ReferenceType} (hkind : a.kind = t.resourceKind) : a.name ∈ d.declaredNames t := by
  simp only [Project.globalDeclarations, List.mem_append, List.mem_flatMap, List.mem_map,
    Option.mem_toList, List.mem_cons, List.not_mem_nil, or_false] at ha
  rcases ha with ((((⟨c, -, rfl | rfl⟩ | ⟨spec, -, rfl⟩) | ⟨spec, hspec, rfl⟩) |
    ⟨spec, hspec, rfl⟩) | ⟨spec, hspec, rfl⟩) | ⟨spec, hspec, rfl⟩
  · cases t <;> cases hkind
  · cases t <;> cases hkind
  · cases t <;> cases hkind
  · obtain rfl : .bucket = t := ReferenceType.resourceKind_injective hkind
    exact List.mem_map_of_mem hspec
  · obtain rfl : .secret = t := ReferenceType.resourceKind_injective hkind
    exact List.mem_map_of_mem hspec
  · obtain rfl : .topic = t := ReferenceType.resourceKind_injective hkind
    exact List.mem_map_of_mem hspec
  · obtain rfl : .queue = t := ReferenceType.resourceKind_injective hkind
    exact List.mem_map_of_mem hspec

/-- What stands for a workload is of a type that references are to only outside a cluster, where it
is declared as such. -/
theorem name_mem_of_workload {n : NetworkSpec} (hn : n ∈ d.networks) {w a : Declaration}
    (hw : w ∈ (Project.of d).workloadsOf n)
    (ha : a ∈ (Project.of d).workloadDeclarations n w.kind w.name) {t : ReferenceType}
    (hkind : a.kind = t.resourceKind) : a.name ∈ d.declaredNames t := by
  unfold Project.workloadDeclarations at ha
  split at ha
  · simp only [List.mem_cons, List.not_mem_nil, or_false] at ha
    rcases ha with rfl | rfl
    · cases t <;> cases hkind
    · cases t <;> cases hkind
  · obtain rfl := List.mem_singleton.1 ha
    simp only [Project.workloadsOf, Project.kernelWorkload, List.mem_append, List.mem_map] at hw
    rcases hw with ((⟨⟨variant, k⟩, -, rfl⟩ | ⟨spec, hspec, rfl⟩) | ⟨spec, hspec, rfl⟩) |
      ⟨spec, -, rfl⟩
    · cases variant <;> cases t <;> cases hkind
    · obtain rfl : .container = t := ReferenceType.resourceKind_injective hkind
      exact List.mem_flatMap.2 ⟨n, hn, List.mem_map_of_mem hspec⟩
    · obtain rfl : .function = t := ReferenceType.resourceKind_injective hkind
      exact List.mem_flatMap.2 ⟨n, hn, List.mem_map_of_mem hspec⟩
    · cases t <;> cases hkind

/-- What becomes a node of the kind that references of a type are to is declared as such. -/
theorem name_mem_declaredNames (hvalid : d.Valid) {a : Declaration}
    (ha : a ∈ (Project.of d).declarations) {t : ReferenceType}
    (hkind : a.kind = t.resourceKind) : a.name ∈ d.declaredNames t := by
  rcases Project.mem_declarations_iff.1 ha with hglobal | ⟨n, hn, hinside⟩ | ⟨spec, -, rfl⟩
  · exact name_mem_of_global hglobal hkind
  · rcases Project.mem_networkChunks_iff.1 hinside with
      hself | ⟨w, hw, ha⟩ | ⟨spec, hspec, rfl⟩ | ⟨spec, hspec, rfl⟩ | ⟨lb, -, rfl⟩
    · have hmem := (Project.group_networkDeclarations (p := .of d) (hvalid.inside n hn)).kind_mem a
        hself
      rw [hkind] at hmem
      exact absurd hmem (by cases t <;> decide)
    · exact name_mem_of_workload hn hw ha hkind
    · obtain rfl : .database = t := ReferenceType.resourceKind_injective hkind
      exact List.mem_flatMap.2 ⟨n, hn, List.mem_map_of_mem hspec⟩
    · obtain rfl : .cache = t := ReferenceType.resourceKind_injective hkind
      exact List.mem_flatMap.2 ⟨n, hn, List.mem_map_of_mem hspec⟩
    · unfold Project.balancerDeclaration at hkind
      split at hkind
      · cases t <;> cases hkind
      · cases t <;> cases hkind
  · cases t <;> cases hkind

/-- A node with the id of a reference is declared as the reference's type. -/
theorem Compiles.name_mem_of_id {p : Plan} (h : d.Compiles p) {t : ReferenceType} {name : String}
    (hid : t.resourceKind.nodeId name ∈ p.resources.map (·.id)) : name ∈ d.declaredNames t := by
  rw [Project.map_id_of_realizes (Project.realizes_resources h.resources_eq)] at hid
  obtain ⟨a, ha, hid⟩ := List.mem_map.1 hid
  obtain ⟨hkind, rfl⟩ := ReferenceType.nodeId_eq_iff.1 hid
  exact name_mem_declaredNames (validate_eq_nil_iff.1 h.valid) ha hkind

/-! ## Workloads by name -/

/-- The containers and functions that are declared are the workloads of their kinds. -/
theorem mem_declaredNames_iff {t : ReferenceType} (ht : t.isWorkload) {name : String} :
    name ∈ d.declaredNames t ↔
      ∃ w ∈ d.workloads, w.kind = t.resourceKind ∧ w.name = name := by
  simp only [workloads, NetworkSpec.workloads, List.mem_append, List.mem_flatMap, List.mem_map]
  constructor
  · intro hname
    have hcases : t = .container ∨ t = .function := by simpa [ReferenceType.isWorkload] using ht
    rcases hcases with rfl | rfl
    · obtain ⟨n, hn, hname⟩ := List.mem_flatMap.1 hname
      obtain ⟨spec, hspec, rfl⟩ := List.mem_map.1 hname
      exact ⟨_, Or.inl ⟨n, hn, Or.inl (Or.inl ⟨spec, hspec, rfl⟩)⟩, rfl, rfl⟩
    · obtain ⟨n, hn, hname⟩ := List.mem_flatMap.1 hname
      obtain ⟨spec, hspec, rfl⟩ := List.mem_map.1 hname
      exact ⟨_, Or.inl ⟨n, hn, Or.inl (Or.inr ⟨spec, hspec, rfl⟩)⟩, rfl, rfl⟩
  · rintro ⟨w, ⟨n, hn, (⟨spec, hspec, rfl⟩ | ⟨spec, hspec, rfl⟩) | ⟨spec, hspec, rfl⟩⟩ |
      ⟨⟨variant, k⟩, -, rfl⟩, hkind, rfl⟩
    · obtain rfl : .container = t := ReferenceType.resourceKind_injective hkind
      exact List.mem_flatMap.2 ⟨n, hn, List.mem_map_of_mem hspec⟩
    · obtain rfl : .function = t := ReferenceType.resourceKind_injective hkind
      exact List.mem_flatMap.2 ⟨n, hn, List.mem_map_of_mem hspec⟩
    · cases t <;> cases hkind
    · cases variant <;> cases t <;> cases hkind

/-- In a cluster no two workloads share a name. -/
theorem Legal.nodup_workloadNames (h : d.Legal) (hb : d.project.backend = .manifest) :
    (d.workloads.map (·.name)).Nodup := by
  have hnative := h.native_eq_none hb
  have hnames : d.workloads.map (·.name) =
      d.networks.flatMap NetworkSpec.workloadNames ++ d.hybridKernel.toList.map (·.name) := by
    have hinside : ∀ n : NetworkSpec, n.workloads.map (·.name) = n.workloadNames := by
      intro n
      simp only [NetworkSpec.workloads, NetworkSpec.workloadNames, List.map_append, List.map_map]
      rfl
    simp only [workloads, kernelVariants, hnative, List.map_append, List.map_flatMap, hinside,
      List.map_map, Option.toList_none, List.map_nil, List.nil_append]
    rfl
  rw [hnames]
  exact h.nodup_names hb

/-- A deployment in a compiled plan belongs to a workload of its name. -/
theorem Compiles.exists_workload_of_deployment {p : Plan} (h : d.Compiles p)
    (hb : d.project.backend = .manifest) {name : String}
    (hid : ResourceKind.deployment.nodeId name ∈ p.resources.map (·.id)) :
    ∃ w ∈ d.workloads, w.name = name := by
  obtain ⟨t, ht, hid⟩ := List.mem_map.1 hid
  obtain ⟨e, he, rfl⟩ := h.deployment_of_id hb ht hid
  obtain ⟨c, hc⟩ := h.legal.exists_cluster_iff.2 hb
  obtain ⟨w, service, -, hdeployed⟩ := h.deployed_of_deployment hc ht he
  exact ⟨w, h.legal.mem_workloads_iff.2 hdeployed.hasWorkload, hdeployed.name_eq⟩

/-! ## References in environments -/

/-- A reference in the environment of a workload of a compiled plan is to a declaration of its type,
except in a cluster where it is to a container or function and a workload of another kind has the
name. -/
theorem target_declared_iff {p : Plan} (h : d.compile = .ok p) {w : Workload}
    (hw : w ∈ d.workloads) {ref : Reference}
    (href : ref ∈ Reference.extract (Project.effectiveValues w.env w.secrets)) :
    ref.name ∈ d.declaredNames ref.type ↔
      (d.project.backend = .manifest → ref.type.isWorkload →
        ∀ other ∈ d.workloads, other.name = ref.name → other.kind = ref.type.resourceKind) := by
  have hcompiles := compile_eq_ok_iff.1 h
  have htarget : d.targetId ref ∈ p.resources.map (·.id) := by
    refine hcompiles.mem_ids_of_mem_requests hw ?_
    exact List.mem_append_left _ (List.mem_append_left _ (List.mem_map_of_mem href))
  unfold targetId at htarget
  split at htarget <;> rename_i hcluster
  · obtain ⟨hb, hworkload⟩ := hcluster
    rw [mem_declaredNames_iff hworkload]
    constructor
    · rintro ⟨target, hmem, hkind, hname⟩ - - other hother hsame
      rw [List.inj_on_of_nodup_map (hcompiles.legal.nodup_workloadNames hb) hother hmem
        (hsame.trans hname.symm)]
      exact hkind
    · intro hkinds
      obtain ⟨target, hmem, hname⟩ := hcompiles.exists_workload_of_deployment hb htarget
      exact ⟨target, hmem, hkinds hb hworkload target hmem hname, hname⟩
  · rw [ref.resourceId_eq_nodeId] at htarget
    refine iff_of_true (hcompiles.name_mem_of_id htarget) ?_
    exact fun hb hworkload => absurd ⟨hb, hworkload⟩ hcluster

/-- The container that `checkout` refers to is declared, since nothing else has its name. -/
theorem target_declared_iff_checkout :
    ∃ p, checkout.compile = .ok p ∧ ∃ w ∈ checkout.workloads,
      ⟨.container, "worker", none⟩ ∈
          Reference.extract (Project.effectiveValues w.env w.secrets) ∧
        "worker" ∈ checkout.declaredNames .container := by
  have hsome : checkout.compile.toOption.isSome := by decide +kernel
  cases hcompile : checkout.compile with
  | error e =>
    rw [hcompile] at hsome
    cases hsome
  | ok p =>
    have hw : _ ∈ checkout.workloads := List.mem_cons_self
    have href : ⟨.container, "worker", none⟩ ∈ Reference.extract (Project.effectiveValues
        (.ofList [("WORKER", "@container/worker"), ("TOKEN", "@secret/token")]) ∅) := by
      decide +kernel
    exact ⟨p, rfl, _, hw, href, (target_declared_iff hcompile hw href).2 (by decide +kernel)⟩

/-- A cluster in which a container refers to a container under the name of a function. -/
def webhook : Description :=
  { inCluster [] with
    networks := [
      { NetworkSpec.ofContainers "main" [] with
        containers := [
          { ContainerSpec.named "web" with env := .ofList [("HOOK", "@container/hook")] }]
        functions := [.named "hook"] }] }

/-- It compiles, although there is no such container. -/
theorem webhook_undeclared :
    (∃ p, webhook.compile = .ok p) ∧ ∃ w ∈ webhook.workloads,
      ⟨.container, "hook", none⟩ ∈
          Reference.extract (Project.effectiveValues w.env w.secrets) ∧
        "hook" ∉ webhook.declaredNames .container := by
  have hsome : webhook.compile.toOption.isSome := by decide +kernel
  refine ⟨?_, .ofContainer _, List.mem_cons_self, by decide +kernel, by decide +kernel⟩
  cases hcompile : webhook.compile with
  | error e =>
    rw [hcompile] at hsome
    cases hsome
  | ok p => exact ⟨p, rfl⟩

end Description

end Groundwork
