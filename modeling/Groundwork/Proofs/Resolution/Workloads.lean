import Groundwork.Proofs.Description.Validation
import Groundwork.Proofs.Resolution.Declarations
import Groundwork.Proofs.Resolution.Holders

/-!
# The workloads of a description

A network runs its containers, functions and frontends, and the kernel if it lives there.  Each of
these workloads is resolved by one step of its network, at the site of the network: the kernel
before it is among what workloads wait for, all others after that.

Main results:

- `Description.Legal.exists_workloadsIn`: every workload of a description runs in a network.
- `Description.Legal.exists_step`: every workload of a network is resolved by a step of it.
- `Description.Compiles.exists_resolves`: a plan has what every workload becomes.
-/

namespace Groundwork

/-! ## Workloads by network -/

/-- The containers, functions and frontends of a network. -/
def NetworkSpec.workloads (n : NetworkSpec) : List Workload :=
  n.containers.map .ofContainer ++ n.functions.map .ofFunction ++ n.uis.map .ofUi

namespace Description

variable (d : Description)

/-- The declared kernels with their variants. -/
def kernelVariants : List (KernelVariant × KernelSpec) :=
  d.kernel.toList.map (.native, ·) ++ d.hybridKernel.toList.map (.hybrid, ·)

/-- Whether a kernel lives in a network: the kernel names the network, or it names none and the
network is the first. -/
def hosts (n : NetworkSpec) (k : KernelSpec) : Bool :=
  (k.network <|> d.networks.head?.map (·.name)) = some n.name

/-- The kernels that live in a network. -/
def kernelsIn (n : NetworkSpec) : List (KernelVariant × KernelSpec) :=
  d.kernelVariants.filter fun k => d.hosts n k.2

/-- The workloads that a network runs. -/
def workloadsIn (n : NetworkSpec) : List Workload :=
  (d.kernelsIn n).map (fun k => .ofKernel k.1 k.2) ++ n.workloads

/-- All workloads that are declared. -/
def workloads : List Workload :=
  d.networks.flatMap (·.workloads) ++ d.kernelVariants.map fun k => .ofKernel k.1 k.2

variable {d}

/-! ## Kernels -/

theorem map_snd_kernelVariants (d : Description) : d.kernelVariants.map (·.2) = d.kernels := by
  simp [kernelVariants, kernels, Function.comp_def]

/-- A legal description has one kernel at most. -/
theorem Legal.kernelVariants_eq (h : d.Legal) :
    d.kernelVariants = (Project.of d).kernel?.toList := by
  have hexclusive : ¬ (d.kernel.isSome ∧ d.hybridKernel.isSome) := by
    have hrule := h.violation?_eq_none (q := .exclusiveKernels)
      (by cases d.project.backend <;> decide)
    simpa [Legality.violation?] using hrule
  unfold kernelVariants Project.kernel?
  cases hnative : d.kernel with
  | none => cases hhybrid : d.hybridKernel <;> simp [Project.of, hnative, hhybrid]
  | some k =>
    have hhybrid : d.hybridKernel = none := by simpa [hnative] using hexclusive
    simp [Project.of, hnative, hhybrid]

/-- The network of the kernel is the one that hosts it. -/
theorem kernelNetwork?_eq_some_iff {k : KernelVariant × KernelSpec}
    (hk : (Project.of d).kernel? = some k) {n : NetworkSpec} :
    (Project.of d).kernelNetwork? = some n.name ↔ d.hosts n k.2 = true := by
  rw [Project.kernelNetwork?, hk]
  exact decide_eq_true_iff.symm

/-- The kernel of a network is the one that lives in it. -/
theorem Legal.kernelsIn_eq (h : d.Legal) (n : NetworkSpec) :
    d.kernelsIn n = ((Project.of d).kernelOf? n).toList := by
  rw [kernelsIn, h.kernelVariants_eq, Project.kernelOf?]
  cases hk : (Project.of d).kernel? with
  | none => simp
  | some k =>
    by_cases hhost : d.hosts n k.2 = true
    · rw [if_pos ((kernelNetwork?_eq_some_iff hk).2 hhost)]
      simp [hhost]
    · rw [if_neg (mt (kernelNetwork?_eq_some_iff hk).1 hhost)]
      simp [hhost]

/-- A legal description with a kernel has a network. -/
theorem Legal.networks_ne_nil (h : d.Legal) {k : KernelSpec} (hk : k ∈ d.kernels) :
    d.networks ≠ [] := by
  intro hnone
  cases hb : d.project.backend with
  | flat =>
    obtain ⟨hnative, hhybrid⟩ := h.kernel_eq_none hb
    simp [kernels, hnative, hhybrid] at hk
  | construct =>
    have hrule := h.violation?_eq_none (q := .network) (by rw [hb]; exact List.mem_cons_self)
    simp [Legality.violation?, hnone] at hrule
  | manifest =>
    have hrule := h.violation?_eq_none (q := .kernelNetwork) (by rw [hb]; decide)
    simp [Legality.violation?, hnone, List.ne_nil_of_mem hk] at hrule

/-- A kernel of a valid and legal description lives in one of its networks. -/
theorem Legal.exists_kernelsIn (h : d.Legal) (hvalid : d.Valid)
    {k : KernelVariant × KernelSpec} (hk : k ∈ d.kernelVariants) :
    ∃ n ∈ d.networks, k ∈ d.kernelsIn n := by
  have hmem : k.2 ∈ d.kernels := d.map_snd_kernelVariants ▸ List.mem_map_of_mem hk
  have hhost : ∃ n ∈ d.networks, d.hosts n k.2 = true := by
    unfold hosts
    cases hnetwork : k.2.network with
    | some network =>
      obtain ⟨n, hn, rfl⟩ := (hvalid.kernels k.2 hmem).2 network hnetwork
      exact ⟨n, hn, decide_eq_true rfl⟩
    | none =>
      cases hnetworks : d.networks with
      | nil => exact absurd hnetworks (h.networks_ne_nil hmem)
      | cons n rest => exact ⟨n, List.mem_cons_self, decide_eq_true rfl⟩
  obtain ⟨n, hn, hhost⟩ := hhost
  exact ⟨n, hn, List.mem_filter.2 ⟨hk, hhost⟩⟩

/-! ## Workloads -/

/-- The workloads that are declared are those that a project has. -/
theorem Legal.mem_workloads_iff (h : d.Legal) {w : Workload} :
    w ∈ d.workloads ↔ (Project.of d).HasWorkload w := by
  simp only [workloads, NetworkSpec.workloads, h.kernelVariants_eq, List.mem_append,
    List.mem_flatMap, List.mem_map, Option.mem_toList]
  constructor
  · rintro (⟨n, hn, (⟨spec, hspec, rfl⟩ | ⟨spec, hspec, rfl⟩) | ⟨spec, hspec, rfl⟩⟩ |
      ⟨k, hk, rfl⟩)
    · exact .container hn hspec
    · exact .function hn hspec
    · exact .ui hn hspec
    · exact .kernel hk
  · intro hw
    cases hw with
    | container hn hspec => exact Or.inl ⟨_, hn, Or.inl (Or.inl ⟨_, hspec, rfl⟩)⟩
    | function hn hspec => exact Or.inl ⟨_, hn, Or.inl (Or.inr ⟨_, hspec, rfl⟩)⟩
    | ui hn hspec => exact Or.inl ⟨_, hn, Or.inr ⟨_, hspec, rfl⟩⟩
    | kernel hspec => exact Or.inr ⟨_, hspec, rfl⟩

/-- Every workload of a valid and legal description runs in a network. -/
theorem Legal.exists_workloadsIn (h : d.Legal) (hvalid : d.Valid) {w : Workload}
    (hw : w ∈ d.workloads) : ∃ n ∈ d.networks, w ∈ d.workloadsIn n := by
  rcases List.mem_append.1 hw with hw | hw
  · obtain ⟨n, hn, hw⟩ := List.mem_flatMap.1 hw
    exact ⟨n, hn, List.mem_append_right _ hw⟩
  · obtain ⟨k, hk, rfl⟩ := List.mem_map.1 hw
    obtain ⟨n, hn, hkn⟩ := h.exists_kernelsIn hvalid hk
    exact ⟨n, hn, List.mem_append_left _ (List.mem_map_of_mem hkn)⟩

/-- What a network runs is declared. -/
theorem mem_workloads_of_mem_workloadsIn {n : NetworkSpec} (hn : n ∈ d.networks) {w : Workload}
    (hw : w ∈ d.workloadsIn n) : w ∈ d.workloads := by
  rcases List.mem_append.1 hw with hw | hw
  · obtain ⟨k, hk, rfl⟩ := List.mem_map.1 hw
    exact List.mem_append_right _ (List.mem_map_of_mem (List.mem_of_mem_filter hk))
  · exact List.mem_append_left _ (List.mem_flatMap.2 ⟨n, hn, hw⟩)

end Description

/-! ## Steps -/

/-- Whether nodes of the kind are kernels. -/
def ResourceKind.isKernel : ResourceKind → Bool
  | .kernel | .hybridKernel => true
  | _ => false

/-- Where the workloads of a kind are put in a network; only the kernel does not wait for the
kernel. -/
def Project.workloadSite (p : Project) (n : NetworkSpec) (kind : ResourceKind) : Site :=
  if kind.isKernel then p.site n else p.siteWithKernel (p.site n)

theorem Project.spec_workloadSite {p : Project} (n : NetworkSpec) (kind : ResourceKind) :
    (p.workloadSite n kind).spec = n := by
  unfold workloadSite
  split
  · exact spec_site n
  · exact spec_siteWithKernel_site n

/-- Outside a cluster the site of a network is what its backend makes of the network, but for what
workloads wait for. -/
theorem Project.exists_workloadSite_eq {p : Project} (hc : p.cluster = none) (n : NetworkSpec)
    (kind : ResourceKind) :
    ∃ base, p.workloadSite n kind = { p.bareSite n with base := base } := by
  obtain ⟨base, hsite⟩ : ∃ base, p.site n = { p.bareSite n with base := base } := by
    simp only [site, hc]
    split
    · exact ⟨_, rfl⟩
    · exact ⟨_, rfl⟩
  unfold workloadSite siteWithKernel
  rw [hsite]
  split
  · exact ⟨_, rfl⟩
  · split
    · exact ⟨_, rfl⟩
    · exact ⟨_, rfl⟩

namespace Project

variable {p : Project} {n : NetworkSpec}

/-- Kernels are put where nothing waits for the kernel. -/
theorem workloadSite_kernel (n : NetworkSpec) (variant : KernelVariant) :
    p.workloadSite n variant.resourceKind = p.site n := by
  cases variant <;> rfl

theorem workloadSite_of_not_isKernel (n : NetworkSpec) {k : ResourceKind}
    (hk : k.isKernel = false) : p.workloadSite n k = p.siteWithKernel (p.site n) := by
  rw [workloadSite, hk]
  rfl

theorem kernelNodes_mem_networkSteps {variant : KernelVariant} {spec : KernelSpec}
    (hspec : p.kernelOf? n = some (variant, spec)) :
    p.kernelNodes (p.workloadSite n variant.resourceKind) variant spec ∈ p.networkSteps n := by
  rw [workloadSite_kernel]
  simp only [networkSteps, List.mem_append]
  exact Or.inl (Or.inl (Or.inl (Or.inl (Or.inl (Or.inl (Or.inr
    (List.mem_map_of_mem (Option.mem_toList.2 hspec))))))))

theorem containerNodes_mem_networkSteps {spec : ContainerSpec} (hspec : spec ∈ n.containers) :
    p.containerNodes (p.workloadSite n .container) spec ∈ p.networkSteps n := by
  rw [workloadSite_of_not_isKernel n rfl]
  simp only [networkSteps, List.mem_append]
  exact Or.inl (Or.inl (Or.inl (Or.inl (Or.inl (Or.inr (List.mem_map_of_mem hspec))))))

theorem functionNodes_mem_networkSteps {spec : FunctionSpec} (hspec : spec ∈ n.functions) :
    p.functionNodes (p.workloadSite n .function) spec ∈ p.networkSteps n := by
  rw [workloadSite_of_not_isKernel n rfl]
  simp only [networkSteps, List.mem_append]
  exact Or.inl (Or.inl (Or.inl (Or.inl (Or.inr (List.mem_map_of_mem hspec)))))

theorem uiNodes_mem_networkSteps {spec : UiSpec} (hspec : spec ∈ n.uis) :
    p.uiNodes (p.workloadSite n .ui) spec ∈ p.networkSteps n := by
  rw [workloadSite_of_not_isKernel n rfl]
  simp only [networkSteps, List.mem_append]
  exact Or.inl (Or.inr (List.mem_map_of_mem hspec))

end Project

namespace Description

variable {d : Description}

/-- Every workload of a network is resolved by a step of it. -/
theorem Legal.exists_step (h : d.Legal) {n : NetworkSpec} {w : Workload}
    (hw : w ∈ d.workloadsIn n) :
    ∃ step ∈ (Project.of d).networkSteps n, ∀ nodes, step = .ok nodes →
      (Project.of d).Resolves ((Project.of d).workloadSite n w.kind) w nodes := by
  simp only [workloadsIn, NetworkSpec.workloads, h.kernelsIn_eq, List.mem_append, List.mem_map,
    Option.mem_toList] at hw
  rcases hw with ⟨⟨variant, k⟩, hk, rfl⟩ |
    (⟨spec, hspec, rfl⟩ | ⟨spec, hspec, rfl⟩) | ⟨spec, hspec, rfl⟩
  · exact ⟨_, Project.kernelNodes_mem_networkSteps hk,
      fun nodes hnodes => Project.kernelNodes_resolves hnodes⟩
  · exact ⟨_, Project.containerNodes_mem_networkSteps hspec,
      fun nodes hnodes => Project.containerNodes_resolves hnodes⟩
  · exact ⟨_, Project.functionNodes_mem_networkSteps hspec,
      fun nodes hnodes => Project.functionNodes_resolves hnodes⟩
  · exact ⟨_, Project.uiNodes_mem_networkSteps hspec,
      fun nodes hnodes => Project.uiNodes_resolves hnodes⟩

/-- A plan has the nodes that a workload of a network becomes. -/
theorem Compiles.exists_resolves {p : Plan} (h : d.Compiles p) {n : NetworkSpec}
    (hn : n ∈ d.networks) {w : Workload} (hw : w ∈ d.workloadsIn n) :
    ∃ nodes ⊆ p.resources,
      (Project.of d).Resolves ((Project.of d).workloadSite n w.kind) w nodes := by
  obtain ⟨step, hstep, hresolves⟩ := h.legal.exists_step hw
  obtain ⟨nodes, hnodes, hsubset⟩ := Project.step_of_resources_eq_ok h.resources_eq
    (Project.mem_steps_of_mem_networkSteps hn hstep)
  exact ⟨nodes, hsubset, hresolves nodes hnodes⟩

end Description

end Groundwork
