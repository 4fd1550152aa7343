import Groundwork.Proofs.Resolution.Distinct

/-!
# What the rules of a backend demand

A backend refuses features that it has no counterpart for, and then checks its rules one after the
other.  Together they come to a list of demands on the description, which is read off here for each
backend.  The last rule for a cluster is that no two workloads share a name; where only it is
broken, the first workload with a name that was there before is reported.

Main definitions:

- `Description.FitsFlat`, `Description.FitsConstruct`, `Description.FitsCluster`: what each backend
  demands, in a cluster but for the names of the workloads.
- `Legality.FirstShared`: the first entry with a name that was there before.

Main results:

- `Legality.firstShared?_eq_some_iff`: the shared name that is reported.
- `Backend.flat_checkLegality_iff`, `Backend.construct_checkLegality_iff`,
  `Backend.manifest_checkLegality_iff`: the descriptions that a backend can express.
- `Description.FitsCluster.checkLegality_eq_error_iff`: what is reported where names are shared.
-/

namespace Groundwork

/-! ## Shared names -/

namespace Legality

variable {entries seen : List (String × String)} {first second name : String}

/-- The second entry is the first whose name was there before, and the first one has that name: of
the entries before the second no two share a name. -/
def FirstShared (entries : List (String × String)) (first second name : String) : Prop :=
  ∃ before after, entries = before ++ (second, name) :: after ∧
    (before.map (·.2)).Nodup ∧ (first, name) ∈ before

/-- What is reported after some entries with distinct names is an entry whose name was there before,
and the bearer of that name. -/
theorem exists_of_firstShared?_eq_some {v : Violation} (hseen : (seen.map (·.2)).Nodup)
    (h : firstShared? seen entries = some v) :
    ∃ first second name, v = .sharedName first second name ∧
      ∃ before after, entries = before ++ (second, name) :: after ∧
        ((seen ++ before).map (·.2)).Nodup ∧ (first, name) ∈ seen ++ before := by
  induction entries generalizing seen with
  | nil => cases h
  | cons entry rest ih =>
    obtain ⟨words, name⟩ := entry
    rw [firstShared?] at h
    cases hfind : seen.find? (fun earlier => decide (earlier.2 = name)) with
    | some earlier =>
      obtain ⟨bearer, name'⟩ := earlier
      obtain rfl : name' = name := by simpa using List.find?_some hfind
      have hbearer : (bearer, name') ∈ seen := List.mem_of_find?_eq_some hfind
      rw [hfind] at h
      cases h
      exact ⟨bearer, words, name', rfl, [], rest, rfl, by rwa [List.append_nil],
        by rwa [List.append_nil]⟩
    | none =>
      have hfresh : name ∉ seen.map (·.2) := by
        intro hmem
        obtain ⟨earlier, hearlier, heq⟩ := List.mem_map.1 hmem
        exact List.find?_eq_none.1 hfind earlier hearlier (decide_eq_true heq)
      have hnodup : ((seen ++ [(words, name)]).map (·.2)).Nodup := by
        rw [List.map_append]
        exact hseen.append (List.nodup_singleton _) (by simpa using hfresh)
      rw [hfind] at h
      obtain ⟨first, second, shared, hv, before, after, rfl, hbefore, hfirst⟩ := ih hnodup h
      rw [List.append_assoc, List.singleton_append] at hbefore hfirst
      exact ⟨first, second, shared, hv, (words, name) :: before, after, rfl, hbefore, hfirst⟩

/-- Where the names before an entry are distinct, no entry before it has a name from before. -/
theorem FirstShared.length_le {before after before' after' : List (String × String)}
    {entry : String × String} (heq : before ++ (second, name) :: after = before' ++ entry :: after')
    (hfirst : (first, name) ∈ before) (hnodup : (before'.map (·.2)).Nodup) :
    before'.length ≤ before.length := by
  by_contra hlonger
  have hentry : before ++ [(second, name)] <+: before ++ (second, name) :: after :=
    ⟨after, by simp⟩
  have hbefore : before' <+: before ++ (second, name) :: after := ⟨entry :: after', heq.symm⟩
  have hlength : (before ++ [(second, name)]).length ≤ before'.length := by
    rw [List.length_append, List.length_singleton]
    omega
  obtain ⟨rest, hrest⟩ := List.prefix_of_prefix_length_le hentry hbefore hlength
  rw [← hrest, List.map_append, List.map_append, List.append_assoc, List.nodup_append] at hnodup
  exact hnodup.2.2 name (List.mem_map_of_mem hfirst) name (by simp) rfl

/-- There is at most one such entry. -/
theorem FirstShared.unique {first' second' name' : String}
    (h : FirstShared entries first second name) (h' : FirstShared entries first' second' name') :
    first = first' ∧ second = second' ∧ name = name' := by
  obtain ⟨before, after, rfl, hnodup, hfirst⟩ := h
  obtain ⟨before', after', heq, hnodup', hfirst'⟩ := h'
  have hlength : before.length = before'.length :=
    le_antisymm (FirstShared.length_le heq.symm hfirst' hnodup)
      (FirstShared.length_le heq hfirst hnodup')
  obtain ⟨rfl, hrest⟩ := List.append_inj heq hlength
  obtain ⟨hentry, -⟩ := List.cons.inj hrest
  obtain ⟨rfl, rfl⟩ := Prod.mk.inj hentry
  have hbearer := List.inj_on_of_nodup_map hnodup hfirst hfirst' rfl
  exact ⟨congrArg Prod.fst hbearer, rfl, rfl⟩

theorem firstShared?_eq_some_iff {v : Violation} :
    firstShared? [] entries = some v ↔
      ∃ first second name, v = .sharedName first second name ∧
        FirstShared entries first second name := by
  constructor
  · intro h
    obtain ⟨first, second, name, hv, before, after, heq, hnodup, hfirst⟩ :=
      exists_of_firstShared?_eq_some (by simp) h
    exact ⟨first, second, name, hv, before, after, heq, hnodup, hfirst⟩
  · rintro ⟨first, second, name, rfl, hshared⟩
    cases hreported : firstShared? [] entries with
    | none =>
      obtain ⟨before, after, rfl, -, hfirst⟩ := hshared
      have hnodup := (firstShared?_eq_none_iff.1 hreported).1
      rw [List.map_append, List.nodup_append] at hnodup
      exact absurd rfl (hnodup.2.2 name (List.mem_map_of_mem hfirst) name (by simp))
    | some v =>
      obtain ⟨first', second', name', rfl, hshared'⟩ :=
        exists_of_firstShared?_eq_some (by simp) hreported
      obtain ⟨rfl, rfl, rfl⟩ := hshared.unique hshared'
      rfl

end Legality

/-! ## Single features and rules -/

/-- A description does without a feature. -/
def Feature.Absent (d : Description) : Feature → Prop
  | databases => ∀ n ∈ d.networks, n.databases = []
  | caches => ∀ n ∈ d.networks, n.caches = []
  | crons => d.crons = []
  | kernel => d.kernel = none
  | hybridKernel => d.hybridKernel = none
  | uis => ∀ n ∈ d.networks, n.uis = []

/-- A description keeps a rule. -/
def Requirement.Kept (d : Description) : Requirement → Prop
  | network => d.networks ≠ []
  | workload =>
    (∃ n ∈ d.networks, n.containers ≠ [] ∨ n.functions ≠ [] ∨ n.uis ≠ []) ∨
      d.kernel ≠ none ∨ d.hybridKernel ≠ none
  | exclusiveKernels => d.kernel = none ∨ d.hybridKernel = none
  | proxyHttps =>
    ∀ n ∈ d.networks, ∀ lb, n.loadBalancer = some lb → ∀ iap, lb.iap = some iap →
      iap.enabled = true → lb.https = true ∧ ∃ domain, lb.domain = some domain
  | namespaceName => ∃ k name, d.kubernetes = some k ∧ k.namespaceName = some name
  | imageRegistry => ∃ k registry, d.kubernetes = some k ∧ k.registry = some registry
  | kernelNetwork => d.kernel = none ∧ d.hybridKernel = none ∨ d.networks ≠ []
  | distinctWorkloads =>
    (d.networks.flatMap NetworkSpec.workloadNames ++ d.hybridKernel.toList.map (·.name)).Nodup

namespace Legality

variable {d : Description}

/-- A feature is not used exactly if it is absent. -/
theorem isIn_eq_false_iff {f : Feature} : f.isIn d = false ↔ f.Absent d := by
  cases f <;> simp [Feature.isIn, Feature.Absent]

/-- No proxy checks users without HTTPS. -/
theorem hasOpenProxy_eq_false_iff {n : NetworkSpec} :
    hasOpenProxy n = false ↔
      ∀ lb, n.loadBalancer = some lb → ∀ iap, lb.iap = some iap →
        iap.enabled = true → lb.https = true ∧ ∃ domain, lb.domain = some domain := by
  rw [hasOpenProxy]
  cases n.loadBalancer with
  | none => simp
  | some lb =>
    cases hiap : lb.iap with
    | none => simp [hiap]
    | some iap =>
      cases hdomain : lb.domain <;> simp [hiap, hdomain]

/-- A rule is kept exactly if no violation of it is found. -/
theorem violation?_eq_none_iff {q : Requirement} : violation? d q = none ↔ q.Kept d := by
  cases q with
  | network => simp [violation?, Requirement.Kept]
  | workload =>
    cases hnative : d.kernel <;> cases hhybrid : d.hybridKernel <;>
      simp [violation?, Requirement.Kept, Description.hasWorkload, Description.kernels, hnative,
        hhybrid, NetworkSpec.hasWorkload, or_iff_not_imp_left]
  | exclusiveKernels =>
    cases hnative : d.kernel <;> cases hhybrid : d.hybridKernel <;>
      simp [violation?, Requirement.Kept, hnative, hhybrid]
  | proxyHttps => simp [violation?, Requirement.Kept, hasOpenProxy_eq_false_iff]
  | namespaceName =>
    cases hk : d.kubernetes with
    | none => simp [violation?, Requirement.Kept, hk]
    | some k => cases hname : k.namespaceName <;> simp [violation?, Requirement.Kept, hk, hname]
  | imageRegistry =>
    cases hk : d.kubernetes with
    | none => simp [violation?, Requirement.Kept, hk]
    | some k => cases hname : k.registry <;> simp [violation?, Requirement.Kept, hk, hname]
  | kernelNetwork =>
    cases hnative : d.kernel <;> cases hhybrid : d.hybridKernel <;>
      simp [violation?, Requirement.Kept, Description.kernels, hnative, hhybrid]
  | distinctWorkloads =>
    rw [violation?, firstShared?_eq_none_iff, Requirement.Kept, ← map_snd_workloads]
    simp

end Legality

namespace Backend

variable {b : Backend} {d : Description}

/-- A backend accepts a description exactly if that does without all that the backend lacks, and
keeps its rules. -/
theorem checkLegality_eq_ok_iff_kept :
    b.checkLegality d = .ok () ↔
      (∀ entry ∈ b.unsupported, entry.1.Absent d) ∧ ∀ q ∈ b.requirements, q.Kept d := by
  simp only [checkLegality_eq_ok_iff, Legality.isIn_eq_false_iff, Legality.violation?_eq_none_iff]

end Backend

/-! ## What each backend demands -/

namespace Description

/-- What flat code demands: no kernels and no frontends. -/
structure FitsFlat (d : Description) : Prop where
  kernel : Feature.kernel.Absent d
  hybridKernel : Feature.hybridKernel.Absent d
  uis : Feature.uis.Absent d

/-- What constructs demand: neither databases nor caches nor scheduled jobs, a network, something to
run, one kernel at most, and HTTPS with a domain wherever a proxy checks users. -/
structure FitsConstruct (d : Description) : Prop where
  databases : Feature.databases.Absent d
  caches : Feature.caches.Absent d
  crons : Feature.crons.Absent d
  network : Requirement.network.Kept d
  workload : Requirement.workload.Kept d
  exclusiveKernels : Requirement.exclusiveKernels.Kept d
  proxyHttps : Requirement.proxyHttps.Kept d

/-- What a cluster demands, but for the names of workloads: neither a native kernel nor scheduled
jobs, a namespace and a registry, and a network for a hybrid kernel. -/
structure FitsCluster (d : Description) : Prop where
  kernel : Feature.kernel.Absent d
  crons : Feature.crons.Absent d
  namespaceName : Requirement.namespaceName.Kept d
  imageRegistry : Requirement.imageRegistry.Kept d
  kernelNetwork : d.hybridKernel = none ∨ d.networks ≠ []

end Description

namespace Backend

variable {d : Description}

/-- What is legal for the flat backend. -/
theorem flat_checkLegality_iff : flat.checkLegality d = .ok () ↔ d.FitsFlat := by
  simp only [checkLegality_eq_ok_iff_kept, unsupported, requirements, List.forall_mem_cons]
  constructor
  · rintro ⟨⟨hkernel, hhybrid, huis, -⟩, -⟩
    exact ⟨hkernel, hhybrid, huis⟩
  · intro h
    exact ⟨⟨h.kernel, h.hybridKernel, h.uis, by simp⟩, Or.inl h.kernel, by simp⟩

/-- What is legal for stacks. -/
theorem construct_checkLegality_iff : construct.checkLegality d = .ok () ↔ d.FitsConstruct := by
  simp only [checkLegality_eq_ok_iff_kept, unsupported, requirements, List.forall_mem_cons]
  constructor
  · rintro ⟨⟨hdatabases, hcaches, hcrons, -⟩, hnetwork, hworkload, hkernels, hproxy, -⟩
    exact ⟨hdatabases, hcaches, hcrons, hnetwork, hworkload, hkernels, hproxy⟩
  · intro h
    exact ⟨⟨h.databases, h.caches, h.crons, by simp⟩, h.network, h.workload, h.exclusiveKernels,
      h.proxyHttps, by simp⟩

/-- What is legal for clusters. -/
theorem manifest_checkLegality_iff :
    manifest.checkLegality d = .ok () ↔
      d.FitsCluster ∧ Requirement.distinctWorkloads.Kept d := by
  simp only [checkLegality_eq_ok_iff_kept, unsupported, requirements, List.forall_mem_cons]
  constructor
  · rintro ⟨⟨hkernel, hcrons, -⟩, hnamespace, hregistry, -, hnetwork, hnames, -⟩
    exact ⟨⟨hkernel, hcrons, hnamespace, hregistry, hnetwork.imp_left And.right⟩, hnames⟩
  · rintro ⟨h, hnames⟩
    exact ⟨⟨h.kernel, h.crons, by simp⟩, h.namespaceName, h.imageRegistry, Or.inl h.kernel,
      h.kernelNetwork.imp_left fun hhybrid => ⟨h.kernel, hhybrid⟩, hnames, by simp⟩

end Backend

/-- Where a cluster is refused for the names of its workloads only, the first workload with a name
that was there before is reported. -/
theorem Description.FitsCluster.checkLegality_eq_error_iff {d : Description} (h : d.FitsCluster)
    {e : CompileError} :
    Backend.manifest.checkLegality d = .error e ↔
      ∃ first second name, e = .invalid .manifest (.sharedName first second name) ∧
        Legality.FirstShared (Legality.workloads d) first second name := by
  have hfeatures : (Backend.manifest.unsupported.find? fun entry => entry.1.isIn d) = none := by
    simp [Backend.unsupported, Legality.isIn_eq_false_iff.2 h.kernel,
      Legality.isIn_eq_false_iff.2 h.crons]
  have hkernelNetwork : Requirement.kernelNetwork.Kept d :=
    h.kernelNetwork.imp_left fun hhybrid => ⟨h.kernel, hhybrid⟩
  have hrules : Backend.manifest.requirements.findSome? (Legality.violation? d) =
      Legality.firstShared? [] (Legality.workloads d) := by
    simp only [Backend.requirements, List.findSome?_cons, List.findSome?_nil,
      Legality.violation?_eq_none_iff.2 h.namespaceName,
      Legality.violation?_eq_none_iff.2 h.imageRegistry,
      Legality.violation?_eq_none_iff.2
        (show Requirement.exclusiveKernels.Kept d from Or.inl h.kernel),
      Legality.violation?_eq_none_iff.2 hkernelNetwork]
    rw [Legality.violation?]
    cases Legality.firstShared? [] (Legality.workloads d) <;> rfl
  rw [Backend.checkLegality, hfeatures, hrules]
  cases hshared : Legality.firstShared? [] (Legality.workloads d) with
  | none =>
    simp only [reduceCtorEq, false_iff]
    rintro ⟨first, second, name, -, hfirst⟩
    rw [Legality.firstShared?_eq_some_iff.2 ⟨first, second, name, rfl, hfirst⟩] at hshared
    cases hshared
  | some v =>
    obtain ⟨first, second, name, rfl, hfirst⟩ := Legality.firstShared?_eq_some_iff.1 hshared
    constructor
    · intro he
      cases he
      exact ⟨first, second, name, rfl, hfirst⟩
    · rintro ⟨first', second', name', rfl, hfirst'⟩
      obtain ⟨rfl, rfl, rfl⟩ := hfirst.unique hfirst'
      rfl

end Groundwork
