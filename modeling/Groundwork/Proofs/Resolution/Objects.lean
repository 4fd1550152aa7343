import Groundwork.Proofs.Naming.Label
import Groundwork.Proofs.Resolution.Cluster
import Mathlib.Data.List.Nodup

/-!
# Objects of a cluster

The deployments and services of a cluster are named by the labels of their workloads.  Legality
keeps the names of workloads apart and not their labels, so objects are distinct, and services
select one deployment each, exactly if no two names of workloads meet in a label.

Main results:

- `Plan.distinctObjects_iff`: when no workload takes the place of another.
-/

namespace Groundwork

namespace ResourceConfig

/-- The settings of a deployment. -/
def deployment? : ResourceConfig → Option DeploymentConfig
  | deployment c => some c
  | _ => none

/-- The settings of a service. -/
def service? : ResourceConfig → Option ServiceConfig
  | service c => some c
  | _ => none

end ResourceConfig

/-- A service selects the pods of the deployments in its namespace that are labelled with its
selector; a deployment labels its pods with its name. -/
def ServiceConfig.Selects (s : ServiceConfig) (e : DeploymentConfig) : Prop :=
  e.namespaceName = s.namespaceName ∧ e.deploymentName = s.selector

instance (s : ServiceConfig) (e : DeploymentConfig) : Decidable (s.Selects e) :=
  inferInstanceAs (Decidable (_ ∧ _))

theorem ResourceConfig.deployment?_eq_some_iff {config : ResourceConfig} {e : DeploymentConfig} :
    config.deployment? = some e ↔ config = .deployment e := by
  cases config <;> simp [deployment?]

theorem ResourceConfig.service?_eq_some_iff {config : ResourceConfig} {s : ServiceConfig} :
    config.service? = some s ↔ config = .service s := by
  cases config <;> simp [service?]

/-- Entries that are taken out of a list and mapped are those of its filtered entries. -/
theorem map_filterMap_eq {α β γ : Type} {l : List α} {f : α → Option β} {p : α → Bool}
    {g : β → γ} {k : α → γ} (h : ∀ a ∈ l, (f a).map g = if p a then some (k a) else none) :
    (l.filterMap f).map g = (l.filter p).map k := by
  rw [List.map_filterMap, List.filterMap_congr h, ← List.filterMap_eq_map, List.filterMap_filter]
  rfl

namespace Plan

/-- The deployments of a plan. -/
def deployments (p : Plan) : List DeploymentConfig := p.resources.filterMap (·.config.deployment?)

/-- The services of a plan. -/
def services (p : Plan) : List ServiceConfig := p.resources.filterMap (·.config.service?)

/-- The names of the nodes with settings of a kind. -/
def namesOf (p : Plan) (kind : ConfigKind) : List String :=
  (p.resources.filter (·.config.kind = kind)).map (·.name)

/-- No workload takes the place of another: deployments and services have names of their own, and
every service selects one deployment. -/
structure DistinctObjects (p : Plan) : Prop where
  deployments : (p.deployments.map (·.deploymentName)).Nodup
  services : (p.services.map (·.serviceName)).Nodup
  selectors : (p.services.map (·.selector)).Nodup
  selected : ∀ s ∈ p.services, ∃ e, p.deployments.filter (s.Selects ·) = [e]

end Plan

namespace Description.Compiles

variable {d : Description} {p : Plan} {c : Cluster}

/-- The nodes of deployments and of services have ids of their kind and the names of workloads. -/
theorem node_of_kind (h : d.Compiles p) (hc : (Project.of d).cluster = some c)
    {kind : ResourceKind} (hkind : kind ∈ [ResourceKind.deployment, .service]) {r : Resource}
    (hr : r ∈ p.resources) (hr' : r.config.kind = kind.configKind) :
    r.id = kind.nodeId r.name ∧ ∃ w, (Project.of d).HasWorkload w ∧ w.name = r.name := by
  have hdecided : ∀ kind ∈ [ResourceKind.deployment, .service],
      kind.configKind ∈ [ConfigKind.deployment, .service] ∧
        (.deployment = kind.configKind → kind = .deployment) ∧
        (.service = kind.configKind → kind = .service) := by
    decide
  obtain ⟨hmem, hdeployment, hservice⟩ := hdecided kind hkind
  obtain ⟨w, _, -, _, -, ⟨hw, -, -⟩, rfl | rfl⟩ := h.deployed_of_mem hc hr (hr' ▸ hmem)
  · rw [hdeployment hr']
    exact ⟨rfl, w, hw, rfl⟩
  · rw [hservice hr']
    exact ⟨rfl, w, hw, rfl⟩

/-- The names of the deployments are those of the workloads, and so are the names of the
services. -/
theorem mem_namesOf_iff (h : d.Compiles p) (hc : (Project.of d).cluster = some c)
    {kind : ResourceKind} (hkind : kind ∈ [ResourceKind.deployment, .service]) {name : String} :
    name ∈ p.namesOf kind.configKind ↔ ∃ w, (Project.of d).HasWorkload w ∧ w.name = name := by
  simp only [Plan.namesOf, List.mem_map, List.mem_filter, decide_eq_true_eq]
  constructor
  · rintro ⟨r, ⟨hr, hr'⟩, rfl⟩
    exact (h.node_of_kind hc hkind hr hr').2
  · rintro ⟨w, hw, rfl⟩
    obtain ⟨_, hdeployment, _, hservice, ⟨-, -, -⟩⟩ := h.exists_deployed hc hw
    rcases List.mem_pair.1 hkind with rfl | rfl
    · exact ⟨_, ⟨hdeployment, rfl⟩, rfl⟩
    · exact ⟨_, ⟨hservice, rfl⟩, rfl⟩

/-- No two deployments have the same name, and no two services. -/
theorem nodup_namesOf (h : d.Compiles p) (hc : (Project.of d).cluster = some c)
    {kind : ResourceKind} (hkind : kind ∈ [ResourceKind.deployment, .service]) :
    (p.namesOf kind.configKind).Nodup := by
  have hids : ((p.namesOf kind.configKind).map kind.nodeId).Nodup := by
    have hsame : (p.namesOf kind.configKind).map kind.nodeId =
        (p.resources.filter (·.config.kind = kind.configKind)).map (·.id) := by
      rw [Plan.namesOf, List.map_map]
      refine List.map_congr_left fun r hr => ?_
      obtain ⟨hr, hr'⟩ := List.mem_filter.1 hr
      exact (h.node_of_kind hc hkind hr (of_decide_eq_true hr')).1.symm
    rw [hsame]
    exact h.nodup_ids.sublist (List.filter_sublist.map _)
  exact hids.of_map

/-- The settings of a deployment node are named by its label. -/
theorem deployment_of_mem (h : d.Compiles p) (hc : (Project.of d).cluster = some c)
    {r : Resource} (hr : r ∈ p.resources) {e : DeploymentConfig}
    (he : r.config = .deployment e) :
    e.deploymentName = sanitizeLabel r.name ∧ e.namespaceName = c.namespaceName := by
  obtain ⟨w, service, -, hdeployed⟩ := h.deployed_of_deployment hc hr he
  cases hdeployed
  cases he
  exact ⟨rfl, rfl⟩

/-- The settings of a service node are named by its label, and select by it. -/
theorem service_of_mem (h : d.Compiles p) (hc : (Project.of d).cluster = some c)
    {r : Resource} (hr : r ∈ p.resources) {s : ServiceConfig} (hs : r.config = .service s) :
    s.serviceName = sanitizeLabel r.name ∧ s.selector = sanitizeLabel r.name ∧
      s.namespaceName = c.namespaceName := by
  obtain ⟨w, deployment, -, hdeployed⟩ := h.deployed_of_service hc hr hs
  cases hdeployed
  cases hs
  exact ⟨rfl, rfl, rfl⟩

theorem map_deployments (h : d.Compiles p) (hc : (Project.of d).cluster = some c) :
    p.deployments.map (·.deploymentName) = (p.namesOf .deployment).map sanitizeLabel := by
  rw [Plan.namesOf, List.map_map]
  refine map_filterMap_eq fun r hr => ?_
  cases hconfig : r.config with
  | deployment e => simp [ResourceConfig.deployment?, ResourceConfig.kind,
      (h.deployment_of_mem hc hr hconfig).1]
  | _ => simp [ResourceConfig.deployment?, ResourceConfig.kind]

end Description.Compiles

namespace Plan

variable {p : Plan}

/-- What services carry that is the label of their node. -/
theorem map_services {field : ServiceConfig → String}
    (h : ∀ r ∈ p.resources, ∀ s, r.config = .service s → field s = sanitizeLabel r.name) :
    p.services.map field = (p.namesOf .service).map sanitizeLabel := by
  rw [namesOf, List.map_map]
  refine map_filterMap_eq fun r hr => ?_
  cases hconfig : r.config with
  | service s => simp [ResourceConfig.service?, ResourceConfig.kind, h r hr s hconfig]
  | _ => simp [ResourceConfig.service?, ResourceConfig.kind]

end Plan

/-! ## Names that meet in a label -/

/-- The names of workloads are allowed. -/
theorem Project.HasWorkload.isValidName {p : Project} {w : Workload} (h : p.HasWorkload w)
    (hvalid : p.description.Valid) : isValidName w.name = true := by
  cases h with
  | container hn hspec =>
    exact (hvalid.inside _ hn).containers.valid _ (List.mem_map_of_mem hspec)
  | function hn hspec =>
    exact (hvalid.inside _ hn).functions.valid _ (List.mem_map_of_mem hspec)
  | ui hn hspec => exact (hvalid.inside _ hn).uis.valid _ (List.mem_map_of_mem hspec)
  | kernel hspec => exact (hvalid.kernels _ (Description.mem_kernels_of_kernel? hspec)).1

/-- Distinct allowed names have distinct labels exactly if no two of them agree up to the length of
labels, each with an `x` at its start if no letter stands there. -/
theorem nodup_map_sanitizeLabel_iff {names : List String} (hnodup : names.Nodup)
    (hvalid : ∀ name ∈ names, isValidName name = true) :
    (names.map sanitizeLabel).Nodup ↔
      ∀ first ∈ names, ∀ second ∈ names, first ≠ second →
        (startWithLetter first.toList).take labelMaxLength ≠
          (startWithLetter second.toList).take labelMaxLength := by
  rw [List.nodup_map_iff_inj_on hnodup]
  constructor
  · intro h first hfirst second hsecond hne heq
    rw [← sanitizeLabel_eq_iff (hvalid first hfirst) (hvalid second hsecond)] at heq
    exact hne (h first hfirst second hsecond heq)
  · intro h first hfirst second hsecond heq
    rw [sanitizeLabel_eq_iff (hvalid first hfirst) (hvalid second hsecond)] at heq
    by_contra hne
    exact h first hfirst second hsecond hne heq

/-- Of entries that differ in something, one is found by it. -/
theorem filter_eq_singleton {α β : Type} {l : List α} {f : α → β} {p : α → Bool} {e : α}
    (hnodup : (l.map f).Nodup) (he : e ∈ l) (hp : ∀ x ∈ l, p x = true ↔ f x = f e) :
    l.filter p = [e] := by
  induction l with
  | nil => cases he
  | cons x rest ih =>
    obtain ⟨hx, hrest⟩ := List.forall_mem_cons.1 hp
    obtain ⟨hnew, hnodup⟩ := List.nodup_cons.1 hnodup
    rcases List.mem_cons.1 he with rfl | he
    · rw [List.filter_cons_of_pos (hx.2 rfl), List.filter_eq_nil_iff.2]
      intro y hy hpy
      exact hnew ((hrest y hy).1 hpy ▸ List.mem_map_of_mem hy)
    · have hother : ¬ p x = true := fun hpx => hnew (hx.1 hpx ▸ List.mem_map_of_mem he)
      rw [List.filter_cons_of_neg hother]
      exact ih hnodup he hrest

namespace Description.Compiles

variable {d : Description} {p : Plan} {c : Cluster}

/-- A service selects one deployment if the deployments have distinct names. -/
theorem selected_of_nodup (h : d.Compiles p) (hc : (Project.of d).cluster = some c)
    (hnodup : (p.deployments.map (·.deploymentName)).Nodup) {s : ServiceConfig}
    (hs : s ∈ p.services) : ∃ e, p.deployments.filter (s.Selects ·) = [e] := by
  obtain ⟨r, hr, hs⟩ := List.mem_filterMap.1 hs
  have hconfig := ResourceConfig.service?_eq_some_iff.1 hs
  obtain ⟨-, hselector, hnamespace⟩ := h.service_of_mem hc hr hconfig
  -- The deployment of the same workload carries the label that the service selects by.
  obtain ⟨e, he, hname⟩ : ∃ e ∈ p.deployments, e.deploymentName = s.selector := by
    have hservice : ResourceKind.service ∈ [ResourceKind.deployment, .service] := by simp
    obtain ⟨-, w, hw, hwname⟩ := h.node_of_kind hc hservice hr (by rw [hconfig]; rfl)
    obtain ⟨deployment, hdeployment, _, -, ⟨-, -, -⟩⟩ := h.exists_deployed hc hw
    refine ⟨_, List.mem_filterMap.2 ⟨_, hdeployment, rfl⟩, ?_⟩
    rw [hselector, ← hwname]
    rfl
  refine ⟨e, filter_eq_singleton hnodup he fun x hx => ?_⟩
  obtain ⟨r', hr', hx⟩ := List.mem_filterMap.1 hx
  have hxname := (h.deployment_of_mem hc hr' (ResourceConfig.deployment?_eq_some_iff.1 hx)).2
  rw [decide_eq_true_iff, ServiceConfig.Selects, hname, hxname, hnamespace]
  exact ⟨fun hselects => hselects.2, fun heq => ⟨rfl, heq⟩⟩

/-- The labels of the deployments, and those of the services, are distinct exactly if no two names
of workloads meet in a label. -/
theorem nodup_labels_iff (h : d.Compiles p) (hc : (Project.of d).cluster = some c)
    {kind : ResourceKind} (hkind : kind ∈ [ResourceKind.deployment, .service]) :
    ((p.namesOf kind.configKind).map sanitizeLabel).Nodup ↔
      ∀ v w, (Project.of d).HasWorkload v → (Project.of d).HasWorkload w → v.name ≠ w.name →
        (startWithLetter v.name.toList).take labelMaxLength ≠
          (startWithLetter w.name.toList).take labelMaxLength := by
  have hmem : ∀ name, name ∈ p.namesOf kind.configKind ↔
      ∃ w, (Project.of d).HasWorkload w ∧ w.name = name := fun _ => h.mem_namesOf_iff hc hkind
  have hvalid : ∀ name ∈ p.namesOf kind.configKind, isValidName name = true := by
    intro name hname
    obtain ⟨w, hw, rfl⟩ := (hmem name).1 hname
    exact hw.isValidName (validate_eq_nil_iff.1 h.valid)
  rw [nodup_map_sanitizeLabel_iff (h.nodup_namesOf hc hkind) hvalid]
  constructor
  · intro hapart v w hv hw
    exact hapart v.name ((hmem _).2 ⟨v, hv, rfl⟩) w.name ((hmem _).2 ⟨w, hw, rfl⟩)
  · intro hapart first hfirst second hsecond
    obtain ⟨v, hv, rfl⟩ := (hmem first).1 hfirst
    obtain ⟨w, hw, rfl⟩ := (hmem second).1 hsecond
    exact hapart v w hv hw

/-- If no two names of workloads meet in a label, no workload takes the place of another. -/
theorem distinctObjects (h : d.Compiles p) (hc : (Project.of d).cluster = some c)
    (hapart : ∀ v w, (Project.of d).HasWorkload v → (Project.of d).HasWorkload w →
      v.name ≠ w.name → (startWithLetter v.name.toList).take labelMaxLength ≠
        (startWithLetter w.name.toList).take labelMaxLength) : p.DistinctObjects := by
  have hdeployments : (p.deployments.map (·.deploymentName)).Nodup := by
    have hkind : ResourceKind.deployment ∈ [ResourceKind.deployment, .service] := by simp
    rw [h.map_deployments hc]
    exact (h.nodup_labels_iff hc hkind).2 hapart
  have hservices : ((p.namesOf .service).map sanitizeLabel).Nodup := by
    have hkind : ResourceKind.service ∈ [ResourceKind.deployment, .service] := by simp
    exact (h.nodup_labels_iff hc hkind).2 hapart
  refine ⟨hdeployments, ?_, ?_, fun s hs => h.selected_of_nodup hc hdeployments hs⟩
  · rw [Plan.map_services fun r hr s hs => (h.service_of_mem hc hr hs).1]
    exact hservices
  · rw [Plan.map_services fun r hr s hs => (h.service_of_mem hc hr hs).2.1]
    exact hservices

end Description.Compiles

namespace Plan

variable {d : Description} {p : Plan}

/-- In a cluster no workload takes the place of another exactly if no two names of workloads agree
up to the length of labels, each with an `x` at its start if no letter stands there. -/
theorem distinctObjects_iff (h : d.compile = .ok p) (hb : d.project.backend = .manifest) :
    p.DistinctObjects ↔
      ∀ v w, (Project.of d).HasWorkload v → (Project.of d).HasWorkload w → v.name ≠ w.name →
        (startWithLetter v.name.toList).take labelMaxLength ≠
          (startWithLetter w.name.toList).take labelMaxLength := by
  have hcompiles := Description.compile_eq_ok_iff.1 h
  obtain ⟨c, hc⟩ := Option.isSome_iff_exists.1 (hcompiles.cluster_isSome_iff.2 hb)
  constructor
  · intro hdistinct
    have hkind : ResourceKind.deployment ∈ [ResourceKind.deployment, .service] := by simp
    have hnodup := hdistinct.deployments
    rw [hcompiles.map_deployments hc] at hnodup
    exact (hcompiles.nodup_labels_iff hc hkind).1 hnodup
  · exact hcompiles.distinctObjects hc

/-- Two containers whose names are labels already keep out of each other's way. -/
theorem distinctObjects_iff_pair :
    ∃ p, (Description.inCluster ["api", "worker"]).compile = .ok p ∧ p.DistinctObjects := by
  have hsome : (Description.inCluster ["api", "worker"]).compile.toOption.isSome := by
    decide +kernel
  cases hcompile : (Description.inCluster ["api", "worker"]).compile with
  | error e =>
    rw [hcompile] at hsome
    cases hsome
  | ok p =>
    refine ⟨p, rfl, (distinctObjects_iff hcompile rfl).2 ?_⟩
    have hname : ∀ w, (Project.of (Description.inCluster ["api", "worker"])).HasWorkload w →
        w.name ∈ ["api", "worker"] := by
      intro w hw
      cases hw with
      | container hn hspec =>
        obtain rfl := List.mem_singleton.1 hn
        obtain ⟨name, hname, rfl⟩ := List.mem_map.1 hspec
        exact hname
      | function hn hspec =>
        obtain rfl := List.mem_singleton.1 hn
        cases hspec
      | ui hn hspec =>
        obtain rfl := List.mem_singleton.1 hn
        cases hspec
      | kernel hspec => cases hspec
    intro v w hv hw
    have hall : ∀ x ∈ ["api", "worker"], ∀ y ∈ ["api", "worker"], x ≠ y →
        (startWithLetter x.toList).take labelMaxLength ≠
          (startWithLetter y.toList).take labelMaxLength := by
      decide +kernel
    exact hall v.name (hname v hv) w.name (hname w hw)

/-- Two containers, one named as the other with an `x` before it, become one deployment. -/
theorem not_distinctObjects_digit :
    ∃ p, (Description.inCluster ["1a", "x1a"]).compile = .ok p ∧
      p.deployments.map (·.deploymentName) = ["x1a", "x1a"] ∧ ¬ p.DistinctObjects := by
  have hnames : (Description.inCluster ["1a", "x1a"]).compile.toOption.map
      (fun p => p.deployments.map (·.deploymentName)) = some ["x1a", "x1a"] := by
    decide +kernel
  cases hcompile : (Description.inCluster ["1a", "x1a"]).compile with
  | error e =>
    rw [hcompile] at hnames
    cases hnames
  | ok p =>
    rw [hcompile] at hnames
    have hnames : p.deployments.map (·.deploymentName) = ["x1a", "x1a"] := Option.some.inj hnames
    refine ⟨p, rfl, hnames, fun hdistinct => ?_⟩
    have hnodup := hdistinct.deployments
    rw [hnames] at hnodup
    exact absurd hnodup (by decide)

end Plan

end Groundwork
