import Groundwork.Proofs.Resolution.Nodes

/-!
# Nodes that hold references

A node holds a reference in its environment, as what triggers it, or as the address that it calls.
Outside a cluster such a node is a workload of the description with its own settings, or a scheduled
job; no other node holds anything.  Whatever is held is a text of the description's own or the value
of a reference, and a node waits for all that it refers to.

Main results:

- `Project.holding_of_origin`: the nodes that can hold a reference.
- `Project.Refers`: the reference in a description that a node holds the value of.
- `Project.Holding.refers`: what is held is the value of a reference that the node waits for.
-/

namespace Groundwork

namespace ResourceConfig

/-- The values that a node holds: its environment, its trigger and the address that it calls. -/
def heldValues (c : ResourceConfig) : List EnvValue :=
  (c.env?.map (·.values)).getD [] ++ c.trigger?.toList ++
    match c with
    | .cron c => [c.targetUrl]
    | _ => []

theorem mem_heldValues_iff {c : ResourceConfig} {v : EnvValue} :
    v ∈ c.heldValues ↔
      (∃ env, c.env? = some env ∧ v ∈ env.values) ∨ c.trigger? = some v ∨
        ∃ job, c = .cron job ∧ v = job.targetUrl := by
  cases c <;> simp [heldValues, env?, trigger?]

end ResourceConfig

/-- The kinds of settings that can hold a reference. -/
def ConfigKind.holders : List ConfigKind :=
  [.container, .function, .kernel, .ui, .deployment, .cron]

/-- Settings of any other kind hold nothing. -/
theorem ResourceConfig.heldValues_eq_nil {c : ResourceConfig} (h : c.kind ∉ ConfigKind.holders) :
    c.heldValues = [] := by
  cases c <;> first | rfl | exact absurd (by simp [kind, ConfigKind.holders]) h

namespace Project

variable {p : Project}

/-! ## The workloads of a description -/

/-- A workload that a description declares. -/
inductive HasWorkload (p : Project) : Workload → Prop
  | container {n : NetworkSpec} {spec : ContainerSpec} (hn : n ∈ p.description.networks)
      (hspec : spec ∈ n.containers) : HasWorkload p (.ofContainer spec)
  | function {n : NetworkSpec} {spec : FunctionSpec} (hn : n ∈ p.description.networks)
      (hspec : spec ∈ n.functions) : HasWorkload p (.ofFunction spec)
  | ui {n : NetworkSpec} {spec : UiSpec} (hn : n ∈ p.description.networks)
      (hspec : spec ∈ n.uis) : HasWorkload p (.ofUi spec)
  | kernel {variant : KernelVariant} {spec : KernelSpec}
      (hspec : p.kernel? = some (variant, spec)) : HasWorkload p (.ofKernel variant spec)

/-- A node as a possible holder of references, outside a cluster. -/
inductive Holding (p : Project) (r : Resource) : Prop
  /-- The node of a workload. -/
  | workload {w : Workload} {site : Site} {env : Environment} {topicNodes : List String}
      {config : ResourceConfig} (hw : p.HasWorkload w)
      (hsettings : p.IsSettings w config env topicNodes)
      (hr : r = p.node w.kind w.name config
        (p.dependencies site (p.referencedNodes w.env w.secrets ++ topicNodes) w.listed)
        (some site.spec.name))
  /-- A scheduled job. -/
  | cron {spec : CronSpec} {kind : RouteBackendKind} {target : String} {c : CronConfig}
      (hspec : spec ∈ p.description.crons)
      (htarget : p.description.cronTarget spec.target = .ok (kind, target))
      (hurl : p.renderReference ⟨kind.referenceType, target, none⟩ = .ok c.targetUrl)
      (hr : r = p.node .cron spec.name (.cron c) [kind.resourceKind.nodeId target] none)
  /-- A node of another kind, which holds nothing. -/
  | plain (h : r.config.kind ∉ ConfigKind.holders)

/-- The node of a workload outside a cluster. -/
theorem holding_of_resolves (hcluster : p.cluster = none) {w : Workload} (hw : p.HasWorkload w)
    {site : Site} {nodes : List Resource} (hnodes : p.Resolves site w nodes) {r : Resource}
    (hr : r ∈ nodes) : p.Holding r := by
  obtain ⟨env, topicNodes, pod, config, rfl, -, hsettings⟩ := hnodes
  rcases mem_workloadNodes_iff.1 hr with ⟨c, hc, -⟩ | ⟨-, hr⟩
  · rw [hcluster] at hc
    cases hc
  · exact .workload hw hsettings hr

theorem IsNode.holding {k : ResourceKind} {r : Resource} (h : p.IsNode k r)
    (hk : k.configKind ∉ ConfigKind.holders) : p.Holding r :=
  .plain (h.kind_eq ▸ hk)

/-- A node of one of several kinds that hold nothing. -/
theorem holding_of_mem {kinds : List ResourceKind} {r : Resource}
    (hkinds : ∀ k ∈ kinds, k.configKind ∉ ConfigKind.holders)
    (hr : ∃ k ∈ kinds, p.IsNode k r) : p.Holding r := by
  obtain ⟨k, hk, hnode⟩ := hr
  exact hnode.holding (hkinds k hk)

/-- Outside a cluster, the nodes that hold references are workloads and scheduled jobs. -/
theorem holding_of_origin (hcluster : p.cluster = none) {r : Resource} (h : p.Origin r) :
    p.Holding r := by
  cases h with
  | global hr =>
    rcases isNode_of_mem_globalNodes hr with ⟨-, hnode⟩ | hnode
    · exact holding_of_mem (by decide) hnode
    · exact holding_of_mem (by decide) hnode
  | network hn hr =>
    rcases isNode_of_mem_networkNodes hr with ⟨-, hnode⟩ | ⟨-, -, hnode⟩ | ⟨-, hnode⟩
    · exact hnode.holding (by decide)
    · exact hnode.holding (by decide)
    · exact holding_of_mem (by decide) hnode
  | kernel hn hspec hnodes hr =>
    exact holding_of_resolves hcluster (.kernel (kernel?_of_kernelOf? hspec))
      (kernelNodes_resolves hnodes) hr
  | container hn hspec hnodes hr =>
    exact holding_of_resolves hcluster (.container hn hspec) (containerNodes_resolves hnodes) hr
  | function hn hspec hnodes hr =>
    exact holding_of_resolves hcluster (.function hn hspec) (functionNodes_resolves hnodes) hr
  | database hn hspec hr =>
    have hnode : p.IsNode .database r := hr ▸ isNode_node rfl
    exact hnode.holding (by decide)
  | cache hn hspec hr =>
    have hnode : p.IsNode .cache r := hr ▸ isNode_node rfl
    exact hnode.holding (by decide)
  | ui hn hspec hnodes hr =>
    exact holding_of_resolves hcluster (.ui hn hspec) (uiNodes_resolves hnodes) hr
  | loadBalancer hn hspec hnodes hr =>
    obtain ⟨targets, -, ⟨c, hc, -⟩ | ⟨-, rfl⟩⟩ := loadBalancerNodes_cases hnodes
    · rw [hcluster] at hc
      cases hc
    · have hnode : p.IsNode .loadBalancer r := List.mem_singleton.1 hr ▸ isNode_node rfl
      exact hnode.holding (by decide)
  | cron hspec hnodes hr =>
    obtain ⟨kind, target, c, htarget, hurl, rfl⟩ := cronNodes_cases hnodes
    exact .cron hspec htarget hurl (List.mem_singleton.1 hr)

end Project

/-! ## Where values come from -/

/-- A resolved value is the text itself or the value of the reference that the text is. -/
theorem Reference.resolveValue_cases {ε α : Type} {resolve : Reference → Except ε α}
    {literal : String → α} {text : String} {v : α}
    (h : resolveValue resolve literal text = .ok v) :
    v = literal text ∨ ∃ ref, parse? text = some ref ∧ resolve ref = .ok v := by
  unfold resolveValue at h
  split at h
  · rename_i ref href
    exact Or.inr ⟨ref, href, h⟩
  · exact Or.inl (Except.ok.inj h).symm

/-- Only containers and functions can be scheduled. -/
theorem NetworkSpec.ui_not_mem_schedulable (n : NetworkSpec) (name : String) :
    RouteBackendKind.ui ∉ n.schedulable name := by
  simp [schedulable]

namespace Description

variable {d : Description}

theorem exists_of_uniqueTarget {networks : List NetworkSpec} {text name : String}
    {kind : RouteBackendKind} (h : uniqueTarget networks text = .ok (kind, name)) :
    ∃ n ∈ networks, kind ∈ n.schedulable name := by
  unfold uniqueTarget at h
  split at h
  · rename_i only honly
    cases h
    have hmem : kind ∈ networks.flatMap (·.schedulable text) := by
      rw [honly]
      exact List.mem_singleton_self kind
    exact List.mem_flatMap.1 hmem
  · cases h
  · cases h

/-- What a scheduled job calls is declared in a network. -/
theorem exists_of_cronTarget {text name : String} {kind : RouteBackendKind}
    (h : d.cronTarget text = .ok (kind, name)) : ∃ n ∈ d.networks, kind ∈ n.schedulable name := by
  simp only [cronTarget] at h
  split at h
  · unfold referencedTarget at h
    split at h
    · cases h
    · split at h
      · rename_i hany
        cases h
        obtain ⟨n, hn, hkind⟩ := List.any_eq_true.1 hany
        exact ⟨n, hn, List.contains_iff_mem.1 hkind⟩
      · cases h
  · split at h
    · exact exists_of_uniqueTarget h
    · split at h
      · rename_i n hn
        obtain ⟨m, hm, hkind⟩ := exists_of_uniqueTarget h
        obtain rfl := List.mem_singleton.1 hm
        exact ⟨m, List.mem_of_find?_eq_some hn, hkind⟩
      · cases h

/-- What a scheduled job calls is a container or a function. -/
theorem cronTarget_ne_ui {text name : String} {kind : RouteBackendKind}
    (h : d.cronTarget text = .ok (kind, name)) : kind ≠ .ui := by
  obtain ⟨n, -, hkind⟩ := exists_of_cronTarget h
  rintro rfl
  exact n.ui_not_mem_schedulable name hkind

end Description

namespace Project

variable {p : Project}

/-- What triggers a function is a name, or the value of a reference to a topic. -/
theorem trigger_cases {function : String} {text : Option String} {v : EnvValue}
    {topicNodes : List String} (h : p.trigger function text = .ok (some v, topicNodes)) :
    ∃ value, text = some value ∧
      (v = .literal value ∨
        ∃ ref, Reference.parse? value = some ref ∧ p.renderReference ref = .ok v ∧
          topicNodes = [p.referenceNode ref]) := by
  cases text with
  | none => cases h
  | some value =>
    refine ⟨value, rfl, ?_⟩
    simp only [trigger] at h
    split at h
    · cases h
      exact Or.inl rfl
    · rename_i ref href
      split at h
      · obtain ⟨topic, htopic, hresult⟩ := bind_eq_ok_iff.1 h
        cases hresult
        exact Or.inr ⟨ref, href, mapError_eq_ok_iff.1 htopic, rfl⟩
      · cases h

/-- The reference in a description that a node holds the value of. -/
inductive Refers (p : Project) (r : Resource) : Reference → EnvValue → Prop
  /-- A variable of a workload: the text under a key is a reference, and the value stands under the
  same key. -/
  | env {w : Workload} {env : Environment} {key text : String} {ref : Reference} {v : EnvValue}
      (hw : p.HasWorkload w) (hid : r.id = w.kind.nodeId w.name)
      (htext : (key, text) ∈ (effectiveValues w.env w.secrets).entries)
      (href : Reference.parse? text = some ref) (henv : r.config.env? = some env)
      (hv : (key, v) ∈ env.entries) : Refers p r ref v
  /-- What triggers a function. -/
  | trigger {w : Workload} {text : String} {ref : Reference} {v : EnvValue}
      (hw : p.HasWorkload w) (hid : r.id = w.kind.nodeId w.name) (htext : w.trigger = some text)
      (href : Reference.parse? text = some ref) (hv : r.config.trigger? = some v) :
      Refers p r ref v
  /-- What a scheduled job calls. -/
  | target {spec : CronSpec} {kind : RouteBackendKind} {name : String} {c : CronConfig}
      (hspec : spec ∈ p.description.crons) (hid : r.id = ResourceKind.cron.nodeId spec.name)
      (htarget : p.description.cronTarget spec.target = .ok (kind, name))
      (hconfig : r.config = .cron c) : Refers p r ⟨kind.referenceType, name, none⟩ c.targetUrl

/-- Outside a cluster, references point at the nodes that they name. -/
theorem referenceNode_of_cluster_eq_none (hcluster : p.cluster = none) (ref : Reference) :
    p.referenceNode ref = ref.resourceId := by
  simp [referenceNode, hcluster]

theorem mem_dependencies_of_mem {site : Site} {references listed : List String} {id : String}
    (h : id ∈ references) : id ∈ p.dependencies site references listed := by
  simp [dependencies, h]

/-- What a node holds outside a cluster is a text, or the value of a reference to a node that it
waits for. -/
theorem Holding.refers {r : Resource} (h : p.Holding r) (hcluster : p.cluster = none)
    {v : EnvValue} (hv : v ∈ r.config.heldValues) :
    (∃ text, v = .literal text) ∨
      ∃ ref, p.Refers r ref v ∧ p.renderReference ref = .ok v ∧ ref.resourceId ∈ r.dependsOn := by
  cases h with
  | @workload w site env topicNodes config hw hsettings hr =>
    have hconfig : r.config = config := by rw [hr]; rfl
    have hid : r.id = w.kind.nodeId w.name := by rw [hr]; rfl
    have hdepends : ∀ ref : Reference,
        p.referenceNode ref ∈ p.referencedNodes w.env w.secrets ++ topicNodes →
          ref.resourceId ∈ r.dependsOn := by
      intro ref hmem
      rw [hr, ← referenceNode_of_cluster_eq_none hcluster ref]
      exact mem_dependencies_of_mem hmem
    rw [hconfig] at hv
    -- The settings of a workload have an environment, which those of a scheduled job have not.
    rcases ResourceConfig.mem_heldValues_iff.1 hv with ⟨env', henv', hv⟩ | htopic | ⟨job, rfl, -⟩
    · rw [hsettings.env_eq] at henv'
      cases henv'
      obtain ⟨⟨key, v'⟩, hentry, rfl⟩ := List.mem_map.1 hv
      obtain ⟨text, htext, hvalue⟩ :=
        OrderedMap.mem_entries_traverse hsettings.resolveEnv_eq hentry
      rcases Reference.resolveValue_cases hvalue with hliteral | ⟨ref, href, hrender⟩
      · exact Or.inl ⟨text, hliteral⟩
      · have hextract : ref ∈ Reference.extract (effectiveValues w.env w.secrets) :=
          List.mem_filterMap.2 ⟨text, List.mem_map.2 ⟨(key, text), htext, rfl⟩, href⟩
        exact Or.inr ⟨ref, .env hw hid htext href (hconfig ▸ hsettings.env_eq) hentry, hrender,
          hdepends ref (List.mem_append_left _ (List.mem_map_of_mem hextract))⟩
    · have htrigger := hsettings.trigger_eq
      rw [htopic] at htrigger
      obtain ⟨text, htext, hliteral | ⟨ref, href, hrender, hnodes⟩⟩ := trigger_cases htrigger
      · exact Or.inl ⟨text, hliteral⟩
      · exact Or.inr ⟨ref, .trigger hw hid htext href (hconfig ▸ htopic), hrender,
          hdepends ref (List.mem_append_right _ (hnodes ▸ List.mem_singleton_self _))⟩
    · cases hsettings.env_eq
  | @cron spec kind target c hspec htarget hurl hr =>
    have hconfig : r.config = .cron c := by rw [hr]; rfl
    have hid : r.id = ResourceKind.cron.nodeId spec.name := by rw [hr]; rfl
    have heq : v = c.targetUrl := by
      rw [hconfig] at hv
      simpa [ResourceConfig.heldValues, ResourceConfig.env?, ResourceConfig.trigger?] using hv
    refine Or.inr ⟨_, heq ▸ .target hspec hid htarget hconfig, heq ▸ hurl, ?_⟩
    rw [hr]
    cases kind with
    | ui => exact absurd rfl (Description.cronTarget_ne_ui htarget)
    | container => exact List.mem_singleton_self _
    | function => exact List.mem_singleton_self _
  | plain hkind =>
    rw [ResourceConfig.heldValues_eq_nil hkind] at hv
    cases hv

end Project

end Groundwork
