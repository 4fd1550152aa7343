import Groundwork.Proofs.Resolution.Cluster

/-!
# Where nodes of a kind come from

Workloads, networks and data become nodes of their own kinds, so a node with other settings comes
from outside the networks, out of a load balancer or out of a scheduled job.

Main results:

- `Project.Origin.exists_part`: the parts that nodes with such settings come from.
- `Project.Origin.exists_cron`: every job of a plan is declared by the description.
- `Project.Origin.exists_balancer`: every load balancer of a plan stands in front of a network.
-/

namespace Groundwork

/-- The settings of a job are picked exactly where there are some. -/
theorem SettingsKind.select?_cron_eq_some_iff {config : ResourceConfig} {c : CronConfig} :
    cron.select? config = some c ↔ config = .cron c := by
  cases config <;> simp [cron]

namespace Project

variable {p : Project} {r : Resource}

/-- Secrets, ingresses, load balancers and jobs come from outside the networks, out of the load
balancer of a network, or out of a scheduled job. -/
theorem Origin.exists_part (h : p.Origin r)
    (hkind : r.config.kind ∈ [ConfigKind.secret, .ingress, .loadBalancer, .cron]) :
    r ∈ p.globalNodes ∨
      (∃ n ∈ p.description.networks, ∃ lb, n.loadBalancer = some lb ∧ ∃ nodes,
        p.loadBalancerNodes (p.siteWithKernel (p.site n)) lb = .ok nodes ∧ r ∈ nodes) ∨
      ∃ spec ∈ p.description.crons, ∃ nodes, p.cronNodes spec = .ok nodes ∧ r ∈ nodes := by
  cases h with
  | global hr => exact Or.inl hr
  | loadBalancer hn hspec hnodes hr => exact Or.inr (Or.inl ⟨_, hn, _, hspec, _, hnodes, hr⟩)
  | cron hspec hnodes hr => exact Or.inr (Or.inr ⟨_, hspec, _, hnodes, hr⟩)
  | network hn hr =>
    rcases isNode_of_mem_networkNodes hr with ⟨-, hnode⟩ | ⟨-, -, hnode⟩ | ⟨-, hnode⟩
    · exact absurd hkind (hnode.kind_not_mem (by decide))
    · exact absurd hkind (hnode.kind_not_mem (by decide))
    · exact absurd hkind (kind_not_mem_of_mem (by decide) hnode)
  | @kernel n variant spec nodes _ _ hnodes hr =>
    have hvariant : ∀ k ∈ [ResourceKind.deployment, .service, variant.resourceKind],
        k.configKind ∉ [ConfigKind.secret, .ingress, .loadBalancer, .cron] := by
      cases variant <;> decide
    exact absurd hkind ((kernelNodes_resolves hnodes).kind_not_mem rfl hvariant hr)
  | container _ _ hnodes hr =>
    exact absurd hkind ((containerNodes_resolves hnodes).kind_not_mem
      (k := .container) rfl (by decide) hr)
  | function _ _ hnodes hr =>
    exact absurd hkind ((functionNodes_resolves hnodes).kind_not_mem
      (k := .function) rfl (by decide) hr)
  | ui _ _ hnodes hr =>
    exact absurd hkind ((uiNodes_resolves hnodes).kind_not_mem
      (k := .ui) rfl (by decide) hr)
  | database _ _ hr =>
    subst hr
    exact absurd hkind (IsNode.kind_not_mem (k := .database) (isNode_node rfl) (by decide))
  | cache _ _ hr =>
    subst hr
    exact absurd hkind (IsNode.kind_not_mem (k := .cache) (isNode_node rfl) (by decide))

/-- Neither load balancers nor jobs come from outside the networks. -/
theorem kind_not_mem_of_mem_globalNodes (hr : r ∈ p.globalNodes) :
    r.config.kind ∉ [ConfigKind.ingress, .loadBalancer, .cron] := by
  rcases isNode_of_mem_globalNodes hr with ⟨-, hnode⟩ | hnode
  · exact kind_not_mem_of_mem (by decide) hnode
  · exact kind_not_mem_of_mem (by decide) hnode

/-- Every job of a plan is declared by the description. -/
theorem Origin.exists_cron (h : p.Origin r) (hkind : r.config.kind = .cron) :
    ∃ spec ∈ p.description.crons, ∃ nodes, p.cronNodes spec = .ok nodes ∧ r ∈ nodes := by
  have hpart : r.config.kind ∈ [ConfigKind.secret, .ingress, .loadBalancer, .cron] := by
    simp [hkind]
  rcases h.exists_part hpart with hr | ⟨n, -, lb, -, nodes, hnodes, hr⟩ | hcron
  · exact absurd (by simp [hkind]) (kind_not_mem_of_mem_globalNodes hr)
  · obtain ⟨targets, -, ⟨c, -, rfl⟩ | ⟨-, rfl⟩⟩ := loadBalancerNodes_cases hnodes
    · rw [List.mem_singleton.1 hr] at hkind
      cases hkind
    · rw [List.mem_singleton.1 hr] at hkind
      cases hkind
  · exact hcron

/-- Every load balancer of a plan stands in front of a network, and leads where the load balancer
that the network declares does. -/
theorem Origin.exists_balancer (h : p.Origin r) {c : LoadBalancerConfig}
    (hc : r.config = .loadBalancer c) :
    p.cluster = none ∧ ∃ n ∈ p.description.networks, ∃ lb, n.loadBalancer = some lb ∧
      n.routeTargets lb = .ok c.routes ∧
      r = p.balancerNode (p.siteWithKernel (p.site n)) lb c.routes := by
  have hkind : r.config.kind = .loadBalancer := by rw [hc]; rfl
  have hpart : r.config.kind ∈ [ConfigKind.secret, .ingress, .loadBalancer, .cron] := by
    simp [hkind]
  rcases h.exists_part hpart with hr | ⟨n, hn, lb, hlb, nodes, hnodes, hr⟩ | ⟨_, -, _, hnodes, hr⟩
  · exact absurd (by simp [hkind]) (kind_not_mem_of_mem_globalNodes hr)
  · obtain ⟨targets, htargets, ⟨cluster, -, rfl⟩ | ⟨hnone, rfl⟩⟩ := loadBalancerNodes_cases hnodes
    · rw [List.mem_singleton.1 hr] at hkind
      cases hkind
    · obtain rfl := List.mem_singleton.1 hr
      cases hc
      rw [spec_siteWithKernel_site] at htargets
      exact ⟨hnone, n, hn, lb, hlb, htargets, rfl⟩
  · obtain ⟨kind, target, c, -, -, rfl⟩ := cronNodes_cases hnodes
    rw [List.mem_singleton.1 hr] at hkind
    cases hkind

/-! ## The node of a job -/

section Job

variable {spec : CronSpec} {nodes : List Resource} (h : p.cronNodes spec = .ok nodes)
  (hr : r ∈ nodes) {c : CronConfig} (hc : r.config = .cron c)
include h hr hc

/-- The node of a job is named after it, its path is that of the description, and its address is
what a reference to its target becomes. -/
theorem config_of_mem_cronNodes :
    r.id = ResourceKind.cron.nodeId spec.name ∧ r.typeTag = p.backend.typeTag .cron ∧
      c.path = spec.path ∧
      p.description.cronTarget spec.target = .ok (c.targetKind, c.target) ∧
      p.renderReference ⟨c.targetKind.referenceType, c.target, none⟩ = .ok c.targetUrl := by
  rw [cronNodes, bind_eq_ok_iff] at h
  obtain ⟨⟨kind, target⟩, htarget, hrest⟩ := h
  rw [bind_eq_ok_iff] at hrest
  obtain ⟨url, hurl, hnodes⟩ := hrest
  cases hnodes
  obtain rfl := List.mem_singleton.1 hr
  cases hc
  exact ⟨rfl, rfl, rfl, mapError_eq_ok_iff.1 htarget, mapError_eq_ok_iff.1 hurl⟩

/-- A job waits for what it calls, and for nothing else. -/
theorem dependsOn_of_mem_cronNodes :
    r.dependsOn = [c.targetKind.resourceKind.nodeId c.target] := by
  obtain ⟨-, -, -, htarget, -⟩ := config_of_mem_cronNodes h hr hc
  obtain ⟨kind, target, c', hcalled, -, rfl⟩ := cronNodes_cases h
  obtain rfl := List.mem_singleton.1 hr
  rw [htarget] at hcalled
  cases hcalled
  rfl

end Job

end Project

end Groundwork
