import Groundwork.Proofs.Provisioning.Placement
import Groundwork.Proofs.Resolution.Backward

/-!
# The ends of an order

Only workloads ask for anything, so what is outside any network waits for nothing that is declared
later, and no workload has to come before it.  Jobs wait only for what they call, and nothing waits
for a job unless a workload lists its id.

Main results:

- `Description.Compiles.dependsOn_subset`: what is no workload waits only for earlier nodes.
- `Description.order_of_compile`: the beginning and the end of the order of a compiled plan.
-/

namespace Groundwork

namespace Description

variable {d : Description} {p : Plan}

/-! ## Kinds of ids outside any network -/

/-- The kinds of node outside any network, before the networks. -/
def globalKinds : List ResourceKind :=
  [.clusterNamespace, .configMap, .serviceAccount, .bucket, .secret, .topic, .queue]

theorem exists_kind_of_mem_globalIds {id : String} (h : id ∈ d.globalIds) :
    ∃ k ∈ globalKinds, ∃ name, id = k.nodeId name := by
  simp only [globalIds, List.mem_append, List.mem_map] at h
  rcases h with ((((h | ⟨spec, -, rfl⟩) | ⟨spec, -, rfl⟩) | ⟨spec, -, rfl⟩) | ⟨spec, -, rfl⟩) |
    ⟨spec, -, rfl⟩
  · unfold scaffoldIds at h
    split at h
    · simp only [List.mem_append, List.mem_map, List.mem_singleton] at h
      rcases h with ⟨name, -, rfl⟩ | rfl
      · exact ⟨_, by simp [globalKinds], _, rfl⟩
      · exact ⟨_, by simp [globalKinds], _, rfl⟩
    · cases h
  all_goals exact ⟨_, by simp [globalKinds], _, rfl⟩

/-! ## What nodes wait for -/

/-- A node whose id begins as that of no workload waits only for nodes before it. -/
theorem Compiles.dependsOn_subset (h : d.Compiles p) {before after : List Resource} {r : Resource}
    (hsplit : p.resources = before ++ r :: after) {k : ResourceKind} {name : String}
    (hid : r.id = k.nodeId name) (hk : ∀ kind ∈ workloadKinds, k.firstWord ≠ kind.firstWord) :
    r.dependsOn ⊆ before.map (·.id) := by
  have hgrounded := h.legal.grounded_resources h.resources_eq
  rw [hsplit] at hgrounded
  intro id hmem
  refine ((grounded_append_iff.1 hgrounded).2.1 id hmem).resolve_right ?_
  rintro ⟨n, -, w, hw, hworkload, -⟩
  obtain ⟨kind, hkind, hword⟩ := firstWord_of_workloadId_eq hw (hid.symm.trans hworkload)
  exact hk kind hkind hword

/-- No node before the jobs waits for a job if no workload lists one. -/
theorem Compiles.cron_not_mem (h : d.Compiles p)
    (hlisted : ∀ n ∈ d.networks, ∀ w ∈ n.workloads, ∀ spec ∈ d.crons,
      ResourceKind.cron.nodeId spec.name ∉ w.listed)
    {first crons : List Resource} (hsplit : p.resources = first ++ crons)
    (hcrons : crons.map (·.id) = d.crons.map (ResourceKind.cron.nodeId ·.name)) {r : Resource}
    (hr : r ∈ first) {id : String} (hid : id ∈ r.dependsOn) : id ∉ crons.map (·.id) := by
  intro hcron
  have hids := h.nodup_ids
  have hgrounded := h.legal.grounded_resources h.resources_eq
  obtain ⟨before, after, rfl⟩ := List.append_of_mem hr
  rw [hsplit] at hids hgrounded
  rw [List.append_assoc] at hgrounded
  rcases (grounded_append_iff.1 hgrounded).2.1 id hid with hbefore | ⟨n, hn, w, hw, -, hrequest⟩
  · rw [List.map_append, List.map_append] at hids
    exact (List.nodup_append.1 hids).2.2 id (List.mem_append_left _ hbefore) id hcron rfl
  · rw [hcrons] at hcron
    obtain ⟨spec, hspec, rfl⟩ := List.mem_map.1 hcron
    have hmem : ResourceKind.cron.nodeId spec.name ∈ w.listed :=
      (nodeId_mem_requests_iff (by decide) fun t => by cases t <;> decide).1 hrequest
    rcases List.mem_append.1 hw with hw | hw
    · obtain ⟨k, -, rfl⟩ := List.mem_map.1 hw
      cases hmem
    · exact hlisted n hn w hw spec hspec hmem

/-! ## Compiled descriptions -/

/-- The order of a compiled plan begins with the scaffolding of the cluster and all that is outside
any network, as they are declared.  It ends with the scheduled jobs, as they are declared, if no
container, function or frontend lists the id of one. -/
theorem order_of_compile (h : d.compile = .ok p) :
    d.globalIds <+: p.order ∧
      ((∀ n ∈ d.networks, ∀ w ∈ n.workloads, ∀ spec ∈ d.crons,
          ResourceKind.cron.nodeId spec.name ∉ w.listed) →
        d.crons.map (ResourceKind.cron.nodeId ·.name) <:+ p.order) := by
  have hcompiles := compile_eq_ok_iff.1 h
  have hids := hcompiles.nodup_ids
  have horder := hcompiles.isGreedyOrder
  obtain ⟨body, crons, hsplit, hbody, hcrons⟩ :=
    List.map_eq_append_iff.1 (hcompiles.legal.map_id_resources hcompiles.resources_eq)
  obtain ⟨front, middle, rfl, hfront, -⟩ := List.map_eq_append_iff.1 hbody
  constructor
  · have hback : Provisioning.Backward front := by
      rintro before r after rfl
      have hmem : r.id ∈ d.globalIds := by
        rw [← hfront]
        simp
      obtain ⟨k, hk, name, hid⟩ := exists_kind_of_mem_globalIds hmem
      have hapart : ∀ k ∈ globalKinds, ∀ kind ∈ workloadKinds, k.firstWord ≠ kind.firstWord := by
        decide
      have hresources : p.resources = before ++ r :: (after ++ middle ++ crons) := by
        rw [hsplit]
        simp
      exact hcompiles.dependsOn_subset hresources hid (hapart k hk)
    rw [hsplit, List.append_assoc] at hids horder
    rw [List.map_append] at hids
    rw [← hfront]
    exact (hback.isGreedyOrder (List.Nodup.of_append_left hids)).isPrefix horder
  · intro hlisted
    rw [← hcrons]
    rw [hsplit] at horder
    refine horder.isSuffix (fun r hr id hid => hcompiles.cron_not_mem hlisted hsplit hcrons hr hid)
      ?_
    rintro before r after rfl
    have hmem : r.id ∈ d.crons.map (ResourceKind.cron.nodeId ·.name) := by
      rw [← hcrons]
      simp
    obtain ⟨spec, -, hid⟩ := List.mem_map.1 hmem
    have hresources : p.resources = (front ++ middle ++ before) ++ r :: after := by
      rw [hsplit]
      simp
    exact hcompiles.dependsOn_subset hresources hid.symm (by decide)

/-- Flat code with an account, a queue, two containers of which the first lists the second, and a
job for each of them. -/
def rounds : Description :=
  { ofNetworks ⟨"shop", "us-central1", none, .flat⟩ [
      { NetworkSpec.ofContainers "main" [] with
        containers := [
          { ContainerSpec.named "api" with dependsOn := ["container-worker"] },
          .named "worker"] }] with
    serviceAccount := some ⟨"runner", none, []⟩
    queues := [⟨"mail", none, none⟩]
    crons := [⟨"sweep", "0 3 * * *", "worker", "UTC", "/", "POST", none⟩,
      ⟨"warm", "0 6 * * *", "api", "UTC", "/", "POST", none⟩] }

/-- The containers change places, but the account and the queue come first and the jobs last. -/
theorem order_of_compile_rounds :
    ∃ p, rounds.compile = .ok p ∧
      p.order = ["service-account-runner", "queue-mail", "container-worker", "container-api",
        "cron-sweep", "cron-warm"] ∧
      ["service-account-runner", "queue-mail"] <+: p.order ∧
      ["cron-sweep", "cron-warm"] <:+ p.order := by
  have horder : rounds.compile.toOption.map (·.order) =
      some ["service-account-runner", "queue-mail", "container-worker", "container-api",
        "cron-sweep", "cron-warm"] := by
    decide +kernel
  have hlisted : ∀ n ∈ rounds.networks, ∀ w ∈ n.workloads, ∀ spec ∈ rounds.crons,
      ResourceKind.cron.nodeId spec.name ∉ w.listed := by
    decide +kernel
  cases hcompile : rounds.compile with
  | error e =>
    rw [hcompile] at horder
    cases horder
  | ok p =>
    rw [hcompile] at horder
    obtain ⟨hfront, hend⟩ := order_of_compile hcompile
    exact ⟨p, rfl, Option.some.inj horder, hfront, hend hlisted⟩

end Description

end Groundwork
