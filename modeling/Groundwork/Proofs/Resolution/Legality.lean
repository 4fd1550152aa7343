import Groundwork.Legality
import Groundwork.Resolution.Workload

/-!
# What legality rules out

A legal description uses no feature that its backend lacks, so some kinds of workload occur for some
backends only; and exactly the manifests live in a cluster.

Main results:

- `Backend.checkLegality_eq_ok_iff`: legality is the absence of every violation.
- `Description.Legal.cluster?_isSome_iff`: a legal description has a cluster exactly if it is for
  manifests.
-/

namespace Groundwork

/-- A description is legal exactly if it uses no unsupported feature and breaks no rule. -/
theorem Backend.checkLegality_eq_ok_iff {b : Backend} {d : Description} :
    b.checkLegality d = .ok () ↔
      (∀ entry ∈ b.unsupported, entry.1.isIn d = false) ∧
        ∀ q ∈ b.requirements, Legality.violation? d q = none := by
  simp only [Backend.checkLegality]
  cases hfeature : b.unsupported.find? fun entry => entry.1.isIn d with
  | some entry =>
    have hmem := List.mem_of_find?_eq_some hfeature
    have hin := List.find?_some hfeature
    simp only [reduceCtorEq, false_iff, not_and]
    intro hunsupported
    rw [hunsupported entry hmem] at hin
    cases hin
  | none =>
    have hunsupported : ∀ entry ∈ b.unsupported, entry.1.isIn d = false := by
      simpa using List.find?_eq_none.1 hfeature
    cases hviolation : b.requirements.findSome? (Legality.violation? d) with
    | some violation =>
      obtain ⟨q, hq, hbroken⟩ := List.exists_of_findSome?_eq_some hviolation
      simp only [reduceCtorEq, false_iff, not_and]
      intro _ hkept
      rw [hkept q hq] at hbroken
      cases hbroken
    | none =>
      simp only [true_iff]
      exact ⟨hunsupported, List.findSome?_eq_none_iff.1 hviolation⟩

namespace Description

/-- A description that its own backend can express. -/
def Legal (d : Description) : Prop :=
  d.project.backend.checkLegality d = .ok ()

variable {d : Description}

/-- A legal description does not use a feature that its backend lacks. -/
theorem Legal.not_isIn (h : d.Legal) {f : Feature} {hint : String}
    (hf : (f, hint) ∈ d.project.backend.unsupported) : f.isIn d = false :=
  (Backend.checkLegality_eq_ok_iff.1 h).1 (f, hint) hf

/-- A legal description keeps every rule of its backend. -/
theorem Legal.violation?_eq_none (h : d.Legal) {q : Requirement}
    (hq : q ∈ d.project.backend.requirements) : Legality.violation? d q = none :=
  (Backend.checkLegality_eq_ok_iff.1 h).2 q hq

/-! ## Features and backends -/

/-- A feature that a legal description uses is not among the unsupported ones. -/
theorem Legal.not_mem_unsupported (h : d.Legal) {f : Feature} (hf : f.isIn d = true) :
    f ∉ d.project.backend.unsupported.map (·.1) := by
  intro hmem
  obtain ⟨⟨g, hint⟩, hentry, rfl⟩ := List.mem_map.1 hmem
  rw [h.not_isIn hentry] at hf
  cases hf

theorem isIn_crons {spec : CronSpec} (hspec : spec ∈ d.crons) : Feature.crons.isIn d = true := by
  simp [Feature.isIn, List.ne_nil_of_mem hspec]

theorem isIn_databases {n : NetworkSpec} {spec : DatabaseSpec} (hn : n ∈ d.networks)
    (hspec : spec ∈ n.databases) : Feature.databases.isIn d = true := by
  simp only [Feature.isIn, List.any_eq_true]
  exact ⟨n, hn, by simp [List.ne_nil_of_mem hspec]⟩

theorem isIn_caches {n : NetworkSpec} {spec : CacheSpec} (hn : n ∈ d.networks)
    (hspec : spec ∈ n.caches) : Feature.caches.isIn d = true := by
  simp only [Feature.isIn, List.any_eq_true]
  exact ⟨n, hn, by simp [List.ne_nil_of_mem hspec]⟩

theorem isIn_uis {n : NetworkSpec} {spec : UiSpec} (hn : n ∈ d.networks)
    (hspec : spec ∈ n.uis) : Feature.uis.isIn d = true := by
  simp only [Feature.isIn, List.any_eq_true]
  exact ⟨n, hn, by simp [List.ne_nil_of_mem hspec]⟩

/-- Scheduled jobs are for flat code only. -/
theorem Legal.backend_of_cron (h : d.Legal) {spec : CronSpec} (hspec : spec ∈ d.crons) :
    d.project.backend = .flat := by
  have hsupported := h.not_mem_unsupported (isIn_crons hspec)
  cases hb : d.project.backend with
  | flat => rfl
  | construct => simp [hb, Backend.unsupported] at hsupported
  | manifest => simp [hb, Backend.unsupported] at hsupported

/-- Databases are not for constructs. -/
theorem Legal.backend_of_database (h : d.Legal) {n : NetworkSpec} {spec : DatabaseSpec}
    (hn : n ∈ d.networks) (hspec : spec ∈ n.databases) : d.project.backend ≠ .construct := by
  have hsupported := h.not_mem_unsupported (isIn_databases hn hspec)
  intro hb
  simp [hb, Backend.unsupported] at hsupported

/-- Caches are not for constructs. -/
theorem Legal.backend_of_cache (h : d.Legal) {n : NetworkSpec} {spec : CacheSpec}
    (hn : n ∈ d.networks) (hspec : spec ∈ n.caches) : d.project.backend ≠ .construct := by
  have hsupported := h.not_mem_unsupported (isIn_caches hn hspec)
  intro hb
  simp [hb, Backend.unsupported] at hsupported

/-- Frontends are not for flat code. -/
theorem Legal.backend_of_ui (h : d.Legal) {n : NetworkSpec} {spec : UiSpec}
    (hn : n ∈ d.networks) (hspec : spec ∈ n.uis) : d.project.backend ≠ .flat := by
  have hsupported := h.not_mem_unsupported (isIn_uis hn hspec)
  intro hb
  simp [hb, Backend.unsupported] at hsupported

/-- Flat code has no kernel of either variant. -/
theorem Legal.kernel_eq_none (h : d.Legal) (hb : d.project.backend = .flat) :
    d.kernel = none ∧ d.hybridKernel = none := by
  have hnative := h.not_isIn (f := .kernel) (by rw [hb]; exact List.mem_cons_self)
  have hhybrid := h.not_isIn (f := .hybridKernel)
    (by rw [hb]; exact List.mem_cons_of_mem _ List.mem_cons_self)
  simp only [Feature.isIn, Option.isSome_eq_false_iff, Option.isNone_iff_eq_none] at hnative hhybrid
  exact ⟨hnative, hhybrid⟩

/-- A cluster has no native kernel. -/
theorem Legal.native_eq_none (h : d.Legal) (hb : d.project.backend = .manifest) :
    d.kernel = none := by
  have hnative := h.not_isIn (f := .kernel) (by rw [hb]; exact List.mem_cons_self)
  simpa only [Feature.isIn, Option.isSome_eq_false_iff, Option.isNone_iff_eq_none] using hnative

/-- Kernels of either variant are not for flat code. -/
theorem Legal.backend_of_kernel (h : d.Legal) {variant : KernelVariant} {spec : KernelSpec}
    (hspec : (Project.of d).kernel? = some (variant, spec)) : d.project.backend ≠ .flat := by
  intro hb
  obtain ⟨hnative, hhybrid⟩ := h.kernel_eq_none hb
  simp [Project.kernel?, Project.of, hnative, hhybrid] at hspec

/-! ## Clusters -/

/-- Of the legal descriptions, exactly those for manifests have a cluster. -/
theorem Legal.cluster?_isSome_iff (h : d.Legal) :
    d.cluster?.isSome ↔ d.project.backend = .manifest := by
  cases hb : d.project.backend with
  | flat => simp [cluster?, hb]
  | construct => simp [cluster?, hb]
  | manifest =>
    have hnamespace := h.violation?_eq_none (q := .namespaceName)
      (by simp [hb, Backend.requirements])
    have hregistry := h.violation?_eq_none (q := .imageRegistry)
      (by simp [hb, Backend.requirements])
    cases hk : d.kubernetes with
    | none => simp [Legality.violation?, hk] at hnamespace
    | some k =>
      cases hname : k.namespaceName with
      | none => simp [Legality.violation?, hk, hname] at hnamespace
      | some name =>
        cases hreg : k.registry with
        | none => simp [Legality.violation?, hk, hreg] at hregistry
        | some registry => simp [cluster?, hb, hk, hname, hreg]

theorem Legal.exists_cluster_iff (h : d.Legal) :
    (∃ c, (Project.of d).cluster = some c) ↔ d.project.backend = .manifest := by
  rw [← h.cluster?_isSome_iff, Option.isSome_iff_exists]
  rfl

theorem Legal.cluster_eq_none_iff (h : d.Legal) :
    (Project.of d).cluster = none ↔ d.project.backend ≠ .manifest := by
  rw [Ne, ← not_congr h.exists_cluster_iff, not_exists]
  exact Option.eq_none_iff_forall_ne_some

end Description

end Groundwork
