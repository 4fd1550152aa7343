import Groundwork.Proofs.Resolution.Backward
import Groundwork.Proofs.Resolution.Origins
import Groundwork.Proofs.Resolution.References
import Mathlib.Data.List.TakeWhile

/-!
# What scheduled jobs call

A target is written in one of three ways: as a reference, as a network and a name with a slash
between them, or as a name alone.  However it is written, it has to mean exactly one container or
function.  In a compiled plan the job then waits for the node of that workload alone.

Main definition:

- `Description.Calls`: the workload that a target means.

Main results:

- `Description.cronTarget_eq_ok_iff`: a target is found exactly if it means a workload.
- `Description.schedule_of_compile`: what targets mean, and what the jobs of a plan wait for.
-/

namespace Groundwork

/-! ## Slashes -/

/-- A text without a slash is not split. -/
theorem splitSlash?_of_not_mem {s : String} (h : '/' ∉ s.toList) : splitSlash? s = none := by
  have hall : s.toList.dropWhile (fun c => decide (c ≠ '/')) = [] := by
    rw [List.dropWhile_eq_nil_iff]
    exact fun c hc => decide_eq_true fun heq => h (heq ▸ hc)
  simp only [splitSlash?, hall]

/-- A text is split at its first slash. -/
theorem splitSlash?_append {first : String} (h : '/' ∉ first.toList) (rest : String) :
    splitSlash? (first ++ "/" ++ rest) = some (first, rest) := by
  have hchars : (first ++ "/" ++ rest).toList = first.toList ++ '/' :: rest.toList := by
    simp [String.toList_append]
  have hfirst : ∀ c ∈ first.toList, decide (c ≠ '/') = true :=
    fun c hc => decide_eq_true fun heq => h (heq ▸ hc)
  simp only [splitSlash?, hchars, List.takeWhile_append_of_pos hfirst,
    List.dropWhile_append_of_pos hfirst]
  simp

/-- A text with a slash is split at the first one. -/
theorem exists_eq_append_slash {s : String} (h : '/' ∈ s.toList) :
    ∃ first rest, s = first ++ "/" ++ rest ∧ '/' ∉ first.toList := by
  obtain ⟨first, rest, hs, hfirst⟩ := List.eq_append_cons_of_mem h
  refine ⟨String.ofList first, String.ofList rest, String.toList_inj.1 ?_, by simpa using hfirst⟩
  simp [hs, String.toList_append]

theorem slash_mem_append (first rest : String) : '/' ∈ (first ++ "/" ++ rest).toList := by
  simp [String.toList_append]

/-! ## Single entries -/

/-- Lists without repeats have one entry altogether exactly if one list has it and no list has
another. -/
theorem flatMap_eq_singleton_iff {α β : Type} {l : List α} {f : α → List β} {b : β}
    (hf : ∀ a ∈ l, (f a).Nodup) :
    l.flatMap f = [b] ↔
      ∃ i : Nat, ∀ (j : Nat) (c : β), (∃ a, l[j]? = some a ∧ c ∈ f a) ↔ j = i ∧ c = b := by
  induction l with
  | nil => simp
  | cons a rest ih =>
    have hrest := ih fun x hx => hf x (List.mem_cons_of_mem a hx)
    rw [List.flatMap_cons, List.append_eq_singleton_iff, hrest]
    constructor
    · rintro (⟨hhead, i, hi⟩ | ⟨hhead, htail⟩)
      · refine ⟨i + 1, fun j c => ?_⟩
        cases j with
        | zero => simp [hhead]
        | succ j => simpa using hi j c
      · refine ⟨0, fun j c => ?_⟩
        cases j with
        | zero => simp [hhead]
        | succ j =>
          simp only [List.getElem?_cons_succ, Nat.succ_ne_zero, false_and, iff_false]
          rintro ⟨x, hx, hc⟩
          rw [List.flatMap_eq_nil_iff.1 htail x (List.mem_of_getElem? hx)] at hc
          cases hc
    · rintro ⟨i, hi⟩
      cases i with
      | zero =>
        refine Or.inr ⟨?_, List.flatMap_eq_nil_iff.2 fun x hx => ?_⟩
        · have hmem : ∀ c, c ∈ f a ↔ c ∈ [b] := fun c => by simpa using hi 0 c
          exact List.perm_singleton.1 ((List.perm_ext_iff_of_nodup
            (hf a List.mem_cons_self) (List.nodup_singleton b)).2 hmem)
        · obtain ⟨j, hj, rfl⟩ := List.mem_iff_getElem.1 hx
          refine List.eq_nil_iff_forall_not_mem.2 fun c hc => ?_
          have hone := (hi (j + 1) c).1 ⟨_, by simp [hj], hc⟩
          simp at hone
      | succ i =>
        refine Or.inl ⟨?_, i, fun j c => by simpa using hi (j + 1) c⟩
        exact List.eq_nil_iff_forall_not_mem.2 fun c hc => by simpa [hc] using hi 0 c

/-! ## Targets -/

/-- The kind that references of a type schedule is the one whose references are of that type. -/
theorem RouteBackendKind.ofReferenceType?_eq_some_iff {t : ReferenceType}
    {kind : RouteBackendKind} :
    ofReferenceType? t = some kind ↔ kind ≠ .ui ∧ t = kind.referenceType := by
  cases kind <;> cases t <;> decide

namespace NetworkSpec

/-- The network declares a container or a function under a name. -/
def Schedules (n : NetworkSpec) (kind : RouteBackendKind) (name : String) : Prop :=
  kind ≠ .ui ∧ n.Declares kind name

/-- A network schedules a workload of some kind and name exactly if it has it and the kind can be
called. -/
theorem mem_schedulable_iff {n : NetworkSpec} {kind : RouteBackendKind} {name : String} :
    kind ∈ n.schedulable name ↔ n.Schedules kind name := by
  cases kind with
  | ui => simp [Schedules, schedulable]
  | container => simp [Schedules, Declares, schedulable, container?]
  | function => simp [Schedules, Declares, schedulable, function?]

/-- Each kind is tried once. -/
theorem nodup_schedulable (n : NetworkSpec) (name : String) : (n.schedulable name).Nodup := by
  unfold schedulable
  split <;> split <;> decide

end NetworkSpec

namespace Description

variable {d : Description}

/-- The workload, by its kind and its name, that a target means. -/
inductive Calls (d : Description) (target : String) : RouteBackendKind → String → Prop
  /-- A reference to a container or function that some network declares.  A property that the
  reference may name makes no difference. -/
  | reference {ref : Reference} {kind : RouteBackendKind} {n : NetworkSpec}
      (href : Reference.parse? target = some ref) (htype : ref.type = kind.referenceType)
      (hn : n ∈ d.networks) (hdeclares : n.Schedules kind ref.name) : Calls d target kind ref.name
  /-- What stands before the first slash is the name of a network, and what stands after it is the
  name of one container or function, but not of both, in the first network so named. -/
  | inside {kind : RouteBackendKind} {network name : String} {n : NetworkSpec}
      {before after : List NetworkSpec} (href : Reference.parse? target = none)
      (htarget : target = network ++ "/" ++ name) (hslash : '/' ∉ network.toList)
      (hnetworks : d.networks = before ++ n :: after) (hname : n.name = network)
      (hfirst : ∀ m ∈ before, m.name ≠ network)
      (honly : ∀ other, n.Schedules other name ↔ other = kind) : Calls d target kind name
  /-- The name, without a slash, of one container or function in all networks together. -/
  | anywhere {kind : RouteBackendKind} {i : Nat} (href : Reference.parse? target = none)
      (hslash : '/' ∉ target.toList)
      (honly : ∀ j other, (∃ n, d.networks[j]? = some n ∧ n.Schedules other target) ↔
        j = i ∧ other = kind) : Calls d target kind target

/-- A network is found by its name, and is the first of that name. -/
theorem network?_eq_some_iff {name : String} {n : NetworkSpec} :
    d.network? name = some n ↔
      n.name = name ∧ ∃ before after, d.networks = before ++ n :: after ∧
        ∀ m ∈ before, m.name ≠ name := by
  simp [network?, List.find?_eq_some_iff_append]

/-- A reference is followed exactly if it is to a container or function that is declared. -/
theorem referencedTarget_eq_ok_iff {ref : Reference} {kind : RouteBackendKind} {name : String} :
    d.referencedTarget ref = .ok (kind, name) ↔
      ref.type = kind.referenceType ∧ (∃ n ∈ d.networks, n.Schedules kind ref.name) ∧
        ref.name = name := by
  unfold referencedTarget
  split
  · rename_i hother
    simp only [reduceCtorEq, false_iff]
    rintro ⟨htype, ⟨n, -, hui, -⟩, -⟩
    rw [(RouteBackendKind.ofReferenceType?_eq_some_iff).2 ⟨hui, htype⟩] at hother
    cases hother
  · rename_i found hfound
    obtain ⟨-, htype⟩ := RouteBackendKind.ofReferenceType?_eq_some_iff.1 hfound
    have hdeclared : (d.networks.any fun n => (n.schedulable ref.name).contains found) = true ↔
        ∃ n ∈ d.networks, n.Schedules found ref.name := by
      simp [List.any_eq_true, NetworkSpec.mem_schedulable_iff]
    split
    · rename_i hany
      rw [Except.ok.injEq, Prod.mk.injEq]
      constructor
      · rintro ⟨rfl, rfl⟩
        exact ⟨htype, hdeclared.1 hany, rfl⟩
      · rintro ⟨hsame, ⟨n, -, hui, -⟩, hname⟩
        have hkind := RouteBackendKind.ofReferenceType?_eq_some_iff.2 ⟨hui, hsame⟩
        exact ⟨Option.some.inj (hfound.symm.trans hkind), hname⟩
    · rename_i hany
      simp only [reduceCtorEq, false_iff]
      rintro ⟨hsame, ⟨n, hn, hschedules⟩, -⟩
      have hkind := RouteBackendKind.ofReferenceType?_eq_some_iff.2 ⟨hschedules.1, hsame⟩
      obtain rfl := Option.some.inj (hfound.symm.trans hkind)
      exact hany (hdeclared.2 ⟨n, hn, hschedules⟩)

/-- A name is found in some networks exactly if one kind in one network has it. -/
theorem uniqueTarget_eq_ok_iff {networks : List NetworkSpec} {text name : String}
    {kind : RouteBackendKind} :
    uniqueTarget networks text = .ok (kind, name) ↔
      (∃ i : Nat, ∀ j other, (∃ n, networks[j]? = some n ∧ n.Schedules other text) ↔
        j = i ∧ other = kind) ∧ text = name := by
  simp only [← NetworkSpec.mem_schedulable_iff]
  rw [← flatMap_eq_singleton_iff fun n _ => n.nodup_schedulable text]
  unfold uniqueTarget
  split
  · rename_i only honly
    simp [honly]
  · rename_i hnone
    simp [hnone]
  · rename_i hsome _
    simp only [reduceCtorEq, false_iff, not_and]
    exact fun honly => absurd honly (hsome _)

/-- In a single network a name is found exactly if one kind has it. -/
theorem uniqueTarget_singleton_eq_ok_iff {n : NetworkSpec} {text name : String}
    {kind : RouteBackendKind} :
    uniqueTarget [n] text = .ok (kind, name) ↔
      (∀ other, n.Schedules other text ↔ other = kind) ∧ text = name := by
  rw [uniqueTarget_eq_ok_iff]
  refine and_congr_left fun _ => ⟨?_, fun honly => ⟨0, fun j other => ?_⟩⟩
  · rintro ⟨i, hi⟩ other
    have hzero : i = 0 := by
      obtain ⟨m, hm, -⟩ := (hi i kind).2 ⟨rfl, rfl⟩
      have hlt := (List.getElem?_eq_some_iff.1 hm).1
      simpa using hlt
    simpa [hzero] using hi 0 other
  · cases j with
    | zero => simpa using honly other
    | succ j => simp

/-- A target is found exactly if, without the blanks around it, it means a workload. -/
theorem cronTarget_eq_ok_iff {text name : String} {kind : RouteBackendKind} :
    d.cronTarget text = .ok (kind, name) ↔ d.Calls (trim text) kind name := by
  simp only [cronTarget]
  generalize trim text = target
  split
  · rename_i ref href
    rw [referencedTarget_eq_ok_iff]
    constructor
    · rintro ⟨htype, ⟨n, hn, hschedules⟩, rfl⟩
      exact .reference href htype hn hschedules
    · intro h
      cases h with
      | reference href' htype hn hschedules =>
        rw [href, Option.some.injEq] at href'
        subst href'
        exact ⟨htype, ⟨_, hn, hschedules⟩, rfl⟩
      | inside hnone =>
        rw [href] at hnone
        cases hnone
      | anywhere hnone =>
        rw [href] at hnone
        cases hnone
  · rename_i href
    by_cases hslash : '/' ∈ target.toList
    · obtain ⟨network, rest, rfl, hnetwork⟩ := exists_eq_append_slash hslash
      simp only [splitSlash?_append hnetwork]
      constructor
      · intro h
        split at h
        · rename_i n hn
          obtain ⟨hname, before, after, hnetworks, hfirst⟩ := network?_eq_some_iff.1 hn
          obtain ⟨honly, rfl⟩ := uniqueTarget_singleton_eq_ok_iff.1 h
          exact .inside href rfl hnetwork hnetworks hname hfirst honly
        · cases h
      · intro h
        cases h with
        | reference href' =>
          rw [href] at href'
          cases href'
        | @inside _ network' name n before after _ htarget hslash' hnetworks hname hfirst honly =>
          have hsame := splitSlash?_append hslash' name
          rw [← htarget, splitSlash?_append hnetwork] at hsame
          cases hsame
          rw [network?_eq_some_iff.2 ⟨hname, before, after, hnetworks, hfirst⟩]
          exact uniqueTarget_singleton_eq_ok_iff.2 ⟨honly, rfl⟩
        | anywhere _ hnone => exact absurd hslash hnone
    · rw [splitSlash?_of_not_mem hslash]
      simp only [uniqueTarget_eq_ok_iff]
      constructor
      · rintro ⟨⟨i, honly⟩, rfl⟩
        exact .anywhere href hslash honly
      · intro h
        cases h with
        | reference href' =>
          rw [href] at href'
          cases href'
        | inside _ htarget => exact absurd (htarget ▸ slash_mem_append _ _) hslash
        | anywhere _ _ honly => exact ⟨⟨_, honly⟩, rfl⟩

/-- A target that means nothing is refused, with the name of the job and the target as it was
written. -/
theorem mapError_cronTarget_of_not_calls {spec : CronSpec}
    (h : ∀ kind name, ¬ d.Calls (trim spec.target) kind name) :
    ∃ problem, (d.cronTarget spec.target).mapError (CompileError.cronTarget spec.name spec.target) =
      .error (.cronTarget spec.name spec.target problem) := by
  cases htarget : d.cronTarget spec.target with
  | error problem => exact ⟨problem, rfl⟩
  | ok called => exact absurd (cronTarget_eq_ok_iff.1 htarget) (h called.1 called.2)

end Description

/-! ## Jobs in compiled plans -/

/-- The node of the workload that a job calls: it has the kind and the name that the settings of the
job record, no other node has its id, the job waits for it alone, and it stands before the job. -/
structure Plan.IsCalled (p : Plan) (r : Resource) (c : CronConfig) (t : Resource) : Prop where
  mem : t ∈ p.resources
  id_eq : t.id = c.targetKind.resourceKind.nodeId c.target
  count_eq : (p.resources.map (·.id)).count t.id = 1
  name_eq : t.name = c.target
  typeTag_eq : t.typeTag = p.project.backend.typeTag c.targetKind.resourceKind
  kind_eq : t.config.kind = c.targetKind.resourceKind.configKind
  dependsOn_eq : r.dependsOn = [t.id]
  precedes : Provisioning.Precedes p.order t.id r.id

namespace Description

variable {d : Description} {p : Plan}

/-- Every job of a compiled plan has the node of what it calls. -/
theorem Compiles.exists_called (h : d.Compiles p) {r : Resource} (hr : r ∈ p.resources)
    {c : CronConfig} (hc : r.config = .cron c) :
    ∃ spec ∈ d.crons, r.id = ResourceKind.cron.nodeId spec.name ∧
      d.Calls (trim spec.target) c.targetKind c.target ∧ ∃ t, p.IsCalled r c t := by
  obtain ⟨spec, hspec, nodes, hnodes, hmem⟩ := (h.origin hr).exists_cron (by rw [hc]; rfl)
  obtain ⟨hid, -, -, htarget, -⟩ := Project.config_of_mem_cronNodes hnodes hmem hc
  have hdepends := Project.dependsOn_of_mem_cronNodes hnodes hmem hc
  have hkind : c.targetKind.resourceKind = c.targetKind.referenceType.resourceKind := by
    cases hui : c.targetKind with
    | ui => exact absurd hui (cronTarget_ne_ui htarget)
    | container => rfl
    | function => rfl
  have href : (Reference.mk c.targetKind.referenceType c.target none).resourceId ∈
      r.dependsOn := by
    rw [hdepends, Reference.resourceId_eq_nodeId, hkind]
    exact List.mem_singleton_self _
  obtain ⟨t, ht, hsame, hname, hnode, -, hprecedes⟩ := h.exists_target hr href
  rw [Reference.resourceId_eq_nodeId] at hsame
  simp only [← hkind] at hsame hnode
  refine ⟨spec, hspec, hid, cronTarget_eq_ok_iff.1 htarget, t, ht, hsame, ?_, hname, ?_,
    hnode.kind_eq, ?_, hprecedes⟩
  · exact List.count_eq_one_of_mem h.nodup_ids (List.mem_map_of_mem ht)
  · rw [hnode.typeTag_eq, h.project_eq]
    rfl
  · rw [hdepends, hsame]

/-- Every declared job is a node of a compiled plan. -/
theorem Compiles.exists_cron_node (h : d.Compiles p) {spec : CronSpec} (hspec : spec ∈ d.crons) :
    ∃ r ∈ p.resources, r.id = ResourceKind.cron.nodeId spec.name ∧ r.config.kind = .cron := by
  have hstep : (Project.of d).cronNodes spec ∈ (Project.of d).steps :=
    List.mem_append_right _ (List.mem_map_of_mem hspec)
  obtain ⟨nodes, hnodes, hsubset⟩ := Project.step_of_resources_eq_ok h.resources_eq hstep
  obtain ⟨kind, target, c, -, -, rfl⟩ := Project.cronNodes_cases hnodes
  exact ⟨_, hsubset (List.mem_singleton_self _), rfl, rfl⟩

/-- A target is found exactly if, without the blanks around it, it means one workload, and else the
job is refused for its target.  In a compiled plan every declared job has a node, and every job
records what its target means and waits for the node of that workload alone, which is there once and
stands before it. -/
theorem schedule_of_compile (d : Description) :
    (∀ spec : CronSpec,
      (∀ kind name,
        (d.cronTarget spec.target).mapError (CompileError.cronTarget spec.name spec.target) =
          .ok (kind, name) ↔ d.Calls (trim spec.target) kind name) ∧
      ((∀ kind name, ¬ d.Calls (trim spec.target) kind name) → ∃ problem,
        (d.cronTarget spec.target).mapError (CompileError.cronTarget spec.name spec.target) =
          .error (.cronTarget spec.name spec.target problem))) ∧
    ∀ p, d.compile = .ok p →
      (∀ spec ∈ d.crons, ∃ r ∈ p.resources,
        r.id = ResourceKind.cron.nodeId spec.name ∧ r.config.kind = .cron) ∧
      ∀ r ∈ p.resources, ∀ c, r.config = .cron c →
        ∃ spec ∈ d.crons, r.id = ResourceKind.cron.nodeId spec.name ∧
          d.Calls (trim spec.target) c.targetKind c.target ∧ ∃ t, p.IsCalled r c t := by
  refine ⟨fun spec => ⟨fun kind name => ?_, mapError_cronTarget_of_not_calls⟩, fun p h => ?_⟩
  · rw [mapError_eq_ok_iff, cronTarget_eq_ok_iff]
  · have hcompiles := compile_eq_ok_iff.1 h
    exact ⟨fun spec hspec => hcompiles.exists_cron_node hspec,
      fun r hr c hc => hcompiles.exists_called hr hc⟩

/-- Flat code with a name that is declared three times, and jobs whose targets are written in all
three ways. -/
def rota : Description :=
  { ofNetworks ⟨"shop", "us-central1", none, .flat⟩ [
      { NetworkSpec.ofContainers "main" ["api", "both"] with functions := [.named "both"] },
      { NetworkSpec.ofContainers "jobs" [] with functions := [.named "nightly"] }] with
    crons := [⟨"ping", "0 * * * *", " api ", "UTC", "/", "POST", none⟩,
      ⟨"sweep", "0 3 * * *", "jobs/nightly", "UTC", "/", "POST", none⟩,
      ⟨"warm", "0 6 * * *", "@function/both", "UTC", "/", "POST", none⟩] }

/-- The jobs wait for what their targets mean; a target that is only the name declared twice in one
network is refused. -/
theorem schedule_of_compile_rota :
    rota.Calls "api" .container "api" ∧
    (∃ problem, (rota.cronTarget "both").mapError (CompileError.cronTarget "clash" "both") =
      .error (.cronTarget "clash" "both" problem)) ∧
    ∃ p, rota.compile = .ok p ∧
      ∀ job ∈ [("cron-ping", RouteBackendKind.container, "api"),
          ("cron-sweep", .function, "nightly"), ("cron-warm", .function, "both")],
        ∃ r ∈ p.resources, ∃ c t, r.id = job.1 ∧ c.targetKind = job.2.1 ∧ c.target = job.2.2 ∧
          p.IsCalled r c t := by
  obtain ⟨htargets, hplans⟩ := schedule_of_compile rota
  have hping : (rota.cronTarget " api ").mapError (CompileError.cronTarget "ping" " api ") =
      .ok (.container, "api") := by
    decide +kernel
  have hclash : (rota.cronTarget "both").mapError (CompileError.cronTarget "clash" "both") =
      .error (.cronTarget "clash" "both" (.ambiguous "both")) := by
    decide +kernel
  have hjobs : rota.compile.toOption.map (fun p => p.resources.filterMap fun r =>
        (SettingsKind.cron.select? r.config).map fun c => (r.id, c.targetKind, c.target)) =
      some [("cron-ping", RouteBackendKind.container, "api"), ("cron-sweep", .function, "nightly"),
        ("cron-warm", .function, "both")] := by
    decide +kernel
  refine ⟨?_, ?_, ?_⟩
  · have htrim : trim " api " = "api" := by decide +kernel
    rw [← htrim]
    exact ((htargets ⟨"ping", "0 * * * *", " api ", "UTC", "/", "POST", none⟩).1 _ _).1 hping
  · have hspec := htargets ⟨"clash", "0 * * * *", "both", "UTC", "/", "POST", none⟩
    refine hspec.2 fun kind name hcalls => ?_
    have hfound := (hspec.1 kind name).2 hcalls
    rw [hclash] at hfound
    cases hfound
  · cases hcompile : rota.compile with
    | error e =>
      rw [hcompile] at hjobs
      cases hjobs
    | ok p =>
      rw [hcompile] at hjobs
      refine ⟨p, rfl, fun job hjob => ?_⟩
      rw [← Option.some.inj hjobs] at hjob
      obtain ⟨r, hr, hsettings⟩ := List.mem_filterMap.1 hjob
      obtain ⟨c, hselect, rfl⟩ := Option.map_eq_some_iff.1 hsettings
      have hc := SettingsKind.select?_cron_eq_some_iff.1 hselect
      obtain ⟨spec, -, -, -, t, hcalled⟩ := (hplans p hcompile).2 r hr c hc
      exact ⟨r, hr, c, t, rfl, rfl, rfl, hcalled⟩

end Description

end Groundwork
