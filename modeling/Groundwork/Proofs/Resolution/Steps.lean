import Groundwork.Compilation
import Mathlib.Data.List.Forall2

/-!
# The steps of a resolution

Resolution takes its steps one after the other and refuses a taken id, so it succeeds exactly if
every step does and all ids are distinct; the nodes are then those of the steps, in order.  Each
node therefore comes out of one part of the description, which `Project.Origin` names.

Main results:

- `Project.resources_eq_ok_iff`: when resolution succeeds, and what it then gives.
- `Project.origin_of_mem_resources`: the parts of a description that nodes come from.
-/

namespace Groundwork

/-! ## Computations that can fail -/

/-- Two steps succeed if the first does and the second does after it. -/
theorem bind_eq_ok_iff {ε α β : Type} {x : Except ε α} {f : α → Except ε β} {b : β} :
    x >>= f = .ok b ↔ ∃ a, x = .ok a ∧ f a = .ok b := by
  cases x with
  | error e => simp [bind, Except.bind]
  | ok a => simp [bind, Except.bind]

@[simp]
theorem mapError_eq_ok_iff {ε ε' α : Type} {x : Except ε α} {f : ε → ε'} {a : α} :
    x.mapError f = .ok a ↔ x = .ok a := by
  cases x with
  | error e =>
    constructor
    · intro h
      cases h
    · intro h
      cases h
  | ok b =>
    constructor
    · intro h
      cases h
      rfl
    · intro h
      cases h
      rfl

/-- Going over a list succeeds exactly if every entry gives the result at its place. -/
theorem mapM_eq_ok_iff {ε α β : Type} {f : α → Except ε β} {l : List α} {result : List β} :
    l.mapM f = .ok result ↔ List.Forall₂ (fun a b => f a = .ok b) l result := by
  induction l generalizing result with
  | nil => simp [pure, Except.pure, eq_comm]
  | cons a rest ih =>
    rw [List.mapM_cons, bind_eq_ok_iff, List.forall₂_cons_left_iff]
    constructor
    · rintro ⟨b, hb, hrest⟩
      obtain ⟨bs, hbs, hresult⟩ := bind_eq_ok_iff.1 hrest
      exact ⟨b, bs, hb, ih.1 hbs, (Except.ok.inj hresult).symm⟩
    · rintro ⟨b, bs, hb, hbs, rfl⟩
      exact ⟨b, hb, bind_eq_ok_iff.2 ⟨bs, ih.2 hbs, rfl⟩⟩

/-- Going over a list fails exactly as the first entry does for which there is no result. -/
theorem mapM_eq_error_iff {ε α β : Type} {f : α → Except ε β} {l : List α} {e : ε} :
    l.mapM f = .error e ↔
      ∃ before a after, l = before ++ a :: after ∧ (∀ x ∈ before, ∃ b, f x = .ok b) ∧
        f a = .error e := by
  induction l with
  | nil => simp [pure, Except.pure]
  | cons a rest ih =>
    rw [List.mapM_cons]
    cases ha : f a with
    | error e' =>
      constructor
      · intro h
        cases h
        exact ⟨[], a, rest, rfl, by simp, ha⟩
      · rintro ⟨before, b, after, hl, hbefore, hb⟩
        cases before with
        | nil =>
          cases hl
          rw [ha] at hb
          cases hb
          rfl
        | cons x before =>
          cases hl
          obtain ⟨c, hc⟩ := hbefore a List.mem_cons_self
          rw [ha] at hc
          cases hc
    | ok c =>
      have hrest : (Except.ok c >>= fun b => rest.mapM f >>= fun bs => pure (b :: bs)) =
          .error e ↔ rest.mapM f = .error e := by
        cases rest.mapM f <;> simp [bind, Except.bind, pure, Except.pure]
      rw [hrest, ih]
      constructor
      · rintro ⟨before, b, after, rfl, hbefore, hb⟩
        exact ⟨a :: before, b, after, rfl, List.forall_mem_cons.2 ⟨⟨c, ha⟩, hbefore⟩, hb⟩
      · rintro ⟨before, b, after, hl, hbefore, hb⟩
        cases before with
        | nil =>
          cases hl
          rw [ha] at hb
          cases hb
        | cons x before =>
          cases hl
          exact ⟨before, b, after, rfl, (List.forall_mem_cons.1 hbefore).2, hb⟩

namespace Project

variable {p : Project}

/-! ## Taking steps -/

/-- Adding nodes succeeds exactly if no id is taken, and puts them at the end. -/
theorem addNodes_eq_ok_iff {nodes new result : List Resource}
    (hnodes : (nodes.map (·.id)).Nodup) :
    addNodes nodes new = .ok result ↔
      result = nodes ++ new ∧ (result.map (·.id)).Nodup := by
  induction new generalizing nodes with
  | nil =>
    simp only [addNodes, Except.ok.injEq, List.append_nil]
    constructor
    · rintro rfl
      exact ⟨rfl, hnodes⟩
    · rintro ⟨rfl, -⟩
      rfl
  | cons r rest ih =>
    have htaken : nodes.any (fun s => decide (s.id = r.id)) = true ↔ r.id ∈ nodes.map (·.id) := by
      simp
    rw [addNodes]
    split <;> rename_i hid
    · simp only [reduceCtorEq, false_iff, not_and]
      rintro rfl hnodup
      rw [List.map_append, List.nodup_append] at hnodup
      exact hnodup.2.2 r.id (htaken.1 hid) r.id (by simp) rfl
    · have hextended : ((nodes ++ [r]).map (·.id)).Nodup := by
        rw [List.map_append, List.nodup_append]
        refine ⟨hnodes, by simp, ?_⟩
        rintro a ha b hb rfl
        rw [List.map_cons, List.map_nil, List.mem_singleton] at hb
        exact hid (htaken.2 (hb ▸ ha))
      rw [ih hextended, List.append_assoc, List.singleton_append]

/-- Taking steps succeeds exactly if each of them does and no id comes twice. -/
theorem takeSteps_eq_ok_iff {nodes result : List Resource}
    {steps : List (Except CompileError (List Resource))} (hnodes : (nodes.map (·.id)).Nodup) :
    takeSteps nodes steps = .ok result ↔
      ∃ lists : List (List Resource), steps = lists.map Except.ok ∧ result = nodes ++ lists.flatten ∧
        (result.map (·.id)).Nodup := by
  induction steps generalizing nodes with
  | nil =>
    simp only [takeSteps, Except.ok.injEq]
    constructor
    · rintro rfl
      exact ⟨[], rfl, by simp, hnodes⟩
    · rintro ⟨lists, hlists, rfl, -⟩
      rw [List.map_eq_nil_iff.1 hlists.symm]
      simp
  | cons step rest ih =>
    simp only [takeSteps, bind_eq_ok_iff]
    constructor
    · rintro ⟨l, rfl, sum, hsum, htake⟩
      obtain ⟨rfl, hnodup⟩ := (addNodes_eq_ok_iff hnodes).1 hsum
      obtain ⟨lists, rfl, rfl, hresult⟩ := (ih hnodup).1 htake
      exact ⟨l :: lists, rfl, by simp, hresult⟩
    · rintro ⟨lists, hlists, rfl, hresult⟩
      obtain ⟨l, lists, rfl, rfl, rfl⟩ := List.map_eq_cons_iff.1 hlists.symm
      have hnodup : ((nodes ++ l).map (·.id)).Nodup := by
        rw [List.flatten_cons, ← List.append_assoc, List.map_append] at hresult
        exact (List.nodup_append.1 hresult).1
      exact ⟨l, rfl, nodes ++ l, (addNodes_eq_ok_iff hnodes).2 ⟨rfl, hnodup⟩,
        (ih hnodup).2 ⟨lists, rfl, by simp, hresult⟩⟩

/-- Resolution succeeds exactly if every step does and no id comes twice. -/
theorem resources_eq_ok_iff {resources : List Resource} :
    p.resources = .ok resources ↔
      ∃ lists : List (List Resource), p.steps = lists.map Except.ok ∧ resources = lists.flatten ∧
        (resources.map (·.id)).Nodup := by
  rw [Project.resources, takeSteps_eq_ok_iff (by simp)]
  simp

/-- Every step of a successful resolution succeeds, and its nodes are among the resources. -/
theorem step_of_resources_eq_ok {resources : List Resource} (h : p.resources = .ok resources)
    {step : Except CompileError (List Resource)} (hstep : step ∈ p.steps) :
    ∃ nodes, step = .ok nodes ∧ nodes ⊆ resources := by
  obtain ⟨lists, hsteps, rfl, -⟩ := resources_eq_ok_iff.1 h
  rw [hsteps] at hstep
  obtain ⟨nodes, hnodes, rfl⟩ := List.mem_map.1 hstep
  exact ⟨nodes, rfl, fun r hr => List.mem_flatten.2 ⟨nodes, hnodes, hr⟩⟩

/-- The steps of a network are steps of the project. -/
theorem mem_steps_of_mem_networkSteps {n : NetworkSpec} (hn : n ∈ p.description.networks)
    {step : Except CompileError (List Resource)} (hstep : step ∈ p.networkSteps n) :
    step ∈ p.steps :=
  List.mem_append_left _ (List.mem_append_right _ (List.mem_flatMap.2 ⟨n, hn, hstep⟩))

/-- Every node of a successful resolution comes out of one step. -/
theorem exists_step_of_mem {resources : List Resource} (h : p.resources = .ok resources)
    {r : Resource} (hr : r ∈ resources) : ∃ nodes, .ok nodes ∈ p.steps ∧ r ∈ nodes := by
  obtain ⟨lists, hsteps, rfl, -⟩ := resources_eq_ok_iff.1 h
  obtain ⟨nodes, hnodes, hmem⟩ := List.mem_flatten.1 hr
  exact ⟨nodes, by rw [hsteps]; exact List.mem_map_of_mem hnodes, hmem⟩

/-! ## Where nodes come from -/

/-- The part of a description that a node comes out of. -/
inductive Origin (p : Project) (r : Resource) : Prop
  /-- Something outside any network. -/
  | global (hr : r ∈ p.globalNodes)
  /-- A network itself, or its subnets, rules, connector and registry. -/
  | network {n : NetworkSpec} (hn : n ∈ p.description.networks) (hr : r ∈ p.networkNodes n)
  | kernel {n : NetworkSpec} {variant : KernelVariant} {spec : KernelSpec}
      {nodes : List Resource} (hn : n ∈ p.description.networks)
      (hspec : p.kernelOf? n = some (variant, spec))
      (hnodes : p.kernelNodes (p.site n) variant spec = .ok nodes) (hr : r ∈ nodes)
  | container {n : NetworkSpec} {spec : ContainerSpec} {nodes : List Resource}
      (hn : n ∈ p.description.networks) (hspec : spec ∈ n.containers)
      (hnodes : p.containerNodes (p.siteWithKernel (p.site n)) spec = .ok nodes) (hr : r ∈ nodes)
  | function {n : NetworkSpec} {spec : FunctionSpec} {nodes : List Resource}
      (hn : n ∈ p.description.networks) (hspec : spec ∈ n.functions)
      (hnodes : p.functionNodes (p.siteWithKernel (p.site n)) spec = .ok nodes) (hr : r ∈ nodes)
  | database {n : NetworkSpec} {spec : DatabaseSpec} (hn : n ∈ p.description.networks)
      (hspec : spec ∈ n.databases)
      (hr : r = p.databaseNode (p.siteWithKernel (p.site n)) spec)
  | cache {n : NetworkSpec} {spec : CacheSpec} (hn : n ∈ p.description.networks)
      (hspec : spec ∈ n.caches) (hr : r = p.cacheNode (p.siteWithKernel (p.site n)) spec)
  | ui {n : NetworkSpec} {spec : UiSpec} {nodes : List Resource}
      (hn : n ∈ p.description.networks) (hspec : spec ∈ n.uis)
      (hnodes : p.uiNodes (p.siteWithKernel (p.site n)) spec = .ok nodes) (hr : r ∈ nodes)
  | loadBalancer {n : NetworkSpec} {spec : LoadBalancerSpec} {nodes : List Resource}
      (hn : n ∈ p.description.networks) (hspec : n.loadBalancer = some spec)
      (hnodes : p.loadBalancerNodes (p.siteWithKernel (p.site n)) spec = .ok nodes)
      (hr : r ∈ nodes)
  | cron {spec : CronSpec} {nodes : List Resource} (hspec : spec ∈ p.description.crons)
      (hnodes : p.cronNodes spec = .ok nodes) (hr : r ∈ nodes)

/-- A step of a network gives nodes that come out of the network. -/
theorem origin_of_mem_networkSteps {n : NetworkSpec} (hn : n ∈ p.description.networks)
    {nodes : List Resource} (hnodes : .ok nodes ∈ p.networkSteps n) {r : Resource}
    (hr : r ∈ nodes) : p.Origin r := by
  simp only [networkSteps, List.mem_append, List.mem_map, List.mem_singleton, Except.ok.injEq,
    Option.mem_toList] at hnodes
  rcases hnodes with ((((((hself | ⟨⟨variant, k⟩, hk, heq⟩) | ⟨c, hc, heq⟩) | ⟨f, hf, heq⟩) |
    hdatabases) | hcaches) | ⟨u, hu, heq⟩) | ⟨lb, hlb, heq⟩
  · exact .network hn (hself ▸ hr)
  · exact .kernel hn hk heq hr
  · exact .container hn hc heq hr
  · exact .function hn hf heq hr
  · subst hdatabases
    obtain ⟨d, hd, rfl⟩ := List.mem_map.1 hr
    exact .database hn hd rfl
  · subst hcaches
    obtain ⟨c, hc, rfl⟩ := List.mem_map.1 hr
    exact .cache hn hc rfl
  · exact .ui hn hu heq hr
  · exact .loadBalancer hn hlb heq hr

/-- Every node of a successful resolution comes out of some part of the description. -/
theorem origin_of_mem_resources {resources : List Resource} (h : p.resources = .ok resources)
    {r : Resource} (hr : r ∈ resources) : p.Origin r := by
  obtain ⟨nodes, hnodes, hmem⟩ := exists_step_of_mem h hr
  simp only [steps, List.mem_append, List.mem_singleton, Except.ok.injEq, List.mem_flatMap,
    List.mem_map] at hnodes
  rcases hnodes with (hglobal | ⟨n, hn, hstep⟩) | ⟨spec, hspec, hstep⟩
  · exact .global (hglobal ▸ hmem)
  · exact origin_of_mem_networkSteps hn hstep hmem
  · exact .cron hspec hstep hmem

end Project

end Groundwork
