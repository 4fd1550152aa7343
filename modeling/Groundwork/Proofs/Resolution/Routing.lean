import Groundwork.Proofs.Resolution.Steps

/-!
# Where routes lead

A route leads to the only workload of its name.  A load balancer without routes leads to the first
container, or else function, or else frontend.  It is refused if that leaves it without any target,
or else for the first of its routes that does not lead to exactly one workload.

Main definitions:

- `NetworkSpec.RoutesTo`: where the routes of a load balancer lead.
- `NetworkSpec.Refuses`: why a load balancer is refused.

Main results:

- `NetworkSpec.routeTargets_eq_ok_iff`, `NetworkSpec.routeTargets_eq_error_iff`: the targets of a
  load balancer, and when it is refused.
- `NetworkSpec.RoutesTo.kind_eq`: two routes to one name lead to one workload.
- `NetworkSpec.RoutesTo.declares`: every route leads to a declared workload.
-/

namespace Groundwork

namespace NetworkSpec

variable {n : NetworkSpec}

/-- The network declares a workload of a kind under a name. -/
def Declares (n : NetworkSpec) (kind : RouteBackendKind) (name : String) : Prop :=
  match kind with
  | .ui => ∃ spec ∈ n.uis, spec.name = name
  | .container => ∃ spec ∈ n.containers, spec.name = name
  | .function => ∃ spec ∈ n.functions, spec.name = name

/-- The kinds of workload that have a name are those that the network declares under it. -/
theorem mem_kindsOf_iff {kind : RouteBackendKind} {name : String} :
    kind ∈ n.kindsOf name ↔ n.Declares kind name := by
  cases kind with
  | ui => simp [kindsOf, Declares, ui?]
  | container => simp [kindsOf, Declares, container?]
  | function => simp [kindsOf, Declares, function?]

/-- A name is of each kind of workload once at most. -/
theorem nodup_kindsOf (n : NetworkSpec) (name : String) : (n.kindsOf name).Nodup := by
  unfold kindsOf
  split <;> split <;> split <;> decide

/-! ## Single routes -/

/-- A route leads to the only workload of the network that has the name of its backend. -/
structure Leads (n : NetworkSpec) (r : RouteSpec) (t : RouteTarget) : Prop where
  path_eq : t.path = r.path
  backend_eq : t.backend = r.backend
  only : ∀ kind, n.Declares kind r.backend ↔ kind = t.backendKind

/-- A name has a single kind exactly if workloads of that kind, and of no other, are declared under
it. -/
theorem kindsOf_eq_singleton_iff {kind : RouteBackendKind} {name : String} :
    n.kindsOf name = [kind] ↔ ∀ other, n.Declares other name ↔ other = kind := by
  constructor
  · intro h other
    rw [← mem_kindsOf_iff, h, List.mem_singleton]
  · intro h
    have hmem : ∀ other, other ∈ n.kindsOf name ↔ other ∈ [kind] := fun other => by
      rw [mem_kindsOf_iff, h, List.mem_singleton]
    exact List.perm_singleton.1
      ((List.perm_ext_iff_of_nodup (nodup_kindsOf n name) (by simp)).2 hmem)

/-- A route is resolved exactly if it leads somewhere, and then to there. -/
theorem routeTarget_eq_ok_iff {r : RouteSpec} {t : RouteTarget} :
    n.routeTarget r = .ok t ↔ n.Leads r t := by
  have hleads : n.Leads r t ↔
      n.kindsOf r.backend = [t.backendKind] ∧ ⟨r.path, r.backend, t.backendKind⟩ = t := by
    rw [kindsOf_eq_singleton_iff]
    constructor
    · intro h
      refine ⟨h.only, ?_⟩
      rw [← h.path_eq, ← h.backend_eq]
    · rintro ⟨honly, ht⟩
      rw [← ht] at honly ⊢
      exact ⟨rfl, rfl, honly⟩
  rw [hleads]
  unfold routeTarget
  split
  · rename_i kind hkinds
    rw [Except.ok.injEq, hkinds]
    constructor
    · rintro rfl
      exact ⟨rfl, rfl⟩
    · rintro ⟨hkind, ht⟩
      rw [List.singleton_inj.1 hkind, ht]
  · rename_i hkinds
    simp [hkinds]
  · rename_i hsome hnone
    simp only [reduceCtorEq, false_iff, not_and]
    intro hkinds
    exact absurd hkinds (hsome _)

/-- The reason for which a network refuses a route. -/
inductive RefusesRoute (n : NetworkSpec) (r : RouteSpec) : Violation → Prop
  /-- No workload has the name of the backend. -/
  | unknown (hnone : ∀ kind, ¬ n.Declares kind r.backend) :
    RefusesRoute n r (.unknownRoute r.path r.backend n.name)
  /-- Workloads of two kinds have the name of the backend. -/
  | ambiguous {kind other : RouteBackendKind} (hne : kind ≠ other)
      (hkind : n.Declares kind r.backend) (hother : n.Declares other r.backend) :
    RefusesRoute n r (.ambiguousRoute r.path r.backend n.name)

/-- A route is refused exactly for the reasons that there are. -/
theorem routeTarget_eq_error_iff {r : RouteSpec} {v : Violation} :
    n.routeTarget r = .error v ↔ n.RefusesRoute r v := by
  unfold routeTarget
  split
  · rename_i kind hkinds
    simp only [reduceCtorEq, false_iff]
    have honly := kindsOf_eq_singleton_iff.1 hkinds
    intro h
    cases h with
    | unknown hnone => exact hnone kind ((honly kind).2 rfl)
    | ambiguous hne hkind hother =>
      exact hne (((honly _).1 hkind).trans ((honly _).1 hother).symm)
  · rename_i hkinds
    have hnone : ∀ kind, ¬ n.Declares kind r.backend := fun kind => by
      rw [← mem_kindsOf_iff, hkinds]
      exact List.not_mem_nil
    rw [Except.error.injEq]
    constructor
    · rintro rfl
      exact .unknown hnone
    · intro h
      cases h with
      | unknown => rfl
      | ambiguous _ hkind => exact absurd hkind (hnone _)
  · rename_i hone hnil
    rw [Except.error.injEq]
    constructor
    · rintro rfl
      have hnodup := nodup_kindsOf n r.backend
      cases hkinds : n.kindsOf r.backend with
      | nil => exact absurd hkinds hnil
      | cons kind rest =>
        cases rest with
        | nil => exact absurd hkinds (hone kind)
        | cons other rest =>
          rw [hkinds, List.nodup_cons] at hnodup
          have hne : kind ≠ other := fun h => hnodup.1 (h ▸ List.mem_cons_self)
          refine .ambiguous hne ?_ ?_
          · rw [← mem_kindsOf_iff, hkinds]
            exact List.mem_cons_self
          · rw [← mem_kindsOf_iff, hkinds]
            exact List.mem_cons_of_mem _ List.mem_cons_self
    · intro h
      cases h with
      | unknown hnone =>
        exact absurd (List.eq_nil_iff_forall_not_mem.2 fun kind hkind =>
          hnone kind (mem_kindsOf_iff.1 hkind)) hnil
      | ambiguous => rfl

/-! ## The route of every path -/

/-- The workload that every path leads to in a network: the first container, or else function, or
else frontend. -/
inductive First (n : NetworkSpec) : RouteBackendKind → String → Prop
  | container {c : ContainerSpec} {rest : List ContainerSpec}
      (hcontainers : n.containers = c :: rest) : First n .container c.name
  | function {f : FunctionSpec} {rest : List FunctionSpec} (hcontainers : n.containers = [])
      (hfunctions : n.functions = f :: rest) : First n .function f.name
  | ui {u : UiSpec} {rest : List UiSpec} (hcontainers : n.containers = [])
      (hfunctions : n.functions = []) (huis : n.uis = u :: rest) : First n .ui u.name

/-- A network without any workload. -/
structure Empty (n : NetworkSpec) : Prop where
  containers_eq : n.containers = []
  functions_eq : n.functions = []
  uis_eq : n.uis = []

theorem First.declares {kind : RouteBackendKind} {name : String} (h : n.First kind name) :
    n.Declares kind name := by
  cases h with
  | @container c rest hcontainers => exact ⟨c, by simp [hcontainers], rfl⟩
  | @function f rest _ hfunctions => exact ⟨f, by simp [hfunctions], rfl⟩
  | @ui u rest _ _ huis => exact ⟨u, by simp [huis], rfl⟩

theorem First.defaultRoute?_eq {kind : RouteBackendKind} {name : String} (h : n.First kind name) :
    n.defaultRoute? = some ⟨"/*", name, kind⟩ := by
  cases h with
  | container hcontainers => simp [defaultRoute?, hcontainers]
  | function hcontainers hfunctions => simp [defaultRoute?, hcontainers, hfunctions]
  | ui hcontainers hfunctions huis => simp [defaultRoute?, hcontainers, hfunctions, huis]

theorem Empty.defaultRoute?_eq (h : n.Empty) : n.defaultRoute? = none := by
  simp [defaultRoute?, h.containers_eq, h.functions_eq, h.uis_eq]

/-- A network has a first workload, or none at all. -/
theorem exists_first_or_empty (n : NetworkSpec) : (∃ kind name, n.First kind name) ∨ n.Empty := by
  cases hcontainers : n.containers with
  | cons c rest => exact Or.inl ⟨_, _, .container hcontainers⟩
  | nil =>
    cases hfunctions : n.functions with
    | cons f rest => exact Or.inl ⟨_, _, .function hcontainers hfunctions⟩
    | nil =>
      cases huis : n.uis with
      | cons u rest => exact Or.inl ⟨_, _, .ui hcontainers hfunctions huis⟩
      | nil => exact Or.inr ⟨hcontainers, hfunctions, huis⟩

/-- There is a route of every path exactly if there is a first workload. -/
theorem defaultRoute?_eq_some_iff {t : RouteTarget} :
    n.defaultRoute? = some t ↔ t.path = "/*" ∧ n.First t.backendKind t.backend := by
  constructor
  · intro h
    rcases n.exists_first_or_empty with ⟨kind, name, hfirst⟩ | hempty
    · rw [hfirst.defaultRoute?_eq] at h
      cases h
      exact ⟨rfl, hfirst⟩
    · rw [hempty.defaultRoute?_eq] at h
      cases h
  · rintro ⟨hpath, hfirst⟩
    rw [hfirst.defaultRoute?_eq, ← hpath]

/-- There is no default route exactly in a network without workloads. -/
theorem defaultRoute?_eq_none_iff : n.defaultRoute? = none ↔ n.Empty := by
  constructor
  · intro h
    rcases n.exists_first_or_empty with ⟨kind, name, hfirst⟩ | hempty
    · rw [hfirst.defaultRoute?_eq] at h
      cases h
    · exact hempty
  · exact Empty.defaultRoute?_eq

/-! ## Load balancers -/

/-- Where the routes of a load balancer lead: each of them, in order, to the workload of its name;
without routes every path leads to the first workload. -/
inductive RoutesTo (n : NetworkSpec) (lb : LoadBalancerSpec) : List RouteTarget → Prop
  | first {kind : RouteBackendKind} {name : String} (hroutes : lb.routes = [])
      (hfirst : n.First kind name) : RoutesTo n lb [⟨"/*", name, kind⟩]
  | each {targets : List RouteTarget} (hroutes : lb.routes ≠ [])
      (hleads : List.Forall₂ n.Leads lb.routes targets) : RoutesTo n lb targets

/-- The reason for which a network refuses its load balancer: there is nothing to lead to, or a
route is refused, and no route before it is. -/
inductive Refuses (n : NetworkSpec) (lb : LoadBalancerSpec) : Violation → Prop
  | nothing (hroutes : lb.routes = []) (hempty : n.Empty) : Refuses n lb (.nothingToRoute n.name)
  | route {before after : List RouteSpec} {r : RouteSpec} {v : Violation}
      (hroutes : lb.routes = before ++ r :: after) (hbefore : ∀ r' ∈ before, ∃ t, n.Leads r' t)
      (hrefuses : n.RefusesRoute r v) : Refuses n lb v

variable {lb : LoadBalancerSpec} {targets : List RouteTarget}

/-- The targets of a load balancer are where its routes lead. -/
theorem routeTargets_eq_ok_iff : n.routeTargets lb = .ok targets ↔ n.RoutesTo lb targets := by
  unfold routeTargets
  split
  · rename_i hroutes
    rw [List.isEmpty_iff] at hroutes
    have hfirst : n.RoutesTo lb targets ↔ ∃ t, n.defaultRoute? = some t ∧ [t] = targets := by
      constructor
      · intro h
        cases h with
        | first _ hfirst => exact ⟨_, defaultRoute?_eq_some_iff.2 ⟨rfl, hfirst⟩, rfl⟩
        | each hne => exact absurd hroutes hne
      · rintro ⟨⟨path, name, kind⟩, ht, rfl⟩
        obtain ⟨rfl, hfirst⟩ := defaultRoute?_eq_some_iff.1 ht
        exact .first hroutes hfirst
    rw [hfirst]
    cases n.defaultRoute? <;> simp
  · rename_i hroutes
    rw [List.isEmpty_iff] at hroutes
    rw [mapM_eq_ok_iff]
    simp only [routeTarget_eq_ok_iff]
    constructor
    · exact .each hroutes
    · intro h
      cases h with
      | first hnil => exact absurd hnil hroutes
      | each _ hleads => exact hleads

/-- A load balancer is refused if it can lead nowhere, or for the first route that is refused. -/
theorem routeTargets_eq_error_iff {v : Violation} :
    n.routeTargets lb = .error v ↔ n.Refuses lb v := by
  unfold routeTargets
  split
  · rename_i hroutes
    rw [List.isEmpty_iff] at hroutes
    have hnothing : n.Refuses lb v ↔ n.defaultRoute? = none ∧ .nothingToRoute n.name = v := by
      rw [defaultRoute?_eq_none_iff]
      constructor
      · intro h
        cases h with
        | nothing _ hempty => exact ⟨hempty, rfl⟩
        | route hsome => simp [hroutes] at hsome
      · rintro ⟨hempty, rfl⟩
        exact .nothing hroutes hempty
    rw [hnothing]
    cases n.defaultRoute? <;> simp
  · rename_i hroutes
    rw [List.isEmpty_iff] at hroutes
    rw [mapM_eq_error_iff]
    simp only [routeTarget_eq_ok_iff, routeTarget_eq_error_iff]
    constructor
    · rintro ⟨before, r, after, hsplit, hbefore, hrefuses⟩
      exact .route hsplit hbefore hrefuses
    · intro h
      cases h with
      | nothing hnil => exact absurd hnil hroutes
      | route hsplit hbefore hrefuses => exact ⟨_, _, _, hsplit, hbefore, hrefuses⟩

/-- A load balancer that leads anywhere has a route. -/
theorem RoutesTo.ne_nil (h : n.RoutesTo lb targets) : targets ≠ [] := by
  cases h with
  | first => exact List.cons_ne_nil _ _
  | each hroutes hleads =>
    rintro rfl
    exact hroutes (List.forall₂_nil_right_iff.1 hleads)

/-- Every target is the first workload, or the only one of its name. -/
theorem RoutesTo.cases_of_mem (h : n.RoutesTo lb targets) {t : RouteTarget} (ht : t ∈ targets) :
    (targets = [t] ∧ n.First t.backendKind t.backend) ∨
      ∀ kind, n.Declares kind t.backend ↔ kind = t.backendKind := by
  cases h with
  | first _ hfirst =>
    rw [List.mem_singleton.1 ht]
    exact Or.inl ⟨rfl, hfirst⟩
  | each _ hleads =>
    obtain ⟨i, hi, rfl⟩ := List.mem_iff_getElem.1 ht
    have hroute := hleads.get (by rw [hleads.length_eq]; exact hi) hi
    simp only [List.get_eq_getElem] at hroute
    refine Or.inr fun kind => ?_
    rw [hroute.backend_eq]
    exact hroute.only kind

/-- Every route of a load balancer leads to a workload that the network declares. -/
theorem RoutesTo.declares (h : n.RoutesTo lb targets) :
    ∀ t ∈ targets, n.Declares t.backendKind t.backend := by
  intro t ht
  rcases h.cases_of_mem ht with ⟨-, hfirst⟩ | honly
  · exact hfirst.declares
  · exact (honly _).2 rfl

/-- Two routes to one name lead to one workload. -/
theorem RoutesTo.kind_eq (h : n.RoutesTo lb targets) {t t' : RouteTarget} (ht : t ∈ targets)
    (ht' : t' ∈ targets) (hbackend : t.backend = t'.backend) : t.backendKind = t'.backendKind := by
  rcases h.cases_of_mem ht' with ⟨hsingle, -⟩ | honly
  · rw [hsingle, List.mem_singleton] at ht
    rw [ht]
  · exact (honly _).1 (hbackend ▸ h.declares t ht)

end NetworkSpec

end Groundwork
