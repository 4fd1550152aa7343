import Groundwork.Description.Validation
import Mathlib.Data.List.Nodup

/-!
# What validation demands

A scope is without errors exactly if its names are allowed and distinct, and a description is valid
exactly if all its scopes are and nothing blank stands where something has to be said.  Databases
and caches of a network share one scope.

Main results:

- `Validation.scopeErrors_eq_nil_iff`: what the check of one scope lets through.
- `Validation.networkErrors_eq_nil_iff`: what the checks inside a network let through.
- `Description.validate_eq_nil_iff`: when a description is valid.
-/

namespace Groundwork

namespace Validation

/-! ## Scopes -/

/-- The names of one scope: allowed, and none twice. -/
structure Scope (names : List String) : Prop where
  valid : ∀ name ∈ names, isValidName name = true
  nodup : names.Nodup

/-- A name has no errors exactly if it is valid and new. -/
theorem nameErrors_eq_nil_iff {kind scope name : String} {earlier : List String} :
    nameErrors kind scope earlier name = [] ↔ isValidName name = true ∧ name ∉ earlier := by
  unfold nameErrors
  by_cases hvalid : isValidName name = true <;> by_cases hmem : name ∈ earlier <;>
    simp [hvalid, hmem]

/-- The check of a scope lets through exactly allowed names that are distinct from each other and
from the earlier ones, on declarations with nothing else wrong. -/
theorem scopeErrors_eq_nil_iff {α : Type} {kind scope : String} {name : α → String}
    {more : α → List ValidationError} {earlier : List String} {xs : List α} :
    scopeErrors kind scope name more earlier xs = [] ↔
      Scope (xs.map name) ∧ (∀ x ∈ xs, more x = []) ∧ ∀ x ∈ xs, name x ∉ earlier := by
  induction xs generalizing earlier with
  | nil =>
    simp only [scopeErrors, List.map_nil, true_iff]
    exact ⟨⟨by simp, List.nodup_nil⟩, by simp, by simp⟩
  | cons x rest ih =>
    simp only [scopeErrors, List.append_eq_nil_iff, nameErrors_eq_nil_iff, ih]
    constructor
    · rintro ⟨⟨⟨hvalid, hfresh⟩, hmore⟩, hrest, hmores, hfreshes⟩
      have hnew : name x ∉ rest.map name := by
        intro hmem
        obtain ⟨y, hy, heq⟩ := List.mem_map.1 hmem
        exact hfreshes y hy (heq ▸ List.mem_cons_self)
      refine ⟨⟨?_, List.nodup_cons.2 ⟨hnew, hrest.nodup⟩⟩, ?_, ?_⟩
      · exact List.forall_mem_cons.2 ⟨hvalid, hrest.valid⟩
      · exact List.forall_mem_cons.2 ⟨hmore, hmores⟩
      · refine List.forall_mem_cons.2 ⟨hfresh, ?_⟩
        exact fun y hy hmem => hfreshes y hy (List.mem_cons_of_mem _ hmem)
    · rintro ⟨hscope, hmore, hfresh⟩
      have hnodup := List.nodup_cons.1 hscope.nodup
      have hvalid := List.forall_mem_cons.1 hscope.valid
      refine ⟨⟨⟨hvalid.1, hfresh x List.mem_cons_self⟩, hmore x List.mem_cons_self⟩,
        ⟨hvalid.2, hnodup.2⟩, fun y hy => hmore y (List.mem_cons_of_mem _ hy), ?_⟩
      intro y hy hmem
      rcases List.mem_cons.1 hmem with heq | hmem
      · exact hnodup.1 (heq ▸ List.mem_map_of_mem hy)
      · exact hfresh y (List.mem_cons_of_mem _ hy) hmem

@[simp]
theorem nothing_eq_nil {α : Type} (x : α) : nothing x = [] := rfl

/-- Two scopes of which the second comes after the first are one scope. -/
theorem scope_append_iff {first second : List String} :
    Scope (first ++ second) ↔
      Scope first ∧ Scope second ∧ ∀ name ∈ second, name ∉ first := by
  constructor
  · intro h
    obtain ⟨hfirst, hsecond, hdisjoint⟩ := List.nodup_append.1 h.nodup
    refine ⟨⟨fun a ha => h.valid a (List.mem_append_left _ ha), hfirst⟩,
      ⟨fun a ha => h.valid a (List.mem_append_right _ ha), hsecond⟩, ?_⟩
    exact fun a ha hmem => hdisjoint a hmem a ha rfl
  · rintro ⟨hfirst, hsecond, hdisjoint⟩
    refine ⟨?_, List.nodup_append.2 ⟨hfirst.nodup, hsecond.nodup, ?_⟩⟩
    · intro a ha
      rcases List.mem_append.1 ha with ha | ha
      · exact hfirst.valid a ha
      · exact hsecond.valid a ha
    · rintro a ha b hb rfl
      exact hdisjoint a hb ha

end Validation

open Validation

/-! ## Networks -/

/-- A network with nothing wrong inside it. -/
structure NetworkSpec.Valid (n : NetworkSpec) : Prop where
  subnets : Scope (n.subnets.map (·.name))
  cidrs : ∀ s ∈ n.subnets, isBlankText s.cidr = false
  firewall : Scope (n.firewall.map (·.name))
  registry : ∀ r ∈ n.registry, isValidName r.name = true
  containers : Scope (n.containers.map (·.name))
  functions : Scope (n.functions.map (·.name))
  uis : Scope (n.uis.map (·.name))
  data : Scope (n.databases.map (·.name) ++ n.caches.map (·.name))
  routes : ∀ lb ∈ n.loadBalancer, ∀ r ∈ lb.routes,
    isBlankText r.path = false ∧ isBlankText r.backend = false

namespace Validation

/-- A route has no errors exactly if neither its path nor its backend is blank. -/
theorem routeErrors_eq_nil_iff {scope : String} {r : RouteSpec} :
    routeErrors scope r = [] ↔ isBlankText r.path = false ∧ isBlankText r.backend = false := by
  unfold routeErrors
  cases isBlankText r.path <;> cases isBlankText r.backend <;> simp

/-- The checks inside a network let through exactly the valid networks. -/
theorem networkErrors_eq_nil_iff {n : NetworkSpec} : networkErrors n = [] ↔ n.Valid := by
  simp only [networkErrors, List.append_eq_nil_iff, scopeErrors_eq_nil_iff, nothing_eq_nil,
    List.flatMap_eq_nil_iff, List.mem_flatMap, Option.mem_toList, routeErrors_eq_nil_iff,
    List.not_mem_nil, not_false_eq_true, implies_true, and_true, true_and, ite_eq_left_iff,
    ite_eq_right_iff, reduceCtorEq, imp_false, Bool.not_eq_true, Bool.not_eq_false,
    List.mem_reverse]
  constructor
  · rintro ⟨⟨⟨⟨⟨⟨⟨⟨⟨hsubnets, hcidrs⟩, hfirewall⟩, hregistry⟩, hcontainers⟩, hfunctions⟩, huis⟩,
      hdatabases⟩, hcaches, hshared⟩, hroutes⟩
    refine ⟨hsubnets, hcidrs, hfirewall, hregistry, hcontainers, hfunctions, huis, ?_, ?_⟩
    · refine scope_append_iff.2 ⟨hdatabases, hcaches, ?_⟩
      intro name hname
      obtain ⟨c, hc, rfl⟩ := List.mem_map.1 hname
      exact hshared c hc
    · exact fun lb hlb r hr => hroutes r ⟨lb, hlb, hr⟩
  · intro h
    obtain ⟨hdatabases, hcaches, hshared⟩ := scope_append_iff.1 h.data
    refine ⟨⟨⟨⟨⟨⟨⟨⟨⟨h.subnets, h.cidrs⟩, h.firewall⟩, h.registry⟩, h.containers⟩, h.functions⟩,
      h.uis⟩, hdatabases⟩, hcaches, ?_⟩, ?_⟩
    · exact fun c hc => hshared c.name (List.mem_map_of_mem hc)
    · rintro r ⟨lb, hlb, hr⟩
      exact h.routes lb hlb r hr

/-- A kernel has no errors exactly if its name is valid and its network exists. -/
theorem kernelErrors_eq_nil_iff {d : Description} {k : KernelSpec} :
    kernelErrors d k = [] ↔
      isValidName k.name = true ∧
        ∀ network ∈ k.network, ∃ n ∈ d.networks, n.name = network := by
  simp [kernelErrors, Description.network?]

end Validation

/-! ## Descriptions -/

/-- A description in which all scopes are in order and nothing that has to be said is blank. -/
structure Description.Valid (d : Description) : Prop where
  project : isValidName d.project.name = true
  serviceAccount : ∀ a ∈ d.serviceAccount, isValidName a.name = true
  buckets : Scope (d.buckets.map (·.name))
  secrets : Scope (d.secrets.map (·.name))
  topics : Scope (d.topics.map (·.name))
  queues : Scope (d.queues.map (·.name))
  crons : Scope (d.crons.map (·.name))
  schedules : ∀ c ∈ d.crons, isBlankText c.schedule = false
  networks : Scope (d.networks.map (·.name))
  inside : ∀ n ∈ d.networks, n.Valid
  kernels : ∀ k ∈ d.kernels, isValidName k.name = true ∧
    ∀ network ∈ k.network, ∃ n ∈ d.networks, n.name = network

/-- Validation finds nothing wrong exactly with the valid descriptions. -/
theorem Description.validate_eq_nil_iff {d : Description} : d.validate = [] ↔ d.Valid := by
  have haccount : Scope (d.serviceAccount.toList.map (·.name)) ↔
      ∀ a ∈ d.serviceAccount, isValidName a.name = true := by
    cases d.serviceAccount with
    | none => exact ⟨fun _ => by simp, fun _ => ⟨by simp, by simp⟩⟩
    | some a => exact ⟨fun h => by simpa using h.valid, fun h => ⟨by simpa using h, by simp⟩⟩
  simp only [validate, List.append_eq_nil_iff, scopeErrors_eq_nil_iff, nothing_eq_nil, haccount,
    List.flatMap_eq_nil_iff, networkErrors_eq_nil_iff, kernelErrors_eq_nil_iff, List.not_mem_nil,
    not_false_eq_true, implies_true, and_true, ite_eq_left_iff, ite_eq_right_iff, reduceCtorEq,
    imp_false, Bool.not_eq_true, Bool.not_eq_false]
  constructor
  · rintro ⟨⟨⟨⟨⟨⟨⟨⟨hproject, hserviceAccount⟩, hbuckets⟩, hsecrets⟩, htopics⟩, hqueues⟩,
      hcrons, hschedules⟩, hnetworks, hinside⟩, hkernels⟩
    exact ⟨hproject, hserviceAccount, hbuckets, hsecrets, htopics, hqueues, hcrons, hschedules,
      hnetworks, hinside, hkernels⟩
  · intro h
    exact ⟨⟨⟨⟨⟨⟨⟨⟨h.project, h.serviceAccount⟩, h.buckets⟩, h.secrets⟩, h.topics⟩, h.queues⟩,
      h.crons, h.schedules⟩, h.networks, h.inside⟩, h.kernels⟩

/-! ## Descriptions of names alone -/

/-- A container of which nothing is said but its name. -/
def ContainerSpec.named (name : String) : ContainerSpec where
  name := name
  image := none
  port := 8080
  cpu := "1"
  memory := "512Mi"
  minInstances := 0
  maxInstances := 10
  env := ∅
  secrets := ∅
  allowUnauthenticated := false
  dependsOn := []

/-- A function of which nothing is said but its name. -/
def FunctionSpec.named (name : String) : FunctionSpec where
  name := name
  runtime := "nodejs20"
  entryPoint := "handler"
  source := none
  memory := "256Mi"
  timeoutSeconds := 60
  triggerTopic := none
  env := ∅
  secrets := ∅
  allowUnauthenticated := false
  dependsOn := []

/-- A network of containers of which nothing is said but their names. -/
def NetworkSpec.ofContainers (name : String) (containers : List String) : NetworkSpec where
  name := name
  subnets := []
  firewall := []
  registry := none
  containers := containers.map .named
  functions := []
  databases := []
  caches := []
  uis := []
  loadBalancer := none

/-- A project of which nothing is said but its networks. -/
def Description.ofNetworks (project : ProjectSection) (networks : List NetworkSpec) :
    Description where
  project := project
  serviceAccount := none
  buckets := []
  secrets := []
  topics := []
  queues := []
  networks := networks
  crons := []
  kernel := none
  hybridKernel := none
  kubernetes := none

/-- Containers in one network of a cluster, of which nothing is said but their names. -/
def Description.inCluster (containers : List String) : Description :=
  { ofNetworks ⟨"shop", "us-central1", none, .manifest⟩ [.ofContainers "main" containers] with
    kubernetes := some ⟨some "shop", some "ghcr.io/acme", none, 1⟩ }

end Groundwork
