import Groundwork.Proofs.Description.Validation
import Mathlib.Algebra.GroupWithZero.Nat
import Mathlib.Data.List.Induction
import Mathlib.Data.List.Perm.Basic
import Mathlib.Data.List.TakeWhile

/-!
# What validation reports

Validation goes over a description once and checks names as it comes to them.  Here its errors are
sorted by what they are about: those of the scopes, in which names have to be allowed and distinct,
and those of single entries.  A scope reports every name that is not allowed, and every name that
stands in it before.

Main definitions:

- `Description.scopes`: all scopes of a description, with the names in them.
- `Description.Violates`: the violated demands.
- `Validation.repeats`: how many names of a list stand in it before.

Main results:

- `Description.validate_perm`: the errors, sorted by what they are about.
- `Description.validate_exact`: what validation reports, and how often.
-/

namespace Groundwork

open Validation

/-! ## Demands on texts -/

/-- The allowed names are those of lower-case letters, digits and hyphens that are not empty. -/
theorem isValidName_eq_true_iff {name : String} :
    isValidName name = true ↔
      name ≠ "" ∧ ∀ c ∈ name.toList, 'a' ≤ c ∧ c ≤ 'z' ∨ '0' ≤ c ∧ c ≤ '9' ∨ c = '-' := by
  have hempty : (!name.toList.isEmpty) = true ↔ name ≠ "" := by simp
  have hchar : ∀ c, Reference.isNameChar c = true ↔
      'a' ≤ c ∧ c ≤ 'z' ∨ '0' ≤ c ∧ c ≤ '9' ∨ c = '-' := by
    intro c
    have hlower : c.isLower = (decide ('a' ≤ c) && decide (c ≤ 'z')) := rfl
    have hdigit : c.isDigit = (decide ('0' ≤ c) && decide (c ≤ '9')) := rfl
    simp [Reference.isNameChar, hlower, hdigit, or_assoc]
  simp only [isValidName, Bool.and_eq_true, hempty, List.all_eq_true, hchar]

/-- A text is blank if nothing is left of it without the blanks around it. -/
theorem isBlankText_eq_true_iff {s : String} : isBlankText s = true ↔ trim s = "" := by
  have htrim : trim s = "" ↔ ∀ c ∈ s.toList.dropWhile isBlank, isBlank c = true := by
    simp [trim, dropLastWhile, List.dropWhile_eq_nil_iff]
  rw [htrim, isBlankText, List.all_eq_true]
  constructor
  · exact fun h c hc => h c ((List.dropWhile_sublist _).subset hc)
  · intro h
    refine List.dropWhile_eq_nil_iff.1 (List.eq_nil_iff_forall_not_mem.2 ?_)
    intro c hc
    -- What is left begins with a character that is not blank.
    have hne := List.ne_nil_of_mem hc
    have hhead := List.head_dropWhile_not isBlank hne
    rw [h _ (List.head_mem hne)] at hhead
    cases hhead

/-! ## Scopes -/

/-- A scope: what messages call it, and the kinds and names of what is declared in it, in order. -/
structure NameScope where
  label : String
  entries : List (String × String)

namespace NameScope

/-- The scope of declarations of one kind. -/
def of {α : Type} (label kind : String) (name : α → String) (xs : List α) : NameScope :=
  ⟨label, xs.map fun x => (kind, name x)⟩

def names (s : NameScope) : List String := s.entries.map (·.2)

/-- What is wrong with entries that come after the names `earlier`. -/
def errorsFrom (label : String) : List String → List (String × String) → List ValidationError
  | _, [] => []
  | earlier, entry :: rest =>
    nameErrors entry.1 label earlier entry.2 ++ errorsFrom label (entry.2 :: earlier) rest

/-- What is wrong with the names of a scope. -/
def errors (s : NameScope) : List ValidationError := errorsFrom s.label [] s.entries

/-- A demand on the names of a scope that is violated. -/
inductive Violates (s : NameScope) : ValidationError → Prop
  | invalid {kind name : String} (hentry : (kind, name) ∈ s.entries)
      (hname : isValidName name = false) : Violates s (.invalidName kind name s.label)
  | repeated {before after : List (String × String)} {kind name : String}
      (hentries : s.entries = before ++ (kind, name) :: after) (hname : name ∈ before.map (·.2)) :
    Violates s (.duplicate kind name s.label)

/-- The errors of a scope are found entry by entry, each after the names before it. -/
theorem errorsFrom_append {label : String} {earlier : List String}
    {first second : List (String × String)} :
    errorsFrom label earlier (first ++ second) =
      errorsFrom label earlier first
        ++ errorsFrom label ((first.map (·.2)).reverse ++ earlier) second := by
  induction first generalizing earlier with
  | nil => rfl
  | cons entry rest ih => simp [errorsFrom, ih]

/-- The check of declarations finds what is wrong with their names, and what else is wrong. -/
theorem count_scopeErrors {α : Type} (kind label : String) (name : α → String)
    (more : α → List ValidationError) (earlier : List String) (xs : List α)
    (e : ValidationError) :
    (scopeErrors kind label name more earlier xs).count e =
      (errorsFrom label earlier (xs.map fun x => (kind, name x))).count e
        + (xs.flatMap more).count e := by
  induction xs generalizing earlier with
  | nil => rfl
  | cons x rest ih =>
    -- The errors about one declaration stand together; counting sorts them.
    simp only [scopeErrors, List.map_cons, errorsFrom, List.flatMap_cons, List.count_append, ih]
    omega

theorem flatMap_nothing {α : Type} (xs : List α) : xs.flatMap nothing = [] := by
  simp

/-- The errors of a name: it is not valid, or it is taken. -/
theorem mem_nameErrors_iff {kind label name : String} {earlier : List String}
    {e : ValidationError} :
    e ∈ nameErrors kind label earlier name ↔
      isValidName name = false ∧ e = .invalidName kind name label ∨
        name ∈ earlier ∧ e = .duplicate kind name label := by
  unfold nameErrors
  cases isValidName name <;> by_cases hmem : name ∈ earlier <;> simp [hmem]

/-- Every error of a scope is about an entry and the names before it. -/
theorem mem_errorsFrom_iff {label : String} {earlier : List String}
    {entries : List (String × String)} {e : ValidationError} :
    e ∈ errorsFrom label earlier entries ↔
      ∃ before entry after, entries = before ++ entry :: after ∧
        e ∈ nameErrors entry.1 label ((before.map (·.2)).reverse ++ earlier) entry.2 := by
  induction entries generalizing earlier with
  | nil => simp [errorsFrom]
  | cons entry rest ih =>
    rw [errorsFrom, List.mem_append, ih]
    constructor
    · rintro (h | ⟨before, entry', after, rfl, h⟩)
      · exact ⟨[], entry, rest, rfl, h⟩
      · exact ⟨entry :: before, entry', after, rfl, by simpa using h⟩
    · rintro ⟨before, entry', after, hentries, h⟩
      cases before with
      | nil =>
        cases hentries
        exact Or.inl h
      | cons first before =>
        cases hentries
        exact Or.inr ⟨before, entry', after, rfl, by simpa using h⟩

/-- A scope reports its violated demands. -/
theorem mem_errors_iff {s : NameScope} {e : ValidationError} : e ∈ s.errors ↔ s.Violates e := by
  rw [errors, mem_errorsFrom_iff]
  simp only [mem_nameErrors_iff, List.append_nil, List.mem_reverse]
  constructor
  · rintro ⟨before, ⟨kind, name⟩, after, hentries, ⟨hname, rfl⟩ | ⟨hname, rfl⟩⟩
    · exact .invalid (by simp [hentries]) hname
    · exact .repeated hentries hname
  · intro h
    cases h with
    | invalid hentry hname =>
      obtain ⟨before, after, hentries⟩ := List.append_of_mem hentry
      exact ⟨before, _, after, hentries, Or.inl ⟨hname, rfl⟩⟩
    | repeated hentries hname => exact ⟨_, _, _, hentries, Or.inr ⟨hname, rfl⟩⟩

/-- Where names are not distinct, one stands before another that is the same. -/
theorem exists_repeated (s : NameScope) (h : ¬ s.names.Nodup) :
    ∃ before entry after, s.entries = before ++ entry :: after ∧
      entry.2 ∈ before.map (·.2) := by
  obtain ⟨label, entries⟩ := s
  simp only [names] at h ⊢
  -- Either the last name stands before, or the names before it are not distinct already.
  induction entries using List.reverseRecOn with
  | nil => exact absurd List.nodup_nil h
  | append_singleton init last ih =>
    by_cases hlast : last.2 ∈ init.map (·.2)
    · exact ⟨init, last, [], rfl, hlast⟩
    · have hinit : ¬ (init.map (·.2)).Nodup := by
        intro hnodup
        refine h ?_
        rw [List.map_append, List.map_singleton, List.nodup_append]
        refine ⟨hnodup, by simp, ?_⟩
        rintro name hname _ hsame rfl
        exact hlast (List.mem_singleton.1 hsame ▸ hname)
      obtain ⟨before, entry, after, rfl, hname⟩ := ih hinit
      exact ⟨before, entry, after ++ [last], by simp, hname⟩

end NameScope

/-! ## Repeated names -/

/-- Whether an error is about a name that stands before in its scope. -/
def ValidationError.isDuplicate : ValidationError → Bool
  | duplicate _ _ _ => true
  | _ => false

/-- How many names of a list stand in it before. -/
def Validation.repeats (names : List String) : Nat :=
  names.zipIdx.countP fun entry => entry.1 ∈ names.take entry.2

namespace NameScope

/-- There are as many duplicates as entries whose name comes earlier. -/
theorem countP_errorsFrom {label : String} {earlier : List String}
    {entries : List (String × String)} :
    (errorsFrom label earlier entries).countP ValidationError.isDuplicate =
      (entries.map (·.2)).zipIdx.countP fun entry =>
        entry.1 ∈ earlier ∨ entry.1 ∈ (entries.map (·.2)).take entry.2 := by
  induction entries generalizing earlier with
  | nil => rfl
  | cons entry rest ih =>
    have hnames : (nameErrors entry.1 label earlier entry.2).countP ValidationError.isDuplicate =
        if entry.2 ∈ earlier then 1 else 0 := by
      unfold nameErrors
      cases isValidName entry.2 <;> by_cases hmem : entry.2 ∈ earlier <;>
        simp [hmem, ValidationError.isDuplicate]
    rw [errorsFrom, List.countP_append, hnames, ih, List.map_cons, List.zipIdx_cons',
      List.countP_cons, List.countP_map, Nat.add_comm]
    congr 1
    -- In the whole list every later name stands one place further, after the first.
    · refine List.countP_congr fun later _ => ?_
      simp [or_left_comm, or_assoc]
    · simp

/-- A scope has an error for each repeated name. -/
theorem countP_errors (s : NameScope) :
    s.errors.countP ValidationError.isDuplicate = repeats s.names := by
  rw [errors, countP_errorsFrom, repeats, names]
  refine List.countP_congr fun entry _ => ?_
  simp

end NameScope

/-! ## The scopes of a description -/

namespace NetworkSpec

/-- What messages call the scopes inside a network. -/
def scopeLabel (n : NetworkSpec) : String := "network '" ++ n.name ++ "'"

/-- The scopes inside a network.  Databases and caches are in one. -/
def scopes (n : NetworkSpec) : List NameScope :=
  [.of n.scopeLabel "subnet" (·.name) n.subnets,
   .of n.scopeLabel "firewall rule" (·.name) n.firewall,
   .of n.scopeLabel "container" (·.name) n.containers,
   .of n.scopeLabel "function" (·.name) n.functions,
   .of n.scopeLabel "ui" (·.name) n.uis,
   ⟨n.scopeLabel, n.databases.map (fun db => ("database", db.name))
      ++ n.caches.map fun c => ("cache", c.name)⟩]

/-- The routes of the load balancer of a network. -/
def routes (n : NetworkSpec) : List RouteSpec := n.loadBalancer.toList.flatMap (·.routes)

/-- What is wrong inside a network apart from its scopes. -/
def entryErrors (n : NetworkSpec) : List ValidationError :=
  (n.subnets.flatMap fun s => if isBlankText s.cidr then [.emptyCidr s.name] else [])
    ++ (n.registry.toList.flatMap fun r =>
      if isValidName r.name then [] else [.registryName r.name])
    ++ n.routes.flatMap (routeErrors n.scopeLabel)

/-- The errors inside a network are those of its scopes and of its entries. -/
theorem networkErrors_perm (n : NetworkSpec) :
    (networkErrors n).Perm (n.scopes.flatMap NameScope.errors ++ n.entryErrors) := by
  rw [List.perm_iff_count]
  intro e
  have hnames : (n.databases.map fun db => ("database", db.name)).map (·.2) =
      n.databases.map (·.name) := by
    simp
  simp only [networkErrors, entryErrors, scopes, routes, scopeLabel, List.flatMap_cons,
    List.flatMap_nil, List.append_nil, List.count_append, NameScope.count_scopeErrors,
    NameScope.flatMap_nothing, List.count_nil, NameScope.errors, NameScope.of,
    NameScope.errorsFrom_append, hnames]
  omega

end NetworkSpec

namespace Description

variable {d : Description}

/-- All scopes of a description. -/
def scopes (d : Description) : List NameScope :=
  [.of "project" "service account" (·.name) d.serviceAccount.toList,
   .of "buckets" "bucket" (·.name) d.buckets,
   .of "secrets" "secret" (·.name) d.secrets,
   .of "topics" "topic" (·.name) d.topics,
   .of "queues" "queue" (·.name) d.queues,
   .of "crons" "cron" (·.name) d.crons,
   .of "project" "network" (·.name) d.networks]
    ++ d.networks.flatMap NetworkSpec.scopes

/-- What is wrong with a description apart from its scopes. -/
def entryErrors (d : Description) : List ValidationError :=
  (if isValidName d.project.name then [] else [.projectName d.project.name])
    ++ (d.crons.flatMap fun c => if isBlankText c.schedule then [.emptySchedule c.name] else [])
    ++ d.networks.flatMap NetworkSpec.entryErrors
    ++ d.kernels.flatMap (kernelErrors d)

/-- The errors of a description are those of its scopes and of its entries. -/
theorem validate_perm (d : Description) :
    d.validate.Perm (d.scopes.flatMap NameScope.errors ++ d.entryErrors) := by
  have hnetworks : (d.networks.flatMap networkErrors).Perm
      ((d.networks.flatMap NetworkSpec.scopes).flatMap NameScope.errors
        ++ d.networks.flatMap NetworkSpec.entryErrors) := by
    rw [List.flatMap_assoc]
    exact (List.Perm.flatMap_left _ fun n _ => n.networkErrors_perm).trans
      (List.flatMap_append_perm _ _ _).symm
  rw [List.perm_iff_count] at hnetworks ⊢
  intro e
  have hinside := hnetworks e
  rw [List.count_append] at hinside
  simp only [validate, entryErrors, scopes, List.flatMap_append, List.flatMap_cons,
    List.flatMap_nil, List.append_nil, List.count_append, NameScope.count_scopeErrors,
    NameScope.flatMap_nothing, List.count_nil, NameScope.errors, NameScope.of] at hinside ⊢
  omega

/-- A demand on a single entry of a description that is violated. -/
inductive ViolatesAlone (d : Description) : ValidationError → Prop
  | projectName (hname : isValidName d.project.name = false) :
    ViolatesAlone d (.projectName d.project.name)
  | emptySchedule {c : CronSpec} (hc : c ∈ d.crons) (hblank : isBlankText c.schedule = true) :
    ViolatesAlone d (.emptySchedule c.name)
  | emptyCidr {n : NetworkSpec} {s : SubnetSpec} (hn : n ∈ d.networks) (hs : s ∈ n.subnets)
      (hblank : isBlankText s.cidr = true) : ViolatesAlone d (.emptyCidr s.name)
  | registryName {n : NetworkSpec} {r : RegistrySpec} (hn : n ∈ d.networks)
      (hr : n.registry = some r) (hname : isValidName r.name = false) :
    ViolatesAlone d (.registryName r.name)
  | emptyPath {n : NetworkSpec} {r : RouteSpec} (hn : n ∈ d.networks) (hr : r ∈ n.routes)
      (hblank : isBlankText r.path = true) : ViolatesAlone d (.emptyPath n.scopeLabel)
  | missingBackend {n : NetworkSpec} {r : RouteSpec} (hn : n ∈ d.networks) (hr : r ∈ n.routes)
      (hblank : isBlankText r.backend = true) :
    ViolatesAlone d (.missingBackend r.path n.scopeLabel)
  | kernelName {k : KernelSpec} (hk : k ∈ d.kernels) (hname : isValidName k.name = false) :
    ViolatesAlone d (.kernelName k.name)
  | unknownNetwork {k : KernelSpec} {network : String} (hk : k ∈ d.kernels)
      (hnetwork : k.network = some network) (hunknown : ∀ n ∈ d.networks, n.name ≠ network) :
    ViolatesAlone d (.unknownNetwork k.name network)

/-- A demand that a description violates, in a scope or with a single entry. -/
inductive Violates (d : Description) (e : ValidationError) : Prop
  | scope {s : NameScope} (hs : s ∈ d.scopes) (hviolates : s.Violates e)
  | entry (hviolates : d.ViolatesAlone e)

/-- A network is not found exactly if no network has its name. -/
theorem isSome_network?_eq_false_iff {network : String} :
    (d.network? network).isSome = false ↔ ∀ n ∈ d.networks, n.name ≠ network := by
  simp [network?]

/-- What is wrong apart from the scopes are the violated demands on single entries. -/
theorem mem_entryErrors_iff {e : ValidationError} : e ∈ d.entryErrors ↔ d.ViolatesAlone e := by
  simp only [entryErrors, NetworkSpec.entryErrors, kernelErrors, routeErrors, List.mem_append,
    List.mem_flatMap, Option.mem_toList, List.mem_ite_nil_left, List.mem_ite_nil_right,
    List.mem_singleton, Bool.not_eq_true, isSome_network?_eq_false_iff]
  constructor
  · rintro (((⟨hname, rfl⟩ | ⟨c, hc, hblank, rfl⟩) | ⟨n, hn, (⟨s, hs, hblank, rfl⟩ |
      ⟨r, hr, hname, rfl⟩) | ⟨r, hr, ⟨hblank, rfl⟩ | ⟨hblank, rfl⟩⟩⟩) | ⟨k, hk, ⟨hname, rfl⟩ |
      ⟨network, hnetwork, hunknown, rfl⟩⟩)
    · exact .projectName hname
    · exact .emptySchedule hc hblank
    · exact .emptyCidr hn hs hblank
    · exact .registryName hn hr hname
    · exact .emptyPath hn hr hblank
    · exact .missingBackend hn hr hblank
    · exact .kernelName hk hname
    · exact .unknownNetwork hk hnetwork hunknown
  · intro h
    cases h with
    | projectName hname => exact Or.inl (Or.inl (Or.inl ⟨hname, rfl⟩))
    | emptySchedule hc hblank => exact Or.inl (Or.inl (Or.inr ⟨_, hc, hblank, rfl⟩))
    | emptyCidr hn hs hblank =>
      exact Or.inl (Or.inr ⟨_, hn, Or.inl (Or.inl ⟨_, hs, hblank, rfl⟩)⟩)
    | registryName hn hr hname =>
      exact Or.inl (Or.inr ⟨_, hn, Or.inl (Or.inr ⟨_, hr, hname, rfl⟩)⟩)
    | emptyPath hn hr hblank =>
      exact Or.inl (Or.inr ⟨_, hn, Or.inr ⟨_, hr, Or.inl ⟨hblank, rfl⟩⟩⟩)
    | missingBackend hn hr hblank =>
      exact Or.inl (Or.inr ⟨_, hn, Or.inr ⟨_, hr, Or.inr ⟨hblank, rfl⟩⟩⟩)
    | kernelName hk hname => exact Or.inr ⟨_, hk, Or.inl ⟨hname, rfl⟩⟩
    | unknownNetwork hk hnetwork hunknown =>
      exact Or.inr ⟨_, hk, Or.inr ⟨_, hnetwork, hunknown, rfl⟩⟩

/-- Validation reports the violated demands. -/
theorem mem_validate_iff {e : ValidationError} : e ∈ d.validate ↔ d.Violates e := by
  rw [d.validate_perm.mem_iff, List.mem_append, List.mem_flatMap, mem_entryErrors_iff]
  simp only [NameScope.mem_errors_iff]
  constructor
  · rintro (⟨s, hs, h⟩ | h)
    · exact .scope hs h
    · exact .entry h
  · intro h
    cases h with
    | scope hs h => exact Or.inl ⟨_, hs, h⟩
    | entry h => exact Or.inr h

/-- No demand on a single entry is about a name that stands before. -/
theorem ViolatesAlone.isDuplicate_eq_false {e : ValidationError} (h : d.ViolatesAlone e) :
    e.isDuplicate = false := by
  cases h <;> rfl

/-- There are as many messages about duplicates as there are repeated names. -/
theorem countP_isDuplicate_validate (d : Description) :
    d.validate.countP ValidationError.isDuplicate =
      (d.scopes.map fun s => repeats s.names).sum := by
  have hentries : d.entryErrors.countP ValidationError.isDuplicate = 0 := by
    rw [List.countP_eq_zero]
    intro e he
    simp [(mem_entryErrors_iff.1 he).isDuplicate_eq_false]
  rw [d.validate_perm.countP_eq, List.countP_append, hentries, Nat.add_zero, List.countP_flatMap]
  simp only [Function.comp_def, NameScope.countP_errors]

/-- Validation finds nothing exactly where all names are allowed, and distinct where they have to
be, and nothing that has to be said is blank.  Otherwise it reports every violated demand and
nothing else: a scope with a name twice is reported for it, and in all scopes together there are as
many messages about duplicates as there are names that stand in their scope before. -/
theorem validate_exact (d : Description) :
    (d.validate = [] ↔ d.Valid) ∧
      (∀ e, e ∈ d.validate ↔ d.Violates e) ∧
      (∀ s ∈ d.scopes, ¬ s.names.Nodup →
        ∃ entry ∈ s.entries, .duplicate entry.1 entry.2 s.label ∈ d.validate) ∧
      d.validate.countP ValidationError.isDuplicate =
        (d.scopes.map fun s => repeats s.names).sum ∧
      (∀ name, isValidName name = true ↔
        name ≠ "" ∧ ∀ c ∈ name.toList, 'a' ≤ c ∧ c ≤ 'z' ∨ '0' ≤ c ∧ c ≤ '9' ∨ c = '-') ∧
      ∀ text, isBlankText text = true ↔ trim text = "" := by
  refine ⟨validate_eq_nil_iff, fun _ => mem_validate_iff, fun s hs hrepeats => ?_,
    countP_isDuplicate_validate d, fun _ => isValidName_eq_true_iff,
    fun _ => isBlankText_eq_true_iff⟩
  obtain ⟨before, entry, after, hentries, hname⟩ := s.exists_repeated hrepeats
  refine ⟨entry, by simp [hentries], mem_validate_iff.2 (.scope hs (.repeated hentries hname))⟩

/-- A description with a bucket declared three times, a cache named as a database, a subnet without
addresses, and a container and a function that may share their name. -/
def muddled : Description :=
  let bucket : BucketSpec := ⟨"files", none, "STANDARD", false, false, []⟩
  { ofNetworks ⟨"shop", "us-central1", none, .flat⟩ [
      { NetworkSpec.ofContainers "main" ["api"] with
        subnets := [⟨"inner", " ", none⟩]
        functions := [.named "api"]
        databases := [⟨"store", "POSTGRES_15", "db-f1-micro", 10⟩]
        caches := [⟨"store", "BASIC", 1⟩] }] with
    buckets := [bucket, bucket, bucket] }

/-- It has three names that stand before, and is reported for each of them and for the subnet. -/
theorem validate_exact_muddled :
    ¬ muddled.Valid ∧ muddled.Violates (.emptyCidr "inner") ∧
      (∃ s ∈ muddled.scopes, s.entries = [("database", "store"), ("cache", "store")] ∧
        ∃ entry ∈ s.entries, .duplicate entry.1 entry.2 s.label ∈ muddled.validate) ∧
      (muddled.scopes.map fun s => repeats s.names).sum = 3 := by
  obtain ⟨hvalid, hviolates, hrepeated, hcount, -⟩ := validate_exact muddled
  have hvalidate : muddled.validate =
      [.duplicate "bucket" "files" "buckets", .duplicate "bucket" "files" "buckets",
        .emptyCidr "inner", .duplicate "cache" "store" "network 'main'"] := by
    decide +kernel
  refine ⟨?_, (hviolates _).1 (by simp [hvalidate]), ?_, ?_⟩
  · rw [← hvalid, hvalidate]
    exact List.cons_ne_nil _ _
  · have hdata : (⟨"network 'main'", [("database", "store"), ("cache", "store")]⟩ : NameScope) ∈
        muddled.scopes := by
      refine List.mem_append_right _ (List.mem_flatMap.2 ⟨_, List.mem_singleton_self _, ?_⟩)
      simp only [NetworkSpec.scopes, List.mem_cons]
      exact Or.inr (Or.inr (Or.inr (Or.inr (Or.inr (Or.inl rfl)))))
    exact ⟨_, hdata, rfl, hrepeated _ hdata (by simp [NameScope.names])⟩
  · rw [← hcount, hvalidate]
    rfl

end Description

end Groundwork
