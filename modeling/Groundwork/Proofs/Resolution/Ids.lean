import Groundwork.Proofs.Resolution.Distinct
import Groundwork.Proofs.Resolution.References

/-!
# Ids

An id is the prefix of a kind, a hyphen and a name.  Names may have hyphens, so where the prefix of
one kind goes on where that of another ends, an id can belong to both: the account `api` and the
service `account-api` of a cluster have one id.  These two kinds are the only such pair that one
backend has, and two nodes of one kind have one id only if two networks declare them.

Main results:

- `Project.takeSteps_eq_error`: where a resolution stops.
- `ResourceKind.nodeId_eq_cases`: when ids of two kinds of one backend are the same.
- `Description.duplicate_id`: which declarations have a refused id.
-/

namespace Groundwork

/-! ## Where a resolution stops -/

/-- Two steps fail with an error if the first does or the second does after it. -/
theorem bind_eq_error_iff {ε α β : Type} {x : Except ε α} {f : α → Except ε β} {e : ε} :
    x >>= f = .error e ↔ x = .error e ∨ ∃ a, x = .ok a ∧ f a = .error e := by
  cases x with
  | error e' => simp [bind, Except.bind]
  | ok a => simp [bind, Except.bind]

/-- A result is no error. -/
theorem ok_ne_error {ε α : Type} {a : α} {e : ε} : Except.ok a ≠ Except.error e := by
  intro h
  cases h

/-- An error that neither part of a computation gives is not given by the whole. -/
theorem bind_ne_error {ε α β : Type} {x : Except ε α} {f : α → Except ε β} {e : ε}
    (hx : x ≠ .error e) (hf : ∀ a, f a ≠ .error e) : x >>= f ≠ .error e := by
  intro h
  rcases bind_eq_error_iff.1 h with h | ⟨a, -, h⟩
  · exact hx h
  · exact hf a h

/-- An error that no error becomes does not appear. -/
theorem mapError_ne_error {ε ε' α : Type} {x : Except ε α} {f : ε → ε'} {e : ε'}
    (h : ∀ e', f e' ≠ e) : x.mapError f ≠ .error e := by
  cases x with
  | error e' => exact fun heq => h e' (Except.error.inj heq)
  | ok a => exact ok_ne_error

namespace Project

variable {p : Project}

/-- A node is refused only for the id of a node before it. -/
theorem addNodes_eq_error {nodes new : List Resource} {e : CompileError}
    (h : addNodes nodes new = .error e) :
    ∃ before r after, new = before ++ r :: after ∧ r.id ∈ (nodes ++ before).map (·.id) ∧
      e = .order (.duplicate r.id) := by
  induction new generalizing nodes with
  | nil => cases h
  | cons s rest ih =>
    rw [addNodes] at h
    by_cases htaken : nodes.any (fun t => decide (t.id = s.id)) = true
    · rw [if_pos htaken] at h
      refine ⟨[], s, rest, rfl, ?_, (Except.error.inj h).symm⟩
      simpa using htaken
    · rw [if_neg htaken] at h
      obtain ⟨before, r, after, rfl, hmem, he⟩ := ih h
      exact ⟨s :: before, r, after, rfl, by simpa using hmem, he⟩

/-- Taking steps stops at a step that fails, or at a node with the id of a node before it. -/
theorem takeSteps_eq_error {nodes : List Resource}
    {steps : List (Except CompileError (List Resource))} {e : CompileError}
    (hnodes : (nodes.map (·.id)).Nodup) (h : takeSteps nodes steps = .error e) :
    .error e ∈ steps ∨
      ∃ lists : List (List Resource), lists.map Except.ok <+: steps ∧
        ∃ before r after, nodes ++ lists.flatten = before ++ r :: after ∧
          r.id ∈ before.map (·.id) ∧ e = .order (.duplicate r.id) := by
  induction steps generalizing nodes with
  | nil => cases h
  | cons step rest ih =>
    rw [takeSteps, bind_eq_error_iff] at h
    rcases h with rfl | ⟨new, rfl, h⟩
    · exact Or.inl List.mem_cons_self
    rcases bind_eq_error_iff.1 h with hadd | ⟨sum, hsum, htake⟩
    · obtain ⟨before, r, after, rfl, hmem, rfl⟩ := addNodes_eq_error hadd
      exact Or.inr ⟨[before ++ r :: after], ⟨rest, rfl⟩, nodes ++ before, r, after, by simp, hmem,
        rfl⟩
    · obtain ⟨rfl, hnodup⟩ := (addNodes_eq_ok_iff hnodes).1 hsum
      rcases ih hnodup htake with hstep | ⟨lists, hbegin, before, r, after, heq, hmem, he⟩
      · exact Or.inl (List.mem_cons_of_mem _ hstep)
      · refine Or.inr ⟨new :: lists, ?_, before, r, after, ?_, hmem, he⟩
        · rw [List.map_cons, List.cons_prefix_cons]
          exact ⟨rfl, hbegin⟩
        · rw [List.flatten_cons, ← List.append_assoc, heq]

/-! ## Steps that fail -/

/-- An environment does not fail as an order. -/
theorem environment_ne_order {env secrets : OrderedMap String} {o : OrderError} :
    p.environment env secrets ≠ .error (.order o) :=
  mapError_ne_error fun _ => CompileError.noConfusion

/-- A trigger does not fail as an order. -/
theorem trigger_ne_order {function : String} {topic : Option String} {o : OrderError} :
    p.trigger function topic ≠ .error (.order o) := by
  unfold trigger
  split
  · exact ok_ne_error
  · split
    · exact ok_ne_error
    · split
      · exact bind_ne_error (mapError_ne_error fun _ => CompileError.noConfusion)
          fun _ => ok_ne_error
      · intro h
        cases h

/-- No step of a network fails as an order by itself. -/
theorem networkSteps_ne_order {n : NetworkSpec} {o : OrderError} :
    .error (.order o) ∉ p.networkSteps n := by
  intro h
  simp only [networkSteps, List.mem_append, List.mem_singleton, reduceCtorEq, false_or,
    List.mem_map, or_false] at h
  rcases h with (((⟨k, -, h⟩ | ⟨spec, -, h⟩) | ⟨spec, -, h⟩) | ⟨spec, -, h⟩) | ⟨lb, -, h⟩
  · exact absurd h (bind_ne_error environment_ne_order fun _ => ok_ne_error)
  · exact absurd h (bind_ne_error environment_ne_order fun _ => ok_ne_error)
  · exact absurd h (bind_ne_error environment_ne_order fun _ =>
      bind_ne_error trigger_ne_order fun _ => ok_ne_error)
  · exact absurd h (bind_ne_error environment_ne_order fun _ => ok_ne_error)
  · exact absurd h (bind_ne_error (mapError_ne_error fun _ => CompileError.noConfusion)
      fun _ => ok_ne_error)

/-- A cron does not fail as an order by itself. -/
theorem cronNodes_ne_order {spec : CronSpec} {o : OrderError} :
    p.cronNodes spec ≠ .error (.order o) :=
  bind_ne_error (mapError_ne_error fun _ => CompileError.noConfusion) fun _ =>
    bind_ne_error (mapError_ne_error fun _ => CompileError.noConfusion) fun _ => ok_ne_error

/-- No step fails by itself for a taken id. -/
theorem error_order_not_mem_steps {o : OrderError} : .error (.order o) ∉ p.steps := by
  intro h
  simp only [steps, List.mem_append, List.mem_singleton, reduceCtorEq, false_or,
    List.mem_flatMap, List.mem_map] at h
  rcases h with ⟨n, -, h⟩ | ⟨spec, -, h⟩
  · exact networkSteps_ne_order h
  · exact cronNodes_ne_order h

/-- An id is refused only if two declarations have it. -/
theorem exists_of_duplicate (hnodup : p.declarations.Nodup) {id : String}
    (h : p.resources = .error (.order (.duplicate id))) :
    ∃ a ∈ p.declarations, ∃ b ∈ p.declarations, a ≠ b ∧ a.id = id ∧ b.id = id := by
  rcases takeSteps_eq_error (by simp) h with
    hstep | ⟨lists, hbegin, before, r, after, heq, hmem, he⟩
  · exact absurd hstep error_order_not_mem_steps
  obtain rfl : id = r.id := by simpa using he
  -- The declarations of the steps taken so far have the ids of the nodes, and are distinct.
  have hids : (p.chunks.take lists.length).flatten.map Declaration.id =
      before.map (·.id) ++ r.id :: after.map (·.id) := by
    have hrealizes := realizes_of_isPrefix hbegin
    rw [List.nil_append] at heq
    rw [heq] at hrealizes
    rw [← map_id_of_realizes hrealizes, List.map_append, List.map_cons]
  obtain ⟨first, rest, hsplit, hfirst, hrest⟩ := List.map_eq_append_iff.1 hids
  obtain ⟨b, others, rfl, hb, -⟩ := List.map_eq_cons_iff.1 hrest
  rw [← hfirst] at hmem
  obtain ⟨a, ha, haid⟩ := List.mem_map.1 hmem
  have hsublist : (first ++ b :: others).Sublist p.declarations := by
    have hparts := congrArg List.flatten (List.take_append_drop lists.length p.chunks)
    rw [List.flatten_append, hsplit] at hparts
    rw [declarations, ← hparts]
    exact List.sublist_append_left _ _
  refine ⟨a, hsublist.subset (List.mem_append_left _ ha), b,
    hsublist.subset (List.mem_append_right _ List.mem_cons_self), ?_, haid, hb⟩
  rintro rfl
  exact (List.nodup_append.1 (hnodup.sublist hsublist)).2.2 a ha a List.mem_cons_self rfl

end Project

/-! ## Ids of different kinds -/

namespace ResourceKind

/-- Kinds whose nodes are told apart by nothing but their names: both kernels, or one kind. -/
def Alike (k k' : ResourceKind) : Prop :=
  k = k' ∨ k ∈ [kernel, hybridKernel] ∧ k' ∈ [kernel, hybridKernel]

instance (k k' : ResourceKind) : Decidable (k.Alike k') :=
  inferInstanceAs (Decidable (_ ∨ _))

/-- Kinds that are alike begin their ids alike. -/
theorem Alike.idPrefix_eq {k k' : ResourceKind} (h : k.Alike k') : k.idPrefix = k'.idPrefix := by
  rcases h with rfl | ⟨hk, hk'⟩
  · rfl
  · have hkernels : ∀ k ∈ [kernel, hybridKernel], k.idPrefix = "kernel" := by decide
    rw [hkernels k hk, hkernels k' hk']

/-- Of the kinds that one backend has, only an account and a service begin their ids with the same
word without being alike. -/
theorem firstWord_cases (b : Backend) : ∀ k ∈ b.kinds, ∀ k' ∈ b.kinds, k.firstWord = k'.firstWord →
    k.Alike k' ∨ (k = .serviceAccount ∧ k' = .service) ∨
      (k = .service ∧ k' = .serviceAccount) := by
  cases b <;> decide +kernel

/-- A service account and a service have one id exactly if the service repeats the account's
prefix. -/
theorem serviceAccount_nodeId_eq_iff {name other : String} :
    serviceAccount.nodeId name = service.nodeId other ↔ other = "account-" ++ name := by
  have hsplit : serviceAccount.nodeId name = service.nodeId ("account-" ++ name) := by
    have hbegin : serviceAccount.idPrefix ++ "-" = service.idPrefix ++ "-" ++ "account-" := by
      decide
    rw [nodeId, nodeId, hbegin, String.append_assoc]
  rw [hsplit, nodeId, nodeId, String.append_right_inj, eq_comm]

/-- Nodes of kinds that one backend has share an id if their kinds are alike and their names the
same, or if one is an account and the other a service that is named after it. -/
theorem nodeId_eq_cases {b : Backend} {k k' : ResourceKind} (hk : k ∈ b.kinds)
    (hk' : k' ∈ b.kinds) {name other : String} (h : k.nodeId name = k'.nodeId other) :
    (k.Alike k' ∧ name = other) ∨
      (k = .serviceAccount ∧ k' = .service ∧ other = "account-" ++ name) ∨
      (k = .service ∧ k' = .serviceAccount ∧ name = "account-" ++ other) := by
  rcases firstWord_cases b k hk k' hk' (firstWord_eq_of_nodeId_eq h) with
    halike | ⟨rfl, rfl⟩ | ⟨rfl, rfl⟩
  · rw [nodeId, nodeId, halike.idPrefix_eq, String.append_right_inj] at h
    exact Or.inl ⟨halike, h⟩
  · exact Or.inr (Or.inl ⟨rfl, rfl, serviceAccount_nodeId_eq_iff.1 h⟩)
  · exact Or.inr (Or.inr ⟨rfl, rfl, serviceAccount_nodeId_eq_iff.1 h.symm⟩)

end ResourceKind

/-! ## Refused ids -/

/-- An account, and a service whose name is that of the account with `account-` before it. -/
structure Declaration.Meets (account service : Declaration) : Prop where
  account_kind : account.kind = .serviceAccount
  service_kind : service.kind = .service
  name_eq : service.name = "account-" ++ account.name

/-- Declarations that meet have one id. -/
theorem Declaration.Meets.id_eq {account service : Declaration} (h : account.Meets service) :
    account.id = service.id := by
  rw [id, id, h.account_kind, h.service_kind]
  exact ResourceKind.serviceAccount_nodeId_eq_iff.2 h.name_eq

namespace Project

/-- Two networks declare nodes of one kind and one name, which have the id. -/
def SharedByNetworks (p : Project) (id : String) : Prop :=
  ∃ a ∈ p.declarations, ∃ b ∈ p.declarations, a.id = id ∧ b.id = id ∧ a.kind = b.kind ∧
    a.name = b.name ∧ ∃ n ∈ p.description.networks, ∃ m ∈ p.description.networks,
      a.network = some n.name ∧ b.network = some m.name ∧ n.name ≠ m.name

/-- An account and a service have the id. -/
def SharedWithAccount (p : Project) (id : String) : Prop :=
  ∃ a ∈ p.declarations, ∃ b ∈ p.declarations, a.id = id ∧ a.Meets b

end Project

namespace Description

variable {d : Description}

/-- Declarations of different kinds have one id exactly if they are an account and a service named
after it. -/
theorem id_eq_iff_meets (hvalid : d.Valid) (hlegal : d.Legal) {a b : Declaration}
    (ha : a ∈ (Project.of d).declarations) (hb : b ∈ (Project.of d).declarations)
    (hkinds : a.kind ≠ b.kind) : a.id = b.id ↔ a.Meets b ∨ b.Meets a := by
  constructor
  · intro hid
    rcases ResourceKind.nodeId_eq_cases (hlegal.kind_mem_kinds ha) (hlegal.kind_mem_kinds hb) hid
      with ⟨hsame | ⟨hka, hkb⟩, -⟩ | ⟨hka, hkb, hname⟩ | ⟨hka, hkb, hname⟩
    · exact absurd hsame hkinds
    · exact absurd (kind_eq_of_kernel hvalid ha hb hka hkb) hkinds
    · exact Or.inl ⟨hka, hkb, hname⟩
    · exact Or.inr ⟨hkb, hka, hname⟩
  · rintro (hmeets | hmeets)
    · exact hmeets.id_eq
    · exact hmeets.id_eq.symm

/-- Different declarations of one kind that have one id stand in two networks. -/
theorem sharedByNetworks_of_kind_eq (hvalid : d.Valid) (hlegal : d.Legal) {a b : Declaration}
    (ha : a ∈ (Project.of d).declarations) (hb : b ∈ (Project.of d).declarations) (hne : a ≠ b)
    (hkind : a.kind = b.kind) (hid : a.id = b.id) :
    (Project.of d).SharedByNetworks a.id := by
  have hname : a.name = b.name := by
    rw [Declaration.id, Declaration.id, hkind] at hid
    exact (String.append_right_inj _).1 hid
  have hnetworks : a.network ≠ b.network := by
    intro heq
    obtain ⟨kind, name, network⟩ := a
    obtain ⟨kind', name', network'⟩ := b
    cases hkind
    cases hname
    cases heq
    exact hne rfl
  rcases hlegal.network_of_mem_declarations hvalid ha with ⟨hinside, n, hn, han⟩ | ⟨houtside, han⟩
  · rcases hlegal.network_of_mem_declarations hvalid hb with ⟨-, m, hm, hbm⟩ | ⟨houtside, -⟩
    · refine ⟨a, ha, b, hb, rfl, hid.symm, hkind, hname, n, hn, m, hm, han, hbm, ?_⟩
      intro hnm
      rw [han, hbm, hnm] at hnetworks
      exact hnetworks rfl
    · exact absurd (hkind ▸ hinside) houtside
  · rcases hlegal.network_of_mem_declarations hvalid hb with ⟨hinside, -⟩ | ⟨-, hbm⟩
    · exact absurd (hkind ▸ hinside) houtside
    · exact absurd (han.trans hbm.symm) hnetworks

/-- Resolution of a legal description fails as its steps do. -/
theorem resolve_eq_error_iff (hlegal : d.Legal) {e : CompileError} :
    d.resolve = .error e ↔ (Project.of d).resources = .error e := by
  have hlegal : d.project.backend.checkLegality d = .ok () := hlegal
  rw [resolve, bind_eq_error_iff]
  constructor
  · rintro (hillegal | ⟨_, -, hrest⟩)
    · rw [hlegal] at hillegal
      cases hillegal
    · rcases bind_eq_error_iff.1 hrest with hresources | ⟨_, _, hplan⟩
      · exact hresources
      · cases hplan
  · exact fun h => Or.inr ⟨(), hlegal, bind_eq_error_iff.2 (Or.inl h)⟩

/-- Of a valid and legal description, an id is refused for two nodes of one kind in different
networks unless an account and a service have it; and an account and a service named after it are
the only declarations of different kinds with one id. -/
theorem duplicate_id (hvalid : d.validate = []) (hlegal : d.Legal) :
    (∀ id, d.resolve = .error (.order (.duplicate id)) →
      ((Project.of d).SharedByNetworks id ↔ ¬ (Project.of d).SharedWithAccount id)) ∧
    ∀ a ∈ (Project.of d).declarations, ∀ b ∈ (Project.of d).declarations, a.kind ≠ b.kind →
      (a.id = b.id ↔ a.Meets b ∨ b.Meets a) := by
  have hd := validate_eq_nil_iff.1 hvalid
  refine ⟨?_, fun a ha b hb => id_eq_iff_meets hd hlegal ha hb⟩
  intro id hduplicate
  rw [resolve_eq_error_iff hlegal] at hduplicate
  obtain ⟨a, ha, b, hb, hne, rfl, hid⟩ :=
    Project.exists_of_duplicate (hlegal.nodup_declarations hd) hduplicate
  constructor
  · rintro ⟨s, hs, t, ht, hsid, -, hkind, hname, n, -, m, -, hsn, htm, hnm⟩
    rintro ⟨account, haccount, service, -, haccountid, hmeets⟩
    -- What networks declare under the id of an account is a service, and a cluster has one of a
    -- name.
    have hskind : s.kind = .service := by
      have hother : s.kind ≠ account.kind := by
        rw [hmeets.account_kind]
        intro hsaccount
        rcases hlegal.network_of_mem_declarations hd hs with ⟨hinside, -⟩ | ⟨-, hnone⟩
        · rw [hsaccount] at hinside
          exact absurd hinside (by decide)
        · rw [hnone] at hsn
          cases hsn
      rcases (id_eq_iff_meets hd hlegal hs haccount hother).1 (hsid.trans haccountid.symm) with
        hsmeets | hsmeets
      · have hservice := hsmeets.service_kind
        rw [hmeets.account_kind] at hservice
        cases hservice
      · exact hsmeets.service_kind
    obtain rfl := hlegal.eq_of_service hd hs ht hskind (hkind ▸ hskind) hname
    rw [hsn, Option.some.injEq] at htm
    exact hnm htm
  · intro haccount
    by_cases hkind : a.kind = b.kind
    · exact sharedByNetworks_of_kind_eq hd hlegal ha hb hne hkind hid.symm
    · refine absurd ?_ haccount
      rcases (id_eq_iff_meets hd hlegal ha hb hkind).1 hid.symm with hmeets | hmeets
      · exact ⟨a, ha, b, hb, rfl, hmeets⟩
      · exact ⟨b, hb, a, ha, hid, hmeets⟩

/-- Two networks with a container of one name. -/
def twins : Description :=
  .ofNetworks ⟨"shop", "us-central1", none, .flat⟩
    [.ofContainers "main" ["api"], .ofContainers "edge" ["api"]]

/-- The second container is refused because both networks declare it. -/
theorem duplicate_id_twins :
    twins.validate = [] ∧ twins.Legal ∧
      twins.resolve = .error (.order (.duplicate "container-api")) ∧
      (Project.of twins).SharedByNetworks "container-api" := by
  have hvalid : twins.validate = [] := by decide +kernel
  have hlegal : twins.Legal := rfl
  have hresolve : twins.resolve = .error (.order (.duplicate "container-api")) := rfl
  have hnoAccount : ∀ a ∈ (Project.of twins).declarations, a.kind ≠ .serviceAccount := by
    decide +kernel
  refine ⟨hvalid, hlegal, hresolve, ((duplicate_id hvalid hlegal).1 _ hresolve).2 ?_⟩
  rintro ⟨a, ha, b, -, -, hmeets⟩
  exact hnoAccount a ha hmeets.account_kind

/-- An account, and a container in a cluster that is named after it. -/
def namesake : Description :=
  { inCluster ["account-api"] with serviceAccount := some ⟨"api", none, []⟩ }

/-- The service of the container is refused for the id of the account, which is no node of its kind
and in no network. -/
theorem namesake_refused :
    namesake.validate = [] ∧ namesake.Legal ∧
      namesake.resolve = .error (.order (.duplicate "service-account-api")) ∧
      ¬ (Project.of namesake).SharedByNetworks "service-account-api" ∧
      ∃ a ∈ (Project.of namesake).declarations, ∃ b ∈ (Project.of namesake).declarations,
        a.kind ≠ b.kind ∧ a.id = b.id := by
  have hvalid : namesake.validate = [] := by decide +kernel
  have hlegal : namesake.Legal := rfl
  have hresolve : namesake.resolve = .error (.order (.duplicate "service-account-api")) := rfl
  refine ⟨hvalid, hlegal, hresolve, ?_, ?_⟩
  · unfold Project.SharedByNetworks
    decide +kernel
  · decide +kernel

end Description

end Groundwork
