import Groundwork.Description.Secrets
import Groundwork.Proofs.Resolution.Backward
import Groundwork.Proofs.Resolution.Targets

/-!
# Secrets in use and secrets in a plan

The secrets in use are collected from the environment and the secrets map of every workload as they
are written.  The compiler reads the two maps as one, in which a secret takes the place of a
variable of its name.  So every secret that a plan waits for is among those collected, and a
collected one that no plan waits for was written for a variable whose place a secret takes.

Main results:

- `Description.exists_secret_of_mem_requests`: a workload that asks for a secret has a value that is
  a reference to it.
- `Description.secrets_of_resolve`: which secrets are collected, and that a plan waits for no other.
- `Description.missingSecrets_of_compile`: which undeclared secrets a description that compiles can
  refer to.
-/

namespace Groundwork

/-! ## Secrets by text and by id -/

/-- A text is a reference to a secret. -/
def Reference.IsToSecret (text name : String) : Prop :=
  ∃ ref, parse? text = some ref ∧ ref.type = .secret ∧ ref.name = name

/-- An id begins as those of secrets do. -/
def IsSecretId (id : String) : Prop :=
  "secret-".toList <+: id.toList

instance : DecidablePred IsSecretId := fun id =>
  inferInstanceAs (Decidable ("secret-".toList <+: id.toList))

/-- No other kind of node has such an id. -/
theorem isSecretId_nodeId_iff {k : ResourceKind} {name : String} :
    IsSecretId (k.nodeId name) ↔ k = .secret := by
  constructor
  · rintro ⟨rest, hrest⟩
    have hid : k.nodeId name = ResourceKind.secret.nodeId (String.ofList rest) := by
      apply String.toList_injective
      rw [← hrest]
      simp [ResourceKind.nodeId, ResourceKind.idPrefix]
    exact ReferenceType.resourceKind_eq_of_firstWord (t := .secret)
      (ResourceKind.firstWord_eq_of_nodeId_eq hid)
  · rintro rfl
    refine ⟨name.toList, ?_⟩
    rw [ResourceKind.nodeId, String.toList_append]
    rfl

namespace Description

variable {d : Description} {w : Workload}

/-- No entry of a dependency list is the id of a secret or a reference to one. -/
def ListsNoSecret (listed : List String) : Prop :=
  ∀ entry ∈ listed, ¬ IsSecretId entry ∧ ∀ ref ∈ Reference.parse? entry, ref.type ≠ .secret

instance : DecidablePred ListsNoSecret := fun listed =>
  inferInstanceAs (Decidable (∀ entry ∈ listed,
    ¬ IsSecretId entry ∧ ∀ ref ∈ Reference.parse? entry, ref.type ≠ .secret))

/-- Only a reference to a secret means such an id. -/
theorem eq_secret_of_isSecretId_targetId {ref : Reference} (h : IsSecretId (d.targetId ref)) :
    ref.type = .secret ∧ d.targetId ref = ResourceKind.secret.nodeId ref.name := by
  unfold targetId at h ⊢
  split at h
  · exact absurd (isSecretId_nodeId_iff.1 h) (by decide)
  · rename_i hcluster
    rw [ref.resourceId_eq_nodeId] at h
    have htype : ref.type = .secret :=
      ReferenceType.resourceKind_injective (isSecretId_nodeId_iff.1 h)
    rw [if_neg hcluster, ref.resourceId_eq_nodeId, htype]
    exact ⟨rfl, rfl⟩

/-- A workload that asks for a secret has a value that is a reference to it, unless the secret
triggers it or is listed. -/
theorem exists_secret_of_mem_requests {id : String} (hid : id ∈ d.requests w)
    (hsecret : IsSecretId id)
    (htrigger : ∀ ref, w.trigger.bind Reference.parse? = some ref → ref.type ≠ .secret)
    (hlisted : ListsNoSecret w.listed) :
    ∃ name, id = ResourceKind.secret.nodeId name ∧
      ∃ value ∈ (Project.effectiveValues w.env w.secrets).values,
        Reference.IsToSecret value name := by
  rcases List.mem_append.1 hid with hid | hid
  · rcases List.mem_append.1 hid with hid | hid
    · obtain ⟨ref, href, rfl⟩ := List.mem_map.1 hid
      obtain ⟨htype, htarget⟩ := eq_secret_of_isSecretId_targetId hsecret
      obtain ⟨value, hvalue, hparse⟩ := List.mem_filterMap.1 href
      exact ⟨ref.name, htarget, value, hvalue, ref, hparse, htype, rfl⟩
    · obtain ⟨ref, href, rfl⟩ := List.mem_map.1 hid
      exact absurd (eq_secret_of_isSecretId_targetId hsecret).1
        (htrigger ref (Option.mem_toList.1 href))
  · obtain ⟨entry, hentry, rfl⟩ := List.mem_map.1 hid
    unfold entryId at hsecret
    split at hsecret
    · rename_i ref href
      exact absurd (eq_secret_of_isSecretId_targetId hsecret).1 ((hlisted entry hentry).2 ref href)
    · exact absurd hsecret (hlisted entry hentry).1

/-! ## Secrets in use -/

/-- The collected maps are those of all workloads. -/
theorem valueMaps_eq (d : Description) :
    d.valueMaps = d.workloads.flatMap fun w => [w.env, w.secrets] := by
  have hnetwork : ∀ n : NetworkSpec, n.workloads.flatMap (fun w => [w.env, w.secrets]) =
      n.containers.flatMap (fun c => [c.env, c.secrets])
        ++ n.functions.flatMap (fun f => [f.env, f.secrets])
        ++ n.uis.flatMap (fun u => [u.env, u.secrets]) := by
    intro n
    simp only [NetworkSpec.workloads, List.flatMap_append, List.flatMap_map]
    rfl
  simp only [valueMaps, workloads, List.flatMap_append, List.flatMap_assoc, hnetwork,
    ← map_snd_kernelVariants, List.flatMap_map]
  rfl

/-- A secret is in use if a value of a workload, as it is written, is a reference to it. -/
theorem mem_referencedSecrets_iff {name : String} :
    name ∈ d.referencedSecrets ↔
      ∃ w ∈ d.workloads, ∃ value ∈ w.env.values ++ w.secrets.values,
        Reference.IsToSecret value name := by
  simp only [referencedSecrets, List.mem_eraseDups, List.mem_map, List.mem_filter,
    decide_eq_true_eq, valueMaps_eq, List.mem_flatMap, Reference.extract, List.mem_filterMap,
    List.mem_append, List.mem_cons, List.not_mem_nil, or_false]
  constructor
  · rintro ⟨ref, ⟨⟨m, ⟨w, hw, hm⟩, value, hvalue, hparse⟩, htype⟩, rfl⟩
    rcases hm with rfl | rfl
    · exact ⟨w, hw, value, Or.inl hvalue, ref, hparse, htype, rfl⟩
    · exact ⟨w, hw, value, Or.inr hvalue, ref, hparse, htype, rfl⟩
  · rintro ⟨w, hw, value, hvalue, ref, hparse, htype, rfl⟩
    rcases hvalue with hvalue | hvalue
    · exact ⟨ref, ⟨⟨w.env, ⟨w, hw, Or.inl rfl⟩, value, hvalue, hparse⟩, htype⟩, rfl⟩
    · exact ⟨ref, ⟨⟨w.secrets, ⟨w, hw, Or.inr rfl⟩, value, hvalue, hparse⟩, htype⟩, rfl⟩

theorem nodup_referencedSecrets (d : Description) : d.referencedSecrets.Nodup :=
  Project.nodup_eraseDups _

/-- A secret is missing if it is referred to and not declared. -/
theorem mem_missingSecrets_iff {name : String} :
    name ∈ d.missingSecrets ↔ name ∈ d.referencedSecrets ∧ name ∉ d.secrets.map (·.name) := by
  simp [missingSecrets]

/-- What the compiler reads is written. -/
theorem values_effectiveValues_subset :
    (Project.effectiveValues w.env w.secrets).values ⊆ w.env.values ++ w.secrets.values := by
  intro value hvalue
  obtain ⟨entry, hentry, rfl⟩ := List.mem_map.1 hvalue
  rcases Project.mem_entries_effectiveValues_iff.1 hentry with hsecret | ⟨henv, -⟩
  · exact List.mem_append_right _ (List.mem_map_of_mem hsecret)
  · exact List.mem_append_left _ (List.mem_map_of_mem henv)

/-! ## Secrets that a plan waits for -/

/-- A declared secret becomes a node. -/
theorem nodeId_mem_nodeIds_of_secret {name : String} (h : name ∈ d.secrets.map (·.name)) :
    ResourceKind.secret.nodeId name ∈ d.nodeIds := by
  obtain ⟨spec, hspec, rfl⟩ := List.mem_map.1 h
  have hmem : ResourceKind.secret.nodeId spec.name ∈
      d.secrets.map (ResourceKind.secret.nodeId ·.name) :=
    List.mem_map_of_mem (f := fun s : SecretSpec => ResourceKind.secret.nodeId s.name) hspec
  simp only [nodeIds, globalIds, List.mem_append]
  exact Or.inl (Or.inl (Or.inl (Or.inl (Or.inr hmem))))

/-- Whatever a node of a resolved description waits for is there, or its workload asks for it. -/
theorem Legal.asks_of_dangling (h : d.Legal) {resources : List Resource}
    (hresources : (Project.of d).resources = .ok resources) {r : Resource} (hr : r ∈ resources)
    {id : String} (hid : id ∈ r.dependsOn) (hmissing : id ∉ resources.map (·.id)) :
    d.Asks r.id id := by
  obtain ⟨before, after, hsplit⟩ := List.append_of_mem hr
  have hgrounded := h.grounded_resources hresources
  rw [hsplit] at hgrounded
  refine ((grounded_append_iff.1 hgrounded).2.1 id hid).resolve_left fun hbefore => hmissing ?_
  rw [hsplit, List.map_append]
  exact List.mem_append_left _ hbefore

/-- Nothing but a topic triggers a workload of a resolved description by reference. -/
theorem Legal.type_of_trigger (h : d.Legal) {resources : List Resource}
    (hresources : (Project.of d).resources = .ok resources) {n : NetworkSpec}
    (hn : n ∈ d.networks) (hw : w ∈ d.workloadsIn n) {ref : Reference}
    (href : w.trigger.bind Reference.parse? = some ref) : ref.type = .topic := by
  obtain ⟨step, hstep, hresolves⟩ := h.exists_step hw
  obtain ⟨nodes, hnodes, -⟩ := Project.step_of_resources_eq_ok hresources
    (Project.mem_steps_of_mem_networkSteps hn hstep)
  obtain ⟨env, topicNodes, pod, config, -, -, hsettings⟩ := hresolves nodes hnodes
  have htrigger := hsettings.trigger_eq
  obtain ⟨text, htext, hparse⟩ := Option.bind_eq_some_iff.1 href
  rw [htext] at htrigger
  simp only [Project.trigger, hparse] at htrigger
  split at htrigger
  · assumption
  · cases htrigger

/-- What is wrong with the order of a resolved description is wrong with the order of its nodes. -/
theorem sort_eq_error_of_compile {p : Plan} (h : d.resolve = .ok p) {e : OrderError}
    (herror : d.compile = .error (.order e)) : Provisioning.sort p.resources = .error e := by
  unfold compile at herror
  split at herror
  · rw [h] at herror
    change p.arrange.mapError CompileError.order = _ at herror
    unfold Plan.arrange at herror
    cases hsort : Provisioning.sort p.resources with
    | error e' =>
      rw [hsort] at herror
      cases herror
      rfl
    | ok order =>
      rw [hsort] at herror
      cases herror
  · cases herror

/-- The secrets in use are those that some value is a reference to, as it is written.  If all of
them are declared and no workload lists a secret, a resolved description can wait for something
unknown, but not for a secret. -/
theorem secrets_of_resolve {p : Plan} (h : d.resolve = .ok p) :
    d.referencedSecrets.Nodup ∧
    (∀ name, name ∈ d.referencedSecrets ↔
      ∃ w ∈ d.workloads, ∃ value ∈ w.env.values ++ w.secrets.values,
        Reference.IsToSecret value name) ∧
    (d.missingSecrets = [] →
      (∀ w ∈ d.workloads, ListsNoSecret w.listed) →
      ∀ node missing, d.compile = .error (.order (.dangling node missing)) →
        ¬ IsSecretId missing) := by
  refine ⟨d.nodup_referencedSecrets, fun name => mem_referencedSecrets_iff, ?_⟩
  intro hdeclared hlisted node missing herror hsecret
  have hsort := sort_eq_error_of_compile h herror
  obtain ⟨hlegal, resources, hresources, rfl⟩ := resolve_eq_ok_iff.1 h
  obtain ⟨r, hr, hmem, hmissing⟩ := Provisioning.exists_of_sort_eq_dangling hsort
  obtain ⟨n, hn, w, hw, -, hasks⟩ := hlegal.asks_of_dangling hresources hr hmem hmissing
  have hrun : w ∈ d.workloads := mem_workloads_of_mem_workloadsIn hn hw
  have htrigger : ∀ ref, w.trigger.bind Reference.parse? = some ref → ref.type ≠ .secret := by
    intro ref href
    rw [hlegal.type_of_trigger hresources hn hw href]
    decide
  obtain ⟨name, rfl, value, hvalue, hto⟩ :=
    exists_secret_of_mem_requests hasks hsecret htrigger (hlisted w hrun)
  have huse : name ∈ d.referencedSecrets :=
    mem_referencedSecrets_iff.2 ⟨w, hrun, value, values_effectiveValues_subset hvalue, hto⟩
  have hname : name ∈ d.secrets.map (·.name) := by
    by_contra hnot
    have hmem : name ∈ d.missingSecrets := mem_missingSecrets_iff.2 ⟨huse, hnot⟩
    rw [hdeclared] at hmem
    cases hmem
  rw [hlegal.map_id_resources hresources] at hmissing
  exact hmissing (nodeId_mem_nodeIds_of_secret hname)

/-- A cluster whose container refers to a declared secret and to a queue that is not there. -/
def courier : Description :=
  { inCluster [] with
    secrets := [⟨"token", none⟩]
    topics := [⟨"orders", none⟩]
    networks := [
      { NetworkSpec.ofContainers "main" [] with
        containers := [
          { ContainerSpec.named "api" with
            env := .ofList [("TOKEN", "@secret/token"), ("JOBS", "@queue/jobs")]
            dependsOn := ["@topic/orders"] }] }] }

/-- It does not compile, but for the queue and not for a secret. -/
theorem secrets_of_resolve_courier :
    (∃ p, courier.resolve = .ok p) ∧ courier.missingSecrets = [] ∧
      (∀ w ∈ courier.workloads, ListsNoSecret w.listed) ∧
      courier.compile = .error (.order (.dangling "deployment-api" "queue-jobs")) ∧
      courier.referencedSecrets.Nodup ∧ "token" ∈ courier.referencedSecrets ∧
      ¬ IsSecretId "queue-jobs" := by
  have hsome : courier.resolve.toOption.isSome := by decide +kernel
  have hmissing : courier.missingSecrets = [] := by decide +kernel
  have hlisted : ∀ w ∈ courier.workloads, ListsNoSecret w.listed := by decide +kernel
  have herror : courier.compile = .error (.order (.dangling "deployment-api" "queue-jobs")) := rfl
  cases hresolve : courier.resolve with
  | error e =>
    rw [hresolve] at hsome
    cases hsome
  | ok p =>
    obtain ⟨hnodup, hmem, hdangling⟩ := secrets_of_resolve hresolve
    have htoken : Reference.IsToSecret "@secret/token" "token" :=
      ⟨⟨.secret, "token", none⟩, by decide +kernel, rfl, rfl⟩
    refine ⟨⟨p, rfl⟩, hmissing, hlisted, herror, hnodup, ?_, ?_⟩
    · exact (hmem "token").2 ⟨_, List.mem_cons_self, _, by decide +kernel, htoken⟩
    · exact hdangling hmissing hlisted _ _ herror

/-! ## Secrets of a compiled plan -/

/-- The secrets that the compiler reads from a workload are declared. -/
theorem Compiles.declared_of_isToSecret {p : Plan} (h : d.Compiles p) (hw : w ∈ d.workloads)
    {value name : String} (hvalue : value ∈ (Project.effectiveValues w.env w.secrets).values)
    (hto : Reference.IsToSecret value name) : name ∈ d.secrets.map (·.name) := by
  obtain ⟨ref, hparse, htype, rfl⟩ := hto
  have href : ref ∈ Reference.extract (Project.effectiveValues w.env w.secrets) :=
    List.mem_filterMap.2 ⟨value, hvalue, hparse⟩
  have htarget : d.targetId ref = ReferenceType.secret.resourceKind.nodeId ref.name := by
    have hworkload : ¬ (d.project.backend = .manifest ∧ ref.type.isWorkload) := by
      simp [htype, ReferenceType.isWorkload]
    rw [targetId, if_neg hworkload, ref.resourceId_eq_nodeId, htype]
  have hmem : d.targetId ref ∈ d.requests w :=
    List.mem_append_left _ (List.mem_append_left _ (List.mem_map_of_mem href))
  have hid := h.mem_ids_of_mem_requests hw hmem
  rw [htarget] at hid
  exact h.name_mem_of_id hid

/-- A reference to an undeclared secret in a description that compiles is the value of a variable
whose place a secret takes, and every such reference is reported. -/
theorem missingSecrets_of_compile {p : Plan} (h : d.compile = .ok p) :
    d.missingSecrets.Nodup ∧
    ∀ name, name ∈ d.missingSecrets ↔
      name ∉ d.secrets.map (·.name) ∧
        ∃ w ∈ d.workloads, ∃ entry ∈ w.env.entries,
          entry.1 ∈ w.secrets.keys ∧ Reference.IsToSecret entry.2 name := by
  have hcompiles := compile_eq_ok_iff.1 h
  refine ⟨d.nodup_referencedSecrets.filter _, fun name => ?_⟩
  rw [mem_missingSecrets_iff, mem_referencedSecrets_iff]
  constructor
  · rintro ⟨⟨w, hw, value, hvalue, hto⟩, hundeclared⟩
    have hunread : value ∉ (Project.effectiveValues w.env w.secrets).values := fun hread =>
      hundeclared (hcompiles.declared_of_isToSecret hw hread hto)
    refine ⟨hundeclared, w, hw, ?_⟩
    rcases List.mem_append.1 hvalue with hvalue | hvalue
    · obtain ⟨entry, hentry, rfl⟩ := List.mem_map.1 hvalue
      refine ⟨entry, hentry, ?_, hto⟩
      by_contra hkey
      exact hunread (List.mem_map_of_mem
        (Project.mem_entries_effectiveValues_iff.2 (Or.inr ⟨hentry, hkey⟩)))
    · obtain ⟨entry, hentry, rfl⟩ := List.mem_map.1 hvalue
      exact absurd (List.mem_map_of_mem
        (Project.mem_entries_effectiveValues_iff.2 (Or.inl hentry))) hunread
  · rintro ⟨hundeclared, w, hw, entry, hentry, -, hto⟩
    exact ⟨⟨w, hw, entry.2, List.mem_append_left _ (List.mem_map_of_mem hentry), hto⟩,
      hundeclared⟩

/-- A container with a secret in the place of a variable that refers to an older one. -/
def rotation : Description :=
  { ofNetworks ⟨"shop", "us-central1", none, .flat⟩ [
      { NetworkSpec.ofContainers "main" [] with
        containers := [
          { ContainerSpec.named "api" with
            env := .ofList [("TOKEN", "@secret/old")]
            secrets := .ofList [("TOKEN", "@secret/new")] }] }] with
    secrets := [⟨"new", none⟩] }

/-- It compiles, and the older one is reported. -/
theorem missingSecrets_of_compile_rotation :
    ∃ p, rotation.compile = .ok p ∧ rotation.missingSecrets.Nodup ∧
      "old" ∈ rotation.missingSecrets ∧ "new" ∉ rotation.missingSecrets := by
  have hsome : rotation.compile.toOption.isSome := by decide +kernel
  cases hcompile : rotation.compile with
  | error e =>
    rw [hcompile] at hsome
    cases hsome
  | ok p =>
    obtain ⟨hnodup, hmem⟩ := missingSecrets_of_compile hcompile
    have hold : Reference.IsToSecret "@secret/old" "old" :=
      ⟨⟨.secret, "old", none⟩, by decide +kernel, rfl, rfl⟩
    refine ⟨p, rfl, hnodup, ?_, ?_⟩
    · rw [hmem]
      exact ⟨by decide +kernel, _, List.mem_cons_self, ("TOKEN", _), List.mem_cons_self,
        by decide +kernel, hold⟩
    · rw [hmem]
      exact fun hnew => hnew.1 (by decide +kernel)

/-- So a description that compiles can have missing secrets. -/
theorem missingSecrets_rotation :
    (∃ p, rotation.compile = .ok p) ∧ rotation.missingSecrets ≠ [] := by
  have hsome : rotation.compile.toOption.isSome := by decide +kernel
  refine ⟨?_, by decide +kernel⟩
  cases hcompile : rotation.compile with
  | error e =>
    rw [hcompile] at hsome
    cases hsome
  | ok p => exact ⟨p, rfl⟩

end Description

end Groundwork
