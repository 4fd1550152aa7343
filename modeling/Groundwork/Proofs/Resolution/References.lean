import Groundwork.Proofs.Resolution.Compiled
import Groundwork.Proofs.Resolution.Holders

/-!
# What references point at

A reference is to a node of one kind: no other node has an id of its form.  In a compiled plan a
node that waits for a reference has the node that is meant before it in the order, and constructs
refer to their workloads by code.

Main results:

- `ReferenceType.nodeId_eq_iff`: an id of a reference's form belongs to a node of its kind and name.
- `Project.renderReference_cases`: what a reference becomes outside a cluster.
- `Description.Compiles.exists_target`: the node that a reference points at.
- `Description.Compiles.declares_of_isNode`: the node of a workload has a declaration.
-/

namespace Groundwork

/-! ## Ids -/

namespace ResourceKind

/-- The id prefix of a kind up to its first hyphen. -/
def firstWord (k : ResourceKind) : List Char := k.idPrefix.toList.takeWhile (· ≠ '-')

theorem takeWhile_append_hyphen (before after : List Char) :
    (before ++ '-' :: after).takeWhile (· ≠ '-') = before.takeWhile (· ≠ '-') := by
  induction before with
  | nil => rfl
  | cons c rest ih =>
    rw [List.cons_append, List.takeWhile_cons, List.takeWhile_cons, ih]

/-- An id begins with the first word of its kind. -/
theorem takeWhile_nodeId (k : ResourceKind) (name : String) :
    (k.nodeId name).toList.takeWhile (· ≠ '-') = k.firstWord := by
  have hchars : (k.nodeId name).toList = k.idPrefix.toList ++ '-' :: name.toList := by
    simp [nodeId, String.toList_append]
  rw [hchars, takeWhile_append_hyphen, firstWord]

/-- Kinds whose nodes share an id begin their ids with the same word. -/
theorem firstWord_eq_of_nodeId_eq {k k' : ResourceKind} {name other : String}
    (h : k.nodeId name = k'.nodeId other) : k.firstWord = k'.firstWord := by
  rw [← takeWhile_nodeId k name, h, takeWhile_nodeId]

end ResourceKind

namespace ReferenceType

/-- The kind of node that references of a type point at. -/
def resourceKind : ReferenceType → ResourceKind
  | secret => .secret
  | database => .database
  | bucket => .bucket
  | cache => .cache
  | container => .container
  | function => .function
  | topic => .topic
  | queue => .queue

/-- The outputs that references of a type can mean. -/
def outputs (t : ReferenceType) : List String := t.defaultOutput :: t.properties.map (·.2)

/-- Whatever property a reference names, it means one of the outputs of its type. -/
theorem mem_outputs_of_output? {t : ReferenceType} {property : Option String} {output : String}
    (h : t.output? property = some output) : output ∈ t.outputs := by
  cases property with
  | none =>
    cases h
    exact List.mem_cons_self
  | some name =>
    simp only [output?] at h
    split at h
    · cases h
      exact List.mem_cons_self
    · obtain ⟨before, after, heq, -⟩ := List.lookup_eq_some_iff.1 h
      refine List.mem_cons_of_mem _ (List.mem_map.2 ⟨(name, output), ?_, rfl⟩)
      rw [heq]
      exact List.mem_append_right _ List.mem_cons_self

/-- No other kind begins its ids as those that references point at. -/
theorem resourceKind_eq_of_firstWord {t : ReferenceType} {k : ResourceKind}
    (h : k.firstWord = t.resourceKind.firstWord) : k = t.resourceKind := by
  revert h
  cases t <;> cases k <;> decide

/-- A node has the id that a reference points at exactly if it has the kind and the name. -/
theorem nodeId_eq_iff {t : ReferenceType} {k : ResourceKind} {name other : String} :
    k.nodeId other = t.resourceKind.nodeId name ↔ k = t.resourceKind ∧ other = name := by
  constructor
  · intro h
    -- The prefixes of these kinds are single words, so the first word of the id decides the kind.
    obtain rfl := resourceKind_eq_of_firstWord (ResourceKind.firstWord_eq_of_nodeId_eq h)
    exact ⟨rfl, (String.append_right_inj _).1 h⟩
  · rintro ⟨rfl, rfl⟩
    rfl

end ReferenceType

theorem Reference.resourceId_eq_nodeId (ref : Reference) :
    ref.resourceId = ref.type.resourceKind.nodeId ref.name := by
  obtain ⟨type, name, property⟩ := ref
  cases type <;> rfl

/-- No id has the form of a reference. -/
theorem Reference.parse?_nodeId (k : ResourceKind) (name : String) :
    Reference.parse? (k.nodeId name) = none := by
  cases k <;> simp [Reference.parse?, ResourceKind.nodeId, ResourceKind.idPrefix,
    String.toList_append, Reference.ofChars?]

/-! ## What references become -/

namespace Project

variable {p : Project}

/-- The value of a reference outside a cluster: code, if it is to a workload that a construct
declares, and else a placeholder. -/
theorem renderReference_cases (hcluster : p.cluster = none) {ref : Reference} {v : EnvValue}
    (h : p.renderReference ref = .ok v) :
    ∃ output, ref.type.output? ref.property = some output ∧
      ((p.backend = .construct ∧ ref.type.isWorkload ∧ p.declares ref.type ref.name ∧
          v = .expression (codeIdentifier ref.name ref.type.identifierSuffix ++ "." ++
            ref.type.outputField output)) ∨
        ((p.backend = .construct → ref.type.isWorkload → ¬ p.declares ref.type ref.name) ∧
          v = .interpolation ("$\x7b" ++ outputVariable ref.name output ++ "\x7d"))) := by
  rw [renderReference, bind_eq_ok_iff] at h
  obtain ⟨output, houtput, h⟩ := h
  obtain ⟨text, htext, h⟩ := bind_eq_ok_iff.1 h
  have hsome : ref.type.output? ref.property = some output := by
    simp only [Reference.output, ReferenceType.output] at houtput
    split at houtput
    · rename_i o ho
      cases houtput
      exact ho
    · cases houtput
  have hplaceholder : text = "$\x7b" ++ outputVariable ref.name output ++ "\x7d" := by
    rw [Reference.placeholder, houtput] at htext
    exact (Except.ok.inj htext).symm
  have hv := (Except.ok.inj h).symm
  subst hplaceholder
  refine ⟨output, hsome, ?_⟩
  cases hb : p.backend with
  | flat =>
    simp only [hb] at hv
    exact Or.inr ⟨by simp, hv⟩
  | manifest =>
    simp only [hb, hcluster] at hv
    exact Or.inr ⟨by simp, hv⟩
  | construct =>
    simp only [hb, workloadExpression?] at hv
    by_cases hcode : (ref.type.isWorkload && p.declares ref.type ref.name) = true
    · rw [if_pos hcode] at hv
      obtain ⟨hworkload, hdeclares⟩ := Bool.and_eq_true_iff.1 hcode
      exact Or.inl ⟨rfl, hworkload, hdeclares, hv⟩
    · rw [if_neg hcode] at hv
      refine Or.inr ⟨?_, hv⟩
      intro _ hworkload hdeclares
      exact hcode (Bool.and_eq_true_iff.2 ⟨hworkload, hdeclares⟩)

/-- A container or function of a description is declared by one of its networks. -/
theorem HasWorkload.declares {w : Workload} (h : p.HasWorkload w) {t : ReferenceType}
    (hkind : w.kind = t.resourceKind) : p.declares t w.name := by
  cases h with
  | @container n spec hn hspec =>
    have ht : t = .container := by cases t <;> first | rfl | cases hkind
    subst ht
    exact List.any_eq_true.2 ⟨n, hn, List.find?_isSome.2 ⟨spec, hspec, decide_eq_true rfl⟩⟩
  | @function n spec hn hspec =>
    have ht : t = .function := by cases t <;> first | rfl | cases hkind
    subst ht
    exact List.any_eq_true.2 ⟨n, hn, List.find?_isSome.2 ⟨spec, hspec, decide_eq_true rfl⟩⟩
  | ui hn hspec => cases t <;> cases hkind
  | @kernel variant spec hspec => cases variant <;> cases t <;> cases hkind

end Project

/-! ## The nodes that references point at -/

namespace Description.Compiles

variable {d : Description} {p : Plan}

/-- A node that waits for what a reference points at has a node of the reference's kind and name
before it. -/
theorem exists_target (h : d.Compiles p) {r : Resource} (hr : r ∈ p.resources) {ref : Reference}
    (href : ref.resourceId ∈ r.dependsOn) :
    ∃ t ∈ p.resources, t.id = ref.resourceId ∧ t.name = ref.name ∧
      (Project.of d).IsNode ref.type.resourceKind t ∧
      ref.type.resourceKind ∈ d.project.backend.kinds ∧
      Provisioning.Precedes p.order t.id r.id := by
  obtain ⟨t, ht, hid⟩ := List.mem_map.1 (h.isGreedyOrder.noDangling r hr _ href)
  obtain ⟨k, hk, hnode, -⟩ := h.served ht
  have hsame := hnode.id_eq
  rw [hid, ref.resourceId_eq_nodeId] at hsame
  obtain ⟨rfl, hname⟩ := ReferenceType.nodeId_eq_iff.1 hsame.symm
  exact ⟨t, ht, hid, hname, hnode, hk, hid ▸ h.precedes hr href⟩

/-- The node of a container or function has a declaration. -/
theorem declares_of_isNode (h : d.Compiles p) (hb : d.project.backend ≠ .manifest)
    {t : Resource} (ht : t ∈ p.resources) {type : ReferenceType} (hworkload : type.isWorkload)
    (hnode : (Project.of d).IsNode type.resourceKind t) :
    (Project.of d).declares type t.name := by
  have hkind := hnode.kind_eq
  have hcluster := h.cluster_eq_none_iff.2 hb
  cases Project.holding_of_origin hcluster (h.origin ht) with
  | @workload w site env topicNodes config hw hsettings hr =>
    have hid : w.kind.nodeId w.name = type.resourceKind.nodeId t.name := by
      rw [← hnode.id_eq, hr]
      rfl
    obtain ⟨hsame, hname⟩ := ReferenceType.nodeId_eq_iff.1 hid
    exact hname ▸ hw.declares hsame
  | cron hspec htarget hurl hr =>
    rw [hr] at hkind
    cases type <;> cases hkind
  | plain hplain =>
    rw [hkind] at hplain
    cases type <;> first | exact absurd (by decide) hplain | cases hworkload

end Description.Compiles

end Groundwork
