import Groundwork.Proofs.Code.Outputs
import Groundwork.Proofs.Report.Complete
import Groundwork.Proofs.Resolution.References

/-!
# References are bound before they are used

In code, a placeholder stands for an output of the node that is referred to, and an expression for a
field of what that node declares.  Which outputs a reference can mean and which outputs a script
binds are decided apart from each other; here the two are brought together.

Main results:

- `ReferenceType.exists_script_outputs`: a script binds every output that references to it can mean.
- `ReferenceType.exists_script_declares`: the script of a workload declares what constructs refer
  to.
- `Plan.references_bound`: in a compiled plan, whatever a node refers to is bound by an earlier node.
-/

namespace Groundwork

/-- Constructs label the resource of a node by the id of the node. -/
theorem Code.Dialect.label_construct (r : Resource) : Dialect.construct.label r "" = r.id := by
  simp [label]

namespace ReferenceType

variable {b : Backend} {d : Code.Dialect} {r : Resource}

/-- A node whose generator binds some fields binds each of them. -/
theorem exists_script_of_outputs {α : Type} {settings : SettingsKind α} {id : String}
    {make : Resource → α → Code.Script} {outputs fields : List String}
    (hg : .ofScript id settings make ∈ b.definitions) (htag : r.typeTag = id)
    (hkind : r.config.kind = settings.kind)
    (hfields : ∀ c, (make r c).outputs = fields.map (outputVariable r.name))
    (hsub : outputs ⊆ fields) :
    ∃ s, Registry.builtin.generate r = .ok (.script s) ∧
      ∀ output ∈ outputs, outputVariable r.name output ∈ s.outputs := by
  obtain ⟨c, hc⟩ := Backend.generate_ofScript hg htag hkind
  refine ⟨make r c, hc, ?_⟩
  intro output houtput
  rw [hfields c]
  exact List.mem_map_of_mem (hsub houtput)

/-- A node of code binds every output that references to it can mean; for the workloads of
constructs, whose names are not bound, code stands in for references. -/
theorem exists_script_outputs {t : ReferenceType} (hd : b.dialect? = some d)
    (hk : t.resourceKind ∈ b.kinds) (htag : r.typeTag = b.typeTag t.resourceKind)
    (hkind : r.config.kind = t.resourceKind.configKind)
    (hplain : b = .construct → ¬ t.isWorkload) :
    ∃ s, Registry.builtin.generate r = .ok (.script s) ∧
      ∀ output ∈ t.outputs, outputVariable r.name output ∈ s.outputs := by
  have hshared : ∀ g ∈ b.sharedDefinitions d, g ∈ b.definitions := fun g =>
    Backend.mem_definitions_of_mem_sharedDefinitions hd
  cases t with
  | secret =>
    have hg := hshared (.ofScript (b.typeTag .secret) .secret (Code.secret d))
      (by simp [Backend.sharedDefinitions])
    exact exists_script_of_outputs hg htag hkind (Code.outputs_secret d r) (by decide)
  | bucket =>
    have hg := hshared (.ofScript (b.typeTag .bucket) .bucket (Code.storageBucket d))
      (by simp [Backend.sharedDefinitions])
    exact exists_script_of_outputs hg htag hkind (Code.outputs_storageBucket d r) (by decide)
  | topic =>
    have hg := hshared (.ofScript (b.typeTag .topic) .topic (Code.pubsubTopic d))
      (by simp [Backend.sharedDefinitions])
    exact exists_script_of_outputs hg htag hkind (Code.outputs_pubsubTopic d r) (by decide)
  | queue =>
    have hg := hshared (.ofScript (b.typeTag .queue) .queue (Code.tasksQueue d))
      (by simp [Backend.sharedDefinitions])
    exact exists_script_of_outputs hg htag hkind (Code.outputs_tasksQueue d r) (by decide)
  | database =>
    obtain rfl : b = .flat := Backend.eq_flat_of_mem_kinds hd (by decide) hk
    have hg : .ofScript (Backend.flat.typeTag .database) .database Code.sqlDatabase ∈
        Backend.flat.definitions := by
      simp [Backend.definitions, Backend.flatDefinitions]
    exact exists_script_of_outputs hg htag hkind (Code.outputs_sqlDatabase r) (by decide)
  | cache =>
    obtain rfl : b = .flat := Backend.eq_flat_of_mem_kinds hd (by decide) hk
    have hg : .ofScript (Backend.flat.typeTag .cache) .cache Code.redisCache ∈
        Backend.flat.definitions := by
      simp [Backend.definitions, Backend.flatDefinitions]
    exact exists_script_of_outputs hg htag hkind (Code.outputs_redisCache r) (by decide)
  | container =>
    obtain rfl : d = .flat := Backend.dialect_eq_flat hd fun hb => hplain hb rfl
    exact exists_script_of_outputs (Backend.mem_containerDefinition hd) htag hkind
      (Code.outputs_container .flat r) (by decide)
  | function =>
    obtain rfl : d = .flat := Backend.dialect_eq_flat hd fun hb => hplain hb rfl
    exact exists_script_of_outputs (Backend.mem_functionDefinition hd) htag hkind
      (Code.outputs_function .flat r) (by decide)

/-- The script of a workload declares the workload under the identifier that constructs refer to. -/
theorem exists_script_declares {t : ReferenceType} (ht : t.isWorkload) (hd : b.dialect? = some d)
    (htag : r.typeTag = b.typeTag t.resourceKind)
    (hkind : r.config.kind = t.resourceKind.configKind) :
    ∃ s, Registry.builtin.generate r = .ok (.script s) ∧
      s.Declares (codeIdentifier r.name t.identifierSuffix) (d.label r "") := by
  cases t with
  | container =>
    obtain ⟨c, hc⟩ := Backend.generate_ofScript (Backend.mem_containerDefinition hd) htag hkind
    exact ⟨_, hc, Code.container_declares d r c⟩
  | function =>
    obtain ⟨c, hc⟩ := Backend.generate_ofScript (Backend.mem_functionDefinition hd) htag hkind
    exact ⟨_, hc, Code.function_declares d r c⟩
  | _ => cases ht

end ReferenceType

namespace Plan

/-- The node that a reference points at, before another node. -/
structure IsTarget (p : Plan) (ref : Reference) (r t : Resource) : Prop where
  mem : t ∈ p.resources
  id_eq : t.id = ref.resourceId
  kind_eq : t.config.kind = ref.type.resourceKind.configKind
  precedes : Provisioning.Precedes p.order t.id r.id

variable {d : Description} {p : Plan}

/-- In the code of a compiled plan, whatever a node refers to is bound before it.  A placeholder is
filled in by an output of the node that is referred to; an expression, which only constructs have,
is a field of what the container or function referred to declares as itself, under its own id. -/
theorem references_bound (h : d.compile = .ok p) (hb : d.project.backend ≠ .manifest)
    {r : Resource} (hr : r ∈ p.resources) :
    (∀ text, .interpolation text ∈ r.config.heldValues →
      ∃ (ref : Reference) (t : Resource) (a : Artifact) (output : String),
        (Project.of d).Refers r ref (.interpolation text) ∧ p.IsTarget ref r t ∧
        Registry.builtin.generate t = .ok a ∧ output ∈ a.outputs ∧
        text = "$\x7b" ++ output ++ "\x7d") ∧
    (∀ code, .expression code ∈ r.config.heldValues →
      d.project.backend = .construct ∧
      ∃ (ref : Reference) (t : Resource) (s : Code.Script) (identifier field : String),
        (Project.of d).Refers r ref (.expression code) ∧ ref.type.isWorkload ∧
        p.IsTarget ref r t ∧ Registry.builtin.generate t = .ok (.script s) ∧
        s.Declares identifier t.id ∧
        ("const " ++ identifier ++ " = new ").toList <:+: s.code.toList ∧
        code = identifier ++ "." ++ field) := by
  have hcompiles := Description.compile_eq_ok_iff.1 h
  have hcluster := hcompiles.cluster_eq_none_iff.2 hb
  have hholding := Project.holding_of_origin hcluster (hcompiles.origin hr)
  obtain ⟨dialect, hdialect⟩ := Backend.exists_dialect hb
  constructor
  · intro text htext
    obtain ⟨_, hliteral⟩ | ⟨ref, hrefers, hrender, hdepends⟩ := hholding.refers hcluster htext
    · cases hliteral
    · obtain ⟨t, ht, hid, hname, hnode, hk, hprecedes⟩ := hcompiles.exists_target hr hdepends
      obtain ⟨output, houtput, ⟨-, -, -, hv⟩ | ⟨hundeclared, hv⟩⟩ :=
        Project.renderReference_cases hcluster hrender
      · cases hv
      · -- The node of a construct's workload has a declaration, and would be referred to by code.
        have hplain : d.project.backend = .construct → ¬ ref.type.isWorkload := by
          intro hconstruct hworkload
          refine hundeclared hconstruct hworkload ?_
          rw [← hname]
          exact hcompiles.declares_of_isNode hb ht hworkload hnode
        obtain ⟨s, hs, hbound⟩ := ReferenceType.exists_script_outputs hdialect hk
          hnode.typeTag_eq hnode.kind_eq hplain
        refine ⟨ref, t, .script s, outputVariable ref.name output, hrefers,
          ⟨ht, hid, hnode.kind_eq, hprecedes⟩, hs, ?_, EnvValue.interpolation.inj hv⟩
        rw [← hname]
        exact hbound output (ReferenceType.mem_outputs_of_output? houtput)
  · intro code hcode
    obtain ⟨_, hliteral⟩ | ⟨ref, hrefers, hrender, hdepends⟩ := hholding.refers hcluster hcode
    · cases hliteral
    · obtain ⟨t, ht, hid, hname, hnode, hk, hprecedes⟩ := hcompiles.exists_target hr hdepends
      obtain ⟨output, houtput, ⟨hconstruct, hworkload, -, hv⟩ | ⟨-, hv⟩⟩ :=
        Project.renderReference_cases hcluster hrender
      · have hdialect : d.project.backend.dialect? = some .construct := by
          rw [show d.project.backend = .construct from hconstruct]
          rfl
        obtain ⟨s, hs, hdeclares⟩ := ReferenceType.exists_script_declares hworkload hdialect
          hnode.typeTag_eq hnode.kind_eq
        rw [hname, Code.Dialect.label_construct] at hdeclares
        exact ⟨hconstruct, ref, t, s, _, _, hrefers, hworkload,
          ⟨ht, hid, hnode.kind_eq, hprecedes⟩, hs, hdeclares, hdeclares.isInfix_code,
          EnvValue.expression.inj hv⟩
      · cases hv

/-- The container of the shop as a construct: one placeholder for a topic, and one expression for a
function. -/
theorem references_bound_storefront :
    ∃ p r, (Description.storefront .construct).compile = .ok p ∧ r ∈ p.resources ∧
      r.config.heldValues =
        [.interpolation "$\x7bordersName\x7d",
         .expression "mailer_function.serviceConfig.uri"] ∧
      (∃ (ref : Reference) (t : Resource) (a : Artifact) (output : String),
        (Project.of (Description.storefront .construct)).Refers r ref
          (.interpolation "$\x7bordersName\x7d") ∧
        p.IsTarget ref r t ∧ Registry.builtin.generate t = .ok a ∧ output ∈ a.outputs ∧
        "$\x7bordersName\x7d" = "$\x7b" ++ output ++ "\x7d") ∧
      ∃ (ref : Reference) (t : Resource) (s : Code.Script) (identifier field : String),
        (Project.of (Description.storefront .construct)).Refers r ref
          (.expression "mailer_function.serviceConfig.uri") ∧
        ref.type.isWorkload ∧ p.IsTarget ref r t ∧
        Registry.builtin.generate t = .ok (.script s) ∧ s.Declares identifier t.id ∧
        ("const " ++ identifier ++ " = new ").toList <:+: s.code.toList ∧
        "mailer_function.serviceConfig.uri" = identifier ++ "." ++ field := by
  have hheld : ((Description.storefront .construct).compile.toOption.bind
        (·.get? "container-api")).map (·.config.heldValues) =
      some [.interpolation "$\x7bordersName\x7d",
        .expression "mailer_function.serviceConfig.uri"] := by
    decide +kernel
  cases hcompile : (Description.storefront .construct).compile with
  | error e =>
    rw [hcompile] at hheld
    cases hheld
  | ok p =>
    rw [hcompile] at hheld
    obtain ⟨r, hr, hvalues⟩ := Option.map_eq_some_iff.1 hheld
    have hmem : r ∈ p.resources := List.mem_of_find?_eq_some hr
    have hbound := references_bound hcompile (by decide) hmem
    refine ⟨p, r, rfl, hmem, hvalues, hbound.1 _ ?_, (hbound.2 _ ?_).2⟩
    · rw [hvalues]
      exact List.mem_cons_self
    · rw [hvalues]
      exact List.mem_cons_of_mem _ List.mem_cons_self

end Plan

end Groundwork
