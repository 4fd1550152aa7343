import Groundwork.Document.Conventions
import Groundwork.Proofs.Registry.Outcomes
import Groundwork.Proofs.Yaml.Ending
import Groundwork.Yaml.Reader

/-!
# The ends of manifests

The code of a manifest is the printed document without the blanks at its end.  Only the line feed
that the printer puts there should go, but where a text of the settings ends the document, its own
blanks may go with it.

Main definitions:

- `ResourceConfig.closingText?`: the text of the settings that ends their manifest.
- `Yaml.textAt?`: the text under nested keys of a document that is read.

Main result:

- `Backend.manifest_code_iff`: a manifest is its document without the last line feed exactly if that
  text keeps its end.
-/

namespace Groundwork

open Manifest

/-! ## The text that ends a manifest -/

/-- The text of a variable that its manifest ends in. -/
def EnvValue.closingText : EnvValue → String
  | .literal text => text
  | .interpolation text => text
  | .expression code => code
  | .secretKeyRef _ key => key

/-- The text of some settings that ends the manifest made of them, if one does; other manifests end
in what is the same for all of them, or in a number. -/
def ResourceConfig.closingText? : ResourceConfig → Option String
  | .serviceAccount c => some c.displayName
  | .topic c => c.messageRetention <|> c.namespaceName
  | .configMap c => c.data.values.getLast?
  | .deployment c =>
    (c.memory <|> c.cpu) <|>
      if c.configMap.isEmpty then c.env.values.getLast?.map (·.closingText) else some c.configMap
  | .ingress c => c.host
  | .networkPolicy c =>
    match c.ports.getLast? with
    | some port => if (portRange? port).isSome then none else some port
    | none => c.sourceRanges.getLast?
  | _ => none

namespace Manifest

open Yaml (KeepsEnd)

/-- A document ends as the last of its parts does. -/
theorem closing_document (version kind : String) (metadata : Json) (part : String × Json)
    (parts : List (String × Json)) :
    (document version kind metadata (part :: parts)).closing =
      (Json.object (part :: parts)).closing := by
  simp [document]

/-- A document without further parts ends as its metadata do. -/
theorem closing_document_nil (version kind : String) (metadata : Json) :
    (document version kind metadata []).closing = metadata.closing := by
  simp [document]

/-- A value under a name ends in what the value ends in. -/
@[simp]
theorem closing_nested (name : String) (value : Json) :
    (nested name value).closing = value.closing := by
  simp [nested]

/-! ## Accounts and topics -/

/-- An account ends in its display name. -/
theorem keepsEnd_serviceAccount (c : ServiceAccountConfig) :
    (serviceAccount c).closing.KeepsEnd ↔
      ∀ s ∈ (ResourceConfig.serviceAccount c).closingText?, KeepsEnd s := by
  rw [serviceAccount, closing_document_nil]
  cases c.namespaceName <;>
    simp [metadata, annotated, optionalText, optional, ResourceConfig.closingText?, Json.KeepsEnd]

/-- The label that all objects have keeps its end. -/
theorem keepsEnd_managedBy : KeepsEnd managedBy := by decide +kernel

/-- A topic ends in how long it keeps messages, else in its namespace. -/
theorem keepsEnd_pubsubTopic (c : TopicConfig) :
    (pubsubTopic c).closing.KeepsEnd ↔
      ∀ s ∈ (ResourceConfig.topic c).closingText?, KeepsEnd s := by
  rw [pubsubTopic, cloudDocument]
  cases hretention : c.messageRetention with
  | some duration =>
    simp [optional, closing_document, ResourceConfig.closingText?, hretention, Json.KeepsEnd]
  | none =>
    cases hnamespace : c.namespaceName <;>
      simp [optional, optionalText, metadata, closing_document_nil, ResourceConfig.closingText?,
        hretention, hnamespace, Json.KeepsEnd, keepsEnd_managedBy]

/-! ## Config maps -/

/-- A config map ends in its last entry, so this is what must keep its end. -/
theorem keepsEnd_configMap (c : ConfigMapConfig) :
    (configMap c).closing.KeepsEnd ↔
      ∀ s ∈ (ResourceConfig.configMap c).closingText?, KeepsEnd s := by
  rw [configMap, closing_document, Json.closing_object_singleton]
  simp only [ResourceConfig.closingText?, OrderedMap.values]
  rcases List.eq_nil_or_concat' c.data.entries with hdata | ⟨entries, ⟨key, value⟩, hdata⟩
  · simp [hdata, Json.KeepsEnd]
  · simp [hdata, Json.closing_object_concat, Json.KeepsEnd]

/-! ## Deployments -/

/-- An environment variable ends in its value, or in what it refers to. -/
theorem closing_envVariable (name : String) (value : EnvValue) :
    (envVariable name value).closing = .text value.closingText := by
  cases value <;> simp [envVariable, EnvValue.closingText]

/-- A deployment ends in its container. -/
theorem closing_deployment (c : DeploymentConfig) :
    (deployment c).closing = (podContainer c).closing := by
  simp [deployment, closing_document]

/-- A container with limits ends in them. -/
theorem closing_podContainer_of_some (c : DeploymentConfig) {limit : String}
    (h : (c.memory <|> c.cpu) = some limit) : (podContainer c).closing = .text limit := by
  have hlimits : (optionalText "cpu" c.cpu ++ optionalText "memory" c.memory).isEmpty = false ∧
      (Json.object (optionalText "cpu" c.cpu ++ optionalText "memory" c.memory)).closing =
        .text limit := by
    cases hmemory : c.memory <;> cases hcpu : c.cpu <;> simp_all [optionalText, optional]
  rw [podContainer]
  simp only [hlimits.1, Bool.false_eq_true, if_false]
  rw [Json.closing_object_concat, closing_nested, hlimits.2]

/-- The last of some variables ends their list. -/
theorem closing_envVariables {env : Environment} {entries : List (String × EnvValue)}
    {name : String} {value : EnvValue} (h : env.entries = entries ++ [(name, value)]) :
    (Json.list (env.entries.map fun (name, value) => envVariable name value)).closing =
      .text value.closingText := by
  rw [h, List.map_append, List.map_singleton, Json.closing_list_concat, closing_envVariable]

/-- A container without limits ends in the config map that it reads, else in its last variable, else
in its port. -/
theorem keepsEnd_podContainer_of_none (c : DeploymentConfig) (h : (c.memory <|> c.cpu) = none) :
    (podContainer c).closing.KeepsEnd ↔
      ∀ s ∈ (if c.configMap.isEmpty then c.env.values.getLast?.map (·.closingText)
        else some c.configMap), KeepsEnd s := by
  have hlimits : optionalText "cpu" c.cpu ++ optionalText "memory" c.memory = [] := by
    cases hmemory : c.memory <;> cases hcpu : c.cpu <;> simp_all [optionalText, optional]
  rw [podContainer]
  simp only [hlimits, List.isEmpty_nil, if_true, List.append_nil]
  cases c.configMap.isEmpty with
  | false =>
    simp only [Bool.false_eq_true, if_false]
    rw [Json.closing_object_concat]
    simp [Json.KeepsEnd]
  | true =>
    simp only [if_true, List.append_nil]
    rcases List.eq_nil_or_concat' c.env.entries with henv | ⟨entries, ⟨name, value⟩, henv⟩
    · simp [OrderedMap.isEmpty, OrderedMap.values, henv, Json.KeepsEnd]
    · have hsome : c.env.isEmpty = false := by simp [OrderedMap.isEmpty, henv]
      simp only [hsome, Bool.false_eq_true, if_false]
      rw [Json.closing_object_concat, closing_envVariables henv]
      simp [OrderedMap.values, henv, Json.KeepsEnd]

/-- A deployment ends in a limit, else in the config map that it reads, else in its last
variable. -/
theorem keepsEnd_deployment (c : DeploymentConfig) :
    (deployment c).closing.KeepsEnd ↔
      ∀ s ∈ (ResourceConfig.deployment c).closingText?, KeepsEnd s := by
  rw [closing_deployment, ResourceConfig.closingText?]
  cases hlimit : (c.memory <|> c.cpu) with
  | some limit => simp [closing_podContainer_of_some c hlimit, Json.KeepsEnd]
  | none => exact keepsEnd_podContainer_of_none c hlimit

/-! ## Ingresses and policies -/

/-- An ingress ends in its host if it has one, else in a port. -/
theorem keepsEnd_ingress (c : IngressConfig) :
    (ingress c).closing.KeepsEnd ↔
      ∀ s ∈ (ResourceConfig.ingress c).closingText?, KeepsEnd s := by
  rw [ingress, closing_document]
  simp only [Json.closing_object_singleton, Json.closing_object_concat, Json.closing_list_singleton]
  simp only [ResourceConfig.closingText?]
  cases c.host with
  | some host => simp [optionalText, optional, Json.KeepsEnd]
  | none =>
    rcases List.eq_nil_or_concat' c.rules with hrules | ⟨rules, rule, hrules⟩
    · simp [optionalText, optional, hrules, Json.KeepsEnd]
    · simp [optionalText, optional, hrules, Json.closing_list_concat, ingressPath, Json.KeepsEnd]

/-- Of a port in a policy only a name ends as text; a number or a range cannot lose its end. -/
theorem keepsEnd_policyPort (protocol port : String) :
    (policyPort protocol port).closing.KeepsEnd ↔
      (portRange? port = none → KeepsEnd port) := by
  unfold policyPort
  rcases portRange? port with _ | ⟨first, _ | last⟩ <;> simp [Json.KeepsEnd]

/-- A network policy ends in its last port, or in its last source if it has no ports; a port that
is a number or a range is not text. -/
theorem keepsEnd_networkPolicy (c : NetworkPolicyConfig) :
    (networkPolicy c).closing.KeepsEnd ↔
      ∀ s ∈ (ResourceConfig.networkPolicy c).closingText?, KeepsEnd s := by
  rw [networkPolicy, closing_document]
  rcases List.eq_nil_or_concat' c.ports with hports | ⟨ports, port, hports⟩
  · rcases List.eq_nil_or_concat' c.sourceRanges with hranges | ⟨ranges, range, hranges⟩
    · simp [ResourceConfig.closingText?, hports, hranges, Json.KeepsEnd]
    · simp [ResourceConfig.closingText?, hports, hranges, Json.closing_list_concat, Json.KeepsEnd]
  · have hlast : (Json.list (c.ports.map (policyPort c.protocol))).closing =
        (policyPort c.protocol port).closing := by
      rw [hports, List.map_append, List.map_singleton, Json.closing_list_concat]
    have hsome : c.ports.isEmpty = false := by simp [hports]
    simp only [hsome, Bool.false_eq_true, if_false, Json.closing_object_singleton,
      Json.closing_object_cons_cons, Json.closing_list_singleton, hlast, keepsEnd_policyPort]
    simp only [ResourceConfig.closingText?, hports, List.getLast?_concat]
    cases portRange? port <;> simp

/-! ## Manifests without a closing text -/

/-- Where nothing of the user's text stands last, the end is kept in any case. -/
theorem keepsEnd_iff_of_none {doc : Json} {config : ResourceConfig} (hdoc : doc.closing.KeepsEnd)
    (hconfig : config.closingText? = none) :
    doc.closing.KeepsEnd ↔ ∀ s ∈ config.closingText?, KeepsEnd s := by
  rw [hconfig]
  simpa using hdoc

/-- A namespace ends in the label that all objects have. -/
theorem keepsEnd_namespaceObject (c : NamespaceConfig) : (namespaceObject c).closing.KeepsEnd := by
  rw [namespaceObject, closing_document_nil]
  simpa [metadata, optionalText, optional, Json.KeepsEnd] using keepsEnd_managedBy

/-- A secret ends in an empty text. -/
theorem keepsEnd_secret (c : SecretConfig) : (secret c).closing.KeepsEnd := by
  rw [secret, closing_document]
  have hempty : KeepsEnd "" := by decide +kernel
  simpa [Json.KeepsEnd] using hempty

/-- A bucket does not end in text. -/
theorem keepsEnd_storageBucket (c : BucketConfig) : (storageBucket c).closing.KeepsEnd := by
  rw [storageBucket, cloudDocument, closing_document]
  cases c.corsOrigins <;> simp [Json.KeepsEnd]

/-- A queue does not end in text. -/
theorem keepsEnd_tasksQueue (c : QueueConfig) : (tasksQueue c).closing.KeepsEnd := by
  rw [tasksQueue, cloudDocument, closing_document]
  simp [Json.KeepsEnd]

/-- A database does not end in text. -/
theorem keepsEnd_sqlInstance (c : DatabaseConfig) : (sqlInstance c).closing.KeepsEnd := by
  rw [sqlInstance, cloudDocument, closing_document]
  simp [Json.KeepsEnd]

/-- A cache does not end in text. -/
theorem keepsEnd_redisInstance (c : CacheConfig) : (redisInstance c).closing.KeepsEnd := by
  rw [redisInstance, cloudDocument, closing_document]
  simp [Json.KeepsEnd]

/-- A service does not end in text. -/
theorem keepsEnd_service (c : ServiceConfig) : (service c).closing.KeepsEnd := by
  rw [service, closing_document]
  simp [Json.KeepsEnd]

end Manifest

open Yaml (KeepsEnd)

namespace Definition

/-- A generator of manifests whose code is the document without its last line feed exactly if the
closing text of the settings keeps its end. -/
def TrimsFaithfully (g : Definition) : Prop :=
  ∀ r a, g.generate r = .ok a →
    ∃ doc, a = .manifest doc ∧
      (a.code ++ "\n" = Yaml.print doc ↔ ∀ s ∈ r.config.closingText?, KeepsEnd s)

/-- A generator of manifests keeps the end of what it prints if the document that it makes does. -/
theorem trimsFaithfully_ofManifest {α : Type} (id : String) (settings : SettingsKind α)
    (make : α → Json)
    (h : ∀ config c, settings.select? config = some c →
      ((make c).closing.KeepsEnd ↔ ∀ s ∈ config.closingText?, KeepsEnd s)) :
    (ofManifest id settings make).TrimsFaithfully := by
  intro r a ha
  cases hc : settings.select? r.config with
  | none =>
    simp only [ofManifest, of, hc] at ha
    cases ha
  | some c =>
    rw [ofManifest, generate_of hc] at ha
    cases ha
    exact ⟨make c, rfl, (Yaml.trimEnd_print_iff (make c)).trans (h r.config c hc)⟩

end Definition

namespace Backend

/-- Every generator of manifests keeps the end of its last text exactly if this text keeps its
end. -/
theorem trimsFaithfully_of_mem : ∀ g ∈ manifestDefinitions, g.TrimsFaithfully := by
  intro g hg
  simp only [manifestDefinitions, List.mem_cons, List.not_mem_nil, or_false] at hg
  rcases hg with rfl | rfl | rfl | rfl | rfl | rfl | rfl | rfl | rfl | rfl | rfl | rfl | rfl
  -- a generator is given settings of its own kind
  all_goals
    apply Definition.trimsFaithfully_ofManifest
    intro config c hc
    cases config <;> cases hc
  · exact keepsEnd_iff_of_none (keepsEnd_namespaceObject c) rfl
  · exact keepsEnd_configMap c
  · exact keepsEnd_serviceAccount c
  · exact keepsEnd_iff_of_none (keepsEnd_secret c) rfl
  · exact keepsEnd_iff_of_none (keepsEnd_storageBucket c) rfl
  · exact keepsEnd_pubsubTopic c
  · exact keepsEnd_iff_of_none (keepsEnd_tasksQueue c) rfl
  · exact keepsEnd_iff_of_none (keepsEnd_sqlInstance c) rfl
  · exact keepsEnd_iff_of_none (keepsEnd_redisInstance c) rfl
  · exact keepsEnd_networkPolicy c
  · exact keepsEnd_deployment c
  · exact keepsEnd_iff_of_none (keepsEnd_service c) rfl
  · exact keepsEnd_ingress c

/-- No generator of manifests fails on settings of its kind. -/
theorem total_of_mem : ∀ g ∈ manifestDefinitions, g.Total := by
  simp [manifestDefinitions]

/-- A generator of manifests accepts exactly the settings of its kind.  What it makes of them is the
printed document without the last line feed exactly if the text of the settings that ends the
document keeps its end. -/
theorem manifest_code_iff {g : Definition} (hg : g ∈ manifestDefinitions) (r : Resource) :
    ((∃ a, g.generate r = .ok a) ↔ r.config.kind = g.kind) ∧
      ∀ a, g.generate r = .ok a →
        ∃ doc, a = .manifest doc ∧
          (a.code ++ "\n" = Yaml.print doc ↔ ∀ s ∈ r.config.closingText?, KeepsEnd s) := by
  refine ⟨⟨?_, total_of_mem g hg r⟩, trimsFaithfully_of_mem g hg r⟩
  rintro ⟨a, ha⟩
  by_contra hkind
  rw [generate_checks .manifest g hg r hkind] at ha
  cases ha

/-- The account of a deployer. -/
def deployer (displayName : String) : Resource :=
  ⟨"service-account-deploy", manifest.typeTag .serviceAccount, "deploy",
    .serviceAccount ⟨"deploy", displayName, [], some "shop"⟩, [], none⟩

/-- Two lines that end in a single line feed are kept. -/
theorem manifest_code_iff_deployer :
    ∃ g ∈ manifestDefinitions, ∃ doc,
      g.generate (deployer "Deploys the shop.\nRuns nightly.\n") = .ok (.manifest doc) ∧
        (Artifact.manifest doc).code ++ "\n" = Yaml.print doc := by
  have hmem : Definition.ofManifest (manifest.typeTag .serviceAccount) .serviceAccount
      serviceAccount ∈ manifestDefinitions := by
    simp [manifestDefinitions]
  have hkeeps : ∀ s ∈ (deployer "Deploys the shop.\nRuns nightly.\n").config.closingText?,
      KeepsEnd s := by
    decide +kernel
  obtain ⟨haccepts, hcode⟩ := manifest_code_iff hmem (deployer "Deploys the shop.\nRuns nightly.\n")
  obtain ⟨a, ha⟩ := haccepts.2 rfl
  obtain ⟨doc, rfl, hiff⟩ := hcode a ha
  exact ⟨_, hmem, doc, ha, hiff.2 hkeeps⟩

end Backend

/-- The text under nested keys of a document. -/
def Yaml.textAt? (text : String) (path : List String) : Option String := do
  let document ← read? text
  let conventions := Conventions.yaml document.anchors
  let enter (node : Node) (key : String) : Option Node := do
    let entries ← conventions.entries? node
    let entry ← entries.find? fun entry => conventions.text? entry.1 = some key
    return entry.2
  conventions.text? (← path.foldlM enter document.root)

namespace Backend

/-- A line feed of a text that ends in two is lost, and the manifest is read as another text. -/
theorem not_manifest_code_deployer :
    ∃ g ∈ manifestDefinitions, ∃ doc,
      g.generate (deployer "Deploys the shop.\n\n") = .ok (.manifest doc) ∧
        (Artifact.manifest doc).code ++ "\n" ≠ Yaml.print doc ∧
        Yaml.textAt? (Yaml.print doc) ["metadata", "annotations", "stackgraph.io/display-name"] =
          some "Deploys the shop.\n\n" ∧
        Yaml.textAt? ((Artifact.manifest doc).code ++ "\n")
          ["metadata", "annotations", "stackgraph.io/display-name"] =
          some "Deploys the shop.\n" := by
  refine ⟨.ofManifest (manifest.typeTag .serviceAccount) .serviceAccount serviceAccount,
    by simp [manifestDefinitions], _, rfl, ?_, ?_, ?_⟩
  · rw [Artifact.code, ne_eq, Yaml.trimEnd_print_iff, keepsEnd_serviceAccount]
    decide +kernel
  · simp only [serviceAccount, document, List.cons_append, List.nil_append, Yaml.print,
      Yaml.textAt?, Yaml.read?, Yaml.glyphs?, String.toList_ofList]
    decide +kernel
  · simp only [Artifact.code, serviceAccount, document, List.cons_append, List.nil_append,
      Yaml.print, trimEnd, Yaml.textAt?, Yaml.read?, Yaml.glyphs?, String.toList_append,
      String.toList_ofList]
    decide +kernel

end Backend

end Groundwork
