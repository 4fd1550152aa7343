import Groundwork.Plan
import Groundwork.Proofs.Codec.Lawful

/-!
# Settings of resources are read back

Settings of every kind, and the environments inside them, are read back from the JSON objects that
they are written as.  The word that marks the kind comes first in such an object and is no field of
the settings, so what stands beside it is the record of that kind.

Main results:

- `ResourceConfig.Finite`: the rate of a queue is finite; other settings have no floats.
- `ResourceConfig.decode_encode`: settings are read back from what they are written as.
-/

namespace Groundwork

/-! ## Words and values -/

instance : Backend.codec.Present fun _ => True :=
  Codec.present_choice fun b => by cases b <;> exact ⟨_, rfl, rfl⟩

instance : KernelVariant.codec.Present fun _ => True :=
  Codec.present_choice fun v => by cases v <;> exact ⟨_, rfl, rfl⟩

instance : RouteBackendKind.codec.Present fun _ => True :=
  Codec.present_choice fun k => by cases k <;> exact ⟨_, rfl, rfl⟩

namespace EnvValue

/-- What a value writes beside the word for its kind. -/
def content : EnvValue → Json
  | literal s => .text s
  | interpolation s => .text s
  | expression s => .text s
  | secretKeyRef name key => .object [("name", .text name), ("key", .text key)]

theorem encode_eq (v : EnvValue) :
    v.encode = .object [("kind", .text v.tag), ("value", v.content)] := by
  cases v <;> rfl

/-- The word for the kind says how to read the content. -/
theorem ofContent?_content (c : Conventions) (v : EnvValue) :
    ofContent? c v.tag v.content.toNode = some v := by
  cases v with
  | literal s => rfl
  | interpolation s => rfl
  | expression s => rfl
  | secretKeyRef name key =>
    have hread := Conventions.record?_toEntries { c with listRecords := .never }
      (List.Sublist.refl ([("name", .text name), ("key", .text key)].map (·.1))) (by simp)
    simp only [List.map_cons, List.map_nil] at hread
    simp only [tag, content, ofContent?, hread]
    rfl

instance : codec.Present fun _ => True where
  fitsWords v := Json.fitsWords_of_numbers_eq_nil (by cases v <;> rfl)
  decode_encode c v _ := by
    have hread := c.record?_toEntries
      (List.Sublist.refl ([("kind", .text v.tag), ("value", v.content)].map (·.1))) (by simp)
    simp only [List.map_cons, List.map_nil] at hread
    simp only [codec, encode_eq, decode, hread]
    exact ofContent?_content c v
  presence?_encode _ _ _ := rfl

end EnvValue

/-! ## Records of settings -/

instance : ServiceAccountConfig.recordFormat.Lawful fun _ => True :=
  RecordFormat.lawful_of_fields (by decide) (fun _ => rfl) (by simp)

instance : BucketConfig.recordFormat.Lawful fun _ => True :=
  RecordFormat.lawful_of_fields (by decide) (fun _ => rfl) (by simp)

instance : SecretConfig.recordFormat.Lawful fun _ => True :=
  RecordFormat.lawful_of_fields (by decide) (fun _ => rfl) (by simp)

instance : TopicConfig.recordFormat.Lawful fun _ => True :=
  RecordFormat.lawful_of_fields (by decide) (fun _ => rfl) (by simp)

instance : QueueConfig.recordFormat.Lawful fun c => c.maxDispatchesPerSecond.isFinite = true :=
  RecordFormat.lawful_of_fields (by decide) (fun _ => rfl) (by simp)

instance : NetworkConfig.recordFormat.Lawful fun _ => True :=
  RecordFormat.lawful_of_fields (by decide) (fun _ => rfl) (by simp)

instance : SubnetConfig.recordFormat.Lawful fun _ => True :=
  RecordFormat.lawful_of_fields (by decide) (fun _ => rfl) (by simp)

instance : FirewallConfig.recordFormat.Lawful fun _ => True :=
  RecordFormat.lawful_of_fields (by decide) (fun _ => rfl) (by simp)

instance : RegistryConfig.recordFormat.Lawful fun _ => True :=
  RecordFormat.lawful_of_fields (by decide) (fun _ => rfl) (by simp)

instance : ConnectorConfig.recordFormat.Lawful fun _ => True :=
  RecordFormat.lawful_of_fields (by decide) (fun _ => rfl) (by simp)

instance : ContainerConfig.recordFormat.Lawful fun _ => True :=
  RecordFormat.lawful_of_fields (by decide) (fun _ => rfl) (by simp)

instance : FunctionConfig.recordFormat.Lawful fun _ => True :=
  RecordFormat.lawful_of_fields (by decide) (fun _ => rfl) (by simp)

instance : DatabaseConfig.recordFormat.Lawful fun _ => True :=
  RecordFormat.lawful_of_fields (by decide) (fun _ => rfl) (by simp)

instance : CacheConfig.recordFormat.Lawful fun _ => True :=
  RecordFormat.lawful_of_fields (by decide) (fun _ => rfl) (by simp)

instance : KernelConfig.recordFormat.Lawful fun _ => True :=
  RecordFormat.lawful_of_fields (by decide) (fun _ => rfl) (by simp)

instance : UiConfig.recordFormat.Lawful fun _ => True :=
  RecordFormat.lawful_of_fields (by decide) (fun _ => rfl) (by simp)

instance : RouteTarget.recordFormat.Lawful fun _ => True :=
  RecordFormat.lawful_of_fields (by decide) (fun _ => rfl) (by simp)

instance : LoadBalancerConfig.recordFormat.Lawful fun _ => True :=
  RecordFormat.lawful_of_fields (by decide) (fun _ => rfl) (by simp)

instance : CronConfig.recordFormat.Lawful fun _ => True :=
  RecordFormat.lawful_of_fields (by decide) (fun _ => rfl) (by simp)

instance : NamespaceConfig.recordFormat.Lawful fun _ => True :=
  RecordFormat.lawful_of_fields (by decide) (fun _ => rfl) (by simp)

instance : ConfigMapConfig.recordFormat.Lawful fun _ => True :=
  RecordFormat.lawful_of_fields (by decide) (fun _ => rfl) (by simp)

instance : DeploymentConfig.recordFormat.Lawful fun _ => True :=
  RecordFormat.lawful_of_fields (by decide) (fun _ => rfl) (by simp)

instance : ServiceConfig.recordFormat.Lawful fun _ => True :=
  RecordFormat.lawful_of_fields (by decide) (fun _ => rfl) (by simp)

instance : IngressRule.recordFormat.Lawful fun _ => True :=
  RecordFormat.lawful_of_fields (by decide) (fun _ => rfl) (by simp)

instance : IngressConfig.recordFormat.Lawful fun _ => True :=
  RecordFormat.lawful_of_fields (by decide) (fun _ => rfl) (by simp)

instance : NetworkPolicyConfig.recordFormat.Lawful fun _ => True :=
  RecordFormat.lawful_of_fields (by decide) (fun _ => rfl) (by simp)

/-! ## Settings of any kind -/

namespace ResourceConfig

/-- Every float in the settings is finite: only queues have one. -/
def Finite : ResourceConfig → Prop
  | queue c => c.maxDispatchesPerSecond.isFinite = true
  | _ => True

/-- The fields beside the mark of the kind are read as settings of that kind. -/
theorem ofKind?_fields (cv : Conventions) {c : ResourceConfig} (h : c.Finite) :
    ofKind? cv (Json.object c.fields).toNode c.kind = some c := by
  cases c <;>
    (rw [fields, kind, ofKind?, RecordFormat.Lawful.read_encode]
     · rfl
     · exact h)

/-- No field of any settings is taken for the mark of the kind. -/
theorem kind_not_mem_fields (c : ResourceConfig) : "kind" ∉ c.fields.map (·.1) := by
  cases c <;> exact RecordFormat.not_mem_keys (by decide) _

theorem ofTag?_tag (k : ConfigKind) : ConfigKind.ofTag? k.tag = some k := by
  cases k <;> rfl

/-- Settings are read back from what they are written as. -/
theorem decode_encode (cv : Conventions) {c : ResourceConfig} (h : c.Finite) :
    decode cv c.encode.toNode = some c := by
  have hfields : (Json.toEntries c.fields).filter
      (fun entry => !decide (cv.text? entry.1 = some "kind")) = Json.toEntries c.fields := by
    rw [List.filter_eq_self, Json.toEntries_eq_map]
    intro entry hentry
    obtain ⟨field, hfield, rfl⟩ := List.mem_map.1 hentry
    have hne : field.1 ≠ "kind" := by
      rintro heq
      exact c.kind_not_mem_fields (List.mem_map.2 ⟨field, hfield, heq⟩)
    have hkey : cv.text? (.text field.1) = some field.1 := rfl
    simp [hkey, hne]
  have hmark : cv.text? (.text "kind") = some "kind" := rfl
  have htag : cv.text? (.text c.kind.tag) = some c.kind.tag := rfl
  have hread := ofKind?_fields .tagged h
  simp only [Json.toNode] at hread
  simp only [encode, Json.toNode, Json.toEntries, decode, Conventions.follow, List.find?_cons,
    List.filter_cons, hmark, decide_true, htag, ofTag?_tag, hfields, Bool.not_true,
    Bool.false_eq_true, if_false, Option.bind_eq_bind, Option.bind_some, hread]

/-- Every whole number in settings fits a word. -/
theorem fitsWords_fields (c : ResourceConfig) : ∀ field ∈ c.fields, field.2.FitsWords := by
  cases c <;> exact RecordFormat.Lawful.fitsWords _

instance : codec.Present Finite where
  fitsWords c := Json.fitsWords_object.2 <| List.forall_mem_cons.2
    ⟨Json.fitsWords_of_numbers_eq_nil rfl, c.fitsWords_fields⟩
  decode_encode cv _ h := decode_encode cv h
  presence?_encode _ _ _ := rfl

end ResourceConfig

end Groundwork
