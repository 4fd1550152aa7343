import Groundwork.Compilation
import Groundwork.Description.Parse
import Groundwork.Proofs.Codec.Settings

/-!
# Descriptions are read back

The normal form of a description is the JSON object with every field in it: defaults are filled in
and what is absent is `null`.  It is read back as the same description, so a document and the normal
form of what it describes compile to the same plan, whatever the document's format is.

Main results:

- `Description.decode_normalForm`: a description is read back from its normal form by the rules of
  every format.
- `Description.read?_compact_normalForm`: the compact text of the normal form is read as it, if the
  floats in it are read back.
- `Description.compile_normalForm`: a document and the normal form of what it describes compile to
  the same plan or error, and so does any JSON text of the normal form.
-/

namespace Groundwork

/-! ## Records of a description -/

instance : ProjectSection.recordFormat.Lawful fun _ => True :=
  RecordFormat.lawful_of_fields (by decide) (fun _ => rfl) (by simp)

instance : ServiceAccountSpec.recordFormat.Lawful fun _ => True :=
  RecordFormat.lawful_of_fields (by decide) (fun _ => rfl) (by simp)

instance : BucketSpec.recordFormat.Lawful fun _ => True :=
  RecordFormat.lawful_of_fields (by decide) (fun _ => rfl) (by simp)

instance : SecretSpec.recordFormat.Lawful fun _ => True :=
  RecordFormat.lawful_of_fields (by decide) (fun _ => rfl) (by simp)

instance : TopicSpec.recordFormat.Lawful fun _ => True :=
  RecordFormat.lawful_of_fields (by decide) (fun _ => rfl) (by simp)

instance : QueueSpec.recordFormat.Lawful
    fun q => ∀ x, q.maxDispatchesPerSecond = some x → x.isFinite = true :=
  RecordFormat.lawful_of_fields (by decide) (fun _ => rfl) (by simp)

instance : SubnetSpec.recordFormat.Lawful fun _ => True :=
  RecordFormat.lawful_of_fields (by decide) (fun _ => rfl) (by simp)

instance : FirewallSpec.recordFormat.Lawful fun _ => True :=
  RecordFormat.lawful_of_fields (by decide) (fun _ => rfl) (by simp)

instance : RegistrySpec.recordFormat.Lawful fun _ => True :=
  RecordFormat.lawful_of_fields (by decide) (fun _ => rfl) (by simp)

instance : ContainerSpec.recordFormat.Lawful fun _ => True :=
  RecordFormat.lawful_of_fields (by decide) (fun _ => rfl) (by simp)

instance : FunctionSpec.recordFormat.Lawful fun _ => True :=
  RecordFormat.lawful_of_fields (by decide) (fun _ => rfl) (by simp)

instance : DatabaseSpec.recordFormat.Lawful fun _ => True :=
  RecordFormat.lawful_of_fields (by decide) (fun _ => rfl) (by simp)

instance : CacheSpec.recordFormat.Lawful fun _ => True :=
  RecordFormat.lawful_of_fields (by decide) (fun _ => rfl) (by simp)

instance : UiSpec.recordFormat.Lawful fun _ => True :=
  RecordFormat.lawful_of_fields (by decide) (fun _ => rfl) (by simp)

instance : RouteSpec.recordFormat.Lawful fun _ => True :=
  RecordFormat.lawful_of_fields (by decide) (fun _ => rfl) (by simp)

instance : IapSpec.recordFormat.Lawful fun _ => True :=
  RecordFormat.lawful_of_fields (by decide) (fun _ => rfl) (by simp)

instance : LoadBalancerSpec.recordFormat.Lawful fun _ => True :=
  RecordFormat.lawful_of_fields (by decide) (fun _ => rfl) (by simp)

instance : NetworkSpec.recordFormat.Lawful fun _ => True :=
  RecordFormat.lawful_of_fields (by decide) (fun _ => rfl) (by simp)

instance : CronSpec.recordFormat.Lawful fun _ => True :=
  RecordFormat.lawful_of_fields (by decide) (fun _ => rfl) (by simp)

instance : KernelSpec.recordFormat.Lawful fun _ => True :=
  RecordFormat.lawful_of_fields (by decide) (fun _ => rfl) (by simp)

instance : KubernetesSection.recordFormat.Lawful fun _ => True :=
  RecordFormat.lawful_of_fields (by decide) (fun _ => rfl) (by simp)

namespace Description

/-- Every float in the description is finite. -/
def Finite (d : Description) : Prop :=
  ∀ q ∈ d.queues, ∀ x, q.maxDispatchesPerSecond = some x → x.isFinite = true

end Description

instance : Description.recordFormat.Lawful Description.Finite :=
  RecordFormat.lawful_of_fields (by decide) (fun _ => rfl) (by simp [Description.Finite])

/-! ## Normal forms -/

namespace Description

/-- The description as JSON, with defaults filled in and `null` for what is absent. -/
def normalForm (d : Description) : Json := recordFormat.codec.encode d

variable {d : Description}

/-- A description is read back from its normal form. -/
theorem decode_normalForm (c : Conventions) (h : d.Finite) :
    recordFormat.codec.decode c d.normalForm.toNode = some d :=
  recordFormat.codec.decode_encode c h

/-- The text of the normal form is read as the normal form if the floats in it are read back. -/
theorem read?_compact_normalForm
    (h : ∀ x, .float x ∈ d.normalForm.numbers → (Json.float x).ReadsBack) :
    Json.read? d.normalForm.compact = some d.normalForm.toNode :=
  Json.read?_compact_of_fitsWords (recordFormat.codec.fitsWords_encode d) h

/-- A JSON text of the normal form is a document of the same description. -/
theorem parse_normalForm (h : d.Finite) {text : String}
    (htext : Json.read? text = some d.normalForm.toNode) : parse .json text = .ok d := by
  simp only [parse, Format.read?, htext, Option.map_some, Option.bind_eq_bind, Option.bind_some,
    decode_normalForm .json h]

/-- A description is read back from its normal form, by the rules of every format.  So a document,
in whatever format, and the normal form of what it describes compile to the same plan or to the same
error, and any JSON text of the normal form is a document with the same description. -/
theorem compile_normalForm {d : Description} (h : d.Finite) :
    (∀ c, recordFormat.codec.decode c d.normalForm.toNode = some d) ∧
      ∀ (f : Format) (document : String), parse f document = .ok d →
        (recordFormat.codec.decode .json d.normalForm.toNode).map compile =
          some (parse f document >>= compile) ∧
        ∀ normal : String, Json.read? normal = some d.normalForm.toNode →
          parse .json normal = parse f document ∧
            (parse .json normal >>= compile) = (parse f document >>= compile) := by
  refine ⟨fun c => decode_normalForm c h, fun f document hdocument =>
    ⟨?_, fun normal hnormal => ?_⟩⟩
  · rw [decode_normalForm .json h, hdocument]
    rfl
  · have hparse : parse .json normal = parse f document := by
      rw [parse_normalForm h hnormal, hdocument]
    exact ⟨hparse, by rw [hparse]⟩

/-- A document that leaves out most of what it can. -/
def shortDocument : Json :=
  .object [
    ("project", .object [("name", .text "demo"), ("backend", .text "construct")]),
    ("queues", .list [.object [("name", .text "jobs"), ("max_dispatches_per_second", .float 2.5)]]),
    ("networks", .list [.object [("name", .text "main")]]),
    ("kernel", .object [("env", .object [("B", .text "1"), ("A", .text "2")])])]

/-- What it describes. -/
def shortDescription : Description where
  project := ⟨"demo", "us-central1", none, .construct⟩
  serviceAccount := none
  buckets := []
  secrets := []
  topics := []
  queues := [⟨"jobs", some 2.5, none⟩]
  networks := [⟨"main", [], [], none, [], [], [], [], [], none⟩]
  crons := []
  kernel := some ⟨"kernel", none, none, "e2-small", 8080, ⟨[("B", "1"), ("A", "2")], by decide⟩, ∅⟩
  hybridKernel := none
  kubernetes := none

theorem parse_shortDocument : parse .json shortDocument.compact = .ok shortDescription := by
  have hread : Json.read? shortDocument.compact = some shortDocument.toNode := by
    refine Json.read?_compact fun n hn => ?_
    simp only [shortDocument, Json.numbers, Json.numbersOfFields, Json.numbersOfItems,
      List.append_nil, List.nil_append] at hn
    split at hn
    · rw [List.mem_singleton.1 hn]
      exact Json.readsBack_two_point_five
    · cases hn
  have hdecode : recordFormat.codec.decode .json shortDocument.toNode = some shortDescription := by
    rfl
  simp only [parse, Format.read?, hread, Option.map_some, Option.bind_eq_bind, Option.bind_some,
    hdecode]

theorem finite_shortDescription : shortDescription.Finite := by
  have hrate : (2.5 : Float).isFinite = true := by decide +kernel
  simp [Finite, shortDescription, hrate]

/-- Compiling the document gives a plan. -/
theorem order_compile_shortDescription :
    (compile shortDescription).toOption.map (·.order) =
      some ["queue-jobs", "network-main", "connector-main", "kernel-kernel"] := by
  decide +kernel

/-- The text of the normal form can stand for the document, which compiles. -/
theorem compile_normalForm_shortDescription :
    shortDescription.Finite ∧
      recordFormat.codec.decode .json shortDescription.normalForm.toNode = some shortDescription ∧
      (recordFormat.codec.decode .json shortDescription.normalForm.toNode).map compile =
        some (parse .json shortDocument.compact >>= compile) ∧
      parse .json shortDescription.normalForm.compact = parse .json shortDocument.compact ∧
      (parse .json shortDescription.normalForm.compact >>= compile) =
        (parse .json shortDocument.compact >>= compile) ∧
      (parse .json shortDescription.normalForm.compact >>= compile).toOption.map (·.order) =
        some ["queue-jobs", "network-main", "connector-main", "kernel-kernel"] := by
  have hnormal : Json.read? shortDescription.normalForm.compact =
      some shortDescription.normalForm.toNode :=
    read?_compact_normalForm fun x hx => by
      rw [Json.eq_of_onlyFloat (x := 2.5) (by decide +kernel) hx]
      exact Json.readsBack_two_point_five
  obtain ⟨hdecode, hdocuments⟩ := compile_normalForm finite_shortDescription
  obtain ⟨hvalue, htext⟩ := hdocuments .json _ parse_shortDocument
  obtain ⟨hparse, hcompile⟩ := htext _ hnormal
  refine ⟨finite_shortDescription, hdecode .json, hvalue, hparse, hcompile, ?_⟩
  rw [hcompile, parse_shortDocument]
  exact order_compile_shortDescription

end Description

end Groundwork
