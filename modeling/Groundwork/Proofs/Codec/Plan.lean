import Groundwork.Digest.PlanHash
import Groundwork.Proofs.Codec.Settings

/-!
# Plans are read back

A plan is read back from the JSON value that it is written as, whatever its resources are, as long
as no queue has a rate that JSON cannot hold.  So no field of any resource and no order is lost on
the way to the text that the fingerprint is taken of.

Main results:

- `Plan.decode_toJson`: a plan is read back from its JSON value by the rules of every format.
- `Plan.read?_compact_toJson`: the compact text is read as that value if the floats in it are read
  back.
- `Plan.fingerprint_eq_iff`: two plans have one JSON value, one text or one fingerprint only if they
  are the same plan.
- `Json.toList_hashJson`: a text of no more than one chunk is hashed without a tree, so its hash can
  be computed from its bytes.
-/

namespace Groundwork

/-! ## Hashes of short texts -/

/-- At most one chunk is a tree of its own. -/
theorem Blake3.tree_eq_chunk (input : ByteArray) (first : Nat) {count : Nat} (h : count ≤ 1) :
    tree input first count = chunk input first := by
  rw [tree, dif_neg (by omega)]

namespace Json

/-- The bytes of the text of a value without blanks. -/
def bytes (v : Json) : List UInt8 := v.chars.flatMap String.utf8EncodeChar

/-- The bytes are those that the hash is taken of. -/
theorem toUTF8_compact (v : Json) : v.compact.toUTF8 = ⟨⟨v.bytes⟩⟩ := by
  have hdata : v.bytes.toByteArray = ⟨⟨v.bytes⟩⟩ := ByteArray.ext List.data_toByteArray
  rw [← hdata, ← String.ofList_toList (s := v.compact), toList_compact]
  exact String.toByteArray_ofList

/-- The digits of the hash of a text that is one chunk. -/
def digits (v : Json) : List Char :=
  ((Blake3.chunk ⟨⟨v.bytes⟩⟩ 0).chain Blake3.root).toList.flatMap Blake3.hexWord

/-- A text of no more than one chunk is hashed without a tree. -/
theorem toList_hashJson {v : Json} (h : v.bytes.length ≤ 1024) :
    (hashJson v).toList = "blake3:".toList ++ v.digits := by
  have hcount : (ByteArray.mk ⟨v.bytes⟩).size = v.bytes.length := rfl
  rw [hashJson, hashText, String.toList_append, toUTF8_compact, Blake3.hex,
    Blake3.tree_eq_chunk _ _ (by omega)]
  exact congrArg _ String.toList_ofList

end Json

/-! ## Records of a plan -/

namespace Plan

/-- Every float in the plan is finite. -/
def Finite (p : Plan) : Prop := ∀ r ∈ p.resources, r.config.Finite

end Plan

instance : Resource.recordFormat.Lawful fun r => r.config.Finite :=
  RecordFormat.lawful_of_fields (by decide) (fun _ => rfl) (by simp)

instance : ProjectInfo.recordFormat.Lawful fun _ => True :=
  RecordFormat.lawful_of_fields (by decide) (fun _ => rfl) (by simp)

instance : Plan.recordFormat.Lawful Plan.Finite :=
  RecordFormat.lawful_of_fields (by decide) (fun _ => rfl) (by simp [Plan.Finite])

namespace Plan

variable {p q : Plan}

/-- A plan is read back from the JSON value that it is written as. -/
theorem decode_toJson (c : Conventions) (h : p.Finite) : decode c p.toJson.toNode = some p :=
  recordFormat.codec.decode_encode c h

/-- The text that the fingerprint is taken of is read as the JSON value if the floats in it are. -/
theorem read?_compact_toJson (h : ∀ x, .float x ∈ p.toJson.numbers → (Json.float x).ReadsBack) :
    Json.read? p.toJson.compact = some p.toJson.toNode :=
  Json.read?_compact_of_fitsWords (recordFormat.codec.fitsWords_encode p) h

/-- Different plans are written as different JSON values. -/
theorem eq_of_toNode_eq (hp : p.Finite) (hq : q.Finite) (h : p.toJson.toNode = q.toJson.toNode) :
    p = q := by
  have hread := decode_toJson .json hp
  rw [h, decode_toJson .json hq] at hread
  exact (Option.some.inj hread).symm

/-- Different plans are written as different texts, if some reader makes of the texts the values. -/
theorem eq_of_compact_eq (hp : p.Finite) (hq : q.Finite) {read : String → Option Node}
    (hreadp : read p.toJson.compact = some p.toJson.toNode)
    (hreadq : read q.toJson.compact = some q.toJson.toNode)
    (h : p.toJson.compact = q.toJson.compact) : p = q := by
  rw [h, hreadq] at hreadp
  exact eq_of_toNode_eq hp hq (Option.some.inj hreadp).symm

/-- The fingerprint covers every field of every resource, the order of the entries of every map, and
the order of provisioning: a plan is read back from the JSON value it is written as, so two plans
are written as one value only if they are the same plan.  If texts are read back, the same holds of
the texts; if the two texts are no collision of the hash function, it holds of the fingerprints. -/
theorem fingerprint_eq_iff {p q : Plan} (hp : p.Finite) (hq : q.Finite) :
    (∀ c, decode c p.toJson.toNode = some p) ∧
      (p.toJson.toNode = q.toJson.toNode → p = q) ∧
      ∀ read : String → Option Node, read p.toJson.compact = some p.toJson.toNode →
        read q.toJson.compact = some q.toJson.toNode →
          (p.toJson.compact = q.toJson.compact → p = q) ∧
          ((hashText p.toJson.compact = hashText q.toJson.compact →
              p.toJson.compact = q.toJson.compact) →
            (p.fingerprint = q.fingerprint ↔ p = q)) := by
  refine ⟨fun c => decode_toJson c hp, eq_of_toNode_eq hp hq, fun read hreadp hreadq =>
    ⟨eq_of_compact_eq hp hq hreadp hreadq, fun hhash => ⟨fun h => ?_, fun h => by rw [h]⟩⟩⟩
  exact eq_of_compact_eq hp hq hreadp hreadq (hhash h)

/-- A queue with a rate of its own and a config map with some data. -/
def queueAndMap (data : OrderedMap String) : Plan where
  project := ⟨"demo", "us-east1", "demo-1", .manifest⟩
  resources := [
    ⟨"jobs", "gke:queue", "jobs", .queue ⟨"jobs", "us-east1", 2.5, 3, some "demo"⟩, [], none⟩,
    ⟨"settings", "gke:config_map", "settings", .configMap ⟨"settings", "demo", data⟩, ["jobs"],
      none⟩]
  order := ["jobs", "settings"]

/-- Two entries of a config map, in one order and in the other. -/
def firstOrder : OrderedMap String := ⟨[("A", "1"), ("B", "2")], by decide⟩
def secondOrder : OrderedMap String := ⟨[("B", "2"), ("A", "1")], by decide⟩

theorem finite_queueAndMap (data : OrderedMap String) : (queueAndMap data).Finite := by
  have hrate : (2.5 : Float).isFinite = true := by decide +kernel
  simp [Finite, queueAndMap, ResourceConfig.Finite, hrate]

theorem read?_compact_queueAndMap {data : OrderedMap String}
    (h : (queueAndMap data).toJson.onlyFloat 2.5 = true) :
    Json.read? (queueAndMap data).toJson.compact = some (queueAndMap data).toJson.toNode := by
  refine read?_compact_toJson fun x hx => ?_
  rw [Json.eq_of_onlyFloat h hx]
  exact Json.readsBack_two_point_five

/-- A plan without resources; its text is two blocks long. -/
def empty (order : List String) : Plan where
  project := ⟨"demo", "eu", "demo", .flat⟩
  resources := []
  order := order

theorem finite_empty (order : List String) : (empty order).Finite := by
  simp [Finite, empty]

theorem read?_compact_empty (order : List String) (h : (empty order).toJson.numbers = []) :
    Json.read? (empty order).toJson.compact = some (empty order).toJson.toNode := by
  refine read?_compact_toJson fun x hx => ?_
  rw [h] at hx
  cases hx

/-- The hashes of two such texts are computed, and they differ. -/
theorem hashText_empty_ne :
    hashText (empty ["a", "b"]).toJson.compact ≠ hashText (empty ["b", "a"]).toJson.compact := by
  have hdigits : (empty ["a", "b"]).toJson.digits ≠ (empty ["b", "a"]).toJson.digits := by
    decide +kernel
  have hshort : (empty ["a", "b"]).toJson.bytes.length ≤ 1024 := by decide +kernel
  have hshort' : (empty ["b", "a"]).toJson.bytes.length ≤ 1024 := by decide +kernel
  intro h
  have hlist := congrArg String.toList h
  rw [← hashJson, ← hashJson, Json.toList_hashJson hshort, Json.toList_hashJson hshort'] at hlist
  exact hdigits (List.append_cancel_left hlist)

/-- Two plans that differ only in the order of the entries of a config map have different texts and,
short of a collision, different fingerprints.  Two that differ only in the order of provisioning
have different fingerprints: their texts are short enough for the hashes to be computed here. -/
theorem fingerprint_eq_iff_of_entries_swapped :
    decode .json (queueAndMap firstOrder).toJson.toNode = some (queueAndMap firstOrder) ∧
      (queueAndMap firstOrder).toJson.compact ≠ (queueAndMap secondOrder).toJson.compact ∧
      ((hashText (queueAndMap firstOrder).toJson.compact =
          hashText (queueAndMap secondOrder).toJson.compact →
          (queueAndMap firstOrder).toJson.compact = (queueAndMap secondOrder).toJson.compact) →
        (queueAndMap firstOrder).fingerprint ≠ (queueAndMap secondOrder).fingerprint) ∧
      (empty ["a", "b"]).fingerprint ≠ (empty ["b", "a"]).fingerprint := by
  have hne : queueAndMap firstOrder ≠ queueAndMap secondOrder := by
    simp [queueAndMap, firstOrder, secondOrder]
  obtain ⟨hdecode, -, htext⟩ := fingerprint_eq_iff (finite_queueAndMap firstOrder)
    (finite_queueAndMap secondOrder)
  obtain ⟨hcompact, hfingerprint⟩ := htext Json.read?
    (read?_compact_queueAndMap (by decide +kernel)) (read?_compact_queueAndMap (by decide +kernel))
  have hswapped : (empty ["a", "b"]).fingerprint = (empty ["b", "a"]).fingerprint ↔
      empty ["a", "b"] = empty ["b", "a"] :=
    ((fingerprint_eq_iff (finite_empty _) (finite_empty _)).2.2 Json.read?
      (read?_compact_empty _ (by decide +kernel)) (read?_compact_empty _ (by decide +kernel))).2
      fun h => absurd h hashText_empty_ne
  refine ⟨hdecode .json, fun h => hne (hcompact h), fun hhash h => hne ((hfingerprint hhash).1 h),
    fun h => ?_⟩
  simpa [empty] using hswapped.1 h

end Plan

end Groundwork
