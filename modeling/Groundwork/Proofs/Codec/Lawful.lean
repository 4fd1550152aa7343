import Groundwork.Codec.Basic
import Groundwork.Proofs.Json.Text
import Mathlib.Data.List.Nodup

/-!
# Codecs that read back what they write

A codec is lawful on some values if each of them is read back, by the rules of every document
format, from the JSON value that it is written as.  The laws of a record follow from those of its
fields, whatever their number, so a record is lawful because its format says how each field is
written.  Only floats restrict the values: JSON has no infinities.  Whole numbers are written in a
form that the reader of JSON text can take, so a value can also be read from the text.

Main results:

- `Codec.Lawful`, `Codec.Present`: the laws, and that nothing is written as `null`.
- `Conventions.record?_toEntries`: the fields of a record are found again in the table that it is
  written as.
- `RecordFormat.lawful_of_fields`: a record is lawful if its fields are and have distinct names.
-/

namespace Groundwork

variable {α ρ : Type}

/-- Values that `valid` admits are read back from what they are written as, and every whole number
that is written fits a word. -/
class Codec.Lawful (codec : Codec α) (valid : outParam (α → Prop)) : Prop where
  fitsWords : ∀ a : α, (codec.encode a).FitsWords
  decode_encode : ∀ (c : Conventions) (a : α), valid a →
    codec.decode c (codec.encode a).toNode = some a

/-- Besides, none of these values is written as `null`. -/
class Codec.Present (codec : Codec α) (valid : outParam (α → Prop)) : Prop
    extends codec.Lawful valid where
  presence?_encode : ∀ (c : Conventions) (a : α), valid a →
    c.presence? (codec.encode a).toNode = some true

namespace Codec

section Laws

variable (codec : Codec α) {valid : α → Prop} {a : α}

/-- The whole numbers in what is written fit words. -/
theorem fitsWords_encode [codec.Lawful valid] (a : α) : (codec.encode a).FitsWords :=
  Lawful.fitsWords a

/-- What is written is read back. -/
theorem decode_encode [codec.Lawful valid] (c : Conventions) (h : valid a) :
    codec.decode c (codec.encode a).toNode = some a :=
  Lawful.decode_encode c a h

/-- What is written is taken as present. -/
theorem presence?_encode [codec.Present valid] (c : Conventions) (h : valid a) :
    c.presence? (codec.encode a).toNode = some true :=
  Present.presence?_encode c a h

end Laws

/-! ## Plain values -/

instance : Present text fun _ => True where
  fitsWords _ := Json.fitsWords_of_numbers_eq_nil rfl
  decode_encode _ _ _ := rfl
  presence?_encode _ _ _ := rfl

instance : Present truth fun _ => True where
  fitsWords _ := Json.fitsWords_of_numbers_eq_nil rfl
  decode_encode _ _ _ := rfl
  presence?_encode _ _ _ := rfl

instance : Present word16 fun _ => True where
  fitsWords n := Json.fitsWords_natural (Nat.lt_trans n.toNat_lt (by decide))
  decode_encode c n _ := by
    have hread : c.natural? (Json.int n.toNat).toNode = some n.toNat := rfl
    have hlt : n.toNat < UInt16.size := n.toNat_lt
    simp [word16, hread, hlt]
  presence?_encode _ _ _ := rfl

instance : Present word32 fun _ => True where
  fitsWords n := Json.fitsWords_natural (Nat.lt_trans n.toNat_lt (by decide))
  decode_encode c n _ := by
    have hread : c.natural? (Json.int n.toNat).toNode = some n.toNat := rfl
    have hlt : n.toNat < UInt32.size := n.toNat_lt
    simp [word32, hread, hlt]
  presence?_encode _ _ _ := rfl

instance : Present float fun x => x.isFinite = true where
  fitsWords x n hn := by
    simp only [float, Json.numbers] at hn
    split at hn
    · cases List.mem_singleton.1 hn
    · cases hn
  decode_encode c x h := by
    simp only [float, Json.toNode, h, if_true]
    rfl
  presence?_encode c x h := by
    simp only [float, Json.toNode, h, if_true]
    rfl

/-! ## Lists, maps and values that may be missing -/

variable {item : Codec α} {valid : α → Prop}

/-- Items are read back one by one. -/
theorem mapM_decode_encode [item.Lawful valid] (c : Conventions) {items : List α}
    (h : ∀ a ∈ items, valid a) :
    (items.map fun a => (item.encode a).toNode).mapM (item.decode c) = some items := by
  induction items with
  | nil => rfl
  | cons a rest ih =>
    have ha := item.decode_encode c (h a List.mem_cons_self)
    have hrest := ih fun b hb => h b (List.mem_cons_of_mem a hb)
    simp [List.mapM_cons, ha, hrest]

instance [item.Lawful valid] : (list item).Present fun items => ∀ a ∈ items, valid a where
  fitsWords items := Json.fitsWords_list.2 fun v hv => by
    obtain ⟨a, -, rfl⟩ := List.mem_map.1 hv
    exact item.fitsWords_encode a
  decode_encode c items h := by
    have hread : c.list? ((list item).encode items).toNode =
        some (items.map fun a => (item.encode a).toNode) := by
      simp only [list, Json.toNode, Json.toNodes_eq_map, List.map_map]
      rfl
    simp only [list] at hread ⊢
    simp only [hread, Option.bind_eq_bind, Option.bind_some]
    exact mapM_decode_encode c h
  presence?_encode _ _ _ := rfl

/-- The entries of a map are read back one by one, in their order. -/
theorem decodeEntries_encode [item.Lawful valid] (c : Conventions) {entries : List (String × α)}
    (h : ∀ entry ∈ entries, valid entry.2) :
    decodeEntries item c (entries.map fun entry => (.text entry.1, (item.encode entry.2).toNode)) =
      some entries := by
  induction entries with
  | nil => rfl
  | cons entry rest ih =>
    have hkey : c.text? (.text entry.1) = some entry.1 := rfl
    have hvalue := item.decode_encode c (h entry List.mem_cons_self)
    have hrest := ih fun e he => h e (List.mem_cons_of_mem entry he)
    simp [decodeEntries, hkey, hvalue, hrest]

instance [item.Lawful valid] : (map item).Present fun m => ∀ entry ∈ m.entries, valid entry.2 where
  fitsWords m := Json.fitsWords_object.2 fun field hfield => by
    obtain ⟨entry, -, rfl⟩ := List.mem_map.1 hfield
    exact item.fitsWords_encode entry.2
  decode_encode c m h := by
    have hread : c.entries? ((map item).encode m).toNode =
        some (m.entries.map fun entry => (.text entry.1, (item.encode entry.2).toNode)) := by
      simp only [map, Json.toNode, Json.toEntries_eq_map, List.map_map]
      rfl
    simp only [map] at hread ⊢
    simp [hread, decodeEntries_encode c h]
  presence?_encode _ _ _ := rfl

instance [item.Present valid] : item.orNull.Lawful fun o => ∀ a, o = some a → valid a where
  fitsWords o := by
    cases o with
    | none => exact Json.fitsWords_of_numbers_eq_nil rfl
    | some a => exact item.fitsWords_encode a
  decode_encode c o h := by
    cases o with
    | none => rfl
    | some a =>
      have hpresent := item.presence?_encode c (h a rfl)
      have hdecode := item.decode_encode c (h a rfl)
      simp [orNull, hpresent, hdecode]

/-- Words that pick distinct values are read back as the values. -/
theorem present_choice [DecidableEq α] {name doc : String} {options : List (α × String × String)}
    (h : ∀ a, ∃ o, options.find? (·.1 = a) = some o ∧ options.find? (·.2.1 = o.2.1) = some o) :
    (choice name doc options).Present fun _ => True where
  fitsWords _ := Json.fitsWords_of_numbers_eq_nil rfl
  decode_encode c a _ := by
    obtain ⟨o, hvalue, hword⟩ := h a
    have hread : c.choice? ((choice name doc options).encode a).toNode = some o.2.1 := by
      simp only [choice, hvalue, Option.map_some, Option.getD_some]
      rfl
    have heq : o.1 = a := by simpa using List.find?_some hvalue
    simp only [choice] at hread ⊢
    simp [hread, hword, heq]
  presence?_encode _ _ _ := rfl

end Codec

/-! ## Fields -/

/-- A field is read back as `get` from whatever entries hold under its name what it writes. -/
class Field.Lawful (field : Field ρ α) (get : outParam (ρ → α)) (valid : outParam (ρ → Prop)) :
    Prop where
  fitsWords : ∀ r, ∀ entry ∈ field.encode r, entry.2.FitsWords
  keys_sublist : ∀ r, ((field.encode r).map (·.1)).Sublist [field.name]
  decode_encode : ∀ (c : Conventions) (r : ρ), valid r → ∀ entries : List (String × Node),
    entries.lookup field.name = ((field.encode r).lookup field.name).map Json.toNode →
      field.decode c entries = some (get r)

namespace Field

variable {codec : Codec α} {valid : α → Prop} {name doc : String}

instance [codec.Lawful valid] (get : ρ → α) :
    (required name codec get doc).Lawful get fun r => valid (get r) where
  fitsWords r := List.forall_mem_singleton.2 (codec.fitsWords_encode (get r))
  keys_sublist _ := .refl _
  decode_encode c r h entries hentries := by
    have hread := codec.decode_encode c h
    simp only [required, List.lookup_cons, beq_self_eq_true, Option.map_some] at hentries ⊢
    simp [hentries, hread]

instance [codec.Lawful valid] (default : α) (get : ρ → α) :
    (withDefault name codec default get doc).Lawful get fun r => valid (get r) where
  fitsWords r := List.forall_mem_singleton.2 (codec.fitsWords_encode (get r))
  keys_sublist _ := .refl _
  decode_encode c r h entries hentries := by
    have hread := codec.decode_encode c h
    simp only [withDefault, List.lookup_cons, beq_self_eq_true, Option.map_some] at hentries ⊢
    simp [hentries, hread]

instance [codec.Present valid] (get : ρ → Option α) :
    (nullable name codec get doc).Lawful get fun r => ∀ a, get r = some a → valid a :=
  inferInstanceAs ((withDefault name codec.orNull none get doc).Lawful _ _)

instance [codec.Present valid] (get : ρ → Option α) :
    (omittable name codec get doc).Lawful get fun r => ∀ a, get r = some a → valid a where
  fitsWords r := by
    cases h : get r with
    | none => simp [omittable, h]
    | some a =>
      simp only [omittable, h]
      exact List.forall_mem_singleton.2 (codec.fitsWords_encode a)
  keys_sublist r := by
    cases h : get r with
    | none => simp [omittable, h]
    | some a => simp [omittable, h]
  decode_encode c r h entries hentries := by
    cases hget : get r with
    | none =>
      simp only [omittable, hget, List.lookup_nil, Option.map_none] at hentries ⊢
      simp [hentries]
    | some a =>
      have hpresent := codec.presence?_encode c (h a hget)
      have hread := codec.decode_encode c (h a hget)
      simp only [omittable, hget, List.lookup_cons, beq_self_eq_true, Option.map_some]
        at hentries ⊢
      simp [hentries, Codec.orNull, hpresent, hread]

section Laws

variable (field : Field ρ α) {get : ρ → α} {valid : ρ → Prop}

/-- The whole numbers in what is written fit words. -/
theorem fitsWords_encode [field.Lawful get valid] (r : ρ) :
    ∀ entry ∈ field.encode r, entry.2.FitsWords :=
  Lawful.fitsWords r

/-- What is written stands under the names there are, in their order. -/
theorem keys_sublist [field.Lawful get valid] (r : ρ) :
    ((field.encode r).map (·.1)).Sublist [field.name] :=
  Lawful.keys_sublist r

end Laws

end Field

/-- Fields are read back as `build` from whatever entries hold under their names what they write,
provided that the names are distinct. -/
class Fields.Lawful (fields : Fields ρ α) (build : outParam (ρ → α))
    (valid : outParam (ρ → Prop)) : Prop where
  fitsWords : ∀ r, ∀ entry ∈ fields.encode r, entry.2.FitsWords
  keys_sublist : ∀ r, ((fields.encode r).map (·.1)).Sublist fields.names
  decode_encode : fields.names.Nodup → ∀ (c : Conventions) (r : ρ), valid r →
    ∀ entries : List (String × Node),
      (∀ name ∈ fields.names,
        entries.lookup name = ((fields.encode r).lookup name).map Json.toNode) →
      fields.decode c entries = some (build r)

namespace Fields

variable {β : Type}

section Laws

variable (fields : Fields ρ α) {build : ρ → α} {valid : ρ → Prop}

/-- The whole numbers in what is written fit words. -/
theorem fitsWords_encode [fields.Lawful build valid] (r : ρ) :
    ∀ entry ∈ fields.encode r, entry.2.FitsWords :=
  Lawful.fitsWords r

/-- What is written stands under the names there are, in their order. -/
theorem keys_sublist [fields.Lawful build valid] (r : ρ) :
    ((fields.encode r).map (·.1)).Sublist fields.names :=
  Lawful.keys_sublist r

end Laws

/-- What is found under a name in entries whose values are all rewritten. -/
theorem lookup_map_snd (f : α → β) (entries : List (String × α)) (name : String) :
    (entries.map fun entry => (entry.1, f entry.2)).lookup name = (entries.lookup name).map f := by
  induction entries with
  | nil => rfl
  | cons entry rest ih =>
    rw [List.map_cons, List.lookup_cons, List.lookup_cons, ih]
    cases name == entry.1 <;> rfl

instance (value : α) : (start (ρ := ρ) value).Lawful (fun _ => value) fun _ => True where
  fitsWords _ := List.forall_mem_nil _
  keys_sublist _ := .slnil
  decode_encode _ _ _ _ _ _ := rfl

/-- One more field: what stands under the names so far is what the fields so far write, since the
new name is none of theirs. -/
instance {fields : Fields ρ (α → β)} {field : Field ρ α} {build : ρ → α → β} {get : ρ → α}
    {valid valid' : ρ → Prop} [fields.Lawful build valid] [field.Lawful get valid'] :
    (fields.add field).Lawful (fun r => build r (get r)) fun r => valid r ∧ valid' r where
  fitsWords r := List.forall_mem_append.2
    ⟨fields.fitsWords_encode r, field.fitsWords_encode r⟩
  keys_sublist r := by
    simp only [add, List.map_append]
    exact (fields.keys_sublist r).append (field.keys_sublist r)
  decode_encode hnames c r h entries hentries := by
    simp only [add] at hnames hentries ⊢
    have hnodup := (List.nodup_append.1 hnames).1
    have hnew : field.name ∉ fields.names := fun hmem =>
      (List.nodup_append.1 hnames).2.2 _ hmem _ List.mem_cons_self rfl
    have hbuild : fields.decode c entries = some (build r) := by
      refine Lawful.decode_encode hnodup c r h.1 entries fun name hname => ?_
      have hother : (field.encode r).lookup name = none := by
        refine OrderedMap.lookup_eq_none_iff.2 fun hmem => ?_
        rw [List.mem_singleton.1 ((field.keys_sublist r).subset hmem)]
          at hname
        exact hnew hname
      rw [hentries name (List.mem_append_left _ hname), List.lookup_append, hother, Option.or_none]
    have hvalue : field.decode c entries = some (get r) := by
      refine Field.Lawful.decode_encode c r h.2 entries ?_
      have hother : (fields.encode r).lookup field.name = none :=
        OrderedMap.lookup_eq_none_iff.2 fun hmem =>
          hnew ((fields.keys_sublist r).subset hmem)
      rw [hentries field.name (List.mem_append_right _ List.mem_cons_self), List.lookup_append,
        hother, Option.none_or]
    simp [hbuild, hvalue]

end Fields

/-! ## Records -/

namespace Conventions

/-- The fields of a record are found again in the table that it is written as. -/
theorem knownFields?_toEntries (c : Conventions) {names : List String}
    {written : List (String × Json)} (hnames : ∀ field ∈ written, field.1 ∈ names)
    (hnodup : (written.map (·.1)).Nodup) :
    c.knownFields? names (Json.toEntries written) =
      some (written.map fun field => (field.1, field.2.toNode)) := by
  induction written with
  | nil => rfl
  | cons field rest ih =>
    have hkey : c.text? (.text field.1) = some field.1 := rfl
    have hrest := ih (fun f hf => hnames f (List.mem_cons_of_mem field hf))
      (List.nodup_cons.1 hnodup).2
    have hmem := hnames field List.mem_cons_self
    have hnew : (rest.map fun f => (f.1, f.2.toNode)).any (·.1 = field.1) = false := by
      rw [List.any_map, List.any_eq_false]
      intro f hf heq
      have hname : f.1 = field.1 := of_decide_eq_true heq
      exact (List.nodup_cons.1 hnodup).1 (List.mem_map.2 ⟨f, hf, hname⟩)
    simp [Json.toEntries, knownFields?, hkey, hrest, hmem, hnew]

/-- What is written of a record is taken as its fields: the names are among those of the record, in
the same order, and none comes twice. -/
theorem record?_toEntries (c : Conventions) {names : List String}
    {written : List (String × Json)} (hsub : (written.map (·.1)).Sublist names)
    (hnodup : names.Nodup) :
    c.record? names (Json.object written).toNode =
      some (written.map fun field => (field.1, field.2.toNode)) := by
  have hnames : ∀ field ∈ written, field.1 ∈ names := fun field hfield =>
    hsub.subset (List.mem_map_of_mem hfield)
  have hknown := knownFields?_toEntries c hnames (hnodup.sublist hsub)
  simp only [Json.toNode]
  exact hknown

end Conventions

/-- A record that `valid` admits is read back from the object that it is written as. -/
class RecordFormat.Lawful (format : RecordFormat ρ) (valid : outParam (ρ → Prop)) : Prop where
  fitsWords : ∀ r, ∀ entry ∈ format.fields.encode r, entry.2.FitsWords
  keys_sublist : ∀ r, ((format.fields.encode r).map (·.1)).Sublist format.fields.names
  read_encode : ∀ (c : Conventions) (r : ρ), valid r →
    format.fields.read c (Json.object (format.fields.encode r)).toNode = some r

namespace RecordFormat

/-- A record is lawful if its fields are, have distinct names and build the record again. -/
theorem lawful_of_fields {name doc : String} {fields : Fields ρ ρ} {build : ρ → ρ}
    {valid' valid : ρ → Prop} [fields.Lawful build valid'] (hnames : fields.names.Nodup)
    (hbuild : ∀ r, build r = r) (hvalid : ∀ r, valid r → valid' r) :
    (RecordFormat.mk name doc fields).Lawful valid where
  fitsWords := Fields.Lawful.fitsWords
  keys_sublist := Fields.Lawful.keys_sublist
  read_encode c r h := by
    have hsub := fields.keys_sublist r
    have hdecode : fields.decode c ((fields.encode r).map fun field => (field.1, field.2.toNode)) =
        some (build r) :=
      Fields.Lawful.decode_encode hnames c r (hvalid r h) _ fun name _ =>
        Fields.lookup_map_snd _ _ name
    rw [hbuild] at hdecode
    simp only [Fields.read, c.record?_toEntries hsub hnames]
    exact hdecode

/-- No field has a name that is none of the record's. -/
theorem not_mem_keys {format : RecordFormat ρ} {valid : ρ → Prop} [format.Lawful valid]
    {key : String} (h : key ∉ format.fields.names) (r : ρ) :
    key ∉ (format.fields.encode r).map (·.1) :=
  fun hmem => h ((Lawful.keys_sublist r).subset hmem)

instance {format : RecordFormat ρ} {valid : ρ → Prop} [format.Lawful valid] :
    format.codec.Present valid where
  fitsWords r := Json.fitsWords_object.2 (Lawful.fitsWords r)
  decode_encode := Lawful.read_encode
  presence?_encode _ _ _ := rfl

end RecordFormat

end Groundwork
