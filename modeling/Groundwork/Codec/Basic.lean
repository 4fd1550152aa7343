import Groundwork.Codec.Schema
import Groundwork.Document.Conventions
import Groundwork.OrderedMap

/-!
# Codecs

A `Codec` ties together the three views of a type that documents hold: how a value is written as
JSON, how it is read from a document, and the schema that describes it.  `Fields` does the same for
the fields of a record, so that every record states its field names, order and defaults once.
-/

namespace Groundwork

/-- How values of a type are written, read and described. -/
structure Codec (α : Type) where
  encode : α → Json
  decode : Conventions → Node → Option α
  schema : Schema

namespace Codec

variable {α : Type}

/-- Texts. -/
def text : Codec String where
  encode := .text
  decode := Conventions.text?
  schema := .ofType "string"

/-- Truth values. -/
def truth : Codec Bool where
  encode := .bool
  decode := Conventions.truth?
  schema := .ofType "boolean"

/-- Whole numbers below `2 ^ 16`. -/
def word16 : Codec UInt16 where
  encode n := .int n.toNat
  decode c n := do
    let n ← c.natural? n
    if n < UInt16.size then some (UInt16.ofNat n) else none
  schema := .word "uint16"

/-- Whole numbers below `2 ^ 32`. -/
def word32 : Codec UInt32 where
  encode n := .int n.toNat
  decode c n := do
    let n ← c.natural? n
    if n < UInt32.size then some (UInt32.ofNat n) else none
  schema := .word "uint32"

/-- Floats. -/
def float : Codec Float where
  encode := .float
  decode := Conventions.float?
  schema := (Schema.ofType "number").set .format (.text "double")

/-- Lists. -/
def list (item : Codec α) : Codec (List α) where
  encode items := .list (items.map item.encode)
  decode c n := do (← c.list? n).mapM (item.decode c)
  schema := .listOf item.schema

/-- Reads the entries of a map in order. -/
def decodeEntries (value : Codec α) (c : Conventions) :
    List (Node × Node) → Option (List (String × α))
  | [] => some []
  | (key, v) :: rest => do
    let key ← c.text? key
    let v ← value.decode c v
    let rest ← decodeEntries value c rest
    return (key, v) :: rest

/-- Maps; a repeated key keeps its first place and its last value. -/
def map (value : Codec α) : Codec (OrderedMap α) where
  encode m := .object (m.entries.map fun entry => (entry.1, value.encode entry.2))
  decode c n := do
    let entries ← decodeEntries value c (← c.entries? n)
    return OrderedMap.ofList entries
  schema := .mapOf value.schema

/-- Values that may be missing, written `null`. -/
def orNull (value : Codec α) : Codec (Option α) where
  encode
    | some v => value.encode v
    | none => .null
  decode c n := do
    if ← c.presence? n then (value.decode c n).map some else some none
  schema := value.schema.orNull

/-- One of several values, each picked by a word. -/
def choice [DecidableEq α] (name doc : String) (options : List (α × String × String)) :
    Codec α where
  encode v := .text (((options.find? (·.1 = v)).map (·.2.1)).getD "")
  decode c n := do
    let word ← c.choice? n
    (options.find? (·.2.1 = word)).map (·.1)
  schema := .named name ((Schema.choice (options.map (·.2))).annotate doc none)

end Codec

/-- One field of a record `ρ`. -/
structure Field (ρ α : Type) where
  name : String
  encode : ρ → List (String × Json)
  decode : Conventions → List (String × Node) → Option α
  property : Schema.Property

namespace Field

variable {ρ α : Type}

/-- A field that every document must have. -/
def required (name : String) (codec : Codec α) (get : ρ → α) (doc : String := "") :
    Field ρ α where
  name := name
  encode r := [(name, codec.encode (get r))]
  decode c fields := do codec.decode c (← fields.lookup name)
  property := ⟨name, true, codec.schema.annotate doc none⟩

/-- A field that a document may leave out for a default; it is always written. -/
def withDefault (name : String) (codec : Codec α) (default : α) (get : ρ → α)
    (doc : String := "") : Field ρ α where
  name := name
  encode r := [(name, codec.encode (get r))]
  decode c fields :=
    match fields.lookup name with
    | some n => codec.decode c n
    | none => some default
  property := ⟨name, false, codec.schema.annotate doc (some (codec.encode default))⟩

/-- A field that may be missing; it is written as `null` then. -/
def nullable (name : String) (codec : Codec α) (get : ρ → Option α) (doc : String := "") :
    Field ρ (Option α) :=
  withDefault name codec.orNull none get doc

/-- A field that may be missing; it is not written then. -/
def omittable (name : String) (codec : Codec α) (get : ρ → Option α) (doc : String := "") :
    Field ρ (Option α) where
  name := name
  encode r :=
    match get r with
    | some v => [(name, codec.encode v)]
    | none => []
  decode c fields :=
    match fields.lookup name with
    | some n => codec.orNull.decode c n
    | none => some none
  property := ⟨name, false, codec.orNull.schema.annotate doc none⟩

end Field

/-- The fields of a record `ρ`, in order, from which an `α` is built. -/
structure Fields (ρ α : Type) where
  names : List String
  encode : ρ → List (String × Json)
  decode : Conventions → List (String × Node) → Option α
  properties : List Schema.Property

namespace Fields

variable {ρ α β : Type}

/-- No fields. -/
def start (value : α) : Fields ρ α where
  names := []
  encode _ := []
  decode _ _ := some value
  properties := []

/-- One more field at the end. -/
def add (fields : Fields ρ (α → β)) (field : Field ρ α) : Fields ρ β where
  names := fields.names ++ [field.name]
  encode r := fields.encode r ++ field.encode r
  decode c entries := do
    let build ← fields.decode c entries
    let value ← field.decode c entries
    return build value
  properties := fields.properties ++ [field.property]

/-- The JSON object that a record is written as. -/
def toJson (fields : Fields ρ α) (r : ρ) : Json := .object (fields.encode r)

/-- Reads a record. -/
def read (fields : Fields ρ α) (c : Conventions) (n : Node) : Option α := do
  fields.decode c (← c.record? fields.names n)

end Fields

/-- A named record type. -/
structure RecordFormat (ρ : Type) where
  name : String
  doc : String
  fields : Fields ρ ρ

namespace RecordFormat

variable {ρ : Type}

/-- The schema of the record itself. -/
def schema (format : RecordFormat ρ) : Schema :=
  (Schema.record format.fields.properties).annotate format.doc none

/-- The record as a value inside other records. -/
def codec (format : RecordFormat ρ) : Codec ρ where
  encode := format.fields.toJson
  decode := format.fields.read
  schema := .named format.name format.schema

/-- The schema of a document that holds one such record. -/
def documentSchema (format : RecordFormat ρ) : Json :=
  format.schema.document format.name

end RecordFormat

end Groundwork
