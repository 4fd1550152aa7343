import Groundwork.Naming
import Groundwork.OrderedMap

/-!
# References

A value of the form `@type/name` or `@type/name.property` refers to another resource of the
project.  Whatever does not have this form is no reference and means itself.  Which properties a
type has is checked only when a reference is resolved.
-/

namespace Groundwork

/-- The types of resource that a reference can point at. -/
inductive ReferenceType where
  | secret
  | database
  | bucket
  | cache
  | container
  | function
  | topic
  | queue
  deriving DecidableEq, Repr

namespace ReferenceType

/-- Every type. -/
def all : List ReferenceType :=
  [secret, database, bucket, cache, container, function, topic, queue]

/-- The type's name inside a reference. -/
def token : ReferenceType → String
  | secret => "secret"
  | database => "database"
  | bucket => "bucket"
  | cache => "cache"
  | container => "container"
  | function => "function"
  | topic => "topic"
  | queue => "queue"

/-- The type with a name. -/
def ofToken? (s : String) : Option ReferenceType :=
  all.find? (·.token = s)

/-- The output that a reference without a property means. -/
def defaultOutput : ReferenceType → String
  | secret => "secretId"
  | database => "connectionString"
  | bucket => "name"
  | cache => "host"
  | container => "url"
  | function => "url"
  | topic => "name"
  | queue => "name"

/-- The properties besides the default output, each with the output it means. -/
def properties : ReferenceType → List (String × String)
  | secret => [("id", "secretId"), ("name", "secretName"), ("version", "secretVersion")]
  | database =>
    [("url", "connectionString"), ("host", "host"), ("port", "port"),
     ("instance", "instanceName"), ("name", "databaseName")]
  | bucket => [("url", "url")]
  | cache => [("port", "port"), ("url", "connectionString")]
  | container => [("name", "serviceName")]
  | function => [("name", "functionName")]
  | topic => [("id", "topicId")]
  | queue => [("id", "queueId")]

/-- The properties that a reference of this type may name, the default output first. -/
def acceptedProperties (t : ReferenceType) : List String :=
  t.defaultOutput :: (t.properties.map (·.1)).filter (· ≠ t.defaultOutput)

/-- The output that a property means. -/
def output? (t : ReferenceType) : Option String → Option String
  | none => some t.defaultOutput
  | some property =>
    if property = t.defaultOutput then some t.defaultOutput else t.properties.lookup property

/-- Whether the type is one of the workloads that a project runs. -/
def isWorkload (t : ReferenceType) : Bool :=
  t = container || t = function

end ReferenceType

/-- A reference to a resource, or to one of its properties. -/
structure Reference where
  type : ReferenceType
  name : String
  property : Option String
  deriving DecidableEq, Repr

namespace Reference

/-- Whether names and references to them may have the character. -/
def isNameChar (c : Char) : Bool :=
  c.isLower || c.isDigit || c = '-'

/-- Reads the part after the type: a name, and perhaps a property after a point. -/
def readName? (type : ReferenceType) (cs : List Char) : Option Reference :=
  let name := cs.takeWhile isNameChar
  if name.isEmpty then none
  else
    match cs.dropWhile isNameChar with
    | [] => some ⟨type, String.ofList name, none⟩
    | '.' :: property =>
      if !property.isEmpty && property.all Char.isAlpha then
        some ⟨type, String.ofList name, some (String.ofList property)⟩
      else none
    | _ => none

/-- The reference that characters write. -/
def ofChars? : List Char → Option Reference
  | '@' :: cs =>
    match cs.dropWhile Char.isLower with
    | '/' :: rest => do
      let type ← ReferenceType.ofToken? (String.ofList (cs.takeWhile Char.isLower))
      readName? type rest
    | _ => none
  | _ => none

/-- The reference that a value is, if it is one. -/
def parse? (value : String) : Option Reference := ofChars? value.toList

/-- The text of a reference. -/
def display (r : Reference) : String :=
  "@" ++ r.type.token ++ "/" ++ r.name ++
    match r.property with
    | some property => "." ++ property
    | none => ""

/-- The id of the node that a reference points at: `{type}-{name}`. -/
def resourceId (r : Reference) : String :=
  r.type.token ++ "-" ++ r.name

end Reference

/-- A reference to a property that its type does not have. -/
structure UnknownProperty where
  type : ReferenceType
  property : String
  /-- The properties that the reference could have named. -/
  accepted : List String
  deriving DecidableEq, Repr

namespace UnknownProperty

/-- The message for the reader of a report. -/
def message (e : UnknownProperty) : String :=
  "unknown property '" ++ e.property ++ "' for @" ++ e.type.token ++ " reference (accepted: "
    ++ ", ".intercalate e.accepted ++ ")"

end UnknownProperty

namespace ReferenceType

/-- The output that a property means, or what is wrong with the property. -/
def output (t : ReferenceType) (property : Option String) : Except UnknownProperty String :=
  match t.output? property with
  | some output => .ok output
  | none => .error ⟨t, property.getD "", t.acceptedProperties⟩

end ReferenceType

namespace Reference

/-- The output that a reference means. -/
def output (r : Reference) : Except UnknownProperty String :=
  r.type.output r.property

/-- The placeholder for a reference in generated code, such as `${uploadsName}`. -/
def placeholder (r : Reference) : Except UnknownProperty String := do
  let output ← r.output
  return "$\x7b" ++ outputVariable r.name output ++ "\x7d"

/-- The references among the values of a map, in order. -/
def extract (values : OrderedMap String) : List Reference :=
  values.values.filterMap parse?

/-- Resolves one value: references with `resolve`, all else with `literal`. -/
def resolveValue {ε α : Type} (resolve : Reference → Except ε α) (literal : String → α)
    (value : String) : Except ε α :=
  match parse? value with
  | some r => resolve r
  | none => .ok (literal value)

/-- Resolves every value of a map. -/
def resolveMap {ε α : Type} (resolve : Reference → Except ε α) (literal : String → α)
    (values : OrderedMap String) : Except ε (OrderedMap α) :=
  values.traverse (resolveValue resolve literal)

end Reference

/-- A map with its references resolved, and the references that were met, in order. -/
structure Resolution (α : Type) where
  references : List Reference
  values : OrderedMap α

namespace Reference

/-- Resolves entries one after the other and adds them to what there is; the first failure is the
result. -/
def resolveEntries {ε α : Type} (resolve : Reference → Except ε α) (literal : String → α)
    (done : Resolution α) : List (String × String) → Except ε (Resolution α)
  | [] => .ok done
  | (key, value) :: rest =>
    match parse? value with
    | some r => do
      let resolved ← resolve r
      resolveEntries resolve literal ⟨done.references ++ [r], done.values.insert key resolved⟩ rest
    | none =>
      resolveEntries resolve literal ⟨done.references, done.values.insert key (literal value)⟩ rest

/-- Resolves a map and collects its references on the way. -/
def resolveAll {ε α : Type} (resolve : Reference → Except ε α) (literal : String → α)
    (values : OrderedMap String) : Except ε (Resolution α) :=
  resolveEntries resolve literal ⟨[], ∅⟩ values.entries

/-- Replaces every reference in a map by its placeholder. -/
def resolvePlaceholders (values : OrderedMap String) :
    Except UnknownProperty (Resolution String) :=
  resolveAll placeholder id values

end Reference

end Groundwork
