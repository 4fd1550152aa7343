import Groundwork.Json.Basic

/-!
# Schemas

JSON schemas of the types that documents hold.  Keywords stand in one fixed order, required names
and properties are sorted, and a named type is referred to by name and defined once at the end.
-/

namespace Groundwork

/-- The schema keywords in use, in the order in which they are written. -/
inductive Keyword where
  | schema
  | title
  | description
  | default
  | type
  | format
  | enum
  | allOf
  | anyOf
  | oneOf
  | minimum
  | items
  | required
  | properties
  | additionalProperties
  | reference
  | definitions
  deriving DecidableEq, Repr

namespace Keyword

/-- The keyword as it is written. -/
def text : Keyword → String
  | schema => "$schema"
  | title => "title"
  | description => "description"
  | default => "default"
  | type => "type"
  | format => "format"
  | enum => "enum"
  | allOf => "allOf"
  | anyOf => "anyOf"
  | oneOf => "oneOf"
  | minimum => "minimum"
  | items => "items"
  | required => "required"
  | properties => "properties"
  | additionalProperties => "additionalProperties"
  | reference => "$ref"
  | definitions => "definitions"

/-- The place of a keyword in the written order. -/
def rank (k : Keyword) : Nat := k.ctorIdx

end Keyword

/-- A schema, with the definitions that its references need. -/
structure Schema where
  keywords : List (Keyword × Json)
  definitions : List (String × Json)

namespace Schema

/-- Puts a keyword at its place. -/
def insertKeyword (k : Keyword) (value : Json) : List (Keyword × Json) → List (Keyword × Json)
  | [] => [(k, value)]
  | entry :: rest =>
    if k.rank < entry.1.rank then (k, value) :: entry :: rest
    else if k = entry.1 then (k, value) :: rest
    else entry :: insertKeyword k value rest

/-- Puts a named value at its place in a list sorted by name; a name that is there stays. -/
def insertSorted (name : String) (value : Json) : List (String × Json) → List (String × Json)
  | [] => [(name, value)]
  | entry :: rest =>
    if name = entry.1 then entry :: rest
    else if name < entry.1 then (name, value) :: entry :: rest
    else entry :: insertSorted name value rest

/-- A list of named values sorted by name. -/
def sorted (entries : List (String × Json)) : List (String × Json) :=
  entries.foldl (fun acc entry => insertSorted entry.1 entry.2 acc) []

/-- Sets a keyword. -/
def set (s : Schema) (k : Keyword) (value : Json) : Schema :=
  ⟨insertKeyword k value s.keywords, s.definitions⟩

/-- The schema as a JSON object, its definitions left out. -/
def body (s : Schema) : Json :=
  .object (s.keywords.map fun entry => (entry.1.text, entry.2))

/-- A schema of one type. -/
def ofType (type : String) : Schema :=
  ⟨[(.type, .text type)], []⟩

/-- A whole number of some width. -/
def word (format : String) : Schema :=
  ((ofType "integer").set .format (.text format)).set .minimum (.float 0)

/-- A list of values of one schema. -/
def listOf (item : Schema) : Schema :=
  ⟨[(.type, .text "array"), (.items, item.body)], item.definitions⟩

/-- An object with any keys and values of one schema. -/
def mapOf (value : Schema) : Schema :=
  ⟨[(.type, .text "object"), (.additionalProperties, value.body)], value.definitions⟩

/-- A value or `null`. -/
def orNull (s : Schema) : Schema :=
  match s.keywords.find? (·.1 = .type) with
  | some (_, type) => s.set .type (.list [type, .text "null"])
  | none =>
    ⟨[(.anyOf, .list [s.body, .object [("type", .text "null")]])], s.definitions⟩

/-- Adds a description and a default; a reference is wrapped for it. -/
def annotate (s : Schema) (doc : String) (default : Option Json) : Schema :=
  if doc.isEmpty && default.isNone then s
  else
    let isReference := s.keywords.any (·.1 = .reference)
    let s := if isReference then ⟨[(.allOf, .list [s.body])], s.definitions⟩ else s
    let s := if doc.isEmpty then s else s.set .description (.text doc)
    match default with
    | some value => s.set .default value
    | none => s

/-- A reference to a schema under a name. -/
def named (name : String) (s : Schema) : Schema :=
  ⟨[(.reference, .text ("#/definitions/" ++ name))], insertSorted name s.body s.definitions⟩

/-- A property of an object schema. -/
structure Property where
  name : String
  isRequired : Bool
  schema : Schema

/-- An object with known properties. -/
def record (properties : List Property) : Schema :=
  let required := (properties.filter (·.isRequired)).map fun p => (p.name, Json.text p.name)
  let fields := properties.map fun p => (p.name, p.schema.body)
  let s : Schema :=
    ⟨[(.type, .text "object")], sorted (properties.flatMap (·.schema.definitions))⟩
  let s := if required.isEmpty then s
    else s.set .required (.list ((sorted required).map (·.2)))
  if fields.isEmpty then s else s.set .properties (.object (sorted fields))

/-- One of some words, each with what it means if any of them has a meaning to tell. -/
def choice (words : List (String × String)) : Schema :=
  let one (words : List String) : Schema :=
    (ofType "string").set .enum (.texts words)
  if words.all (·.2.isEmpty) then one (words.map (·.1))
  else
    ⟨[(.oneOf, .list (words.map fun (word, doc) => ((one [word]).annotate doc none).body))], []⟩

/-- The schema of a whole document, with its title and the definitions that it needs. -/
def document (title : String) (s : Schema) : Json :=
  let s := (s.set .schema (.text "http://json-schema.org/draft-07/schema#")).set .title
    (.text title)
  (if s.definitions.isEmpty then s else s.set .definitions (.object s.definitions)).body

end Schema

end Groundwork
