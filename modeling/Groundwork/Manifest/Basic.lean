import Groundwork.Json.Basic

/-!
# Manifests

A manifest is a document with a version, a kind, metadata and further parts.
-/

namespace Groundwork.Manifest

/-- What every manifest is labelled with. -/
def managedBy : String := "stackgraph"

/-- A field that may be missing. -/
def optional (name : String) (value : Option Json) : List (String × Json) :=
  value.toList.map fun value => (name, value)

/-- A field with a text that may be missing. -/
def optionalText (name : String) (value : Option String) : List (String × Json) :=
  optional name (value.map .text)

/-- An object with a single field. -/
def nested (name : String) (value : Json) : Json := .object [(name, value)]

/-- Metadata: a name, labels, a namespace if there is one, and what else there is. -/
def metadata (name : String) (namespaceName : Option String)
    (labels extra : List (String × Json)) : Json :=
  .object
    ([("name", .text name),
      ("labels", .object (("app.kubernetes.io/managed-by", .text managedBy) :: labels))]
      ++ optionalText "namespace" namespaceName ++ extra)

/-- An annotated, if there is a text for it. -/
def annotated (name : String) (value : Option String) : List (String × Json) :=
  optional "annotations" (value.map fun value => nested name (.text value))

/-- A manifest. -/
def document (version kind : String) (metadata : Json) (parts : List (String × Json)) : Json :=
  .object
    ([("apiVersion", .text version), ("kind", .text kind), ("metadata", metadata)] ++ parts)

end Groundwork.Manifest
