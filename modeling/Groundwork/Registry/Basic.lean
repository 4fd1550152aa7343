import Groundwork.Registry.Builtin

/-!
# Registries

A registry is a table from type tags to generators, in the order of registration.  A plugin is a
generator that claims to be for a backend; its tag has to begin as the tags of that backend do, and
has to be free.
-/

namespace Groundwork

/-- A generator for a backend. -/
structure Plugin where
  backend : Backend
  definition : Definition

/-- What a plugin is in a table: its generator under its type tag. -/
def Plugin.entry (p : Plugin) : String × Definition := (p.definition.id, p.definition)

/-- The generators by type tag. -/
structure Registry where
  table : OrderedMap Definition

/-- Why a plugin is not registered. -/
inductive RegistryError where
  /-- The type tag does not begin as those of the backend do. -/
  | prefixMismatch (id : String) (backend : Backend)
  /-- The type tag is taken. -/
  | duplicate (id : String)
  deriving DecidableEq, Repr

namespace RegistryError

/-- The message for the reader of a report. -/
def message : RegistryError → String
  | prefixMismatch id backend =>
    backend.name ++ " generator '" ++ id ++ "' must use the '" ++ backend.tagPrefix
      ++ "' type prefix"
  | duplicate id => "generator '" ++ id ++ "' registered twice"

end RegistryError

namespace Registry

/-- The registry without generators. -/
def empty : Registry := ⟨∅⟩

/-- The generators, in the order of registration. -/
def definitions (r : Registry) : List Definition := r.table.values

/-- The type tags, in the order of registration. -/
def types (r : Registry) : List String := r.table.keys

/-- The number of generators. -/
def size (r : Registry) : Nat := r.table.entries.length

/-- Whether there are no generators. -/
def isEmpty (r : Registry) : Bool := r.table.isEmpty

/-- The generator for a type tag. -/
def get? (r : Registry) (typeTag : String) : Option Definition := r.table.get? typeTag

/-- Whether there is a generator for a type tag. -/
def contains (r : Registry) (typeTag : String) : Bool := r.table.contains typeTag

/-- Registers a plugin, or says why not. -/
def register (r : Registry) (p : Plugin) : Registry × Option RegistryError :=
  let id := p.definition.id
  if !p.backend.tagPrefix.toList.isPrefixOf id.toList then
    (r, some (.prefixMismatch id p.backend))
  else if r.contains id then (r, some (.duplicate id))
  else (⟨r.table.insert id p.definition⟩, none)

/-- Registers plugins up to the first that is refused; those before it stay. -/
def registerAll (r : Registry) : List Plugin → Registry × Option RegistryError
  | [] => (r, none)
  | p :: rest =>
    match r.register p with
    | (r, none) => r.registerAll rest
    | (r, some e) => (r, some e)

/-- The generators of every backend. -/
def builtin : Registry :=
  let plugins := [Backend.flat, .construct, .manifest].flatMap fun b =>
    b.definitions.map fun d => ⟨b, d⟩
  (empty.registerAll plugins).1

/-- The registry without the generators for some type tags. -/
def without (r : Registry) (typeTags : List String) : Registry :=
  ⟨r.table.filterKeys (· ∉ typeTags)⟩

/-- What a node becomes. -/
def generate (r : Registry) (node : Resource) : Except GenerateError Artifact :=
  match r.get? node.typeTag with
  | some d => d.generate node
  | none => .error (.unknownType node.id node.typeTag)

end Registry

end Groundwork
