import Groundwork.Plan
import Groundwork.Registry.Artifact
import Groundwork.Resource.Settings

/-!
# Generators

A generator turns nodes with settings of one kind into artifacts; for a node with other settings it
reports the mismatch.
-/

namespace Groundwork

/-- A generator for nodes of one type tag. -/
structure Definition where
  /-- The type tag. -/
  id : String
  /-- The kind of settings that it is for. -/
  kind : ConfigKind
  /-- The schema of the settings. -/
  schema : Json
  /-- The settings before anything is said. -/
  defaultConfig : Json
  generate : Resource → Except GenerateError Artifact

namespace Definition

/-- The generator that makes artifacts of settings of one kind. -/
def of {α : Type} (id : String) (settings : SettingsKind α)
    (make : Resource → α → Except String Artifact) : Definition where
  id := id
  kind := settings.kind
  schema := settings.recordFormat.documentSchema
  defaultConfig := settings.recordFormat.codec.encode settings.default
  generate r :=
    match settings.select? r.config with
    | some c => (make r c).mapError (.render r.id)
    | none => .error (.configMismatch r.id r.typeTag settings.kind.tag r.config.kind.tag)

/-- A generator of scripts. -/
def ofScript {α : Type} (id : String) (settings : SettingsKind α)
    (make : Resource → α → Code.Script) : Definition :=
  of id settings fun r c => .ok (.script (make r c))

/-- A generator of manifests. -/
def ofManifest {α : Type} (id : String) (settings : SettingsKind α) (make : α → Json) :
    Definition :=
  of id settings fun _ c => .ok (.manifest (make c))

/-- A generator answers with a mismatch exactly if the settings are of another kind. -/
theorem generate_of_eq_configMismatch_iff {α : Type} (id : String) (settings : SettingsKind α)
    (make : Resource → α → Except String Artifact) (r : Resource) :
    (of id settings make).generate r
        = .error (.configMismatch r.id r.typeTag settings.kind.tag r.config.kind.tag)
      ↔ r.config.kind ≠ settings.kind := by
  have h := settings.isSome_select? r.config
  simp only [of]
  cases hs : settings.select? r.config with
  | some c =>
    simp only [hs, Option.isSome_some, true_iff] at h
    simp only [h, ne_eq, not_true_eq_false, iff_false]
    intro hmake
    cases hmade : make r c with
    | error e =>
      rw [hmade] at hmake
      cases hmake
    | ok a =>
      rw [hmade] at hmake
      cases hmake
  | none =>
    simp only [hs, Option.isSome_none, Bool.false_eq_true, false_iff] at h
    simpa using h

end Definition

end Groundwork
