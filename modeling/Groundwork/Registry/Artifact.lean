import Groundwork.Code.Script
import Groundwork.Resource.Config
import Groundwork.Text.Blank
import Groundwork.Yaml.Printer

/-!
# Artifacts

What a node becomes: a script in a code backend, a manifest in a cluster.  Its text, its imports and
its outputs follow from that.  A generator that is none of the built-in ones may answer with any
text, imports and outputs.
-/

namespace Groundwork

/-- What a node becomes. -/
inductive Artifact where
  | script (s : Code.Script)
  | manifest (document : Json)
  /-- A text that no script and no manifest stands for, with imports and outputs of its own. -/
  | plain (imports : List String) (code : String) (outputs : List String)

namespace Artifact

/-- The imports that the text needs. -/
def imports : Artifact → List String
  | script s => s.imports
  | manifest _ => []
  | plain imports _ _ => imports

/-- The text; a manifest has no blanks at its end. -/
def code : Artifact → String
  | script s => s.code
  | manifest document => trimEnd (Yaml.print document)
  | plain _ code _ => code

/-- The outputs that the text binds. -/
def outputs : Artifact → List String
  | script s => s.outputs
  | manifest _ => []
  | plain _ _ outputs => outputs

/-- An artifact as JSON. -/
def toJson (a : Artifact) : Json :=
  .object
    [("imports", .texts a.imports), ("code", .text a.code), ("outputs", .texts a.outputs)]

end Artifact

/-- Why a node becomes nothing. -/
inductive GenerateError where
  /-- No generator is registered for the type tag. -/
  | unknownType (id typeTag : String)
  /-- The generator for the type tag is for settings of another kind; both kinds are named. -/
  | configMismatch (id typeTag expected found : String)
  /-- The settings cannot be expressed. -/
  | render (id reason : String)
  deriving DecidableEq, Repr

namespace GenerateError

/-- The message for the reader of a report. -/
def message : GenerateError → String
  | unknownType id typeTag => "unknown resource type '" ++ typeTag ++ "' for '" ++ id ++ "'"
  | configMismatch id typeTag expected found =>
    "'" ++ id ++ "' (" ++ typeTag ++ ") carries a " ++ found ++ " config, expected "
      ++ expected
  | render id reason => "cannot render '" ++ id ++ "': " ++ reason

end GenerateError

end Groundwork
