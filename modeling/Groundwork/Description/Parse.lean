import Groundwork.CompileError
import Groundwork.Description.Format
import Groundwork.Json.Reader
import Groundwork.Toml.Reader
import Groundwork.Yaml.Reader

/-!
# Reading descriptions
-/

namespace Groundwork

/-- Reads the document that a text is in some format, with the rules by which the format gives
values. -/
def Format.read? (f : Format) (text : String) : Option (Node × Conventions) :=
  match f with
  | .json => (Json.read? text).map fun n => (n, .json)
  | .yaml => (Yaml.read? text).map fun d => (d.root, .yaml d.anchors)
  | .toml => (Toml.read? text).map fun n => (n, .toml)

/-- Reads a description. -/
def Description.parse (f : Format) (text : String) : Except CompileError Description :=
  let read : Option Description := do
    let (n, c) ← f.read? text
    Description.recordFormat.codec.decode c n
  match read with
  | some d => .ok d
  | none => .error (.parse f)

end Groundwork
