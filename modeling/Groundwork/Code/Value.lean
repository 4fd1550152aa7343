import Groundwork.Code.Script
import Groundwork.Plan

/-!
# Values and labels in code

How resolved environment values are written in code, and how the statements of a node are labelled.
-/

namespace Groundwork

namespace Code

/-- What stands in a template for the value of some code. -/
def placeholder (code : String) : String := "$\x7b" ++ code ++ "\x7d"

/-- A member of something that is bound to an identifier. -/
def member (identifier field : String) : Expression := .code (identifier ++ "." ++ field)

namespace Dialect

/-- The label of a statement of a node: flat code labels by the node's name, constructs by its
id. -/
def label (d : Dialect) (r : Resource) (suffix : String) : String :=
  (match d with
    | flat => r.name
    | construct => r.id) ++ suffix

/-- The name of a field that holds a list. -/
def plural (d : Dialect) (word : String) : String :=
  match d with
  | flat => word ++ "s"
  | construct => word

/-- A list of one expression. -/
def only (d : Dialect) (e : Expression) : Expression :=
  match d with
  | flat => .row [e]
  | construct => .list [e]

/-- A name field; only constructs name what flat code leaves to the provider. -/
def named (d : Dialect) (name : String) : FieldList :=
  match d with
  | flat => []
  | construct => [("name", .quoted name)]

end Dialect

/-- An object with a single field. -/
def nested (key : String) (value : Expression) : Expression := .object [(key, value)]

end Code

open Code (Expression placeholder)

/-- The statement that binds an output of a node. -/
def Resource.output (r : Resource) (field : String) (value : Expression) : Code.Statement :=
  .output (outputVariable r.name field) value

namespace EnvValue

/-- A value in code. -/
def toCode : EnvValue → Expression
  | literal s => .quoted s
  | interpolation s => .template s
  | expression s => .code s
  | secretKeyRef name key => .quoted (name ++ "/" ++ key)

/-- A value in code with a text after it.  Nothing can be put after a secret. -/
def withSuffix (v : EnvValue) (suffix : String) : Expression :=
  match v with
  | literal s => .quoted (s ++ suffix)
  | interpolation s => .template (s ++ suffix)
  | expression s => .template (placeholder s ++ suffix)
  | secretKeyRef _ _ => v.toCode

end EnvValue

namespace Environment

/-- An environment as an object, keyed by the names of the variables. -/
def toObject (env : Environment) : Expression :=
  .object (env.entries.map fun (key, value) =>
    (String.ofList (Code.quote key.toList), value.toCode))

/-- An environment as a list of names and values. -/
def toList (env : Environment) : Expression :=
  .list (env.entries.map fun (key, value) =>
    .inlineObject [("name", .quoted key), ("value", value.toCode)])

end Environment

end Groundwork
