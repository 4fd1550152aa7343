import Groundwork.Text.Lines

/-!
# File formats

The text formats of descriptions, and how the name of a file tells its format.
-/

namespace Groundwork

/-- The text formats of descriptions. -/
inductive Format where
  | yaml
  | toml
  | json
  deriving DecidableEq, Repr

namespace Format

/-- The format's name in messages. -/
def label : Format → String
  | yaml => "YAML"
  | toml => "TOML"
  | json => "JSON"

/-- The name of the file that a path leads to.  A path that ends with `..` leads to no file, and a
single dot stays where it is. -/
def fileName? (path : String) : Option (List Char) :=
  let steps := (splitWhere (· = '/') path.toList).filter fun step => !step.isEmpty && step ≠ ['.']
  steps.getLast?.filter (· ≠ ['.', '.'])

/-- What stands after the last dot of a file name, unless the name starts with that dot. -/
def extension? (name : List Char) : Option (List Char) :=
  match (splitWhere (· = '.') name).reverse with
  | ext :: before :: more => if more.isEmpty && before.isEmpty then none else some ext
  | _ => none

/-- The format of a file; files are YAML unless their names say otherwise. -/
def ofPath (path : String) : Format :=
  match (fileName? path).bind extension? with
  | some ext =>
    if ext = "toml".toList then toml else if ext = "json".toList then json else yaml
  | none => yaml

end Format

end Groundwork
