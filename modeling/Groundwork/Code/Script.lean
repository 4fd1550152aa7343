import Groundwork.Code.Expression
import Groundwork.Naming

/-!
# Scripts

A script is what one node becomes in a code backend: statements that declare resources under
identifiers, attach resources to them, and bind outputs for later nodes.  The two dialects differ in
the classes that they use and in how an output is bound; imports, outputs and code all follow from
the statements.
-/

namespace Groundwork.Code

/-- The two kinds of code. -/
inductive Dialect where
  /-- One declaration per resource, in a module of its own. -/
  | flat
  /-- Declarations inside the constructor of a stack. -/
  | construct
  deriving DecidableEq, Repr

namespace Dialect

/-- What stands before a template so that its placeholders are filled in. -/
def templateTag : Dialect → List Char
  | flat => "pulumi.interpolate".toList
  | construct => []

/-- The imports that every script has. -/
def baseImports : Dialect → List String
  | flat => ["import * as pulumi from \"@pulumi/pulumi\";", "import * as gcp from \"@pulumi/gcp\";"]
  | construct => []

/-- The import that an output needs. -/
def outputImport : Dialect → List String
  | flat => []
  | construct => ["import \x7b TerraformOutput \x7d from \"cdktf\";"]

/-- What stands before the label of a new resource. -/
def scopeArgument : Dialect → List Char
  | flat => []
  | construct => "this, ".toList

end Dialect

/-- A class that resources are made of, with the import that it needs. -/
structure ResourceClass where
  name : String
  importLine : Option String
  deriving DecidableEq, Repr

/-- The import of a class from a module. -/
def importFrom (names source : String) : String :=
  "import \x7b " ++ names ++ " \x7d from \"" ++ source ++ "\";"

/-- A class of the cloud provider for constructs. -/
def constructClass (name source : String) : ResourceClass :=
  ⟨name, some (importFrom name ("@cdktf/provider-google/lib/" ++ source))⟩

/-- A class of the cloud provider in both dialects. -/
def cloudClass (flat construct source : String) : Dialect → ResourceClass
  | .flat => ⟨flat, none⟩
  | .construct => constructClass construct source

/-- The fields of an object. -/
abbrev FieldList := List (String × Expression)

/-- A statement of a script. -/
inductive Statement where
  /-- Makes a resource and binds it to an identifier. -/
  | declare (identifier : String) (cls : ResourceClass) (label : String) (fields : FieldList)
  /-- Makes a resource without a binding. -/
  | attach (cls : ResourceClass) (label : String) (fields : FieldList)
  /-- Binds an output. -/
  | output (variableName : String) (value : Expression)

namespace Statement

/-- The imports that a statement needs. -/
def imports (d : Dialect) : Statement → List String
  | declare _ cls _ _ => cls.importLine.toList
  | attach cls _ _ => cls.importLine.toList
  | output _ _ => d.outputImport

/-- The output that a statement binds. -/
def output? : Statement → Option String
  | output variableName _ => some variableName
  | _ => none

/-- The name that a statement binds, be it an output or not. -/
def bound? : Statement → Option String
  | declare identifier _ _ _ => some identifier
  | attach _ _ _ => none
  | output variableName _ => some variableName

/-- The code that makes a resource. -/
def newResource (d : Dialect) (cls : ResourceClass) (label : String) (fields : FieldList) :
    List Char :=
  "new ".toList ++ cls.name.toList ++ '(' :: d.scopeArgument ++ quote label.toList
    ++ ',' :: ' ' :: (Expression.object fields).render d.templateTag ++ [')']

/-- The code of a statement. -/
def render (d : Dialect) : Statement → List Char
  | declare identifier cls label fields =>
    "const ".toList ++ identifier.toList ++ " = ".toList ++ newResource d cls label fields ++ [';']
  | attach cls label fields => newResource d cls label fields ++ [';']
  | output variableName value =>
    let binding := "const ".toList ++ variableName.toList ++ " = ".toList
      ++ value.render d.templateTag ++ [';']
    match d with
    | .flat => "export ".toList ++ binding
    | .construct =>
      binding ++ "\nnew TerraformOutput(this, ".toList ++ quote variableName.toList
        ++ (", \x7b value: ".toList ++ variableName.toList ++ " \x7d);".toList)

end Statement

/-- The statements of a node. -/
structure Script where
  dialect : Dialect
  statements : List Statement

namespace Script

/-- The imports of a script, each once, in the order in which they are first needed. -/
def imports (s : Script) : List String :=
  s.dialect.baseImports ++ (s.statements.flatMap (·.imports s.dialect)).eraseDups

/-- The outputs of a script. -/
def outputs (s : Script) : List String := s.statements.filterMap Statement.output?

/-- The text of a script. -/
def code (s : Script) : String :=
  "\n".intercalate (s.statements.map fun st => String.ofList (st.render s.dialect))

end Script

end Groundwork.Code
