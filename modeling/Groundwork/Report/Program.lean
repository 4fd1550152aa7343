import Groundwork.Report.Basic
import Groundwork.Text.Case
import Groundwork.Text.Lines

/-!
# Programs

The blocks of a report put together to one text: a module of declarations, the class of a stack, or
a stream of manifests.
-/

namespace Groundwork

/-- The words that a name is made of. -/
def wordsOf (name : String) : List String :=
  ((splitWhere (!·.isAlphanum) name.toList).filter (!·.isEmpty)).map String.ofList

/-- The class name of a project's stack, such as `MyShopStack`. -/
def stackClass (project : String) : String :=
  let name := String.join ((wordsOf project).map capitalize)
  (if name.toList.head?.any Char.isAlpha then name else "P" ++ name) ++ "Stack"

namespace Report

/-- The texts of the blocks. -/
def bodies (r : Report) : List String := r.blocks.map (·.code)

/-- The line that tells a stack which project and region it is for. -/
def providerLine (r : Report) : String :=
  "    new GoogleProvider(this, \"google\", \x7b project: \"" ++ r.project.cloudProjectId
    ++ "\", region: \"" ++ r.project.region ++ "\" \x7d);"

/-- The lines of a stack. -/
def stackLines (r : Report) : List String :=
  let cls := stackClass r.project.name
  ["import \x7b Construct \x7d from \"constructs\";",
   "import \x7b App, TerraformStack \x7d from \"cdktf\";",
   "import \x7b GoogleProvider \x7d from \"@cdktf/provider-google/lib/provider\";"]
  ++ r.imports
  ++ ["",
      "class " ++ cls ++ " extends TerraformStack \x7b",
      "  constructor(scope: Construct, id: string) \x7b",
      "    super(scope, id);",
      "",
      r.providerLine]
  ++ r.bodies.flatMap (fun body => ["", indent 4 body])
  ++ ["  \x7d",
      "\x7d",
      "",
      "const app = new App();",
      "new " ++ cls ++ "(app, \"" ++ r.project.name ++ "\");",
      "app.synth();"]

/-- The program that a report stands for. -/
def render (r : Report) : String :=
  match r.project.backend with
  | .manifest => "\n---\n".intercalate r.bodies ++ "\n"
  | .flat => "\n".intercalate r.imports ++ "\n\n" ++ "\n\n".intercalate r.bodies ++ "\n"
  | .construct => "\n".intercalate r.stackLines ++ "\n"

end Report

end Groundwork
