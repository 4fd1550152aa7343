import Groundwork.Cli.Action
import Groundwork.Cli.Command
import Groundwork.Compilation
import Groundwork.Description.Parse
import Groundwork.Description.Secrets
import Groundwork.Report.Program
import Groundwork.Report.Summary

/-!
# What commands do

Each command but `schema` reads one description.  Nothing is written before the description is
known to compile.
-/

namespace Groundwork.Cli

/-- The description in a file, or why there is none. -/
def describe (path : String) (content : Except FileError String) : Except CompileError Description :=
  match content with
  | .ok text => Description.parse (.ofPath path) text
  | .error e => .error (.unreadable path e.message)

/-- Goes on with a result, or fails with the message of the error. -/
def orFail {α : Type} (result : Except CompileError α) (next : α → Action) : Action :=
  match result with
  | .ok a => next a
  | .error e => .finish (.failed e.message)

/-- Reads a description and goes on with it. -/
def withDescription (path : String) (next : Description → Action) : Action :=
  .read path fun content => orFail (describe path content) next

/-- Reads and compiles a description and goes on with the plan. -/
def withPlan (path : String) (next : Plan → Action) : Action :=
  withDescription path fun d => orFail d.compile next

/-- Lines of text, each with its end. -/
def linesOf (lines : List String) : String := String.join (lines.map (· ++ "\n"))

/-- Says what is wrong with the form of a description, or that it compiles. -/
def check (d : Description) : Action :=
  let errors := d.validate
  if errors.isEmpty then
    orFail d.compile fun p => .finish (.success (linesOf
      ["OK: " ++ d.project.name ++ " (" ++ d.project.backend.name ++ " backend, "
        ++ toString d.networks.length ++ " networks, " ++ toString p.resources.length
        ++ " resources)"]))
  else
    .finish ⟨"", linesOf (errors.map fun e => "  ERROR: " ++ e.message),
      some (toString errors.length ++ " validation error(s)")⟩

/-- Shows a plan. -/
def showPlan (p : Plan) (asJson : Bool) : Outcome :=
  .success (if asJson then linesOf [p.toJson.pretty] else p.summary)

/-- Shows the program of a report, or writes it to a file. -/
def deliver (report : Report) (output : Option String) (asJson : Bool) : Action :=
  let warnings := linesOf (report.warnings.map fun w =>
    "  WARNING: " ++ w.resourceId ++ ": " ++ w.message)
  let text := if asJson then report.toJson.pretty else report.render
  match output with
  | none => .finish ⟨text, warnings, none⟩
  | some path => .write path text fun
    | .ok () => .finish ⟨linesOf
        ["Generated " ++ toString report.blocks.length ++ " resource(s) into " ++ path],
        warnings, none⟩
    | .error e => .finish ⟨"", warnings, some ("cannot write " ++ path ++ ": " ++ e.message)⟩

/-- The schema of settings, with their type and defaults. -/
def definitionJson (d : Definition) : Json :=
  .object [("type", .text d.id), ("schema", d.schema), ("defaults", d.defaultConfig)]

/-- Shows the schema of descriptions, or of the settings behind a type tag. -/
def showSchema (resource : Option String) : Outcome :=
  match resource with
  | none => .success (linesOf [Description.recordFormat.documentSchema.pretty])
  | some tag =>
    match Registry.builtin.get? tag with
    | some d => .success (linesOf [(definitionJson d).pretty])
    | none => .failed ("unknown resource type '" ++ tag ++ "' (known: "
        ++ ", ".intercalate Registry.builtin.types ++ ")")

/-- Lists the secrets in use, with a mark at those that are not declared. -/
def showSecrets (d : Description) : Outcome :=
  let referenced := d.referencedSecrets
  let missing := d.missingSecrets
  let heading :=
    "Secrets: " ++ d.project.name ++ " (" ++ toString referenced.length ++ " referenced, "
      ++ d.project.backend.name ++ " backend)"
  let line (name : String) : String :=
    "  " ++ (if missing.contains name then "!" else " ") ++ " " ++ name
  { output := linesOf (heading :: referenced.map line)
    diagnostics := ""
    failure :=
      if missing.isEmpty then none
      else some (toString missing.length ++ " referenced secret(s) not declared: "
        ++ ", ".intercalate missing) }

/-- What a command does. -/
def Command.action : Command → Action
  | .validate file => withDescription file check
  | .plan file asJson => withPlan file fun p => .finish (showPlan p asJson)
  | .generate file output asJson =>
    withPlan file fun p => deliver (p.generateAll .builtin) output asJson
  | .schema resource => .finish (showSchema resource)
  | .secrets file => withDescription file fun d => .finish (showSecrets d)

end Groundwork.Cli
