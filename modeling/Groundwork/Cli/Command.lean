/-!
# Commands

The commands and how they are written on a command line: a name and then options.  An option has a
name after two dashes and perhaps a letter after one dash; its value follows, attached or as the
next argument.  No option may be given twice.
-/

namespace Groundwork.Cli

/-- A command. -/
inductive Command where
  | validate (file : String)
  | plan (file : String) (asJson : Bool)
  | generate (file : String) (output : Option String) (asJson : Bool)
  | schema (resource : Option String)
  | secrets (file : String)
  deriving DecidableEq, Repr

/-- What an option takes. -/
inductive OptionKind where
  /-- No value. -/
  | flag
  /-- A path, which is not empty. -/
  | path
  /-- Any text. -/
  | text
  deriving DecidableEq, Repr

/-- An option. -/
structure OptionForm where
  name : String
  letter : Option Char
  kind : OptionKind

namespace OptionForm

def file : OptionForm := ⟨"file", some 'f', .path⟩

def output : OptionForm := ⟨"output", some 'o', .path⟩

def json : OptionForm := ⟨"json", none, .flag⟩

def resource : OptionForm := ⟨"resource", none, .text⟩

/-- Whether the option can have a value. -/
def admits (form : OptionForm) (value : String) : Bool :=
  match form.kind with
  | .flag => false
  | .path => !value.isEmpty
  | .text => true

end OptionForm

/-- The options given, by name; a flag has the empty value. -/
abbrev Given := List (String × String)

namespace Given

/-- Adds an option that has not been given. -/
def add? (given : Given) (form : OptionForm) (value : String) : Option Given :=
  if (given.lookup form.name).isSome then none else some (given ++ [(form.name, value)])

/-- Adds an option with its value. -/
def addValue? (given : Given) (form : OptionForm) (value : String) : Option Given :=
  if form.admits value then given.add? form value else none

end Given

/-- An argument as it is written. -/
inductive Argument where
  /-- Two dashes alone. -/
  | separator
  | long (name : String) (value : Option String)
  | short (letter : Char) (value : Option String)
  | word (text : String)
  deriving DecidableEq, Repr

namespace Argument

/-- Reads an argument.  One dash alone is a word. -/
def of (arg : String) : Argument :=
  match arg.toList with
  | ['-', '-'] => separator
  | '-' :: '-' :: rest =>
    let name := String.ofList (rest.takeWhile (· ≠ '='))
    match rest.dropWhile (· ≠ '=') with
    | [] => long name none
    | _ :: value => long name (some (String.ofList value))
  | ['-', letter] => short letter none
  | '-' :: letter :: '=' :: value => short letter (some (String.ofList value))
  | '-' :: letter :: value => short letter (some (String.ofList value))
  | _ => word arg

/-- The option that an argument names, and the value attached to it. -/
def form? (forms : List OptionForm) : Argument → Option (OptionForm × Option String)
  | long name value => (forms.find? (·.name = name)).map (·, value)
  | short letter value => (forms.find? (·.letter = some letter)).map (·, value)
  | _ => none

end Argument

/-- Reads the options after the name of a command. -/
def readOptions (forms : List OptionForm) (given : Given) : List String → Option Given
  | [] => some given
  | arg :: rest =>
    match Argument.of arg with
    | .separator => if rest.isEmpty then some given else none
    | argument =>
      match argument.form? forms with
      | none => none
      | some (form, attached) =>
        match form.kind, attached with
        | .flag, none =>
          match given.add? form "" with
          | some given => readOptions forms given rest
          | none => none
        | .flag, some _ => none
        | _, some value =>
          match given.addValue? form value with
          | some given => readOptions forms given rest
          | none => none
        | _, none =>
          match rest with
          | [] => none
          | next :: rest =>
            match Argument.of next with
            | .word value =>
              match given.addValue? form value with
              | some given => readOptions forms given rest
              | none => none
            | _ => none

namespace Command

/-- The file that a command reads unless told otherwise. -/
def defaultFile : String := "stackgraph.yaml"

/-- The file that options name. -/
def fileOf (given : Given) : String := (given.lookup "file").getD defaultFile

/-- Reads a command line; `none` if it is none. -/
def ofArguments? : List String → Option Command
  | "validate" :: rest => do
    return .validate (fileOf (← readOptions [.file] [] rest))
  | "plan" :: rest => do
    let given ← readOptions [.file, .json] [] rest
    return .plan (fileOf given) (given.lookup "json").isSome
  | "generate" :: rest => do
    let given ← readOptions [.file, .output, .json] [] rest
    return .generate (fileOf given) (given.lookup "output") (given.lookup "json").isSome
  | "schema" :: rest => do
    return .schema ((← readOptions [.resource] [] rest).lookup "resource")
  | "secrets" :: rest => do
    return .secrets (fileOf (← readOptions [.file] [] rest))
  | _ => none

end Command

end Groundwork.Cli
