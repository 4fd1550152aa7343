import Groundwork.Cli.Directory

/-!
# Actions

What a command does: it may read and write files, and in the end it has something to say.  An
action is a value that can be carried out on a directory or by a system.
-/

namespace Groundwork.Cli

/-- What a command says in the end. -/
structure Outcome where
  /-- The text for the standard output. -/
  output : String
  /-- The text for the standard error output. -/
  diagnostics : String
  /-- Why the command failed, if it did. -/
  failure : Option String
  deriving DecidableEq, Repr

namespace Outcome

/-- A success with some output. -/
def success (output : String) : Outcome := ⟨output, "", none⟩

/-- A failure that says nothing but why. -/
def failed (reason : String) : Outcome := ⟨"", "", some reason⟩

end Outcome

/-- What a command does. -/
inductive Action where
  | finish (o : Outcome)
  | read (path : String) (next : Except FileError String → Action)
  | write (path text : String) (next : Except FileError Unit → Action)

/-- Carries out an action on a directory. -/
def Action.runIn (d : Directory) : Action → Outcome × Directory
  | .finish o => (o, d)
  | .read path next => (next (d.read path)).runIn d
  | .write path text next =>
    match d.write path text with
    | .ok d => (next (.ok ())).runIn d
    | .error e => (next (.error e)).runIn d

end Groundwork.Cli
