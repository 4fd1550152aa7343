import Groundwork.Cli.Execution

/-!
# The program

Carries out the command that the arguments write.
-/

namespace Groundwork.Cli

/-- What a system says about a file, in this program's words. -/
def FileError.ofSystem : IO.Error → FileError
  | .noFileOrDirectory _ _ _ => .notFound
  | .noSuchThing _ _ _ => .notFound
  | .inappropriateType _ 20 _ => .notDirectory
  | .inappropriateType _ 21 _ => .isDirectory
  | .invalidArgument _ 36 _ => .nameTooLong
  | e => .other (toString e)

/-- Carries out an action in the file system. -/
def Action.perform : Action → IO Outcome
  | .finish o => return o
  | .read path next => do
    let content ← (IO.FS.readFile path).toBaseIO
    (next (content.mapError FileError.ofSystem)).perform
  | .write path text next => do
    let result ← (IO.FS.writeFile path text).toBaseIO
    (next (result.mapError FileError.ofSystem)).perform

/-- How the program is called. -/
def usage : String :=
  "usage: validate | plan | generate | schema | secrets [-f FILE] [-o OUTPUT] [--json] "
    ++ "[--resource TYPE]"

/-- Runs the program; the answer is its exit code. -/
def run (args : List String) : IO UInt32 := do
  match Command.ofArguments? args with
  | none =>
    IO.eprintln usage
    return 2
  | some command =>
    let outcome ← command.action.perform
    IO.print outcome.output
    IO.eprint outcome.diagnostics
    match outcome.failure with
    | none => return 0
    | some reason =>
      IO.eprintln ("error: " ++ reason)
      return 1

end Groundwork.Cli

def main (args : List String) : IO UInt32 := Groundwork.Cli.run args
