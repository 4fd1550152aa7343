import Groundwork.Codec.Basic

/-!
# Backends

The three kinds of program that a project can be turned into.
-/

namespace Groundwork

/-- What a project is turned into. -/
inductive Backend where
  /-- Code with one declaration per resource. -/
  | flat
  /-- Code for a stack of constructs. -/
  | construct
  /-- Manifests for a container orchestrator. -/
  | manifest
  deriving DecidableEq, Repr

namespace Backend

/-- The backend's name in documents and messages. -/
def name : Backend → String
  | flat => "flat"
  | construct => "construct"
  | manifest => "manifest"

/-- How documents name a backend. -/
def codec : Codec Backend :=
  .choice "Backend" "The three mutually exclusive output backends."
    [(flat, "flat", "One resource per declaration, placeholder interpolation"),
     (construct, "construct", "Individual constructs, project-prefixed names"),
     (manifest, "manifest", "Container-orchestrator manifests")]

end Backend

end Groundwork
