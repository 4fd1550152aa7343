import Groundwork.Description.Basic
import Groundwork.Reference

/-!
# Secrets in use

Which secrets the workloads of a project refer to, and which of those the project does not declare.
-/

namespace Groundwork.Description

/-- The environment and secrets maps of all workloads, networks first. -/
def valueMaps (d : Description) : List (OrderedMap String) :=
  let inNetwork (n : NetworkSpec) : List (OrderedMap String) :=
    n.containers.flatMap (fun c => [c.env, c.secrets])
      ++ n.functions.flatMap (fun f => [f.env, f.secrets])
      ++ n.uis.flatMap (fun u => [u.env, u.secrets])
  d.networks.flatMap inNetwork ++ d.kernels.flatMap (fun k => [k.env, k.secrets])

/-- The names of the secrets that workloads refer to, each once, in the order of their first
reference. -/
def referencedSecrets (d : Description) : List String :=
  let references := d.valueMaps.flatMap Reference.extract
  ((references.filter (·.type = .secret)).map (·.name)).eraseDups

/-- The names of the secrets that workloads refer to and the project does not declare. -/
def missingSecrets (d : Description) : List String :=
  d.referencedSecrets.filter fun name => !d.secrets.any (·.name = name)

end Groundwork.Description
