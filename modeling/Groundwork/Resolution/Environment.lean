import Groundwork.Resolution.Project
import Groundwork.Reference

/-!
# Resolved environments

What a reference in an environment becomes, which node it makes a workload wait for, and how the
environment and the secrets of a workload become one.
-/

namespace Groundwork

/-- The key under which a secret of the cluster holds its value. -/
def secretKey : String := "value"

namespace ReferenceType

/-- How the identifier of a workload's declaration ends. -/
def identifierSuffix : ReferenceType → String
  | function => "function"
  | _ => "service"

/-- The field of a declared workload that holds an output. -/
def outputField (t : ReferenceType) (output : String) : String :=
  if output = "url" then
    if t = function then "serviceConfig.uri" else "uri"
  else "name"

end ReferenceType

namespace Project

variable (p : Project)

/-- Whether some network declares a workload of the type and name. -/
def declares (type : ReferenceType) (name : String) : Bool :=
  p.description.networks.any fun n =>
    match type with
    | .container => (n.container? name).isSome
    | .function => (n.function? name).isSome
    | _ => false

/-- The value that a reference to an output becomes in a cluster, if the cluster knows it. -/
def clusterValue? (c : Cluster) (r : Reference) (output : String) : Option EnvValue :=
  let label := sanitizeLabel r.name
  if r.type = .secret then
    some (if output = "secretName" then .literal label else .secretKeyRef label secretKey)
  else if r.type.isWorkload then
    some (.literal (if output = "url" then
      "http://" ++ label ++ "." ++ c.namespaceName ++ ".svc.cluster.local" else label))
  else none

/-- The expression that a reference to an output of a declared workload becomes. -/
def workloadExpression? (r : Reference) (output : String) : Option EnvValue :=
  if r.type.isWorkload && p.declares r.type r.name then
    some (.expression
      (codeIdentifier r.name r.type.identifierSuffix ++ "." ++ r.type.outputField output))
  else none

/-- The value that a reference becomes.  Constructs refer to declared workloads by code, clusters to
workloads and secrets by their names; all else is a placeholder. -/
def renderReference (r : Reference) : Except UnknownProperty EnvValue := do
  let output ← r.output
  let placeholder := EnvValue.interpolation (← r.placeholder)
  return match p.backend, p.cluster with
    | .construct, _ => (p.workloadExpression? r output).getD placeholder
    | .manifest, some c => (clusterValue? c r output).getD placeholder
    | _, _ => placeholder

/-- The id of the node that a reference points at; in a cluster, workloads are reached through their
deployments. -/
def referenceNode (r : Reference) : String :=
  if p.cluster.isSome && r.type.isWorkload then ResourceKind.deployment.nodeId r.name
  else r.resourceId

/-- The node id that an entry of a dependency list means. -/
def dependencyId (entry : String) : String :=
  match Reference.parse? entry with
  | some r => p.referenceNode r
  | none => entry

/-- Environment and secrets in one map; a secret takes the place of a variable of its name. -/
def effectiveValues (env secrets : OrderedMap String) : OrderedMap String :=
  env.insertAll secrets.entries

/-- The environment of a workload, value by value. -/
def resolveEnv (env secrets : OrderedMap String) : Except UnknownProperty Environment :=
  Reference.resolveMap p.renderReference .literal (effectiveValues env secrets)

/-- The nodes that the environment of a workload refers to, one for each reference. -/
def referencedNodes (env secrets : OrderedMap String) : List String :=
  (Reference.extract (effectiveValues env secrets)).map p.referenceNode

end Project

/-- The environment of a workload, and the nodes that it refers to. -/
structure ResolvedEnvironment where
  values : Environment
  /-- The ids of the nodes, each once, in the order in which they first come. -/
  nodes : List String

/-- Resolves the environment and the secrets of a workload in one go. -/
def Project.resolveEnvironment (p : Project) (env secrets : OrderedMap String) :
    Except UnknownProperty ResolvedEnvironment := do
  let resolved ← Reference.resolveAll p.renderReference .literal (effectiveValues env secrets)
  return ⟨resolved.values, (resolved.references.map p.referenceNode).eraseDups⟩

end Groundwork
