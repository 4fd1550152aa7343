import Groundwork.Manifest.Basic
import Groundwork.Resource.Config
import Groundwork.Text.Case

/-!
# Cluster objects as manifests

Namespaces, config maps, accounts, secrets, deployments with their services, ingresses and network
policies.
-/

namespace Groundwork.Manifest

def namespaceObject (c : NamespaceConfig) : Json :=
  document "v1" "Namespace" (metadata c.namespaceName none [] []) []

def configMap (c : ConfigMapConfig) : Json :=
  document "v1" "ConfigMap" (metadata c.mapName (some c.namespaceName) [] [])
    [("data", .object (c.data.entries.map fun (key, value) => (key, .text value)))]

def serviceAccount (c : ServiceAccountConfig) : Json :=
  document "v1" "ServiceAccount"
    (metadata c.accountId c.namespaceName []
      (annotated "stackgraph.io/display-name" (some c.displayName))) []

/-- A secret without a value; that is filled in elsewhere. -/
def secret (c : SecretConfig) : Json :=
  document "v1" "Secret"
    (metadata c.secretId c.namespaceName []
      (annotated "stackgraph.io/description" c.description))
    [("type", .text "Opaque"), ("stringData", nested "value" (.text ""))]

/-! ## Deployments and services -/

/-- An environment variable of a container. -/
def envVariable (name : String) (value : EnvValue) : Json :=
  match value with
  | .secretKeyRef secret key =>
    .object
      [("name", .text name),
       ("valueFrom", nested "secretKeyRef" (.object [("name", .text secret), ("key", .text key)]))]
  | .literal s => .object [("name", .text name), ("value", .text s)]
  | .interpolation s => .object [("name", .text name), ("value", .text s)]
  | .expression s => .object [("name", .text name), ("value", .text s)]

/-- The container of a deployment. -/
def podContainer (c : DeploymentConfig) : Json :=
  let env : List (String × Json) :=
    if c.env.isEmpty then []
    else [("env", .list (c.env.entries.map fun (name, value) => envVariable name value))]
  let envFrom : List (String × Json) :=
    if c.configMap.isEmpty then []
    else [("envFrom", .list [nested "configMapRef" (nested "name" (.text c.configMap))])]
  let limits := optionalText "cpu" c.cpu ++ optionalText "memory" c.memory
  let resources : List (String × Json) :=
    if limits.isEmpty then [] else [("resources", nested "limits" (.object limits))]
  .object
    ([("name", .text c.deploymentName),
      ("image", .text c.image),
      ("ports", .list [nested "containerPort" (.int c.port.toNat)])]
      ++ env ++ envFrom ++ resources)

def deployment (c : DeploymentConfig) : Json :=
  let app := nested "app" (.text c.deploymentName)
  document "apps/v1" "Deployment"
    (metadata c.deploymentName (some c.namespaceName) [("app", .text c.deploymentName)] [])
    [("spec", .object
      [("replicas", .int c.replicas.toNat),
       ("selector", nested "matchLabels" app),
       ("template", .object
         [("metadata", nested "labels" app),
          ("spec", nested "containers" (.list [podContainer c]))])])]

def service (c : ServiceConfig) : Json :=
  document "v1" "Service" (metadata c.serviceName (some c.namespaceName) [] [])
    [("spec", .object
      [("selector", nested "app" (.text c.selector)),
       ("ports", .list [.object
         [("port", .int c.port.toNat), ("targetPort", .int c.targetPort.toNat)]])])]

/-! ## Ingresses -/

/-- The text without the given character at its end. -/
def dropTrailing (c : Char) (s : String) : String :=
  String.ofList (s.toList.reverse.dropWhile (· = c)).reverse

/-- The path that stands for a pattern: `/api/*` means all below `/api`. -/
def pathOf (pattern : String) : String :=
  let path := dropTrailing '/' (dropTrailing '*' pattern)
  if path.isEmpty then "/" else path

/-- A rule of an ingress. -/
def ingressPath (rule : IngressRule) : Json :=
  .object
    [("path", .text (pathOf rule.path)),
     ("pathType", .text "Prefix"),
     ("backend", nested "service" (.object
       [("name", .text rule.service), ("port", nested "number" (.int rule.port.toNat))]))]

def ingress (c : IngressConfig) : Json :=
  let http := ("http", nested "paths" (.list (c.rules.map ingressPath)))
  let tls := if c.tls then c.host else none
  document "networking.k8s.io/v1" "Ingress"
    (metadata c.ingressName (some c.namespaceName) [] [])
    [("spec", .object
      (optionalText "ingressClassName" c.ingressClass
        ++ optional "tls" (tls.map fun host => .list [.object
          [("hosts", .texts [host]), ("secretName", .text (c.ingressName ++ "-tls"))]])
        ++ [("rules", .list [.object (http :: optionalText "host" c.host)])]))]

/-! ## Network policies -/

/-- The port number that a text writes in decimal digits, perhaps after a plus sign. -/
def portNumber? (cs : List Char) : Option Nat :=
  let digits := match cs with
    | '+' :: rest => rest
    | _ => cs
  if digits.isEmpty || !digits.all Char.isDigit then none
  else
    let n := digits.foldl (fun n c => 10 * n + (c.toNat - '0'.toNat)) 0
    if n < UInt16.size then some n else none

/-- The numbers that a port or a range of ports is made of. -/
def portRange? (port : String) : Option (Nat × Option Nat) :=
  let cs := port.toList
  match cs.dropWhile (· ≠ '-') with
  | [] => (portNumber? cs).map fun n => (n, none)
  | _ :: rest => do
    let first ← portNumber? (cs.takeWhile (· ≠ '-'))
    let last ← portNumber? rest
    return (first, some last)

/-- A port of a policy; one that is no number is a name. -/
def policyPort (protocol port : String) : Json :=
  let protocol := ("protocol", Json.text (uppercase protocol))
  match portRange? port with
  | some (first, some last) =>
    .object [protocol, ("port", .int first), ("endPort", .int last)]
  | some (only, none) => .object [protocol, ("port", .int only)]
  | none => .object [protocol, ("port", .text port)]

def networkPolicy (c : NetworkPolicyConfig) : Json :=
  let sources := c.sourceRanges.map fun cidr => nested "ipBlock" (nested "cidr" (.text cidr))
  let ports : List (String × Json) :=
    if c.ports.isEmpty then [] else [("ports", .list (c.ports.map (policyPort c.protocol)))]
  document "networking.k8s.io/v1" "NetworkPolicy"
    (metadata c.policyName (some c.namespaceName) [] [])
    [("spec", .object
      [("podSelector", .object []),
       ("policyTypes", .texts ["Ingress"]),
       ("ingress", .list [.object (("from", .list sources) :: ports)])])]

end Groundwork.Manifest
