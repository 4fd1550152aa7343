import Groundwork.CompileError
import Groundwork.Resolution.Environment
import Groundwork.Resolution.Site

/-!
# Workloads

Containers, functions, frontends and kernels.  In the cloud each is one node; in a cluster each is a
deployment and the service in front of it.
-/

namespace Groundwork

/-- What a deployment needs to know of its workload. -/
structure Pod where
  image : String
  port : UInt16
  env : Environment
  cpu : Option String
  memory : Option String

/-- The port on which services listen. -/
def servicePort : UInt16 := 80

/-- The port on which functions listen inside a cluster. -/
def functionPort : UInt16 := 8080

namespace Project

variable (p : Project)

/-- The image of a workload: its own, or the latest one of its name in the registry of its site. -/
def imageFor (site : Site) (own : Option String) (name : String) : String :=
  own.getD (imageTag (site.registryUrl.getD ("gcr.io/" ++ p.description.cloudProjectId)) name
    "latest")

/-- What a workload waits for: its site, the nodes that it refers to and those that it lists. -/
def dependencies (site : Site) (references listed : List String) : List String :=
  (site.base ++ references ++ listed.map p.dependencyId).eraseDups

/-- The deployment and the service of a workload. -/
def podNodes (c : Cluster) (site : Site) (name : String) (pod : Pod) (dependsOn : List String) :
    List Resource :=
  let label := sanitizeLabel name
  let network := some site.spec.name
  [p.node .deployment name (.deployment {
      deploymentName := label
      namespaceName := c.namespaceName
      image := pod.image
      port := pod.port
      replicas := c.replicas
      env := pod.env
      configMap := p.configMapName
      cpu := pod.cpu
      memory := pod.memory }) dependsOn network,
   p.node .service name (.service {
      serviceName := label
      namespaceName := c.namespaceName
      selector := label
      port := servicePort
      targetPort := pod.port }) [c.namespaceId, ResourceKind.deployment.nodeId name] network]

/-- The nodes of a workload: in a cluster those of its pod, else its own node. -/
def workloadNodes (site : Site) (kind : ResourceKind) (name : String) (pod : Pod)
    (config : ResourceConfig) (dependsOn : List String) : List Resource :=
  match p.cluster with
  | some c => p.podNodes c site name pod dependsOn
  | none => [p.node kind name config dependsOn (some site.spec.name)]

/-- An environment, or the reason why a description with it does not compile. -/
def environment (env secrets : OrderedMap String) : Except CompileError ResolvedEnvironment :=
  (p.resolveEnvironment env secrets).mapError .unknownProperty

def containerNodes (site : Site) (spec : ContainerSpec) : Except CompileError (List Resource) := do
  let env ← p.environment spec.env spec.secrets
  let image := p.imageFor site spec.image spec.name
  let pod : Pod := ⟨image, spec.port, env.values, some spec.cpu, some spec.memory⟩
  return p.workloadNodes site .container spec.name pod (.container {
    serviceName := p.cloudName spec.name
    image := image
    region := p.region
    port := spec.port
    cpu := spec.cpu
    memory := spec.memory
    minInstances := spec.minInstances
    maxInstances := spec.maxInstances
    env := env.values
    allowUnauthenticated := spec.allowUnauthenticated
    connector := site.connector })
    (p.dependencies site env.nodes spec.dependsOn)

/-- What triggers a function, with the node that it comes from: a reference has to be to a topic,
all else names one. -/
def trigger (function : String) :
    Option String → Except CompileError (Option EnvValue × List String)
  | none => .ok (none, [])
  | some value =>
    match Reference.parse? value with
    | none => .ok (some (.literal value), [])
    | some r =>
      if r.type = .topic then do
        let topic ← (p.renderReference r).mapError .unknownProperty
        return (some topic, [p.referenceNode r])
      else .error (.invalid p.backend (.triggerIsNoTopic function r))

def functionNodes (site : Site) (spec : FunctionSpec) : Except CompileError (List Resource) := do
  let env ← p.environment spec.env spec.secrets
  let (topic, topicNode) ← p.trigger spec.name spec.triggerTopic
  let image := p.imageFor site none spec.name
  let pod : Pod := ⟨image, functionPort, env.values, none, some spec.memory⟩
  return p.workloadNodes site .function spec.name pod (.function {
    functionName := p.cloudName spec.name
    region := p.region
    runtime := spec.runtime
    entryPoint := spec.entryPoint
    source := spec.source.getD ("functions/" ++ spec.name)
    memory := spec.memory
    timeoutSeconds := spec.timeoutSeconds
    triggerTopic := topic
    env := env.values
    allowUnauthenticated := spec.allowUnauthenticated
    connector := site.connector })
    (p.dependencies site (env.nodes ++ topicNode) spec.dependsOn)

def uiNodes (site : Site) (spec : UiSpec) : Except CompileError (List Resource) := do
  let env ← p.environment spec.env spec.secrets
  let image := p.imageFor site spec.image spec.name
  let pod : Pod := ⟨image, spec.port, env.values, none, none⟩
  return p.workloadNodes site .ui spec.name pod (.ui {
    serviceName := p.cloudName spec.name
    image := image
    region := p.region
    port := spec.port
    source := spec.source
    env := env.values
    connector := site.connector })
    (p.dependencies site env.nodes spec.dependsOn)

/-- The kernel of the project with its variant; a native one wins. -/
def kernel? : Option (KernelVariant × KernelSpec) :=
  match p.description.kernel, p.description.hybridKernel with
  | some k, _ => some (.native, k)
  | none, some k => some (.hybrid, k)
  | none, none => none

/-- The network that the kernel lives in: the one that it names, or else the first. -/
def kernelNetwork? : Option String := do
  let (_, k) ← p.kernel?
  k.network <|> p.description.networks.head?.map (·.name)

/-- The kernel, if it lives in the network. -/
def kernelOf? (n : NetworkSpec) : Option (KernelVariant × KernelSpec) :=
  if p.kernelNetwork? = some n.name then p.kernel? else none

end Project

/-- The kind of a kernel's node. -/
def KernelVariant.resourceKind : KernelVariant → ResourceKind
  | native => .kernel
  | hybrid => .hybridKernel

namespace Project

variable (p : Project)

def kernelNodes (site : Site) (variant : KernelVariant) (spec : KernelSpec) :
    Except CompileError (List Resource) := do
  let env ← p.environment spec.env spec.secrets
  let image := p.imageFor site spec.image spec.name
  let pod : Pod := ⟨image, spec.port, env.values, none, none⟩
  return p.workloadNodes site variant.resourceKind spec.name pod (.kernel {
    kernelName := p.cloudName spec.name
    variant := variant
    image := image
    region := p.region
    machineType := spec.machineType
    port := spec.port
    env := env.values
    connector := site.connector })
    (p.dependencies site env.nodes [])

/-- The site with the kernel among what workloads wait for; only constructs wait for it. -/
def siteWithKernel (site : Site) : Site :=
  if p.backend = .construct then
    { site with
      base := site.base ++ (p.kernelOf? site.spec).toList.map fun (variant, k) =>
        variant.resourceKind.nodeId k.name }
  else site

end Project

end Groundwork
