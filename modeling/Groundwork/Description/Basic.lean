import Groundwork.Backend

/-!
# Project descriptions

What a project declares: its identity, resources outside any network, networks with the workloads
inside them, scheduled jobs and kernels.
-/

namespace Groundwork

/-- The project's identity and the backend it is for. -/
structure ProjectSection where
  name : String
  region : String
  cloudProjectId : Option String
  backend : Backend

/-- The account that workloads run under. -/
structure ServiceAccountSpec where
  name : String
  displayName : Option String
  roles : List String

/-- An object storage bucket. -/
structure BucketSpec where
  name : String
  location : Option String
  storageClass : String
  versioning : Bool
  isPublic : Bool
  corsOrigins : List String

/-- A secret; its value comes from elsewhere. -/
structure SecretSpec where
  name : String
  description : Option String

/-- A topic that messages are published on. -/
structure TopicSpec where
  name : String
  messageRetention : Option String

/-- A task queue. -/
structure QueueSpec where
  name : String
  maxDispatchesPerSecond : Option Float
  maxAttempts : Option UInt32

/-- A part of a network's address range. -/
structure SubnetSpec where
  name : String
  cidr : String
  region : Option String

/-- What traffic a network lets in. -/
structure FirewallSpec where
  name : String
  protocol : String
  ports : List String
  sourceRanges : List String

/-- A registry for the images of a network's workloads. -/
structure RegistrySpec where
  name : String
  format : String

/-- A container that serves requests. -/
structure ContainerSpec where
  name : String
  image : Option String
  port : UInt16
  cpu : String
  memory : String
  minInstances : UInt32
  maxInstances : UInt32
  env : OrderedMap String
  secrets : OrderedMap String
  allowUnauthenticated : Bool
  dependsOn : List String

/-- A function that runs on a request or a message. -/
structure FunctionSpec where
  name : String
  runtime : String
  entryPoint : String
  source : Option String
  memory : String
  timeoutSeconds : UInt32
  triggerTopic : Option String
  env : OrderedMap String
  secrets : OrderedMap String
  allowUnauthenticated : Bool
  dependsOn : List String

/-- A managed database. -/
structure DatabaseSpec where
  name : String
  engine : String
  tier : String
  diskSizeGb : UInt32

/-- A managed cache. -/
structure CacheSpec where
  name : String
  tier : String
  memorySizeGb : UInt32

/-- A frontend, served as a container. -/
structure UiSpec where
  name : String
  image : Option String
  source : Option String
  port : UInt16
  env : OrderedMap String
  secrets : OrderedMap String
  dependsOn : List String

/-- Which workload a load balancer sends a path to. -/
structure RouteSpec where
  path : String
  backend : String

/-- Who may pass the proxy in front of a load balancer. -/
structure IapSpec where
  enabled : Bool
  members : List String

/-- A load balancer in front of a network's workloads. -/
structure LoadBalancerSpec where
  name : Option String
  https : Bool
  domain : Option String
  routes : List RouteSpec
  iap : Option IapSpec

/-- A network and all that is declared inside it. -/
structure NetworkSpec where
  name : String
  subnets : List SubnetSpec
  firewall : List FirewallSpec
  registry : Option RegistrySpec
  containers : List ContainerSpec
  functions : List FunctionSpec
  databases : List DatabaseSpec
  caches : List CacheSpec
  uis : List UiSpec
  loadBalancer : Option LoadBalancerSpec

/-- A request sent to a workload on a schedule. -/
structure CronSpec where
  name : String
  schedule : String
  target : String
  timeZone : String
  path : String
  method : String
  body : Option String

/-- A service that always runs. -/
structure KernelSpec where
  name : String
  network : Option String
  image : Option String
  machineType : String
  port : UInt16
  env : OrderedMap String
  secrets : OrderedMap String

/-- The cluster that manifests are for. -/
structure KubernetesSection where
  namespaceName : Option String
  registry : Option String
  ingressClass : Option String
  replicas : UInt32

/-- All that one project declares. -/
structure Description where
  project : ProjectSection
  serviceAccount : Option ServiceAccountSpec
  buckets : List BucketSpec
  secrets : List SecretSpec
  topics : List TopicSpec
  queues : List QueueSpec
  networks : List NetworkSpec
  crons : List CronSpec
  kernel : Option KernelSpec
  hybridKernel : Option KernelSpec
  kubernetes : Option KubernetesSection

namespace NetworkSpec

/-- Whether the network declares anything that lives inside it: subnets, firewall rules, databases
or caches. -/
def hasInfrastructure (n : NetworkSpec) : Bool :=
  !n.subnets.isEmpty || !n.firewall.isEmpty || !n.databases.isEmpty || !n.caches.isEmpty

/-- Whether the network declares a container, function or frontend. -/
def hasWorkload (n : NetworkSpec) : Bool :=
  !n.containers.isEmpty || !n.functions.isEmpty || !n.uis.isEmpty

/-- The first container of a name. -/
def container? (n : NetworkSpec) (name : String) : Option ContainerSpec :=
  n.containers.find? (·.name = name)

/-- The first function of a name. -/
def function? (n : NetworkSpec) (name : String) : Option FunctionSpec :=
  n.functions.find? (·.name = name)

/-- The first frontend of a name. -/
def ui? (n : NetworkSpec) (name : String) : Option UiSpec :=
  n.uis.find? (·.name = name)

end NetworkSpec

namespace Description

/-- The project's id in the cloud: its own, or else its name. -/
def cloudProjectId (d : Description) : String :=
  d.project.cloudProjectId.getD d.project.name

/-- The first network of a name. -/
def network? (d : Description) (name : String) : Option NetworkSpec :=
  d.networks.find? (·.name = name)

/-- The declared kernels, the native one first. -/
def kernels (d : Description) : List KernelSpec :=
  d.kernel.toList ++ d.hybridKernel.toList

/-- Whether there is anything to run: a workload in some network or a kernel. -/
def hasWorkload (d : Description) : Bool :=
  !d.kernels.isEmpty || d.networks.any (·.hasWorkload)

end Description

end Groundwork
