import Groundwork.OrderedMap

/-!
# Settings of resources

What a node of each kind carries once a project is resolved: names are final, defaults are filled
in and references are rendered.
-/

namespace Groundwork

/-- The resolved value of an environment variable. -/
inductive EnvValue where
  /-- The text itself. -/
  | literal (text : String)
  /-- A placeholder such as `${dbConnectionString}`. -/
  | interpolation (text : String)
  /-- A code expression such as `api_service.uri`. -/
  | expression (code : String)
  /-- A key of a secret that the orchestrator holds. -/
  | secretKeyRef (name key : String)
  deriving DecidableEq, Repr

/-- Environment variables in order. -/
abbrev Environment := OrderedMap EnvValue

structure ServiceAccountConfig where
  accountId : String
  displayName : String
  roles : List String
  namespaceName : Option String

structure BucketConfig where
  bucketName : String
  location : String
  storageClass : String
  versioning : Bool
  isPublic : Bool
  corsOrigins : List String
  namespaceName : Option String

structure SecretConfig where
  secretId : String
  description : Option String
  namespaceName : Option String

structure TopicConfig where
  topicName : String
  messageRetention : Option String
  namespaceName : Option String

structure QueueConfig where
  queueName : String
  location : String
  maxDispatchesPerSecond : Float
  maxAttempts : UInt32
  namespaceName : Option String

structure NetworkConfig where
  networkName : String
  autoCreateSubnetworks : Bool

/-- `network` is the code identifier of the network that the subnet belongs to. -/
structure SubnetConfig where
  subnetName : String
  network : String
  cidr : String
  region : String

structure FirewallConfig where
  ruleName : String
  network : String
  protocol : String
  ports : List String
  sourceRanges : List String

structure RegistryConfig where
  repositoryId : String
  location : String
  format : String
  url : String

structure ConnectorConfig where
  connectorName : String
  network : String
  region : String
  ipCidrRange : String

/-- `connector` is the code identifier of the connector in front of the network, if there is
one. -/
structure ContainerConfig where
  serviceName : String
  image : String
  region : String
  port : UInt16
  cpu : String
  memory : String
  minInstances : UInt32
  maxInstances : UInt32
  env : Environment
  allowUnauthenticated : Bool
  connector : Option String

structure FunctionConfig where
  functionName : String
  region : String
  runtime : String
  entryPoint : String
  source : String
  memory : String
  timeoutSeconds : UInt32
  triggerTopic : Option EnvValue
  env : Environment
  allowUnauthenticated : Bool
  connector : Option String

structure DatabaseConfig where
  instanceName : String
  region : String
  engine : String
  tier : String
  diskSizeGb : UInt32
  network : Option String
  namespaceName : Option String

structure CacheConfig where
  instanceName : String
  region : String
  tier : String
  memorySizeGb : UInt32
  network : Option String
  namespaceName : Option String

/-- Whether a kernel runs on a machine of its own or as a container service. -/
inductive KernelVariant where
  | native
  | hybrid
  deriving DecidableEq, Repr

structure KernelConfig where
  kernelName : String
  variant : KernelVariant
  image : String
  region : String
  machineType : String
  port : UInt16
  env : Environment
  connector : Option String

structure UiConfig where
  serviceName : String
  image : String
  region : String
  port : UInt16
  source : Option String
  env : Environment
  connector : Option String

/-- What a route leads to. -/
inductive RouteBackendKind where
  | ui
  | container
  | function
  deriving DecidableEq, Repr

/-- A path and the workload that it leads to. -/
structure RouteTarget where
  path : String
  backend : String
  backendKind : RouteBackendKind
  deriving DecidableEq, Repr

/-- `iapMembers` is missing when no proxy checks who passes. -/
structure LoadBalancerConfig where
  lbName : String
  region : String
  https : Bool
  domain : Option String
  routes : List RouteTarget
  iapMembers : Option (List String)

structure CronConfig where
  jobName : String
  region : String
  schedule : String
  timeZone : String
  targetKind : RouteBackendKind
  target : String
  targetUrl : EnvValue
  path : String
  method : String
  body : Option String

structure NamespaceConfig where
  namespaceName : String

structure ConfigMapConfig where
  mapName : String
  namespaceName : String
  data : OrderedMap String

/-- `configMap` is the config map that every container of the deployment reads. -/
structure DeploymentConfig where
  deploymentName : String
  namespaceName : String
  image : String
  port : UInt16
  replicas : UInt32
  env : Environment
  configMap : String
  cpu : Option String
  memory : Option String

/-- `selector` is the label of the pods behind the service. -/
structure ServiceConfig where
  serviceName : String
  namespaceName : String
  selector : String
  port : UInt16
  targetPort : UInt16

structure IngressRule where
  path : String
  service : String
  port : UInt16
  deriving DecidableEq, Repr

structure IngressConfig where
  ingressName : String
  namespaceName : String
  host : Option String
  tls : Bool
  ingressClass : Option String
  rules : List IngressRule

structure NetworkPolicyConfig where
  policyName : String
  namespaceName : String
  protocol : String
  ports : List String
  sourceRanges : List String

/-- The settings of a node. -/
inductive ResourceConfig where
  | serviceAccount (c : ServiceAccountConfig)
  | bucket (c : BucketConfig)
  | secret (c : SecretConfig)
  | topic (c : TopicConfig)
  | queue (c : QueueConfig)
  | network (c : NetworkConfig)
  | subnet (c : SubnetConfig)
  | firewall (c : FirewallConfig)
  | registry (c : RegistryConfig)
  | connector (c : ConnectorConfig)
  | container (c : ContainerConfig)
  | function (c : FunctionConfig)
  | database (c : DatabaseConfig)
  | cache (c : CacheConfig)
  | kernel (c : KernelConfig)
  | ui (c : UiConfig)
  | loadBalancer (c : LoadBalancerConfig)
  | cron (c : CronConfig)
  | clusterNamespace (c : NamespaceConfig)
  | configMap (c : ConfigMapConfig)
  | deployment (c : DeploymentConfig)
  | service (c : ServiceConfig)
  | ingress (c : IngressConfig)
  | networkPolicy (c : NetworkPolicyConfig)

/-- The kinds of settings. -/
inductive ConfigKind where
  | serviceAccount
  | bucket
  | secret
  | topic
  | queue
  | network
  | subnet
  | firewall
  | registry
  | connector
  | container
  | function
  | database
  | cache
  | kernel
  | ui
  | loadBalancer
  | cron
  | clusterNamespace
  | configMap
  | deployment
  | service
  | ingress
  | networkPolicy
  deriving DecidableEq, Repr

namespace ConfigKind

/-- The word that marks settings of this kind. -/
def tag : ConfigKind → String
  | serviceAccount => "service_account"
  | bucket => "bucket"
  | secret => "secret"
  | topic => "topic"
  | queue => "queue"
  | network => "network"
  | subnet => "subnet"
  | firewall => "firewall"
  | registry => "registry"
  | connector => "connector"
  | container => "container"
  | function => "function"
  | database => "database"
  | cache => "cache"
  | kernel => "kernel"
  | ui => "ui"
  | loadBalancer => "load_balancer"
  | cron => "cron"
  | clusterNamespace => "namespace"
  | configMap => "config_map"
  | deployment => "deployment"
  | service => "service"
  | ingress => "ingress"
  | networkPolicy => "network_policy"

end ConfigKind

namespace ResourceConfig

/-- The kind of some settings. -/
def kind : ResourceConfig → ConfigKind
  | serviceAccount _ => .serviceAccount
  | bucket _ => .bucket
  | secret _ => .secret
  | topic _ => .topic
  | queue _ => .queue
  | network _ => .network
  | subnet _ => .subnet
  | firewall _ => .firewall
  | registry _ => .registry
  | connector _ => .connector
  | container _ => .container
  | function _ => .function
  | database _ => .database
  | cache _ => .cache
  | kernel _ => .kernel
  | ui _ => .ui
  | loadBalancer _ => .loadBalancer
  | cron _ => .cron
  | clusterNamespace _ => .clusterNamespace
  | configMap _ => .configMap
  | deployment _ => .deployment
  | service _ => .service
  | ingress _ => .ingress
  | networkPolicy _ => .networkPolicy

/-- The image of a node that runs a container. -/
def image? : ResourceConfig → Option String
  | container c => some c.image
  | kernel c => some c.image
  | ui c => some c.image
  | deployment c => some c.image
  | _ => none

/-- The environment of a node that runs code. -/
def env? : ResourceConfig → Option Environment
  | container c => some c.env
  | function c => some c.env
  | kernel c => some c.env
  | ui c => some c.env
  | deployment c => some c.env
  | _ => none

end ResourceConfig

namespace RouteBackendKind

/-- The word for the kind in documents and messages. -/
def name : RouteBackendKind → String
  | ui => "ui"
  | container => "container"
  | function => "function"

end RouteBackendKind

end Groundwork
