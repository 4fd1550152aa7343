import Groundwork.Codec.Basic
import Groundwork.Resource.Config

/-!
# The form of resource settings

The fields of every kind of settings, in the order in which they are written and hashed.  Settings
are marked with the word for their kind: `"kind"` comes first among their fields.  What is missing
is not written.
-/

namespace Groundwork

open Codec (text truth word16 word32 float)

namespace EnvValue

/-- The word for the kind of a value. -/
def tag : EnvValue → String
  | literal _ => "literal"
  | interpolation _ => "interpolation"
  | expression _ => "expression"
  | secretKeyRef _ _ => "secret_key_ref"

/-- A value as a JSON object with its kind and its content. -/
def encode (v : EnvValue) : Json :=
  let content : Json := match v with
    | literal s => .text s
    | interpolation s => .text s
    | expression s => .text s
    | secretKeyRef name key => .object [("name", .text name), ("key", .text key)]
  .object [("kind", .text v.tag), ("value", content)]

/-- The value that a kind and a content give. -/
def ofContent? (c : Conventions) (tag : String) (content : Node) : Option EnvValue :=
  if tag = "literal" then (c.text? content).map literal
  else if tag = "interpolation" then (c.text? content).map interpolation
  else if tag = "expression" then (c.text? content).map expression
  else if tag = "secret_key_ref" then do
    let fields ← { c with listRecords := .never }.record? ["name", "key"] content
    let name ← c.text? (← fields.lookup "name")
    let key ← c.text? (← fields.lookup "key")
    return secretKeyRef name key
  else none

/-- Reads a value. -/
def decode (c : Conventions) (n : Node) : Option EnvValue := do
  let fields ← c.record? ["kind", "value"] n
  let tag ← c.choice? (← fields.lookup "kind")
  ofContent? c tag (← fields.lookup "value")

/-- The schema of a value of one kind. -/
def kindSchema (tag doc : String) (content : Schema) : Json :=
  ((Schema.record
    [⟨"kind", true, (Schema.ofType "string").set .enum (.texts [tag])⟩,
     ⟨"value", true, content⟩]).annotate doc none).body

def schema : Schema :=
  let reference := Schema.record
    [⟨"name", true, .ofType "string"⟩, ⟨"key", true, .ofType "string"⟩]
  let kinds : List Json :=
    [kindSchema "literal" "Plain string, passed through unchanged" (.ofType "string"),
     kindSchema "interpolation" "Placeholder text such as `$\x7bdbConnectionString\x7d`"
       (.ofType "string"),
     kindSchema "expression" "Direct code expression such as `apiService.uri`"
       (.ofType "string"),
     kindSchema "secret_key_ref" "Orchestrator secret key reference" reference]
  .named "EnvValue"
    ((Schema.mk [(.oneOf, .list kinds)] []).annotate "A resolved environment value." none)

def codec : Codec EnvValue where
  encode := encode
  decode := decode
  schema := schema

end EnvValue

def KernelVariant.codec : Codec KernelVariant :=
  .choice "KernelVariant" "Which kernel implementation a node uses."
    [(.native, "native", "VM-hosted container"),
     (.hybrid, "hybrid", "Always-on container service")]

def RouteBackendKind.codec : Codec RouteBackendKind :=
  .choice "RouteBackendKind" "Category a route backend resolved to."
    [(.ui, "ui", ""), (.container, "container", ""), (.function, "function", "")]

/-- A list of texts that may be left out. -/
abbrev textsSetting {ρ : Type} (name : String) (get : ρ → List String) : Field ρ (List String) :=
  .withDefault name (.list text) [] get

/-- An environment that may be left out. -/
abbrev envSetting {ρ : Type} (get : ρ → Environment) : Field ρ Environment :=
  .withDefault "env" (.map EnvValue.codec) ∅ get

def ServiceAccountConfig.recordFormat : RecordFormat ServiceAccountConfig where
  name := "ServiceAccountConfig"
  doc := ""
  fields := Fields.start ServiceAccountConfig.mk
    |>.add (.required "account_id" text (·.accountId))
    |>.add (.required "display_name" text (·.displayName))
    |>.add (textsSetting "roles" (·.roles))
    |>.add (.omittable "namespace" text (·.namespaceName))

def BucketConfig.recordFormat : RecordFormat BucketConfig where
  name := "BucketConfig"
  doc := ""
  fields := Fields.start BucketConfig.mk
    |>.add (.required "bucket_name" text (·.bucketName))
    |>.add (.required "location" text (·.location))
    |>.add (.required "storage_class" text (·.storageClass))
    |>.add (.required "versioning" truth (·.versioning))
    |>.add (.required "public" truth (·.isPublic))
    |>.add (textsSetting "cors_origins" (·.corsOrigins))
    |>.add (.omittable "namespace" text (·.namespaceName))

def SecretConfig.recordFormat : RecordFormat SecretConfig where
  name := "SecretConfig"
  doc := ""
  fields := Fields.start SecretConfig.mk
    |>.add (.required "secret_id" text (·.secretId))
    |>.add (.omittable "description" text (·.description))
    |>.add (.omittable "namespace" text (·.namespaceName))

def TopicConfig.recordFormat : RecordFormat TopicConfig where
  name := "TopicConfig"
  doc := ""
  fields := Fields.start TopicConfig.mk
    |>.add (.required "topic_name" text (·.topicName))
    |>.add (.omittable "message_retention" text (·.messageRetention))
    |>.add (.omittable "namespace" text (·.namespaceName))

def QueueConfig.recordFormat : RecordFormat QueueConfig where
  name := "QueueConfig"
  doc := ""
  fields := Fields.start QueueConfig.mk
    |>.add (.required "queue_name" text (·.queueName))
    |>.add (.required "location" text (·.location))
    |>.add (.required "max_dispatches_per_second" float (·.maxDispatchesPerSecond))
    |>.add (.required "max_attempts" word32 (·.maxAttempts))
    |>.add (.omittable "namespace" text (·.namespaceName))

def NetworkConfig.recordFormat : RecordFormat NetworkConfig where
  name := "NetworkConfig"
  doc := ""
  fields := Fields.start NetworkConfig.mk
    |>.add (.required "network_name" text (·.networkName))
    |>.add (.required "auto_create_subnetworks" truth (·.autoCreateSubnetworks))

def SubnetConfig.recordFormat : RecordFormat SubnetConfig where
  name := "SubnetConfig"
  doc := ""
  fields := Fields.start SubnetConfig.mk
    |>.add (.required "subnet_name" text (·.subnetName))
    |>.add (.required "network" text (·.network) "Code identifier of the owning network")
    |>.add (.required "cidr" text (·.cidr))
    |>.add (.required "region" text (·.region))

def FirewallConfig.recordFormat : RecordFormat FirewallConfig where
  name := "FirewallConfig"
  doc := ""
  fields := Fields.start FirewallConfig.mk
    |>.add (.required "rule_name" text (·.ruleName))
    |>.add (.required "network" text (·.network))
    |>.add (.required "protocol" text (·.protocol))
    |>.add (textsSetting "ports" (·.ports))
    |>.add (.required "source_ranges" (.list text) (·.sourceRanges))

def RegistryConfig.recordFormat : RecordFormat RegistryConfig where
  name := "RegistryConfig"
  doc := ""
  fields := Fields.start RegistryConfig.mk
    |>.add (.required "repository_id" text (·.repositoryId))
    |>.add (.required "location" text (·.location))
    |>.add (.required "format" text (·.format))
    |>.add (.required "url" text (·.url)
      "`\x7blocation\x7d-docker.pkg.dev/\x7bproject\x7d/\x7brepository\x7d`")

def ConnectorConfig.recordFormat : RecordFormat ConnectorConfig where
  name := "ConnectorConfig"
  doc := ""
  fields := Fields.start ConnectorConfig.mk
    |>.add (.required "connector_name" text (·.connectorName))
    |>.add (.required "network" text (·.network))
    |>.add (.required "region" text (·.region))
    |>.add (.required "ip_cidr_range" text (·.ipCidrRange))

def ContainerConfig.recordFormat : RecordFormat ContainerConfig where
  name := "ContainerConfig"
  doc := ""
  fields := Fields.start ContainerConfig.mk
    |>.add (.required "service_name" text (·.serviceName))
    |>.add (.required "image" text (·.image))
    |>.add (.required "region" text (·.region))
    |>.add (.required "port" word16 (·.port))
    |>.add (.required "cpu" text (·.cpu))
    |>.add (.required "memory" text (·.memory))
    |>.add (.required "min_instances" word32 (·.minInstances))
    |>.add (.required "max_instances" word32 (·.maxInstances))
    |>.add (envSetting (·.env))
    |>.add (.required "allow_unauthenticated" truth (·.allowUnauthenticated))
    |>.add (.omittable "connector" text (·.connector)
      "Code identifier of the VPC connector, when one fronts the network")

def FunctionConfig.recordFormat : RecordFormat FunctionConfig where
  name := "FunctionConfig"
  doc := ""
  fields := Fields.start FunctionConfig.mk
    |>.add (.required "function_name" text (·.functionName))
    |>.add (.required "region" text (·.region))
    |>.add (.required "runtime" text (·.runtime))
    |>.add (.required "entry_point" text (·.entryPoint))
    |>.add (.required "source" text (·.source))
    |>.add (.required "memory" text (·.memory))
    |>.add (.required "timeout_seconds" word32 (·.timeoutSeconds))
    |>.add (.omittable "trigger_topic" EnvValue.codec (·.triggerTopic))
    |>.add (envSetting (·.env))
    |>.add (.required "allow_unauthenticated" truth (·.allowUnauthenticated))
    |>.add (.omittable "connector" text (·.connector))

def DatabaseConfig.recordFormat : RecordFormat DatabaseConfig where
  name := "DatabaseConfig"
  doc := ""
  fields := Fields.start DatabaseConfig.mk
    |>.add (.required "instance_name" text (·.instanceName))
    |>.add (.required "region" text (·.region))
    |>.add (.required "engine" text (·.engine))
    |>.add (.required "tier" text (·.tier))
    |>.add (.required "disk_size_gb" word32 (·.diskSizeGb))
    |>.add (.omittable "network" text (·.network))
    |>.add (.omittable "namespace" text (·.namespaceName))

def CacheConfig.recordFormat : RecordFormat CacheConfig where
  name := "CacheConfig"
  doc := ""
  fields := Fields.start CacheConfig.mk
    |>.add (.required "instance_name" text (·.instanceName))
    |>.add (.required "region" text (·.region))
    |>.add (.required "tier" text (·.tier))
    |>.add (.required "memory_size_gb" word32 (·.memorySizeGb))
    |>.add (.omittable "network" text (·.network))
    |>.add (.omittable "namespace" text (·.namespaceName))

def KernelConfig.recordFormat : RecordFormat KernelConfig where
  name := "KernelConfig"
  doc := ""
  fields := Fields.start KernelConfig.mk
    |>.add (.required "kernel_name" text (·.kernelName))
    |>.add (.required "variant" KernelVariant.codec (·.variant))
    |>.add (.required "image" text (·.image))
    |>.add (.required "region" text (·.region))
    |>.add (.required "machine_type" text (·.machineType))
    |>.add (.required "port" word16 (·.port))
    |>.add (envSetting (·.env))
    |>.add (.omittable "connector" text (·.connector))

def UiConfig.recordFormat : RecordFormat UiConfig where
  name := "UiConfig"
  doc := ""
  fields := Fields.start UiConfig.mk
    |>.add (.required "service_name" text (·.serviceName))
    |>.add (.required "image" text (·.image))
    |>.add (.required "region" text (·.region))
    |>.add (.required "port" word16 (·.port))
    |>.add (.omittable "source" text (·.source))
    |>.add (envSetting (·.env))
    |>.add (.omittable "connector" text (·.connector))

def RouteTarget.recordFormat : RecordFormat RouteTarget where
  name := "RouteTarget"
  doc := ""
  fields := Fields.start RouteTarget.mk
    |>.add (.required "path" text (·.path))
    |>.add (.required "backend" text (·.backend) "User-facing backend name")
    |>.add (.required "backend_kind" RouteBackendKind.codec (·.backendKind))

def LoadBalancerConfig.recordFormat : RecordFormat LoadBalancerConfig where
  name := "LoadBalancerConfig"
  doc := ""
  fields := Fields.start LoadBalancerConfig.mk
    |>.add (.required "lb_name" text (·.lbName))
    |>.add (.required "region" text (·.region) "Region of the serverless endpoint groups")
    |>.add (.required "https" truth (·.https))
    |>.add (.omittable "domain" text (·.domain))
    |>.add (.required "routes" (.list RouteTarget.recordFormat.codec) (·.routes))
    |>.add (.omittable "iap_members" (.list text) (·.iapMembers)
      "IAP members; `None` when IAP is off")

def CronConfig.recordFormat : RecordFormat CronConfig where
  name := "CronConfig"
  doc := ""
  fields := Fields.start CronConfig.mk
    |>.add (.required "job_name" text (·.jobName))
    |>.add (.required "region" text (·.region))
    |>.add (.required "schedule" text (·.schedule))
    |>.add (.required "time_zone" text (·.timeZone))
    |>.add (.required "target_kind" RouteBackendKind.codec (·.targetKind))
    |>.add (.required "target" text (·.target) "User-facing target name")
    |>.add (.required "target_url" EnvValue.codec (·.targetUrl) "Base URL of the target")
    |>.add (.required "path" text (·.path))
    |>.add (.required "method" text (·.method))
    |>.add (.omittable "body" text (·.body))

def NamespaceConfig.recordFormat : RecordFormat NamespaceConfig where
  name := "NamespaceConfig"
  doc := ""
  fields := Fields.start NamespaceConfig.mk
    |>.add (.required "namespace" text (·.namespaceName))

def ConfigMapConfig.recordFormat : RecordFormat ConfigMapConfig where
  name := "ConfigMapConfig"
  doc := ""
  fields := Fields.start ConfigMapConfig.mk
    |>.add (.required "map_name" text (·.mapName))
    |>.add (.required "namespace" text (·.namespaceName))
    |>.add (.withDefault "data" (.map text) ∅ (·.data))

def DeploymentConfig.recordFormat : RecordFormat DeploymentConfig where
  name := "DeploymentConfig"
  doc := ""
  fields := Fields.start DeploymentConfig.mk
    |>.add (.required "deployment_name" text (·.deploymentName))
    |>.add (.required "namespace" text (·.namespaceName))
    |>.add (.required "image" text (·.image))
    |>.add (.required "port" word16 (·.port))
    |>.add (.required "replicas" word32 (·.replicas))
    |>.add (envSetting (·.env))
    |>.add (.required "config_map" text (·.configMap) "Shared config map injected with `envFrom`")
    |>.add (.omittable "cpu" text (·.cpu))
    |>.add (.omittable "memory" text (·.memory))

def ServiceConfig.recordFormat : RecordFormat ServiceConfig where
  name := "ServiceConfig"
  doc := ""
  fields := Fields.start ServiceConfig.mk
    |>.add (.required "service_name" text (·.serviceName))
    |>.add (.required "namespace" text (·.namespaceName))
    |>.add (.required "selector" text (·.selector) "`app` label of the pods behind the service")
    |>.add (.required "port" word16 (·.port))
    |>.add (.required "target_port" word16 (·.targetPort))

def IngressRule.recordFormat : RecordFormat IngressRule where
  name := "IngressRule"
  doc := ""
  fields := Fields.start IngressRule.mk
    |>.add (.required "path" text (·.path))
    |>.add (.required "service" text (·.service))
    |>.add (.required "port" word16 (·.port))

def IngressConfig.recordFormat : RecordFormat IngressConfig where
  name := "IngressConfig"
  doc := ""
  fields := Fields.start IngressConfig.mk
    |>.add (.required "ingress_name" text (·.ingressName))
    |>.add (.required "namespace" text (·.namespaceName))
    |>.add (.omittable "host" text (·.host))
    |>.add (.required "tls" truth (·.tls))
    |>.add (.omittable "class" text (·.ingressClass))
    |>.add (.required "rules" (.list IngressRule.recordFormat.codec) (·.rules))

def NetworkPolicyConfig.recordFormat : RecordFormat NetworkPolicyConfig where
  name := "NetworkPolicyConfig"
  doc := ""
  fields := Fields.start NetworkPolicyConfig.mk
    |>.add (.required "policy_name" text (·.policyName))
    |>.add (.required "namespace" text (·.namespaceName))
    |>.add (.required "protocol" text (·.protocol))
    |>.add (textsSetting "ports" (·.ports))
    |>.add (.required "source_ranges" (.list text) (·.sourceRanges))

namespace ResourceConfig

/-- The fields of settings without the mark of their kind. -/
def fields : ResourceConfig → List (String × Json)
  | serviceAccount c => ServiceAccountConfig.recordFormat.fields.encode c
  | bucket c => BucketConfig.recordFormat.fields.encode c
  | secret c => SecretConfig.recordFormat.fields.encode c
  | topic c => TopicConfig.recordFormat.fields.encode c
  | queue c => QueueConfig.recordFormat.fields.encode c
  | network c => NetworkConfig.recordFormat.fields.encode c
  | subnet c => SubnetConfig.recordFormat.fields.encode c
  | firewall c => FirewallConfig.recordFormat.fields.encode c
  | registry c => RegistryConfig.recordFormat.fields.encode c
  | connector c => ConnectorConfig.recordFormat.fields.encode c
  | container c => ContainerConfig.recordFormat.fields.encode c
  | function c => FunctionConfig.recordFormat.fields.encode c
  | database c => DatabaseConfig.recordFormat.fields.encode c
  | cache c => CacheConfig.recordFormat.fields.encode c
  | kernel c => KernelConfig.recordFormat.fields.encode c
  | ui c => UiConfig.recordFormat.fields.encode c
  | loadBalancer c => LoadBalancerConfig.recordFormat.fields.encode c
  | cron c => CronConfig.recordFormat.fields.encode c
  | clusterNamespace c => NamespaceConfig.recordFormat.fields.encode c
  | configMap c => ConfigMapConfig.recordFormat.fields.encode c
  | deployment c => DeploymentConfig.recordFormat.fields.encode c
  | service c => ServiceConfig.recordFormat.fields.encode c
  | ingress c => IngressConfig.recordFormat.fields.encode c
  | networkPolicy c => NetworkPolicyConfig.recordFormat.fields.encode c

/-- Settings as a JSON object, marked with their kind. -/
def encode (c : ResourceConfig) : Json :=
  .object (("kind", .text c.kind.tag) :: c.fields)

/-- Reads settings of a kind. -/
def ofKind? (c : Conventions) (n : Node) : ConfigKind → Option ResourceConfig
  | .serviceAccount => (ServiceAccountConfig.recordFormat.fields.read c n).map .serviceAccount
  | .bucket => (BucketConfig.recordFormat.fields.read c n).map .bucket
  | .secret => (SecretConfig.recordFormat.fields.read c n).map .secret
  | .topic => (TopicConfig.recordFormat.fields.read c n).map .topic
  | .queue => (QueueConfig.recordFormat.fields.read c n).map .queue
  | .network => (NetworkConfig.recordFormat.fields.read c n).map .network
  | .subnet => (SubnetConfig.recordFormat.fields.read c n).map .subnet
  | .firewall => (FirewallConfig.recordFormat.fields.read c n).map .firewall
  | .registry => (RegistryConfig.recordFormat.fields.read c n).map .registry
  | .connector => (ConnectorConfig.recordFormat.fields.read c n).map .connector
  | .container => (ContainerConfig.recordFormat.fields.read c n).map .container
  | .function => (FunctionConfig.recordFormat.fields.read c n).map .function
  | .database => (DatabaseConfig.recordFormat.fields.read c n).map .database
  | .cache => (CacheConfig.recordFormat.fields.read c n).map .cache
  | .kernel => (KernelConfig.recordFormat.fields.read c n).map .kernel
  | .ui => (UiConfig.recordFormat.fields.read c n).map .ui
  | .loadBalancer => (LoadBalancerConfig.recordFormat.fields.read c n).map .loadBalancer
  | .cron => (CronConfig.recordFormat.fields.read c n).map .cron
  | .clusterNamespace => (NamespaceConfig.recordFormat.fields.read c n).map .clusterNamespace
  | .configMap => (ConfigMapConfig.recordFormat.fields.read c n).map .configMap
  | .deployment => (DeploymentConfig.recordFormat.fields.read c n).map .deployment
  | .service => (ServiceConfig.recordFormat.fields.read c n).map .service
  | .ingress => (IngressConfig.recordFormat.fields.read c n).map .ingress
  | .networkPolicy => (NetworkPolicyConfig.recordFormat.fields.read c n).map .networkPolicy

end ResourceConfig

namespace ConfigKind

/-- Every kind of settings. -/
def all : List ConfigKind :=
  [.serviceAccount, .bucket, .secret, .topic, .queue, .network, .subnet, .firewall, .registry,
   .connector, .container, .function, .database, .cache, .kernel, .ui, .loadBalancer, .cron,
   .clusterNamespace, .configMap, .deployment, .service, .ingress, .networkPolicy]

/-- The kind that a word marks. -/
def ofTag? (s : String) : Option ConfigKind :=
  all.find? (·.tag = s)

end ConfigKind

namespace ResourceConfig

/-- Reads settings: a table with the mark and the fields in any order, or a list of the mark and
the fields in order. -/
def decode (c : Conventions) (n : Node) : Option ResourceConfig :=
  match c.follow n with
  | .table entries => do
    let isMark (entry : Node × Node) : Bool := c.text? entry.1 = some "kind"
    let mark ← entries.find? isMark
    let kind ← ConfigKind.ofTag? (← c.text? mark.2)
    ofKind? .tagged (.table (entries.filter fun entry => !isMark entry)) kind
  | .list (mark :: items) => do
    let kind ← ConfigKind.ofTag? (← c.text? mark)
    ofKind? .tagged (.list items) kind
  | _ => none

end ResourceConfig

end Groundwork
