import Groundwork.Resource.Format

/-!
# Kinds of settings

For every kind of settings: its form, its values before anything is said, and how to tell it from
the others.
-/

namespace Groundwork

/-- What there is to know about one kind of settings. -/
structure SettingsKind (α : Type) where
  kind : ConfigKind
  recordFormat : RecordFormat α
  default : α
  select? : ResourceConfig → Option α
  isSome_select? : ∀ c, (select? c).isSome ↔ c.kind = kind

namespace SettingsKind

/-- The region of resources that say nothing about theirs. -/
def defaultRegion : String := "us-central1"

def serviceAccount : SettingsKind ServiceAccountConfig where
  kind := .serviceAccount
  recordFormat := ServiceAccountConfig.recordFormat
  default := ⟨"", "", [], none⟩
  select?
    | .serviceAccount c => some c
    | _ => none
  isSome_select? c := by cases c <;> simp [ResourceConfig.kind]

def bucket : SettingsKind BucketConfig where
  kind := .bucket
  recordFormat := BucketConfig.recordFormat
  default := ⟨"", "US", "STANDARD", false, false, [], none⟩
  select?
    | .bucket c => some c
    | _ => none
  isSome_select? c := by cases c <;> simp [ResourceConfig.kind]

def secret : SettingsKind SecretConfig where
  kind := .secret
  recordFormat := SecretConfig.recordFormat
  default := ⟨"", none, none⟩
  select?
    | .secret c => some c
    | _ => none
  isSome_select? c := by cases c <;> simp [ResourceConfig.kind]

def topic : SettingsKind TopicConfig where
  kind := .topic
  recordFormat := TopicConfig.recordFormat
  default := ⟨"", none, none⟩
  select?
    | .topic c => some c
    | _ => none
  isSome_select? c := by cases c <;> simp [ResourceConfig.kind]

def queue : SettingsKind QueueConfig where
  kind := .queue
  recordFormat := QueueConfig.recordFormat
  default := ⟨"", defaultRegion, 500, 100, none⟩
  select?
    | .queue c => some c
    | _ => none
  isSome_select? c := by cases c <;> simp [ResourceConfig.kind]

def network : SettingsKind NetworkConfig where
  kind := .network
  recordFormat := NetworkConfig.recordFormat
  default := ⟨"", false⟩
  select?
    | .network c => some c
    | _ => none
  isSome_select? c := by cases c <;> simp [ResourceConfig.kind]

def subnet : SettingsKind SubnetConfig where
  kind := .subnet
  recordFormat := SubnetConfig.recordFormat
  default := ⟨"", "", "", ""⟩
  select?
    | .subnet c => some c
    | _ => none
  isSome_select? c := by cases c <;> simp [ResourceConfig.kind]

def firewall : SettingsKind FirewallConfig where
  kind := .firewall
  recordFormat := FirewallConfig.recordFormat
  default := ⟨"", "", "tcp", [], ["0.0.0.0/0"]⟩
  select?
    | .firewall c => some c
    | _ => none
  isSome_select? c := by cases c <;> simp [ResourceConfig.kind]

def registry : SettingsKind RegistryConfig where
  kind := .registry
  recordFormat := RegistryConfig.recordFormat
  default := ⟨"", defaultRegion, "DOCKER", ""⟩
  select?
    | .registry c => some c
    | _ => none
  isSome_select? c := by cases c <;> simp [ResourceConfig.kind]

def connector : SettingsKind ConnectorConfig where
  kind := .connector
  recordFormat := ConnectorConfig.recordFormat
  default := ⟨"", "", defaultRegion, "10.8.0.0/28"⟩
  select?
    | .connector c => some c
    | _ => none
  isSome_select? c := by cases c <;> simp [ResourceConfig.kind]

def container : SettingsKind ContainerConfig where
  kind := .container
  recordFormat := ContainerConfig.recordFormat
  default := ⟨"", "", defaultRegion, 8080, "1", "512Mi", 0, 10, ∅, false, none⟩
  select?
    | .container c => some c
    | _ => none
  isSome_select? c := by cases c <;> simp [ResourceConfig.kind]

def function : SettingsKind FunctionConfig where
  kind := .function
  recordFormat := FunctionConfig.recordFormat
  default := ⟨"", defaultRegion, "nodejs20", "handler", "", "256Mi", 60, none, ∅, false, none⟩
  select?
    | .function c => some c
    | _ => none
  isSome_select? c := by cases c <;> simp [ResourceConfig.kind]

def database : SettingsKind DatabaseConfig where
  kind := .database
  recordFormat := DatabaseConfig.recordFormat
  default := ⟨"", defaultRegion, "POSTGRES_15", "db-f1-micro", 10, none, none⟩
  select?
    | .database c => some c
    | _ => none
  isSome_select? c := by cases c <;> simp [ResourceConfig.kind]

def cache : SettingsKind CacheConfig where
  kind := .cache
  recordFormat := CacheConfig.recordFormat
  default := ⟨"", defaultRegion, "BASIC", 1, none, none⟩
  select?
    | .cache c => some c
    | _ => none
  isSome_select? c := by cases c <;> simp [ResourceConfig.kind]

def kernel : SettingsKind KernelConfig where
  kind := .kernel
  recordFormat := KernelConfig.recordFormat
  default := ⟨"", .native, "", defaultRegion, "e2-small", 8080, ∅, none⟩
  select?
    | .kernel c => some c
    | _ => none
  isSome_select? c := by cases c <;> simp [ResourceConfig.kind]

def ui : SettingsKind UiConfig where
  kind := .ui
  recordFormat := UiConfig.recordFormat
  default := ⟨"", "", defaultRegion, 3000, none, ∅, none⟩
  select?
    | .ui c => some c
    | _ => none
  isSome_select? c := by cases c <;> simp [ResourceConfig.kind]

def loadBalancer : SettingsKind LoadBalancerConfig where
  kind := .loadBalancer
  recordFormat := LoadBalancerConfig.recordFormat
  default := ⟨"", "", false, none, [], none⟩
  select?
    | .loadBalancer c => some c
    | _ => none
  isSome_select? c := by cases c <;> simp [ResourceConfig.kind]

def cron : SettingsKind CronConfig where
  kind := .cron
  recordFormat := CronConfig.recordFormat
  default := ⟨"", defaultRegion, "", "Etc/UTC", .container, "", .literal "", "/", "POST", none⟩
  select?
    | .cron c => some c
    | _ => none
  isSome_select? c := by cases c <;> simp [ResourceConfig.kind]

def clusterNamespace : SettingsKind NamespaceConfig where
  kind := .clusterNamespace
  recordFormat := NamespaceConfig.recordFormat
  default := ⟨""⟩
  select?
    | .clusterNamespace c => some c
    | _ => none
  isSome_select? c := by cases c <;> simp [ResourceConfig.kind]

def configMap : SettingsKind ConfigMapConfig where
  kind := .configMap
  recordFormat := ConfigMapConfig.recordFormat
  default := ⟨"", "", ∅⟩
  select?
    | .configMap c => some c
    | _ => none
  isSome_select? c := by cases c <;> simp [ResourceConfig.kind]

def deployment : SettingsKind DeploymentConfig where
  kind := .deployment
  recordFormat := DeploymentConfig.recordFormat
  default := ⟨"", "default", "", 8080, 1, ∅, "", none, none⟩
  select?
    | .deployment c => some c
    | _ => none
  isSome_select? c := by cases c <;> simp [ResourceConfig.kind]

def service : SettingsKind ServiceConfig where
  kind := .service
  recordFormat := ServiceConfig.recordFormat
  default := ⟨"", "default", "", 80, 8080⟩
  select?
    | .service c => some c
    | _ => none
  isSome_select? c := by cases c <;> simp [ResourceConfig.kind]

def ingress : SettingsKind IngressConfig where
  kind := .ingress
  recordFormat := IngressConfig.recordFormat
  default := ⟨"", "", none, false, none, []⟩
  select?
    | .ingress c => some c
    | _ => none
  isSome_select? c := by cases c <;> simp [ResourceConfig.kind]

def networkPolicy : SettingsKind NetworkPolicyConfig where
  kind := .networkPolicy
  recordFormat := NetworkPolicyConfig.recordFormat
  default := ⟨"", "", "", [], []⟩
  select?
    | .networkPolicy c => some c
    | _ => none
  isSome_select? c := by cases c <;> simp [ResourceConfig.kind]

end SettingsKind

end Groundwork
