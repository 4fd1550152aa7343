import Groundwork.Backend
import Groundwork.Naming
import Groundwork.Resource.Kind

/-!
# Type tags and cloud names

A backend marks its nodes with type tags of its own, such as `gcp:storage_bucket`, and names the
resources in the cloud by a rule of its own.
-/

namespace Groundwork

namespace Backend

/-- The word before the colon of a tag. -/
def tagDomain : Backend → String
  | flat => "gcp"
  | construct => "gcp-cdktf"
  | manifest => "k8s"

/-- How every type tag of the backend begins. -/
def tagPrefix (b : Backend) : String := b.tagDomain ++ ":"

end Backend

namespace ResourceKind

/-- The part of a type tag after the colon. -/
def tagName : ResourceKind → String
  | serviceAccount => "service_account"
  | bucket => "storage_bucket"
  | secret => "secret"
  | topic => "pubsub_topic"
  | queue => "cloud_tasks_queue"
  | network => "network"
  | subnet => "subnetwork"
  | firewall => "firewall"
  | registry => "artifact_registry"
  | connector => "vpc_access_connector"
  | container => "cloud_run_service"
  | function => "cloudfunctions_function"
  | database => "sql_database_instance"
  | cache => "redis_instance"
  | kernel => "kernel"
  | hybridKernel => "hybrid_kernel"
  | ui => "ui"
  | loadBalancer => "load_balancer"
  | cron => "cloud_scheduler_job"
  | clusterNamespace => "namespace"
  | configMap => "config_map"
  | deployment => "deployment"
  | service => "service"
  | ingress => "ingress"
  | networkPolicy => "network_policy"

/-- The part of a manifest's type tag after the colon; queues and databases go by other words
there. -/
def manifestTagName : ResourceKind → String
  | queue => "tasks_queue"
  | database => "sql_instance"
  | k => k.tagName

end ResourceKind

namespace Backend

/-- The type tag of the nodes of a kind. -/
def typeTag (b : Backend) (k : ResourceKind) : String :=
  b.tagPrefix ++
    match b with
    | manifest => k.manifestTagName
    | _ => k.tagName

/-- The name in the cloud of what a project declares under a name. -/
def resourceName (b : Backend) (project name : String) : String :=
  match b with
  | flat => name
  | construct => prefixedName project name
  | manifest => sanitizeLabel name

end Backend

end Groundwork
