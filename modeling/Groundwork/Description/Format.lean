import Groundwork.Description.Basic

/-!
# The form of a description

The fields of every record of a project description: their names and order in a document, the
defaults of those that may be left out, and what a schema says about them.
-/

namespace Groundwork

open Codec (text truth word16 word32 float)

/-- A list of texts that may be left out. -/
abbrev textsField {ρ : Type} (name : String) (get : ρ → List String) (doc : String := "") :
    Field ρ (List String) :=
  .withDefault name (.list text) [] get doc

/-- A list of records that may be left out. -/
abbrev recordsField {ρ α : Type} (name : String) (format : RecordFormat α) (get : ρ → List α)
    (doc : String := "") : Field ρ (List α) :=
  .withDefault name (.list format.codec) [] get doc

/-- A map of texts that may be left out. -/
abbrev mapField {ρ : Type} (name : String) (get : ρ → OrderedMap String) (doc : String := "") :
    Field ρ (OrderedMap String) :=
  .withDefault name (.map text) ∅ get doc

namespace ProjectSection

def recordFormat : RecordFormat ProjectSection where
  name := "ProjectSection"
  doc := "Project identity."
  fields := Fields.start ProjectSection.mk
    |>.add (.required "name" text (·.name) "Project name, used as the construct-backend name prefix")
    |>.add (.withDefault "region" text "us-central1" (·.region) "Deployment region")
    |>.add (.nullable "cloud_project_id" text (·.cloudProjectId)
      "Cloud provider project id (defaults to the project name)")
    |>.add (.required "backend" Backend.codec (·.backend) "Output backend")

end ProjectSection

namespace ServiceAccountSpec

def recordFormat : RecordFormat ServiceAccountSpec where
  name := "ServiceAccountSpec"
  doc := "Runtime service account."
  fields := Fields.start ServiceAccountSpec.mk
    |>.add (.required "name" text (·.name))
    |>.add (.nullable "display_name" text (·.displayName))
    |>.add (textsField "roles" (·.roles) "IAM roles granted at project level")

end ServiceAccountSpec

namespace BucketSpec

def recordFormat : RecordFormat BucketSpec where
  name := "BucketSpec"
  doc := "Object storage bucket."
  fields := Fields.start BucketSpec.mk
    |>.add (.required "name" text (·.name))
    |>.add (.nullable "location" text (·.location))
    |>.add (.withDefault "storage_class" text "STANDARD" (·.storageClass))
    |>.add (.withDefault "versioning" truth false (·.versioning))
    |>.add (.withDefault "public" truth false (·.isPublic) "Grant public read access")
    |>.add (textsField "cors_origins" (·.corsOrigins))

end BucketSpec

namespace SecretSpec

def recordFormat : RecordFormat SecretSpec where
  name := "SecretSpec"
  doc := "Secret declaration."
  fields := Fields.start SecretSpec.mk
    |>.add (.required "name" text (·.name))
    |>.add (.nullable "description" text (·.description))

end SecretSpec

namespace TopicSpec

def recordFormat : RecordFormat TopicSpec where
  name := "TopicSpec"
  doc := "Pub/sub topic."
  fields := Fields.start TopicSpec.mk
    |>.add (.required "name" text (·.name))
    |>.add (.nullable "message_retention" text (·.messageRetention)
      "Message retention duration (e.g. \"86400s\")")

end TopicSpec

namespace QueueSpec

def recordFormat : RecordFormat QueueSpec where
  name := "QueueSpec"
  doc := "Task queue."
  fields := Fields.start QueueSpec.mk
    |>.add (.required "name" text (·.name))
    |>.add (.nullable "max_dispatches_per_second" float (·.maxDispatchesPerSecond))
    |>.add (.nullable "max_attempts" word32 (·.maxAttempts))

end QueueSpec

namespace SubnetSpec

def recordFormat : RecordFormat SubnetSpec where
  name := "SubnetSpec"
  doc := "Subnetwork."
  fields := Fields.start SubnetSpec.mk
    |>.add (.required "name" text (·.name))
    |>.add (.required "cidr" text (·.cidr) "Primary IPv4 range")
    |>.add (.nullable "region" text (·.region))

end SubnetSpec

namespace FirewallSpec

def recordFormat : RecordFormat FirewallSpec where
  name := "FirewallRuleSpec"
  doc := "Firewall rule."
  fields := Fields.start FirewallSpec.mk
    |>.add (.required "name" text (·.name))
    |>.add (.withDefault "protocol" text "tcp" (·.protocol))
    |>.add (textsField "ports" (·.ports))
    |>.add (.withDefault "source_ranges" (.list text) ["0.0.0.0/0"] (·.sourceRanges))

end FirewallSpec

namespace RegistrySpec

def recordFormat : RecordFormat RegistrySpec where
  name := "RegistrySpec"
  doc := "Artifact registry."
  fields := Fields.start RegistrySpec.mk
    |>.add (.required "name" text (·.name))
    |>.add (.withDefault "format" text "DOCKER" (·.format))

end RegistrySpec

namespace ContainerSpec

def recordFormat : RecordFormat ContainerSpec where
  name := "ContainerSpec"
  doc := "Long-running container service."
  fields := Fields.start ContainerSpec.mk
    |>.add (.required "name" text (·.name))
    |>.add (.nullable "image" text (·.image)
      "Explicit image; defaults to `\x7bregistry-url\x7d/\x7bname\x7d:latest`")
    |>.add (.withDefault "port" word16 8080 (·.port))
    |>.add (.withDefault "cpu" text "1" (·.cpu))
    |>.add (.withDefault "memory" text "512Mi" (·.memory))
    |>.add (.withDefault "min_instances" word32 0 (·.minInstances))
    |>.add (.withDefault "max_instances" word32 10 (·.maxInstances))
    |>.add (mapField "env" (·.env)
      "Environment values; may hold `@type/name[.property]` references")
    |>.add (mapField "secrets" (·.secrets) "Env var → `@secret/...` reference")
    |>.add (.withDefault "allow_unauthenticated" truth false (·.allowUnauthenticated))
    |>.add (textsField "depends_on" (·.dependsOn)
      "Explicit dependencies (resource ids or references)")

end ContainerSpec

namespace FunctionSpec

def recordFormat : RecordFormat FunctionSpec where
  name := "FunctionSpec"
  doc := "Serverless function."
  fields := Fields.start FunctionSpec.mk
    |>.add (.required "name" text (·.name))
    |>.add (.withDefault "runtime" text "nodejs20" (·.runtime))
    |>.add (.withDefault "entry_point" text "handler" (·.entryPoint))
    |>.add (.nullable "source" text (·.source)
      "Source directory; defaults to `functions/\x7bname\x7d`")
    |>.add (.withDefault "memory" text "256Mi" (·.memory))
    |>.add (.withDefault "timeout_seconds" word32 60 (·.timeoutSeconds))
    |>.add (.nullable "trigger_topic" text (·.triggerTopic)
      "Trigger on a topic instead of HTTP (`@topic/name`)")
    |>.add (mapField "env" (·.env))
    |>.add (mapField "secrets" (·.secrets))
    |>.add (.withDefault "allow_unauthenticated" truth false (·.allowUnauthenticated))
    |>.add (textsField "depends_on" (·.dependsOn))

end FunctionSpec

namespace DatabaseSpec

def recordFormat : RecordFormat DatabaseSpec where
  name := "DatabaseSpec"
  doc := "Managed SQL database instance."
  fields := Fields.start DatabaseSpec.mk
    |>.add (.required "name" text (·.name))
    |>.add (.withDefault "engine" text "POSTGRES_15" (·.engine))
    |>.add (.withDefault "tier" text "db-f1-micro" (·.tier))
    |>.add (.withDefault "disk_size_gb" word32 10 (·.diskSizeGb))

end DatabaseSpec

namespace CacheSpec

def recordFormat : RecordFormat CacheSpec where
  name := "CacheSpec"
  doc := "Managed in-memory cache."
  fields := Fields.start CacheSpec.mk
    |>.add (.required "name" text (·.name))
    |>.add (.withDefault "tier" text "BASIC" (·.tier))
    |>.add (.withDefault "memory_size_gb" word32 1 (·.memorySizeGb))

end CacheSpec

namespace UiSpec

def recordFormat : RecordFormat UiSpec where
  name := "UiSpec"
  doc := "Frontend served as a container."
  fields := Fields.start UiSpec.mk
    |>.add (.required "name" text (·.name))
    |>.add (.nullable "image" text (·.image))
    |>.add (.nullable "source" text (·.source) "Build context directory")
    |>.add (.withDefault "port" word16 3000 (·.port))
    |>.add (mapField "env" (·.env))
    |>.add (mapField "secrets" (·.secrets))
    |>.add (textsField "depends_on" (·.dependsOn))

end UiSpec

namespace RouteSpec

def recordFormat : RecordFormat RouteSpec where
  name := "RouteSpec"
  doc := "A load balancer path route."
  fields := Fields.start RouteSpec.mk
    |>.add (.required "path" text (·.path))
    |>.add (.required "backend" text (·.backend)
      "Name of a container, function or UI in the same network")

end RouteSpec

namespace IapSpec

def recordFormat : RecordFormat IapSpec where
  name := "IapSpec"
  doc := "Identity-aware proxy settings."
  fields := Fields.start IapSpec.mk
    |>.add (.withDefault "enabled" truth true (·.enabled))
    |>.add (textsField "members" (·.members)
      "Principals allowed through (e.g. `user:alice@example.com`)")

end IapSpec

namespace LoadBalancerSpec

def recordFormat : RecordFormat LoadBalancerSpec where
  name := "LoadBalancerSpec"
  doc := "HTTP(S) load balancer fronting a network's workloads."
  fields := Fields.start LoadBalancerSpec.mk
    |>.add (.nullable "name" text (·.name) "Defaults to the network name")
    |>.add (.withDefault "https" truth false (·.https))
    |>.add (.nullable "domain" text (·.domain))
    |>.add (recordsField "routes" RouteSpec.recordFormat (·.routes)
      "Path routing; a default route is built when empty")
    |>.add (.nullable "iap" IapSpec.recordFormat.codec (·.iap)
      "Identity-aware proxy in front of every route")

end LoadBalancerSpec

namespace NetworkSpec

def recordFormat : RecordFormat NetworkSpec where
  name := "NetworkSpec"
  doc := "A network and the resources declared inside it."
  fields := Fields.start NetworkSpec.mk
    |>.add (.required "name" text (·.name))
    |>.add (recordsField "subnets" SubnetSpec.recordFormat (·.subnets))
    |>.add (recordsField "firewall" FirewallSpec.recordFormat (·.firewall))
    |>.add (.nullable "registry" RegistrySpec.recordFormat.codec (·.registry)
      "Container image registry for this network's workloads")
    |>.add (recordsField "containers" ContainerSpec.recordFormat (·.containers))
    |>.add (recordsField "functions" FunctionSpec.recordFormat (·.functions))
    |>.add (recordsField "databases" DatabaseSpec.recordFormat (·.databases))
    |>.add (recordsField "caches" CacheSpec.recordFormat (·.caches))
    |>.add (recordsField "uis" UiSpec.recordFormat (·.uis) "Static or server-rendered frontends")
    |>.add (.nullable "load_balancer" LoadBalancerSpec.recordFormat.codec (·.loadBalancer))

end NetworkSpec

namespace CronSpec

def recordFormat : RecordFormat CronSpec where
  name := "CronSpec"
  doc := "Scheduled HTTP invocation of a container or function."
  fields := Fields.start CronSpec.mk
    |>.add (.required "name" text (·.name))
    |>.add (.required "schedule" text (·.schedule) "Cron expression")
    |>.add (.required "target" text (·.target)
      "`@container/name`, `@function/name`, `network/resource` or `resource`")
    |>.add (.withDefault "time_zone" text "Etc/UTC" (·.timeZone))
    |>.add (.withDefault "path" text "/" (·.path))
    |>.add (.withDefault "method" text "POST" (·.method))
    |>.add (.nullable "body" text (·.body))

end CronSpec

namespace KernelSpec

def recordFormat : RecordFormat KernelSpec where
  name := "KernelSpec"
  doc := "Always-on background service."
  fields := Fields.start KernelSpec.mk
    |>.add (.withDefault "name" text "kernel" (·.name))
    |>.add (.nullable "network" text (·.network)
      "Network to place the kernel in; defaults to the first network")
    |>.add (.nullable "image" text (·.image))
    |>.add (.withDefault "machine_type" text "e2-small" (·.machineType)
      "VM machine type (native kernel only)")
    |>.add (.withDefault "port" word16 8080 (·.port))
    |>.add (mapField "env" (·.env))
    |>.add (mapField "secrets" (·.secrets))

end KernelSpec

namespace KubernetesSection

def recordFormat : RecordFormat KubernetesSection where
  name := "KubernetesSection"
  doc := "Cluster settings for the manifest backend."
  fields := Fields.start KubernetesSection.mk
    |>.add (.nullable "namespace" text (·.namespaceName))
    |>.add (.nullable "registry" text (·.registry) "Image registry URL (e.g. `ghcr.io/acme`)")
    |>.add (.nullable "ingress_class" text (·.ingressClass))
    |>.add (.withDefault "replicas" word32 1 (·.replicas))

end KubernetesSection

namespace Description

def recordFormat : RecordFormat Description where
  name := "ProjectDescription"
  doc := "Root document — the desired infrastructure of one project."
  fields := Fields.start Description.mk
    |>.add (.required "project" ProjectSection.recordFormat.codec (·.project)
      "Project identity and backend selection")
    |>.add (.nullable "service_account" ServiceAccountSpec.recordFormat.codec (·.serviceAccount)
      "Optional runtime service account")
    |>.add (recordsField "buckets" BucketSpec.recordFormat (·.buckets) "Object storage buckets")
    |>.add (recordsField "secrets" SecretSpec.recordFormat (·.secrets)
      "Secret declarations (values are provisioned out of band)")
    |>.add (recordsField "topics" TopicSpec.recordFormat (·.topics) "Pub/sub topics")
    |>.add (recordsField "queues" QueueSpec.recordFormat (·.queues) "Task queues")
    |>.add (recordsField "networks" NetworkSpec.recordFormat (·.networks)
      "Networks and everything deployed inside them")
    |>.add (recordsField "crons" CronSpec.recordFormat (·.crons)
      "Scheduled jobs targeting a container or function")
    |>.add (.nullable "kernel" KernelSpec.recordFormat.codec (·.kernel)
      "Always-on kernel running natively on a VM")
    |>.add (.nullable "hybrid_kernel" KernelSpec.recordFormat.codec (·.hybridKernel)
      "Always-on kernel running as a container service")
    |>.add (.nullable "kubernetes" KubernetesSection.recordFormat.codec (·.kubernetes)
      "Cluster settings, required by the manifest backend")

end Description

end Groundwork
