import Groundwork.Resolution.Project
import Groundwork.Text.Case

/-!
# Resources outside any network

The namespace and config map of a cluster, and the service account, buckets, secrets, topics and
queues of a project.
-/

namespace Groundwork

/-- How often a queue dispatches in a second unless it says otherwise. -/
def defaultDispatchesPerSecond : Float := 500

/-- How often a queue tries unless it says otherwise. -/
def defaultQueueAttempts : UInt32 := 100

namespace Project

variable (p : Project)

/-- The values that every deployment reads. -/
def configData : OrderedMap String :=
  .ofList
    [("PROJECT_NAME", p.name), ("REGION", p.region),
     ("CLOUD_PROJECT_ID", p.description.cloudProjectId)]

/-- The namespace and the config map. -/
def clusterNodes (c : Cluster) : List Resource :=
  [p.node .clusterNamespace c.namespaceName (.clusterNamespace ⟨c.namespaceName⟩) [] none,
   p.node .configMap p.name (.configMap ⟨p.configMapName, c.namespaceName, p.configData⟩)
    [c.namespaceId] none]

/-- A node outside any network. -/
def globalNode (kind : ResourceKind) (name : String) (config : ResourceConfig) : Resource :=
  p.node kind name config p.scopeDependencies none

def serviceAccountNode (spec : ServiceAccountSpec) : Resource :=
  p.globalNode .serviceAccount spec.name <| .serviceAccount {
    accountId := p.cloudName spec.name
    displayName := spec.displayName.getD spec.name
    roles := spec.roles
    namespaceName := p.namespaceName }

/-- The node of a bucket; it lies where its project does unless it says otherwise. -/
def bucketNode (spec : BucketSpec) : Resource :=
  p.globalNode .bucket spec.name <| .bucket {
    bucketName := p.cloudName spec.name
    location := spec.location.getD (uppercase p.region)
    storageClass := spec.storageClass
    versioning := spec.versioning
    isPublic := spec.isPublic
    corsOrigins := spec.corsOrigins
    namespaceName := p.namespaceName }

def secretNode (spec : SecretSpec) : Resource :=
  p.globalNode .secret spec.name <| .secret {
    secretId := p.cloudName spec.name
    description := spec.description
    namespaceName := p.namespaceName }

def topicNode (spec : TopicSpec) : Resource :=
  p.globalNode .topic spec.name <| .topic {
    topicName := p.cloudName spec.name
    messageRetention := spec.messageRetention
    namespaceName := p.namespaceName }

def queueNode (spec : QueueSpec) : Resource :=
  p.globalNode .queue spec.name <| .queue {
    queueName := p.cloudName spec.name
    location := p.region
    maxDispatchesPerSecond := spec.maxDispatchesPerSecond.getD defaultDispatchesPerSecond
    maxAttempts := spec.maxAttempts.getD defaultQueueAttempts
    namespaceName := p.namespaceName }

/-- All nodes outside any network that come before the networks. -/
def globalNodes : List Resource :=
  let d := p.description
  p.cluster.toList.flatMap p.clusterNodes
    ++ d.serviceAccount.toList.map p.serviceAccountNode
    ++ d.buckets.map p.bucketNode
    ++ d.secrets.map p.secretNode
    ++ d.topics.map p.topicNode
    ++ d.queues.map p.queueNode

end Project

end Groundwork
