import Groundwork.Manifest.Basic
import Groundwork.Resource.Config

/-!
# Cloud resources as manifests

Buckets, topics, queues, databases and caches, which the cluster provisions in the cloud.
-/

namespace Groundwork.Manifest

/-- A manifest for a cloud resource; `group` is the part of the cloud that it belongs to. -/
def cloudDocument (group kind name : String) (namespaceName : Option String)
    (parts : List (String × Json)) : Json :=
  document (group ++ ".cnrm.cloud.google.com/v1beta1") kind (metadata name namespaceName [] [])
    parts

def storageBucket (c : BucketConfig) : Json :=
  let cors : List (String × Json) :=
    if c.corsOrigins.isEmpty then []
    else
      [("cors", .list [.object
        [("origin", .texts c.corsOrigins),
         ("method", .texts ["GET", "HEAD", "PUT", "POST"]),
         ("maxAgeSeconds", .int 3600)]])]
  cloudDocument "storage" "StorageBucket" c.bucketName c.namespaceName
    [("spec", .object
      ([("location", .text c.location),
        ("storageClass", .text c.storageClass),
        ("uniformBucketLevelAccess", .bool true),
        ("versioning", nested "enabled" (.bool c.versioning))] ++ cors))]

def pubsubTopic (c : TopicConfig) : Json :=
  cloudDocument "pubsub" "PubSubTopic" c.topicName c.namespaceName
    (optional "spec" (c.messageRetention.map fun duration =>
      nested "messageRetentionDuration" (.text duration)))

/-- A number, or nothing for what JSON has no number for. -/
def finite (x : Float) : Json :=
  if x.isFinite then .float x else .null

def tasksQueue (c : QueueConfig) : Json :=
  cloudDocument "cloudtasks" "CloudTasksQueue" c.queueName c.namespaceName
    [("spec", .object
      [("location", .text c.location),
       ("rateLimits", nested "maxDispatchesPerSecond" (finite c.maxDispatchesPerSecond)),
       ("retryConfig", nested "maxAttempts" (.int c.maxAttempts.toNat))])]

def sqlInstance (c : DatabaseConfig) : Json :=
  cloudDocument "sql" "SQLInstance" c.instanceName c.namespaceName
    [("spec", .object
      [("region", .text c.region),
       ("databaseVersion", .text c.engine),
       ("settings", .object
         [("tier", .text c.tier), ("diskSize", .int c.diskSizeGb.toNat)])])]

def redisInstance (c : CacheConfig) : Json :=
  cloudDocument "redis" "RedisInstance" c.instanceName c.namespaceName
    [("spec", .object
      [("region", .text c.region),
       ("tier", .text c.tier),
       ("memorySizeGb", .int c.memorySizeGb.toNat)])]

end Groundwork.Manifest
