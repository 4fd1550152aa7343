import Groundwork.Code.Value
import Groundwork.Decimal.Notation

/-!
# Topics, queues and scheduled jobs in code
-/

namespace Groundwork.Code

def topicClass : Dialect → ResourceClass :=
  cloudClass "gcp.pubsub.Topic" "PubsubTopic" "pubsub-topic"

def queueClass : Dialect → ResourceClass :=
  cloudClass "gcp.cloudtasks.Queue" "CloudTasksQueue" "cloud-tasks-queue"

def jobClass : ResourceClass := ⟨"gcp.cloudscheduler.Job", none⟩

/-- A topic. -/
def pubsubTopic (d : Dialect) (r : Resource) (c : TopicConfig) : Script :=
  let topic := codeIdentifier r.name "topic"
  let retention : FieldList := c.messageRetention.toList.map fun duration =>
    ("messageRetentionDuration", .quoted duration)
  ⟨d,
    [.declare topic (topicClass d) (d.label r "") (("name", .quoted c.topicName) :: retention),
     r.output "name" (member topic "name"),
     r.output "topicId" (member topic "id")]⟩

/-- A task queue. -/
def tasksQueue (d : Dialect) (r : Resource) (c : QueueConfig) : Script :=
  let queue := codeIdentifier r.name "queue"
  let rate := FloatStyle.code.write c.maxDispatchesPerSecond
  ⟨d,
    [.declare queue (queueClass d) (d.label r "")
      [("name", .quoted c.queueName),
       ("location", .quoted c.location),
       ("rateLimits", nested "maxDispatchesPerSecond" (.code rate)),
       ("retryConfig", nested "maxAttempts" (.number c.maxAttempts.toNat))],
     r.output "name" (member queue "name"),
     r.output "queueId" (member queue "id")]⟩

/-- A scheduled job; it sends its body, if it has one, in base 64. -/
def schedulerJob (r : Resource) (c : CronConfig) : Script :=
  let body : FieldList := c.body.toList.map fun body =>
    ("body", .enclosed "Buffer.from(" (.quoted body) ").toString(\"base64\")")
  ⟨.flat,
    [.declare (codeIdentifier r.name "job") jobClass (Dialect.flat.label r "")
      [("name", .quoted c.jobName),
       ("region", .quoted c.region),
       ("schedule", .quoted c.schedule),
       ("timeZone", .quoted c.timeZone),
       ("httpTarget", .object
         ([("uri", c.targetUrl.withSuffix c.path), ("httpMethod", .quoted c.method)] ++ body))]]⟩

end Groundwork.Code
