/-!
# Kinds of resource

The kinds of node in a plan.  A kind decides how the ids of its nodes begin.
-/

namespace Groundwork

/-- The kind of a node. -/
inductive ResourceKind where
  | serviceAccount
  | bucket
  | secret
  | topic
  | queue
  | network
  | subnet
  | firewall
  | registry
  | connector
  | container
  | function
  | database
  | cache
  | kernel
  | hybridKernel
  | ui
  | loadBalancer
  | cron
  | clusterNamespace
  | configMap
  | deployment
  | service
  | ingress
  | networkPolicy
  deriving DecidableEq, Repr

namespace ResourceKind

/-- How the ids of nodes of this kind begin; both kernels share one beginning. -/
def idPrefix : ResourceKind → String
  | serviceAccount => "service-account"
  | bucket => "bucket"
  | secret => "secret"
  | topic => "topic"
  | queue => "queue"
  | network => "network"
  | subnet => "subnet"
  | firewall => "firewall"
  | registry => "registry"
  | connector => "connector"
  | container => "container"
  | function => "function"
  | database => "database"
  | cache => "cache"
  | kernel => "kernel"
  | hybridKernel => "kernel"
  | ui => "ui"
  | loadBalancer => "load-balancer"
  | cron => "cron"
  | clusterNamespace => "namespace"
  | configMap => "config"
  | deployment => "deployment"
  | service => "service"
  | ingress => "ingress"
  | networkPolicy => "network-policy"

/-- The id of the node of this kind for a name. -/
def nodeId (k : ResourceKind) (name : String) : String :=
  k.idPrefix ++ "-" ++ name

/-- The kind in words. -/
def display : ResourceKind → String
  | hybridKernel => "hybrid kernel"
  | k => String.ofList (k.idPrefix.toList.map fun c => if c = '-' then ' ' else c)

end ResourceKind

end Groundwork
