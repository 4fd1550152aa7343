import Groundwork.Code.Balancing
import Groundwork.Code.Database
import Groundwork.Code.Messaging
import Groundwork.Code.Networking
import Groundwork.Code.Service
import Groundwork.Manifest.Cloud
import Groundwork.Manifest.Cluster
import Groundwork.Registry.Definition
import Groundwork.Resource.Tag

/-!
# The generators of every backend
-/

namespace Groundwork

open Code (Script Dialect)
open Definition (ofScript ofManifest)

namespace Backend

/-- The generator of load balancers in a dialect. -/
def balancerDefinition (b : Backend) (d : Dialect) : Definition :=
  .of (b.typeTag .loadBalancer) .loadBalancer fun r c =>
    (Code.loadBalancer d r c).map .script

/-- The generators that flat code and constructs both have before their networks' workloads. -/
def sharedDefinitions (b : Backend) (d : Dialect) : List Definition :=
  [ofScript (b.typeTag .serviceAccount) .serviceAccount (Code.serviceAccount d),
   ofScript (b.typeTag .bucket) .bucket (Code.storageBucket d),
   ofScript (b.typeTag .secret) .secret (Code.secret d),
   ofScript (b.typeTag .topic) .topic (Code.pubsubTopic d),
   ofScript (b.typeTag .queue) .queue (Code.tasksQueue d),
   ofScript (b.typeTag .network) .network (Code.network d),
   ofScript (b.typeTag .subnet) .subnet (Code.subnetwork d),
   ofScript (b.typeTag .firewall) .firewall (Code.firewall d),
   ofScript (b.typeTag .registry) .registry (Code.artifactRegistry d)]

/-- The generators of flat code. -/
def flatDefinitions : List Definition :=
  sharedDefinitions flat .flat ++
  [ofScript (flat.typeTag .container) .container (Code.container .flat),
   ofScript (flat.typeTag .function) .function (Code.function .flat),
   ofScript (flat.typeTag .database) .database Code.sqlDatabase,
   ofScript (flat.typeTag .cache) .cache Code.redisCache,
   balancerDefinition flat .flat,
   ofScript (flat.typeTag .cron) .cron Code.schedulerJob]

/-- The generators of constructs. -/
def constructDefinitions : List Definition :=
  sharedDefinitions construct .construct ++
  [ofScript (construct.typeTag .connector) .connector Code.vpcConnector,
   ofScript (construct.typeTag .container) .container (Code.container .construct),
   ofScript (construct.typeTag .function) .function (Code.function .construct),
   ofScript (construct.typeTag .kernel) .kernel Code.kernel,
   ofScript (construct.typeTag .hybridKernel) .kernel Code.kernel,
   ofScript (construct.typeTag .ui) .ui Code.ui,
   balancerDefinition construct .construct]

/-- The generators of manifests. -/
def manifestDefinitions : List Definition :=
  [ofManifest (manifest.typeTag .clusterNamespace) .clusterNamespace Manifest.namespaceObject,
   ofManifest (manifest.typeTag .configMap) .configMap Manifest.configMap,
   ofManifest (manifest.typeTag .serviceAccount) .serviceAccount Manifest.serviceAccount,
   ofManifest (manifest.typeTag .secret) .secret Manifest.secret,
   ofManifest (manifest.typeTag .bucket) .bucket Manifest.storageBucket,
   ofManifest (manifest.typeTag .topic) .topic Manifest.pubsubTopic,
   ofManifest (manifest.typeTag .queue) .queue Manifest.tasksQueue,
   ofManifest (manifest.typeTag .database) .database Manifest.sqlInstance,
   ofManifest (manifest.typeTag .cache) .cache Manifest.redisInstance,
   ofManifest (manifest.typeTag .networkPolicy) .networkPolicy Manifest.networkPolicy,
   ofManifest (manifest.typeTag .deployment) .deployment Manifest.deployment,
   ofManifest (manifest.typeTag .service) .service Manifest.service,
   ofManifest (manifest.typeTag .ingress) .ingress Manifest.ingress]

/-- The generators of a backend. -/
def definitions : Backend → List Definition
  | flat => flatDefinitions
  | construct => constructDefinitions
  | manifest => manifestDefinitions

end Backend

end Groundwork
