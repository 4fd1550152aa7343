import Groundwork.Description.Basic
import Groundwork.Plan
import Groundwork.Resource.Tag

/-!
# Projects under resolution

A description together with the objects of the cluster that its manifests live in, if it is for a
cluster.  All nodes of a plan are made by `Project.node`.
-/

namespace Groundwork

/-- What all manifests of a project share. -/
structure Cluster where
  namespaceName : String
  registry : String
  ingressClass : Option String
  replicas : UInt32

/-- A description that is being resolved. -/
structure Project where
  description : Description
  cluster : Option Cluster

/-- The cluster that a description is for; only manifests have one. -/
def Description.cluster? (d : Description) : Option Cluster :=
  match d.project.backend, d.kubernetes with
  | .manifest, some k => do
    let namespaceName ← k.namespaceName
    let registry ← k.registry
    return ⟨sanitizeLabel namespaceName, registry, k.ingressClass, k.replicas⟩
  | _, _ => none

/-- A description with its cluster. -/
def Project.of (d : Description) : Project := ⟨d, d.cluster?⟩

/-- The id of the namespace that everything in the cluster waits for. -/
def Cluster.namespaceId (c : Cluster) : String :=
  ResourceKind.clusterNamespace.nodeId c.namespaceName

namespace Project

variable (p : Project)

/-- The project's name. -/
def name : String := p.description.project.name

/-- The region that resources are in unless they say otherwise. -/
def region : String := p.description.project.region

/-- The backend that the project is for. -/
def backend : Backend := p.description.project.backend

/-- What the plan keeps of the project. -/
def info : ProjectInfo where
  name := p.name
  region := p.region
  cloudProjectId := p.description.cloudProjectId
  backend := p.backend

/-- The name in the cloud of what is declared under a name. -/
def cloudName (name : String) : String := p.backend.resourceName p.name name

/-- The namespace of the project's manifests. -/
def namespaceName : Option String := p.cluster.map (·.namespaceName)

/-- What resources outside any network wait for: the namespace, if there is one. -/
def scopeDependencies : List String := p.cluster.toList.map (·.namespaceId)

/-- The name of the config map that every deployment reads. -/
def configMapName : String := sanitizeLabel p.name ++ "-config"

/-- The id of the config map that every deployment reads. -/
def configMapId : String := ResourceKind.configMap.nodeId p.name

/-- The node of a kind for a name; `network` is the network that it is declared in. -/
def node (kind : ResourceKind) (name : String) (config : ResourceConfig)
    (dependsOn : List String) (network : Option String) : Resource where
  id := kind.nodeId name
  typeTag := p.backend.typeTag kind
  name := name
  config := config
  dependsOn := dependsOn
  network := network

end Project

end Groundwork
