import Groundwork.Backend
import Groundwork.Resource.Format

/-!
# Plans

A plan is a project resolved into resources, together with the order in which they are provisioned.
The order is empty until it has been computed; the resources then count in the order of their
declaration.
-/

namespace Groundwork

/-- A node of a plan. -/
structure Resource where
  id : String
  /-- The type tag, such as `gcp:storage_bucket`; it picks the generator. -/
  typeTag : String
  name : String
  config : ResourceConfig
  /-- Ids of the nodes that come first. -/
  dependsOn : List String
  /-- The network that the node is declared in. -/
  network : Option String

/-- What a plan keeps of the project. -/
structure ProjectInfo where
  name : String
  region : String
  cloudProjectId : String
  backend : Backend
  deriving DecidableEq, Repr

/-- A resolved project. -/
structure Plan where
  project : ProjectInfo
  resources : List Resource
  order : List String

/-- An image that has to be built for a node. -/
structure PlannedImage where
  resourceId : String
  image : String
  deriving DecidableEq, Repr

namespace ResourceConfig

/-- Settings as a value inside a resource. -/
def codec : Codec ResourceConfig where
  encode := encode
  decode := decode
  schema := .ofType "object"

end ResourceConfig

def Resource.recordFormat : RecordFormat Resource where
  name := "ResolvedResource"
  doc := "A single unit of the output graph."
  fields := Fields.start Resource.mk
    |>.add (.required "id" .text (·.id))
    |>.add (.required "type" .text (·.typeTag))
    |>.add (.required "name" .text (·.name))
    |>.add (.required "config" ResourceConfig.codec (·.config))
    |>.add (.withDefault "depends_on" (.list .text) [] (·.dependsOn))
    |>.add (.omittable "network" .text (·.network))

def ProjectInfo.recordFormat : RecordFormat ProjectInfo where
  name := "ProjectInfo"
  doc := "Project info carried into the output."
  fields := Fields.start ProjectInfo.mk
    |>.add (.required "name" .text (·.name))
    |>.add (.required "region" .text (·.region))
    |>.add (.required "cloud_project_id" .text (·.cloudProjectId))
    |>.add (.required "backend" Backend.codec (·.backend))

def Plan.recordFormat : RecordFormat Plan where
  name := "ResolvedConfig"
  doc := "Compiler output: nodes plus provisioning order."
  fields := Fields.start Plan.mk
    |>.add (.required "project" ProjectInfo.recordFormat.codec (·.project))
    |>.add (.required "resources" (.list Resource.recordFormat.codec) (·.resources))
    |>.add (.withDefault "order" (.list .text) [] (·.order))

namespace Resource

/-- A resource as JSON. -/
def toJson (r : Resource) : Json := recordFormat.codec.encode r

/-- Reads a resource. -/
def decode (c : Conventions) (n : Node) : Option Resource := recordFormat.codec.decode c n

end Resource

namespace Plan

/-- A plan as JSON. -/
def toJson (p : Plan) : Json := recordFormat.codec.encode p

/-- Reads a plan. -/
def decode (c : Conventions) (n : Node) : Option Plan := recordFormat.codec.decode c n

/-- The first resource with an id. -/
def get? (p : Plan) (id : String) : Option Resource :=
  p.resources.find? (·.id = id)

/-- The resources in provisioning order, or in the order of declaration while there is no other.
Ids that belong to no resource are passed over. -/
def ordered (p : Plan) : List Resource :=
  if p.order.isEmpty then p.resources else p.order.filterMap p.get?

/-- The images of the plan's nodes, in provisioning order. -/
def images (p : Plan) : List PlannedImage :=
  p.ordered.filterMap fun r => r.config.image?.map fun image => ⟨r.id, image⟩

end Plan

end Groundwork
