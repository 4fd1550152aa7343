import Groundwork.Registry.Basic

/-!
# Reports

What becomes of a whole plan: the artifacts of its nodes in provisioning order, and a warning for
every node that becomes nothing.
-/

namespace Groundwork

/-- The text of a node. -/
structure CodeBlock where
  resourceId : String
  resourceType : String
  code : String
  deriving DecidableEq, Repr

/-- A node that became nothing, and why. -/
structure Warning where
  resourceId : String
  message : String
  deriving DecidableEq, Repr

/-- What becomes of a plan. -/
structure Report where
  project : ProjectInfo
  /-- Each import once, in the order in which nodes need them. -/
  imports : List String
  blocks : List CodeBlock
  outputs : List String
  warnings : List Warning

namespace Report

/-- The nodes that become something, each with its artifact. -/
def artifacts (registry : Registry) (nodes : List Resource) : List (Resource × Artifact) :=
  nodes.filterMap fun r =>
    match registry.generate r with
    | .ok a => some (r, a)
    | .error _ => none

/-- The warnings about nodes that become nothing. -/
def warningsOf (registry : Registry) (nodes : List Resource) : List Warning :=
  nodes.filterMap fun r =>
    match registry.generate r with
    | .ok _ => none
    | .error e => some ⟨r.id, e.message⟩

end Report

/-- Generates all nodes of a plan. -/
def Plan.generateAll (p : Plan) (registry : Registry) : Report :=
  let made := Report.artifacts registry p.ordered
  { project := p.project
    imports := (made.flatMap (·.2.imports)).eraseDups
    blocks := made.map fun (r, a) => ⟨r.id, r.typeTag, a.code⟩
    outputs := made.flatMap (·.2.outputs)
    warnings := Report.warningsOf registry p.ordered }

namespace Report

/-- A report as JSON. -/
def toJson (r : Report) : Json :=
  let block (b : CodeBlock) : Json :=
    .object
      [("resource_id", .text b.resourceId), ("resource_type", .text b.resourceType),
       ("code", .text b.code)]
  let warning (w : Warning) : Json :=
    .object [("resource_id", .text w.resourceId), ("message", .text w.message)]
  .object
    [("project", .text r.project.name),
     ("backend", Backend.codec.encode r.project.backend),
     ("cloud_project_id", .text r.project.cloudProjectId),
     ("region", .text r.project.region),
     ("imports", .texts r.imports),
     ("blocks", .list (r.blocks.map block)),
     ("outputs", .texts r.outputs),
     ("warnings", .list (r.warnings.map warning))]

end Report

end Groundwork
