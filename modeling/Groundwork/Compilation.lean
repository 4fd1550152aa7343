import Groundwork.Description.Validation
import Groundwork.Legality
import Groundwork.Resolution.Globals
import Groundwork.Resolution.Schedule

/-!
# Compilation

From a description to an ordered plan.  A description is resolved step by step: resources outside
any network, then network by network, then scheduled jobs.  The first step that fails is the one
that is reported, and a step fails also by giving a node the id of an earlier one.
-/

namespace Groundwork

namespace Project

variable (p : Project)

/-- The steps that resolve a network. -/
def networkSteps (n : NetworkSpec) : List (Except CompileError (List Resource)) :=
  let site := p.site n
  let shared := p.siteWithKernel site
  [.ok (p.networkNodes n)]
    ++ (p.kernelOf? n).toList.map (fun (variant, k) => p.kernelNodes site variant k)
    ++ n.containers.map (p.containerNodes shared)
    ++ n.functions.map (p.functionNodes shared)
    ++ [.ok (n.databases.map (p.databaseNode shared))]
    ++ [.ok (n.caches.map (p.cacheNode shared))]
    ++ n.uis.map (p.uiNodes shared)
    ++ n.loadBalancer.toList.map (p.loadBalancerNodes shared)

/-- The steps that resolve a project. -/
def steps : List (Except CompileError (List Resource)) :=
  [.ok p.globalNodes]
    ++ p.description.networks.flatMap p.networkSteps
    ++ p.description.crons.map p.cronNodes

/-- Adds nodes to those that there are; a taken id is refused. -/
def addNodes (nodes : List Resource) : List Resource → Except CompileError (List Resource)
  | [] => .ok nodes
  | r :: rest =>
    if nodes.any (·.id = r.id) then .error (.order (.duplicate r.id))
    else addNodes (nodes ++ [r]) rest

/-- Takes steps one after the other. -/
def takeSteps (nodes : List Resource) :
    List (Except CompileError (List Resource)) → Except CompileError (List Resource)
  | [] => .ok nodes
  | step :: rest => do takeSteps (← addNodes nodes (← step)) rest

/-- The nodes of a project, in the order of declaration. -/
def resources : Except CompileError (List Resource) := takeSteps [] p.steps

end Project

namespace Description

/-- The plan of a description, without an order. -/
def resolve (d : Description) : Except CompileError Plan := do
  d.project.backend.checkLegality d
  let project := Project.of d
  return ⟨project.info, ← project.resources, []⟩

/-- The ordered plan of a valid description. -/
def compile (d : Description) : Except CompileError Plan := do
  match d.validate with
  | [] => (← d.resolve).arrange.mapError .order
  | errors => .error (.validation errors)

end Description

end Groundwork
