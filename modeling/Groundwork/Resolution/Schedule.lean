import Groundwork.Resolution.Routing
import Groundwork.Text.Blank

/-!
# Scheduled jobs

What a job calls: exactly one container or function.  The target is a reference to it, its network
and name with a slash between them, or its name alone.
-/

namespace Groundwork

namespace RouteBackendKind

/-- The type of a reference to a workload of this kind; frontends count as containers. -/
def referenceType : RouteBackendKind → ReferenceType
  | function => .function
  | _ => .container

/-- The kind of workload that references of a type are to. -/
def ofReferenceType? : ReferenceType → Option RouteBackendKind
  | .container => some container
  | .function => some function
  | _ => none

end RouteBackendKind

/-- The kinds of workload of a name that can be scheduled. -/
def NetworkSpec.schedulable (n : NetworkSpec) (name : String) : List RouteBackendKind :=
  (if (n.container? name).isSome then [.container] else [])
    ++ (if (n.function? name).isSome then [.function] else [])

/-- The text before and after the first slash. -/
def splitSlash? (s : String) : Option (String × String) :=
  let cs := s.toList
  match cs.dropWhile (· ≠ '/') with
  | _ :: rest => some (String.ofList (cs.takeWhile (· ≠ '/')), String.ofList rest)
  | [] => none

namespace Description

variable (d : Description)

/-- The workload that a reference schedules. -/
def referencedTarget (r : Reference) : Except TargetProblem (RouteBackendKind × String) :=
  match RouteBackendKind.ofReferenceType? r.type with
  | none => .error (.notSchedulable r.type)
  | some kind =>
    if d.networks.any fun n => (n.schedulable r.name).contains kind then .ok (kind, r.name)
    else .error (.undeclared kind r.name)

/-- The only workload of a name in some networks. -/
def uniqueTarget (networks : List NetworkSpec) (name : String) :
    Except TargetProblem (RouteBackendKind × String) :=
  match networks.flatMap (·.schedulable name) with
  | [kind] => .ok (kind, name)
  | [] => .error (.noMatch name)
  | _ => .error (.ambiguous name)

/-- The workload that a target means. -/
def cronTarget (target : String) : Except TargetProblem (RouteBackendKind × String) :=
  let target := trim target
  match Reference.parse? target with
  | some r => d.referencedTarget r
  | none =>
    match splitSlash? target with
    | none => uniqueTarget d.networks target
    | some (network, name) =>
      match d.network? network with
      | some n => uniqueTarget [n] name
      | none => .error (.unknownNetwork network)

end Description

/-- The node of a scheduled job. -/
def Project.cronNodes (p : Project) (spec : CronSpec) : Except CompileError (List Resource) := do
  let (kind, target) ← (p.description.cronTarget spec.target).mapError
    (.cronTarget spec.name spec.target)
  let url ← (p.renderReference ⟨kind.referenceType, target, none⟩).mapError .unknownProperty
  return [p.node .cron spec.name (.cron {
    jobName := p.cloudName spec.name
    region := p.region
    schedule := spec.schedule
    timeZone := spec.timeZone
    targetKind := kind
    target := target
    targetUrl := url
    path := spec.path
    method := spec.method
    body := spec.body }) [kind.resourceKind.nodeId target] none]

end Groundwork
