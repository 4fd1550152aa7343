import Groundwork.Description.FileFormat
import Groundwork.Description.Validation
import Groundwork.Provisioning

/-!
# Why a description does not compile

The causes, each with the message that a report shows.
-/

namespace Groundwork

/-- Parts of a description that a backend may have no counterpart for. -/
inductive Feature where
  | databases
  | caches
  | crons
  | kernel
  | hybridKernel
  | uis
  deriving DecidableEq, Repr

namespace Feature

/-- The feature's name in messages. -/
def label : Feature → String
  | databases => "databases"
  | caches => "caches"
  | crons => "crons"
  | kernel => "kernel"
  | hybridKernel => "hybrid_kernel"
  | uis => "uis"

/-- Whether a description makes use of the feature. -/
def isIn (d : Description) : Feature → Bool
  | databases => d.networks.any (!·.databases.isEmpty)
  | caches => d.networks.any (!·.caches.isEmpty)
  | crons => !d.crons.isEmpty
  | kernel => d.kernel.isSome
  | hybridKernel => d.hybridKernel.isSome
  | uis => d.networks.any (!·.uis.isEmpty)

end Feature

/-- Rules of a backend, or of resolution, that a description breaks. -/
inductive Violation where
  | noNetwork
  | noWorkload
  | bothKernels
  /-- The proxy in front of the load balancer of a network needs HTTPS and a domain. -/
  | proxyWithoutHttps (network : String)
  | noNamespace
  | noImageRegistry
  | kernelWithoutNetwork
  /-- Two workloads, described in words, share a name. -/
  | sharedName (first second name : String)
  | nothingToRoute (network : String)
  | unknownRoute (path backend network : String)
  | ambiguousRoute (path backend network : String)
  | triggerIsNoTopic (function : String) (reference : Reference)
  deriving DecidableEq, Repr

namespace Violation

/-- What is wrong. -/
def message : Violation → String
  | noNetwork => "no networks declared"
  | noWorkload => "nothing to deploy"
  | bothKernels => "`kernel` and `hybrid_kernel` are mutually exclusive"
  | proxyWithoutHttps network =>
    "identity-aware proxy on the load balancer of network '" ++ network ++ "' requires HTTPS"
  | noNamespace => "no namespace configured"
  | noImageRegistry => "no image registry configured"
  | kernelWithoutNetwork => "a kernel is declared but no network hosts it"
  | sharedName first second name =>
    first ++ " and " ++ second ++ " both become deployment '" ++ name ++ "'"
  | nothingToRoute network =>
    "load balancer in network '" ++ network ++ "' has nothing to route to"
  | unknownRoute path backend _ =>
    "route '" ++ path ++ "' points at unknown backend '" ++ backend ++ "'"
  | ambiguousRoute path backend network =>
    "route '" ++ path ++ "' backend '" ++ backend ++ "' is ambiguous in network '" ++ network
      ++ "'"
  | triggerIsNoTopic function reference =>
    "function '" ++ function ++ "' trigger_topic must reference a topic, got "
      ++ reference.display

/-- What to do about it. -/
def hint : Violation → String
  | noNetwork => "declare at least one entry under `networks`"
  | noWorkload =>
    "declare a function, container or UI in a network, or a `kernel`/`hybrid_kernel`"
  | bothKernels => "keep exactly one of `kernel` or `hybrid_kernel`"
  | proxyWithoutHttps _ =>
    "set `https: true` and a `domain` on the load balancer, or disable `iap`"
  | noNamespace => "set `kubernetes.namespace`"
  | noImageRegistry => "set `kubernetes.registry` (e.g. `ghcr.io/acme`)"
  | kernelWithoutNetwork => "declare a network for the kernel under `networks`"
  | sharedName _ _ _ =>
    "rename one of them; every workload here is a deployment and service named after it"
  | nothingToRoute _ =>
    "declare a container, function or UI in the network, or add `routes`"
  | unknownRoute _ _ network =>
    "route backends must name a container, function or UI in network '" ++ network ++ "'"
  | ambiguousRoute _ _ _ =>
    "rename the container, function or UI so the route names exactly one"
  | triggerIsNoTopic _ _ => "use `@topic/<name>` or a plain topic name"

end Violation

/-- Why the target of a scheduled job is not one container or function. -/
inductive TargetProblem where
  | notSchedulable (type : ReferenceType)
  | undeclared (kind : RouteBackendKind) (name : String)
  | unknownNetwork (network : String)
  | noMatch (name : String)
  | ambiguous (name : String)
  deriving DecidableEq, Repr

namespace TargetProblem

/-- The problem in words. -/
def message : TargetProblem → String
  | notSchedulable type =>
    "@" ++ type.token ++ " cannot be scheduled; target a container or function"
  | undeclared kind name => "no " ++ kind.name ++ " named '" ++ name ++ "'"
  | unknownNetwork network => "unknown network '" ++ network ++ "'"
  | noMatch name => "no container or function named '" ++ name ++ "'"
  | ambiguous name =>
    "ambiguous; '" ++ name ++ "' matches more than one resource, use @container/" ++ name
      ++ " or @function/" ++ name

end TargetProblem

/-- Why a description does not compile. -/
inductive CompileError where
  /-- The file of the description cannot be read. -/
  | unreadable (path reason : String)
  /-- The text is no description in its format. -/
  | parse (format : Format)
  | validation (errors : List ValidationError)
  /-- The backend has no counterpart for a feature. -/
  | unsupported (backend : Backend) (feature : Feature) (hint : String)
  | invalid (backend : Backend) (violation : Violation)
  | unknownProperty (e : UnknownProperty)
  | cronTarget (cron target : String) (problem : TargetProblem)
  | order (e : OrderError)
  deriving DecidableEq, Repr

namespace OrderError

/-- The message for the reader of a report. -/
def message : OrderError → String
  | duplicate id => "duplicate resource id '" ++ id ++ "'"
  | dangling node missing => "resource '" ++ node ++ "' depends on unknown '" ++ missing ++ "'"
  | cycle nodes => "dependency cycle detected involving: " ++ ", ".intercalate nodes

end OrderError

namespace CompileError

/-- The message for the reader of a report. -/
def message : CompileError → String
  | unreadable path reason => "cannot read " ++ path ++ ": " ++ reason
  | parse format => format.label ++ " parse error"
  | validation errors =>
    toString errors.length ++ " validation error(s):\n"
      ++ "\n".intercalate (errors.map fun e => "  ERROR: " ++ e.message)
  | unsupported backend feature hint =>
    feature.label ++ " not supported by the " ++ backend.name ++ " backend\n  hint: " ++ hint
  | invalid backend violation =>
    "invalid " ++ backend.name ++ " project: " ++ violation.message ++ "\n  hint: "
      ++ violation.hint
  | unknownProperty e => e.message
  | cronTarget cron target problem =>
    "cron '" ++ cron ++ "' target '" ++ target ++ "': " ++ problem.message
  | order e => e.message

end CompileError

end Groundwork
