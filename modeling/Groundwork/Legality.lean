import Groundwork.CompileError

/-!
# Legality

What each backend can express, and the rules that a description for it has to keep.
-/

namespace Groundwork

/-- A rule that a backend can demand. -/
inductive Requirement where
  /-- There is a network. -/
  | network
  /-- There is a container, function, frontend or kernel. -/
  | workload
  /-- There are not both kinds of kernel. -/
  | exclusiveKernels
  /-- A proxy in front of a load balancer comes with HTTPS and a domain. -/
  | proxyHttps
  | namespaceName
  | imageRegistry
  /-- A kernel has a network to live in. -/
  | kernelNetwork
  /-- No two workloads of the project share a name. -/
  | distinctWorkloads
  deriving DecidableEq, Repr

namespace Backend

/-- The features without a counterpart, each with advice. -/
def unsupported : Backend → List (Feature × String)
  | flat =>
    [(.kernel, "kernels are provided by the construct backend"),
     (.hybridKernel, "hybrid kernels are provided by the construct and manifest backends"),
     (.uis, "UIs are provided by the construct and manifest backends")]
  | construct =>
    [(.databases, "remove `databases` or use the flat backend"),
     (.caches, "remove `caches` or use the flat backend"),
     (.crons, "remove `crons` or use the flat backend")]
  | manifest =>
    [(.kernel, "use `hybrid_kernel` instead, or the construct backend for the native kernel"),
     (.crons, "remove `crons` or use the flat backend")]

/-- The rules, in the order in which they are checked. -/
def requirements : Backend → List Requirement
  | flat => [.exclusiveKernels]
  | construct => [.network, .workload, .exclusiveKernels, .proxyHttps]
  | manifest =>
    [.namespaceName, .imageRegistry, .exclusiveKernels, .kernelNetwork, .distinctWorkloads]

end Backend

namespace Legality

/-- The workloads of a description, each with a description in words and its name. -/
def workloads (d : Description) : List (String × String) :=
  let inNetwork (n : NetworkSpec) : List (String × String) :=
    let entry (kind name : String) : String × String :=
      (kind ++ " '" ++ name ++ "' in network '" ++ n.name ++ "'", name)
    n.containers.map (entry "container" ·.name) ++ n.functions.map (entry "function" ·.name)
      ++ n.uis.map (entry "ui" ·.name)
  d.networks.flatMap inNetwork
    ++ d.hybridKernel.toList.map fun k => ("hybrid kernel '" ++ k.name ++ "'", k.name)

/-- The first workload whose name an earlier one has, with the first bearer of that name. -/
def firstShared? (seen : List (String × String)) : List (String × String) → Option Violation
  | [] => none
  | (words, name) :: rest =>
    match seen.find? (·.2 = name) with
    | some (first, _) => some (.sharedName first words name)
    | none => firstShared? (seen ++ [(words, name)]) rest

/-- Whether the load balancer of a network lets a proxy check users without HTTPS. -/
def hasOpenProxy (n : NetworkSpec) : Bool :=
  n.loadBalancer.any fun lb =>
    lb.iap.any (·.enabled) && (!lb.https || lb.domain.isNone)

/-- How a description breaks a rule, if it does. -/
def violation? (d : Description) : Requirement → Option Violation
  | .network => if d.networks.isEmpty then some .noNetwork else none
  | .workload => if d.hasWorkload then none else some .noWorkload
  | .exclusiveKernels =>
    if d.kernel.isSome && d.hybridKernel.isSome then some .bothKernels else none
  | .proxyHttps => (d.networks.find? hasOpenProxy).map fun n => .proxyWithoutHttps n.name
  | .namespaceName =>
    if (d.kubernetes.bind (·.namespaceName)).isNone then some .noNamespace else none
  | .imageRegistry =>
    if (d.kubernetes.bind (·.registry)).isNone then some .noImageRegistry else none
  | .kernelNetwork =>
    if !d.kernels.isEmpty && d.networks.isEmpty then some .kernelWithoutNetwork else none
  | .distinctWorkloads => firstShared? [] (workloads d)

end Legality

open Legality in
/-- Refuses a description that a backend cannot express. -/
def Backend.checkLegality (b : Backend) (d : Description) : Except CompileError Unit :=
  match b.unsupported.find? fun entry => entry.1.isIn d with
  | some (feature, hint) => .error (.unsupported b feature hint)
  | none =>
    match b.requirements.findSome? (violation? d) with
    | some violation => .error (.invalid b violation)
    | none => .ok ()

end Groundwork
