import Groundwork.Description.Basic
import Groundwork.Reference
import Groundwork.Text.Blank

/-!
# Validation

What every backend demands of a description: names of the allowed characters, no name twice in one
scope, and no blank where something has to stand.  All violations are reported, in the order of the
description.
-/

namespace Groundwork

/-- A violated demand. -/
inductive ValidationError where
  | projectName (name : String)
  | invalidName (kind name scope : String)
  | duplicate (kind name scope : String)
  | emptySchedule (cron : String)
  | emptyCidr (subnet : String)
  | registryName (name : String)
  | emptyPath (scope : String)
  | missingBackend (path scope : String)
  | kernelName (name : String)
  | unknownNetwork (kernel network : String)
  deriving DecidableEq, Repr

namespace ValidationError

/-- The message for the reader of a report. -/
def message : ValidationError → String
  | projectName name => "project name '" ++ name ++ "' must be non-empty and match [a-z0-9-]+"
  | invalidName kind name scope =>
    kind ++ " name '" ++ name ++ "' in " ++ scope ++ " must match [a-z0-9-]+"
  | duplicate kind name scope => "duplicate " ++ kind ++ " '" ++ name ++ "' in " ++ scope
  | emptySchedule cron => "cron '" ++ cron ++ "' has an empty schedule"
  | emptyCidr subnet => "subnet '" ++ subnet ++ "' has an empty cidr"
  | registryName name => "registry name '" ++ name ++ "' must match [a-z0-9-]+"
  | emptyPath scope => "load balancer route in " ++ scope ++ " has an empty path"
  | missingBackend path scope =>
    "load balancer route '" ++ path ++ "' in " ++ scope ++ " has no backend"
  | kernelName name => "kernel name '" ++ name ++ "' must match [a-z0-9-]+"
  | unknownNetwork kernel network =>
    "kernel '" ++ kernel ++ "' references unknown network '" ++ network ++ "'"

end ValidationError

/-- Whether a resource may have the name: not empty, and of the characters that references allow. -/
def isValidName (name : String) : Bool :=
  !name.toList.isEmpty && name.toList.all Reference.isNameChar

namespace Validation

/-- What is wrong with a name in a scope that has the names `earlier`. -/
def nameErrors (kind scope : String) (earlier : List String) (name : String) :
    List ValidationError :=
  (if isValidName name then [] else [.invalidName kind name scope])
    ++ (if name ∈ earlier then [.duplicate kind name scope] else [])

/-- What is wrong with the declarations of one scope, after the names `earlier`.  `more` gives what
else is wrong with a declaration. -/
def scopeErrors {α : Type} (kind scope : String) (name : α → String)
    (more : α → List ValidationError) : List String → List α → List ValidationError
  | _, [] => []
  | earlier, x :: xs =>
    nameErrors kind scope earlier (name x) ++ more x
      ++ scopeErrors kind scope name more (name x :: earlier) xs

/-- Nothing else to check. -/
def nothing {α : Type} (_ : α) : List ValidationError := []

/-- What is wrong with the routes of a load balancer. -/
def routeErrors (scope : String) (r : RouteSpec) : List ValidationError :=
  (if isBlankText r.path then [.emptyPath scope] else [])
    ++ (if isBlankText r.backend then [.missingBackend r.path scope] else [])

/-- What is wrong inside a network. -/
def networkErrors (n : NetworkSpec) : List ValidationError :=
  let scope := "network '" ++ n.name ++ "'"
  let cidr (s : SubnetSpec) : List ValidationError :=
    if isBlankText s.cidr then [.emptyCidr s.name] else []
  let registry := n.registry.toList.flatMap fun r =>
    if isValidName r.name then [] else [.registryName r.name]
  let databases := n.databases.map (·.name)
  let routes := n.loadBalancer.toList.flatMap (·.routes)
  scopeErrors "subnet" scope (·.name) cidr [] n.subnets
    ++ scopeErrors "firewall rule" scope (·.name) nothing [] n.firewall
    ++ registry
    ++ scopeErrors "container" scope (·.name) nothing [] n.containers
    ++ scopeErrors "function" scope (·.name) nothing [] n.functions
    ++ scopeErrors "ui" scope (·.name) nothing [] n.uis
    ++ scopeErrors "database" scope (·.name) nothing [] n.databases
    ++ scopeErrors "cache" scope (·.name) nothing databases.reverse n.caches
    ++ routes.flatMap (routeErrors scope)

/-- What is wrong with a kernel. -/
def kernelErrors (d : Description) (k : KernelSpec) : List ValidationError :=
  (if isValidName k.name then [] else [.kernelName k.name])
    ++ k.network.toList.flatMap fun network =>
      if (d.network? network).isSome then [] else [.unknownNetwork k.name network]

end Validation

open Validation in
/-- All that is wrong with a description; a description without errors is valid. -/
def Description.validate (d : Description) : List ValidationError :=
  let project := if isValidName d.project.name then [] else [.projectName d.project.name]
  let schedule (c : CronSpec) : List ValidationError :=
    if isBlankText c.schedule then [.emptySchedule c.name] else []
  project
    ++ scopeErrors "service account" "project" (·.name) nothing [] d.serviceAccount.toList
    ++ scopeErrors "bucket" "buckets" (·.name) nothing [] d.buckets
    ++ scopeErrors "secret" "secrets" (·.name) nothing [] d.secrets
    ++ scopeErrors "topic" "topics" (·.name) nothing [] d.topics
    ++ scopeErrors "queue" "queues" (·.name) nothing [] d.queues
    ++ scopeErrors "cron" "crons" (·.name) schedule [] d.crons
    ++ scopeErrors "network" "project" (·.name) networkErrors [] d.networks
    ++ d.kernels.flatMap (kernelErrors d)

end Groundwork
