import Groundwork.Plan

/-!
# Provisioning order

The order in which the resources of a plan are provisioned: every resource after those that it
depends on, and of several that could come next the one that was declared first.

The order is built step by step.  `Progress` counts, for every resource, the dependencies that are
not placed yet, and keeps the resources that wait for nothing as an ascending list of declaration
indices.  `Progress.step` places the first of them.
-/

namespace Groundwork

/-- Why resources have no provisioning order. -/
inductive OrderError where
  /-- A resource has the id of an earlier one. -/
  | duplicate (id : String)
  /-- A resource depends on an id that no resource has. -/
  | dangling (node missing : String)
  /-- The resources from which a cycle of dependencies can be reached. -/
  | cycle (nodes : List String)
  deriving DecidableEq, Repr

namespace Provisioning

/-- The first id that occurred before. -/
def firstDuplicate? (seen : List String) : List String → Option String
  | [] => none
  | id :: rest => if id ∈ seen then some id else firstDuplicate? (id :: seen) rest

/-- The first dependency on an unknown id, as the resource and the id that it asks for. -/
def firstDangling? (ids : List String) (resources : List Resource) : Option (String × String) :=
  resources.findSome? fun r => (r.dependsOn.find? (· ∉ ids)).map fun missing => (r.id, missing)

/-- The dependencies of every resource as declaration indices. -/
def dependencyIndices (resources : List Resource) : List (List Nat) :=
  let ids := resources.map (·.id)
  resources.map fun r => r.dependsOn.map fun id => ids.idxOf id

/-- How far the order has come. -/
structure Progress where
  /-- The resources placed so far, the last one first. -/
  placed : List Nat
  /-- For every resource, how many of its dependencies are not placed, repetitions counted. -/
  waiting : List Nat
  /-- The resources that can be placed next, in ascending order. -/
  ready : List Nat
  deriving DecidableEq, Repr

namespace Progress

/-- Before anything is placed. -/
def start (dependencies : List (List Nat)) : Progress where
  placed := []
  waiting := dependencies.map List.length
  ready := (List.range dependencies.length).filter fun i =>
    (dependencies[i]?.getD []).isEmpty

/-- Puts an index into an ascending list. -/
def insertAscending (i : Nat) : List Nat → List Nat
  | [] => [i]
  | j :: rest => if i ≤ j then i :: j :: rest else j :: insertAscending i rest

/-- Marks every occurrence of `i` among the dependencies as placed.  The resources that wait for
nothing more become ready. -/
def release (dependencies : List (List Nat)) (i : Nat) (p : Progress) : Progress :=
  let waiting := List.zipWith (fun count deps => count - deps.count i) p.waiting dependencies
  let freed := (List.range dependencies.length).filter fun j =>
    (dependencies[j]?.getD []).contains i && waiting[j]?.getD 0 == 0
  { p with waiting := waiting, ready := freed.foldl (fun ready j => insertAscending j ready) p.ready }

/-- Places the first resource that is ready; `none` if nothing is. -/
def step? (dependencies : List (List Nat)) (p : Progress) : Option Progress :=
  match p.ready with
  | [] => none
  | i :: rest =>
    some (release dependencies i { p with placed := i :: p.placed, ready := rest })

/-- Places resources until nothing is ready, at most `fuel` of them. -/
def run (dependencies : List (List Nat)) : Nat → Progress → Progress
  | 0, p => p
  | fuel + 1, p =>
    match p.step? dependencies with
    | some p => run dependencies fuel p
    | none => p

end Progress

/-- The provisioning order of some resources, as ids. -/
def sort (resources : List Resource) : Except OrderError (List String) :=
  let ids := resources.map (·.id)
  match firstDuplicate? [] ids with
  | some id => .error (.duplicate id)
  | none =>
    match firstDangling? ids resources with
    | some (node, missing) => .error (.dangling node missing)
    | none =>
      let dependencies := dependencyIndices resources
      let final := Progress.run dependencies resources.length (.start dependencies)
      if final.placed.length = resources.length then
        .ok (final.placed.reverse.map fun i => ids[i]?.getD "")
      else
        .error (.cycle ((ids.zip final.waiting).filterMap fun (id, count) =>
          if 0 < count then some id else none))

/-- The resources that list `id` among their dependencies. -/
def dependents (resources : List Resource) (id : String) : List Resource :=
  resources.filter fun r => r.dependsOn.contains id

end Provisioning

/-- Orders a plan. -/
def Plan.arrange (p : Plan) : Except OrderError Plan := do
  let order ← Provisioning.sort p.resources
  return { p with order := order }

end Groundwork
