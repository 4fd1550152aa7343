import Groundwork.Resolution.Workload

/-!
# Routing

Where a load balancer sends requests.  A route names a workload of the balancer's network; without
routes every path leads to the first container, or else function, or else frontend.
-/

namespace Groundwork

namespace RouteBackendKind

/-- The kind of the node that a route leads to. -/
def resourceKind : RouteBackendKind → ResourceKind
  | ui => .ui
  | container => .container
  | function => .function

end RouteBackendKind

namespace NetworkSpec

/-- The route of every path. -/
def defaultRoute? (n : NetworkSpec) : Option RouteTarget :=
  let first : Option (String × RouteBackendKind) :=
    (n.containers.head?.map fun c => (c.name, .container))
      <|> (n.functions.head?.map fun f => (f.name, .function))
      <|> (n.uis.head?.map fun u => (u.name, .ui))
  first.map fun (backend, kind) => ⟨"/*", backend, kind⟩

/-- The kinds of workload that have a name. -/
def kindsOf (n : NetworkSpec) (name : String) : List RouteBackendKind :=
  (if (n.ui? name).isSome then [.ui] else [])
    ++ (if (n.container? name).isSome then [.container] else [])
    ++ (if (n.function? name).isSome then [.function] else [])

/-- Where a route leads. -/
def routeTarget (n : NetworkSpec) (r : RouteSpec) : Except Violation RouteTarget :=
  match n.kindsOf r.backend with
  | [kind] => .ok ⟨r.path, r.backend, kind⟩
  | [] => .error (.unknownRoute r.path r.backend n.name)
  | _ => .error (.ambiguousRoute r.path r.backend n.name)

/-- Where the routes of a load balancer lead. -/
def routeTargets (n : NetworkSpec) (lb : LoadBalancerSpec) : Except Violation (List RouteTarget) :=
  if lb.routes.isEmpty then
    match n.defaultRoute? with
    | some route => .ok [route]
    | none => .error (.nothingToRoute n.name)
  else lb.routes.mapM n.routeTarget

end NetworkSpec

namespace Project

variable (p : Project)

/-- The ingress that a load balancer becomes in a cluster. -/
def ingressNode (c : Cluster) (n : NetworkSpec) (lb : LoadBalancerSpec)
    (targets : List RouteTarget) : Resource :=
  let name := lb.name.getD n.name
  let pods := targets.flatMap fun t =>
    [ResourceKind.deployment.nodeId t.backend, ResourceKind.service.nodeId t.backend]
  p.node .ingress name (.ingress {
    ingressName := sanitizeLabel name
    namespaceName := c.namespaceName
    host := lb.domain
    tls := lb.https && lb.domain.isSome
    ingressClass := c.ingressClass
    rules := targets.map fun t => ⟨t.path, sanitizeLabel t.backend, servicePort⟩ })
    (c.namespaceId :: pods).eraseDups (some n.name)

/-- The load balancer in front of a network of a cloud project. -/
def balancerNode (site : Site) (lb : LoadBalancerSpec) (targets : List RouteTarget) : Resource :=
  let name := lb.name.getD site.spec.name
  let network := if p.backend = .construct then [] else site.networkId.toList
  let backends := targets.map fun t => t.backendKind.resourceKind.nodeId t.backend
  p.node .loadBalancer name (.loadBalancer {
    lbName := p.cloudName name
    region := p.region
    https := lb.https
    domain := lb.domain
    routes := targets
    iapMembers := (lb.iap.filter (·.enabled)).map (·.members) })
    (network ++ backends).eraseDups (some site.spec.name)

/-- The node of a load balancer. -/
def loadBalancerNodes (site : Site) (lb : LoadBalancerSpec) :
    Except CompileError (List Resource) := do
  let targets ← (site.spec.routeTargets lb).mapError (.invalid p.backend)
  return match p.cluster with
    | some c => [p.ingressNode c site.spec lb targets]
    | none => [p.balancerNode site lb targets]

end Project

end Groundwork
