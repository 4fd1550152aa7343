import Groundwork.Code.Value

/-!
# Load balancers in code

A load balancer is an endpoint group and a backend service for every workload that it leads to, a
map of paths, an address, a proxy and the rule that ties address and proxy together.  A workload
that several routes lead to is declared once, as the first of them has it.
-/

namespace Groundwork.Code

def endpointGroupClass : Dialect → ResourceClass :=
  cloudClass "gcp.compute.RegionNetworkEndpointGroup" "ComputeRegionNetworkEndpointGroup"
    "compute-region-network-endpoint-group"

def backendServiceClass : Dialect → ResourceClass :=
  cloudClass "gcp.compute.BackendService" "ComputeBackendService" "compute-backend-service"

def backendMemberClass : Dialect → ResourceClass :=
  cloudClass "gcp.iap.WebBackendServiceIamMember" "IapWebBackendServiceIamMember"
    "iap-web-backend-service-iam-member"

def urlMapClass : Dialect → ResourceClass :=
  cloudClass "gcp.compute.URLMap" "ComputeUrlMap" "compute-url-map"

def addressClass : Dialect → ResourceClass :=
  cloudClass "gcp.compute.GlobalAddress" "ComputeGlobalAddress" "compute-global-address"

def certificateClass : Dialect → ResourceClass :=
  cloudClass "gcp.compute.ManagedSslCertificate" "ComputeManagedSslCertificate"
    "compute-managed-ssl-certificate"

def httpsProxyClass : Dialect → ResourceClass :=
  cloudClass "gcp.compute.TargetHttpsProxy" "ComputeTargetHttpsProxy" "compute-target-https-proxy"

def httpProxyClass : Dialect → ResourceClass :=
  cloudClass "gcp.compute.TargetHttpProxy" "ComputeTargetHttpProxy" "compute-target-http-proxy"

def forwardingRuleClass : Dialect → ResourceClass :=
  cloudClass "gcp.compute.GlobalForwardingRule" "ComputeGlobalForwardingRule"
    "compute-global-forwarding-rule"

/-- The first route to every workload. -/
def firstRoutes (seen : List String) : List RouteTarget → List RouteTarget
  | [] => []
  | t :: rest =>
    if t.backend ∈ seen then firstRoutes seen rest
    else t :: firstRoutes (t.backend :: seen) rest

/-- The name of the workload that a route leads to, as its declaration gives it. -/
def targetName (d : Dialect) (t : RouteTarget) : Expression :=
  match d, t.backendKind with
  | .flat, .function => .code (outputVariable t.backend "functionName")
  | .flat, _ => .code (outputVariable t.backend "serviceName")
  | .construct, .container => member (codeIdentifier t.backend "service") "name"
  | .construct, .ui => member (codeIdentifier t.backend "ui") "name"
  | .construct, .function => member (codeIdentifier t.backend "function") "name"

/-- The field of an endpoint group that says what it leads to. -/
def targetField (d : Dialect) (t : RouteTarget) : String × Expression :=
  match t.backendKind with
  | .function => ("cloudFunction", nested "function" (targetName d t))
  | _ => ("cloudRun", nested "service" (targetName d t))

/-- The id of the backend service of a workload. -/
def backendId (t : RouteTarget) : Expression := member (codeIdentifier t.backend "backend") "id"

/-- The statements for a workload behind a load balancer. -/
def backendStatements (d : Dialect) (r : Resource) (c : LoadBalancerConfig) (t : RouteTarget) :
    List Statement :=
  let group := codeIdentifier t.backend "neg"
  let backend := codeIdentifier t.backend "backend"
  let label (suffix : String) : String := d.label r ("-" ++ t.backend ++ suffix)
  let name (suffix : String) : FieldList := d.named (c.lbName ++ "-" ++ t.backend ++ suffix)
  let proxied : FieldList :=
    if c.iapMembers.isSome then [("iap", nested "enabled" (.truth true))] else []
  let grant (entry : String × Nat) : Statement :=
    .attach (backendMemberClass d) (label ("-iap-" ++ toString entry.2))
      [("webBackendService", member backend "name"),
       ("role", .quoted "roles/iap.httpsResourceAccessor"),
       ("member", .quoted entry.1)]
  [.declare group (endpointGroupClass d) (label "-neg")
    (name "-neg" ++
      [("region", .quoted c.region), ("networkEndpointType", .quoted "SERVERLESS"),
       targetField d t]),
   .declare backend (backendServiceClass d) (label "-backend")
    (name "-backend" ++
      [("protocol", .quoted "HTTP"),
       ("loadBalancingScheme", .quoted "EXTERNAL_MANAGED"),
       (d.plural "backend", d.only (.inlineObject [("group", member group "id")]))]
      ++ proxied)]
    ++ (c.iapMembers.getD []).zipIdx.map grant

/-- The map of paths; what matches no route goes where the first route leads. -/
def urlMapStatement (d : Dialect) (r : Resource) (c : LoadBalancerConfig) (first : RouteTarget) :
    Statement :=
  let rule (t : RouteTarget) : Expression :=
    .inlineObject [("paths", .texts [t.path]), ("service", backendId t)]
  let hosts : Expression := .inlineObject
    [("hosts", .texts [c.domain.getD "*"]), ("pathMatcher", .quoted "routes")]
  let matcher : Expression := .object
    [("name", .quoted "routes"),
     ("defaultService", backendId first),
     (d.plural "pathRule", .list (c.routes.map rule))]
  .declare (codeIdentifier r.name "url_map") (urlMapClass d) (d.label r "-url-map")
    [("name", .quoted (c.lbName ++ "-url-map")),
     ("defaultService", backendId first),
     (d.plural "hostRule", d.only hosts),
     (d.plural "pathMatcher", d.only matcher)]

/-- The proxy in front of the map: with a certificate if there is a domain to certify. -/
def proxyStatements (d : Dialect) (r : Resource) (c : LoadBalancerConfig) : List Statement :=
  let proxy := codeIdentifier r.name "proxy"
  let certificate := codeIdentifier r.name "cert"
  let fields : FieldList :=
    d.named (c.lbName ++ "-proxy") ++ [("urlMap", member (codeIdentifier r.name "url_map") "id")]
  match c.https, c.domain with
  | true, some domain =>
    [.declare certificate (certificateClass d) (d.label r "-cert")
      [("name", .quoted (c.lbName ++ "-cert")), ("managed", nested "domains" (.texts [domain]))],
     .declare proxy (httpsProxyClass d) (d.label r "-proxy")
      (fields ++ [("sslCertificates", .row [member certificate "id"])])]
  | _, _ => [.declare proxy (httpProxyClass d) (d.label r "-proxy") fields]

/-- The port on which a load balancer listens. -/
def balancerPort (c : LoadBalancerConfig) : String :=
  if c.https && c.domain.isSome then "443" else "80"

/-- The statements of a load balancer whose first route is given. -/
def balancerStatements (d : Dialect) (r : Resource) (c : LoadBalancerConfig)
    (first : RouteTarget) : List Statement :=
  let address := codeIdentifier r.name "address"
  (firstRoutes [] c.routes).flatMap (backendStatements d r c)
    ++ [urlMapStatement d r c first,
        .declare address (addressClass d) (d.label r "-address")
          [("name", .quoted (c.lbName ++ "-ip"))]]
    ++ proxyStatements d r c
    ++ [.attach (forwardingRuleClass d) (d.label r "-rule")
          (d.named (c.lbName ++ "-rule") ++
            [("target", member (codeIdentifier r.name "proxy") "id"),
             ("ipAddress", member address "address"),
             ("portRange", .quoted (balancerPort c)),
             ("loadBalancingScheme", .quoted "EXTERNAL_MANAGED")]),
        r.output "ipAddress" (member address "address")]

/-- The first route that flat code cannot lead anywhere, because it has no frontends. -/
def strandedRoute? (d : Dialect) (c : LoadBalancerConfig) : Option RouteTarget :=
  match d with
  | .flat => (firstRoutes [] c.routes).find? (·.backendKind = .ui)
  | .construct => none

/-- A load balancer, or why there is no code for it. -/
def loadBalancer (d : Dialect) (r : Resource) (c : LoadBalancerConfig) : Except String Script :=
  match c.routes, strandedRoute? d c with
  | [], _ => .error "load balancer has no routes"
  | _, some t => .error ("UI backend '" ++ t.backend ++ "' has no flat counterpart")
  | first :: _, none => .ok ⟨d, balancerStatements d r c first⟩

end Groundwork.Code
