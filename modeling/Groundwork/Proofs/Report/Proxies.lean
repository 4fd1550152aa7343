import Groundwork.Proofs.Report.Balancers
import Groundwork.Proofs.Resolution.Rules

/-!
# Proxies that check users

A load balancer whose proxy checks users has to be reached over HTTPS, or what the proxy lets
through could be read on the way.  Constructs demand that of the description.  In the code of a
load balancer it is the settings that decide between the two proxies: with HTTPS and a domain there
is an HTTPS proxy with a certificate for the domain, and the one forwarding rule leads port 443 to
it.

Main definition:

- `Code.Script.ServesHttps`: a script and its text serve a load balancer over HTTPS and not
  otherwise.

Main results:

- `Code.servesHttps_balancerStatements`: the code of a load balancer with HTTPS and a domain.
- `Description.legality_exact`: what each backend demands, and what follows for proxies.
-/

namespace Groundwork

namespace Code

/-! ## Reading scripts -/

/-- A script serves a load balancer of some name over HTTPS, and not otherwise: all that it has of
proxies is one for HTTPS, with a certificate for the domain, and its one forwarding rule leads port
443 to that proxy.  The text of the script makes just these, and has the lines that tie them to each
other. -/
structure Script.ServesHttps (s : Script) (name domain : String) : Prop where
  http_eq : made (httpProxyClass s.dialect) s.statements = []
  exists_proxy : ∃ fields,
    made (httpsProxyClass s.dialect) s.statements = [(some (codeIdentifier name "proxy"), fields)] ∧
      fields.lookup "urlMap" = some (member (codeIdentifier name "url_map") "id") ∧
      fields.lookup "sslCertificates" = some (.row [member (codeIdentifier name "cert") "id"])
  exists_certificate : ∃ fields,
    made (certificateClass s.dialect) s.statements = [(some (codeIdentifier name "cert"), fields)] ∧
      fields.lookup "managed" = some (nested "domains" (.texts [domain]))
  exists_rule : ∃ fields,
    made (forwardingRuleClass s.dialect) s.statements = [(none, fields)] ∧
      fields.lookup "target" = some (member (codeIdentifier name "proxy") "id") ∧
      fields.lookup "portRange" = some (.quoted "443")
  madeNames_http : madeNames (httpProxyClass s.dialect).name s.code.toList = []
  madeNames_https : madeNames (httpsProxyClass s.dialect).name s.code.toList =
    [some (codeIdentifier name "proxy")]
  madeNames_certificate : madeNames (certificateClass s.dialect).name s.code.toList =
    [some (codeIdentifier name "cert")]
  madeNames_rule : madeNames (forwardingRuleClass s.dialect).name s.code.toList = [none]
  target_isInfix : ("target: " ++ codeIdentifier name "proxy" ++ ".id").toList <:+: s.code.toList
  port_isInfix : "portRange: \"443\"".toList <:+: s.code.toList
  urlMap_isInfix : ("urlMap: " ++ codeIdentifier name "url_map" ++ ".id").toList <:+:
    s.code.toList
  certificate_isInfix : ("sslCertificates: [" ++ codeIdentifier name "cert" ++ ".id]").toList <:+:
    s.code.toList
  domain_isInfix : "domains: [".toList ++ quote domain.toList ++ [']'] <:+: s.code.toList

/-! ## The proxy of a load balancer -/

section Balancer

variable {d : Dialect} {r : Resource} {c : LoadBalancerConfig} {cls : ResourceClass}

/-- Classes that say how a load balancer is reached. -/
def frontClasses (d : Dialect) : List ResourceClass :=
  [httpProxyClass d, httpsProxyClass d, certificateClass d, forwardingRuleClass d]

theorem made_backendStatements (hcls : cls ∈ frontClasses d) (t : RouteTarget) :
    made cls (backendStatements d r c t) = [] := by
  have hothers : endpointGroupClass d ≠ cls ∧ backendServiceClass d ≠ cls ∧
      backendMemberClass d ≠ cls := by
    revert cls
    cases d <;> decide
  simp [made, backendStatements, Statement.made?, hothers, List.filterMap_map]

/-- How a load balancer is reached is said by its proxy and its forwarding rule. -/
theorem made_balancerStatements (hcls : cls ∈ frontClasses d) (first : RouteTarget) :
    made cls (balancerStatements d r c first) =
      made cls (proxyStatements d r c) ++
        made cls [.attach (forwardingRuleClass d) (d.label r "-rule")
          (d.named (c.lbName ++ "-rule") ++
            [("target", member (codeIdentifier r.name "proxy") "id"),
             ("ipAddress", member (codeIdentifier r.name "address") "address"),
             ("portRange", .quoted (balancerPort c)),
             ("loadBalancingScheme", .quoted "EXTERNAL_MANAGED")])] := by
  have hothers : urlMapClass d ≠ cls ∧ addressClass d ≠ cls := by
    revert cls
    cases d <;> decide
  have hbackends : made cls ((firstRoutes [] c.routes).flatMap (backendStatements d r c)) = [] := by
    simp [made_flatMap, made_backendStatements hcls]
  have hmap : made cls [urlMapStatement d r c first,
      .declare (codeIdentifier r.name "address") (addressClass d) (d.label r "-address")
        [("name", .quoted (c.lbName ++ "-ip"))]] = [] := by
    simp [made, urlMapStatement, Statement.made?, hothers]
  rw [balancerStatements, made_append, made_append, made_append, hbackends, hmap]
  exact congrArg _ ((made_append cls [_] [_]).trans (List.append_nil _))

/-- What a load balancer with HTTPS and a domain makes to be reached: an HTTPS proxy in front of its
map, a certificate for the domain, and a rule that leads port 443 to the proxy. -/
structure FrontFields (name domain : String) (proxy certificate rule : FieldList) : Prop where
  urlMap : proxy.lookup "urlMap" = some (member (codeIdentifier name "url_map") "id")
  sslCertificates :
    proxy.lookup "sslCertificates" = some (.row [member (codeIdentifier name "cert") "id"])
  managed : certificate.lookup "managed" = some (nested "domains" (.texts [domain]))
  target : rule.lookup "target" = some (member (codeIdentifier name "proxy") "id")
  portRange : rule.lookup "portRange" = some (.quoted "443")

/-- A load balancer with HTTPS and a domain is reached in this way, and in no other. -/
theorem exists_frontFields (hhttps : c.https = true) {domain : String}
    (hdomain : c.domain = some domain) (first : RouteTarget) :
    ∃ proxy certificate rule, FrontFields r.name domain proxy certificate rule ∧
      made (httpProxyClass d) (balancerStatements d r c first) = [] ∧
      made (httpsProxyClass d) (balancerStatements d r c first) =
        [(some (codeIdentifier r.name "proxy"), proxy)] ∧
      made (certificateClass d) (balancerStatements d r c first) =
        [(some (codeIdentifier r.name "cert"), certificate)] ∧
      made (forwardingRuleClass d) (balancerStatements d r c first) = [(none, rule)] := by
  have hmade := fun cls (hcls : cls ∈ frontClasses d) =>
    made_balancerStatements (r := r) (c := c) hcls first
  simp only [frontClasses, List.forall_mem_cons, proxyStatements, balancerPort, hhttps, hdomain]
    at hmade
  obtain ⟨hhttp, hhttps, hcertificate, hrule, -⟩ := hmade
  cases d
  all_goals
    exact ⟨_, _, _, ⟨rfl, rfl, rfl, rfl, rfl⟩, hhttp, hhttps, hcertificate, hrule⟩

/-- The classes of the front of a load balancer are among those of the load balancer. -/
theorem frontClasses_subset : frontClasses d ⊆ declaredClasses d ++ attachedClasses d := by
  cases d <;> decide

/-- A field that holds the id of something is on a line of the text. -/
theorem idLine_isInfix_code {s : Script} {binding : Option String} {fields : FieldList}
    (hmade : (binding, fields) ∈ made cls s.statements) {key name suffix before : String}
    (hvalue : fields.lookup key = some (member (codeIdentifier name suffix) "id"))
    (hbefore : before.toList = key.toList ++ ": ".toList) (hkey : '\n' ∉ key.toList)
    (hsuffix : '\n' ∉ suffix.toList) :
    (before ++ codeIdentifier name suffix ++ ".id").toList <:+: s.code.toList := by
  have hid : ".id".toList = ".".toList ++ "id".toList := rfl
  have hname : '\n' ∉ (codeIdentifier name suffix).toList := mt lineFeed_mem_codeIdentifier.1 hsuffix
  rw [String.toList_append, String.toList_append, hbefore, hid, List.append_assoc,
    List.append_assoc]
  refine Script.fieldLine_isInfix_code hmade hvalue ?_ ?_
  · exact List.not_mem_append hkey (List.not_mem_append (by decide)
      (List.not_mem_append hname (by decide)))
  · rw [Expression.fieldText_member]

/-- The certificate of a proxy is on a line of the text. -/
theorem certificateLine_isInfix_code {s : Script} {binding : Option String} {fields : FieldList}
    (hmade : (binding, fields) ∈ made cls s.statements) {name : String}
    (hvalue : fields.lookup "sslCertificates" =
      some (.row [member (codeIdentifier name "cert") "id"])) :
    ("sslCertificates: [" ++ codeIdentifier name "cert" ++ ".id]").toList <:+: s.code.toList := by
  have hopen : "sslCertificates: [".toList = "sslCertificates".toList ++ [':', ' ', '['] := rfl
  have hclose : ".id]".toList = ".".toList ++ ("id".toList ++ [']']) := rfl
  have hname : '\n' ∉ (codeIdentifier name "cert").toList :=
    mt lineFeed_mem_codeIdentifier.1 (by decide)
  rw [String.toList_append, String.toList_append, hopen, hclose]
  refine Script.fieldLine_isInfix_code hmade hvalue ?_ ?_
  · exact List.not_mem_append (List.not_mem_append (by decide) hname) (by decide)
  · simp only [Expression.fieldText, Expression.render, Expression.renderItems,
      Expression.commaSeparated, member, String.toList_append, List.append_assoc,
      List.cons_append, List.nil_append]
    exact List.infix_rfl

/-- The port of a rule is on a line of the text. -/
theorem portLine_isInfix_code {s : Script} {binding : Option String} {fields : FieldList}
    (hmade : (binding, fields) ∈ made cls s.statements)
    (hvalue : fields.lookup "portRange" = some (.quoted "443")) :
    "portRange: \"443\"".toList <:+: s.code.toList := by
  refine Script.fieldLine_isInfix_code hmade hvalue (by decide) ?_
  rw [Expression.fieldText, Expression.render]
  exact List.infix_rfl

/-- The domain of a certificate is on a line of the text. -/
theorem domainLine_isInfix_code {s : Script} {binding : Option String} {fields : FieldList}
    (hmade : (binding, fields) ∈ made cls s.statements) {domain : String}
    (hvalue : fields.lookup "managed" = some (nested "domains" (.texts [domain]))) :
    "domains: [".toList ++ quote domain.toList ++ [']'] <:+: s.code.toList := by
  have hopen : "domains: [".toList = "domains".toList ++ [':', ' ', '['] := rfl
  have hline : '\n' ∉ "domains: [".toList ++ quote domain.toList ++ [']'] :=
    List.not_mem_append (List.not_mem_append (by decide) (lineFeed_not_mem_quote _)) (by decide)
  refine Script.fieldLine_isInfix_code hmade hvalue hline (Expression.isInfix_fieldText _ ?_)
  refine Expression.isInfix_nested hline ?_
  rw [hopen]
  simp only [Expression.fieldText, Expression.texts, List.map_cons, List.map_nil,
    Expression.render, Expression.renderItems, Expression.commaSeparated, List.append_assoc,
    List.cons_append, List.nil_append]
  exact List.infix_rfl

/-- A load balancer with HTTPS and a domain is served over HTTPS, and not otherwise. -/
theorem servesHttps_balancerStatements (hhttps : c.https = true) {domain : String}
    (hdomain : c.domain = some domain) (first : RouteTarget) :
    Script.ServesHttps ⟨d, balancerStatements d r c first⟩ r.name domain := by
  obtain ⟨proxy, certificate, rule, hfields, hhttp, hproxy, hcertificate, hrule⟩ :=
    exists_frontFields (d := d) (r := r) hhttps hdomain first
  have hnames := fun cls (hcls : cls ∈ frontClasses d) =>
    madeNames_balancerStatements (r := r) (c := c) (frontClasses_subset hcls) first
  simp only [frontClasses, List.forall_mem_cons, hhttp, hproxy, hcertificate, hrule] at hnames
  obtain ⟨hhttpNames, hproxyNames, hcertificateNames, hruleNames, -⟩ := hnames
  exact
    { http_eq := hhttp
      exists_proxy := ⟨proxy, hproxy, hfields.urlMap, hfields.sslCertificates⟩
      exists_certificate := ⟨certificate, hcertificate, hfields.managed⟩
      exists_rule := ⟨rule, hrule, hfields.target, hfields.portRange⟩
      madeNames_http := hhttpNames
      madeNames_https := hproxyNames
      madeNames_certificate := hcertificateNames
      madeNames_rule := hruleNames
      target_isInfix :=
        idLine_isInfix_code (hrule ▸ List.mem_singleton_self _) hfields.target rfl (by decide)
          (by decide)
      port_isInfix := portLine_isInfix_code (hrule ▸ List.mem_singleton_self _) hfields.portRange
      urlMap_isInfix :=
        idLine_isInfix_code (hproxy ▸ List.mem_singleton_self _) hfields.urlMap rfl (by decide)
          (by decide)
      certificate_isInfix :=
        certificateLine_isInfix_code (hproxy ▸ List.mem_singleton_self _) hfields.sslCertificates
      domain_isInfix :=
        domainLine_isInfix_code (hcertificate ▸ List.mem_singleton_self _) hfields.managed }

end Balancer

end Code

/-! ## Legality and what follows from it -/

namespace Description

variable {d : Description} {p : Plan} {r : Resource} {c : LoadBalancerConfig}

/-- In constructs that compile, a load balancer whose proxy checks users has HTTPS and a domain, and
its code serves it over HTTPS. -/
theorem Compiles.servesHttps (h : d.Compiles p) (hb : d.project.backend = .construct)
    (hr : r ∈ p.resources) (hc : r.config = .loadBalancer c) (hmembers : c.iapMembers ≠ none) :
    c.https = true ∧ ∃ domain, c.domain = some domain ∧
      ∃ s, Registry.builtin.generate r = .ok (.script s) ∧ s.dialect = .construct ∧
        s.ServesHttps r.name domain := by
  have hlegal := h.legal
  rw [Legal, hb, Backend.construct_checkLegality_iff] at hlegal
  obtain ⟨-, n, hn, lb, hlb, -, heq⟩ := (h.origin hr).exists_balancer hc
  have hsettings : c.https = lb.https ∧ c.domain = lb.domain ∧
      c.iapMembers = (lb.iap.filter (·.enabled)).map (·.members) := by
    rw [heq] at hc
    have hconfig := ResourceConfig.loadBalancer.inj hc
    exact ⟨(congrArg LoadBalancerConfig.https hconfig).symm,
      (congrArg LoadBalancerConfig.domain hconfig).symm,
      (congrArg LoadBalancerConfig.iapMembers hconfig).symm⟩
  obtain ⟨hhttps, hdomain, hiap⟩ := hsettings
  -- There are members only where the description has a proxy that is enabled.
  obtain ⟨iap, hsome, henabled⟩ : ∃ iap, lb.iap = some iap ∧ iap.enabled = true := by
    rw [hiap] at hmembers
    obtain ⟨iap, hfilter⟩ := Option.ne_none_iff_exists'.1 (mt Option.map_eq_none_iff.2 hmembers)
    exact ⟨iap, Option.filter_eq_some_iff.1 hfilter⟩
  obtain ⟨hsecure, domain, hcertified⟩ := hlegal.proxyHttps n hn lb hlb iap hsome henabled
  obtain ⟨dialect, first, hdialect, hs⟩ := script_of_resolve h.resolve_eq hr hc
  rw [hb] at hdialect
  cases hdialect
  exact ⟨hhttps.trans hsecure, domain, hdomain.trans hcertified, _, hs, rfl,
    Code.servesHttps_balancerStatements (hhttps.trans hsecure) (hdomain.trans hcertified) first⟩

/-- Each backend accepts exactly the descriptions that meet its demands.  Where a cluster is refused
for nothing but the names of its workloads, the report names the first workload with a name that was
there before, and the one that had it.  In constructs that compile, every load balancer whose proxy
checks users has HTTPS and a domain, and its code serves it on port 443 through an HTTPS proxy with
a certificate for the domain, and in no other way. -/
theorem legality_exact (d : Description) :
    (Backend.flat.checkLegality d = .ok () ↔ d.FitsFlat) ∧
    (Backend.construct.checkLegality d = .ok () ↔ d.FitsConstruct) ∧
    (Backend.manifest.checkLegality d = .ok () ↔
      d.FitsCluster ∧ Requirement.distinctWorkloads.Kept d) ∧
    (d.FitsCluster → ∀ e, Backend.manifest.checkLegality d = .error e ↔
      ∃ first second name, e = .invalid .manifest (.sharedName first second name) ∧
        Legality.FirstShared (Legality.workloads d) first second name) ∧
    ∀ p, d.project.backend = .construct → d.compile = .ok p →
      ∀ r ∈ p.resources, ∀ c, r.config = .loadBalancer c → c.iapMembers ≠ none →
        c.https = true ∧ ∃ domain, c.domain = some domain ∧
          ∃ s, Registry.builtin.generate r = .ok (.script s) ∧ s.dialect = .construct ∧
            s.ServesHttps r.name domain :=
  ⟨Backend.flat_checkLegality_iff, Backend.construct_checkLegality_iff,
    Backend.manifest_checkLegality_iff, fun h _ => h.checkLegality_eq_error_iff,
    fun _ hb hp _ hr _ hc hmembers =>
      (compile_eq_ok_iff.1 hp).servesHttps hb hr hc hmembers⟩

/-- Constructs with a load balancer whose proxy checks users. -/
def guarded : Description :=
  ofNetworks ⟨"shop", "us-central1", none, .construct⟩ [
    { NetworkSpec.ofContainers "main" ["api"] with
      loadBalancer := some ⟨none, true, some "shop.example", [⟨"/", "api"⟩],
        some ⟨true, ["group:staff@shop.example"]⟩⟩ }]

/-- It compiles and is served over HTTPS; and of three containers in a cluster the third, which has
the name of the first, is reported. -/
theorem legality_exact_guarded :
    (∃ p, ∃ r ∈ p.resources, ∃ c s, guarded.compile = .ok p ∧ r.config = .loadBalancer c ∧
      c.iapMembers = some ["group:staff@shop.example"] ∧
      Registry.builtin.generate r = .ok (.script s) ∧ s.ServesHttps r.name "shop.example") ∧
    Backend.manifest.checkLegality (.inCluster ["api", "mail", "api"]) =
      .error (.invalid .manifest (.sharedName "container 'api' in network 'main'"
        "container 'api' in network 'main'" "api")) := by
  obtain ⟨-, -, -, -, hguarded⟩ := legality_exact guarded
  obtain ⟨-, -, -, hshared, -⟩ := legality_exact (.inCluster ["api", "mail", "api"])
  constructor
  · have hsettings : guarded.compile.toOption.map (fun p => p.resources.filterMap fun r =>
          (SettingsKind.loadBalancer.select? r.config).map fun c => (c.domain, c.iapMembers)) =
        some [(some "shop.example", some ["group:staff@shop.example"])] := by
      decide +kernel
    cases hcompile : guarded.compile with
    | error e =>
      rw [hcompile] at hsettings
      cases hsettings
    | ok p =>
      rw [hcompile] at hsettings
      have hmem := List.mem_singleton_self (some "shop.example", some ["group:staff@shop.example"])
      rw [← Option.some.inj hsettings] at hmem
      obtain ⟨r, hr, hselected⟩ := List.mem_filterMap.1 hmem
      obtain ⟨c, hselect, hvalues⟩ := Option.map_eq_some_iff.1 hselected
      obtain ⟨hdomain, hmembers⟩ := Prod.mk.inj hvalues
      have hc := SettingsKind.select?_loadBalancer_eq_some_iff.1 hselect
      obtain ⟨-, domain, hdomain', s, hs, -, hserves⟩ :=
        hguarded p rfl hcompile r hr c hc (by simp [hmembers])
      obtain rfl := Option.some.inj (hdomain'.symm.trans hdomain)
      exact ⟨p, r, hr, c, s, rfl, hc, hmembers, hs, hserves⟩
  · have hfits : (inCluster ["api", "mail", "api"]).FitsCluster :=
      ⟨rfl, rfl, ⟨_, _, rfl, rfl⟩, ⟨_, _, rfl, rfl⟩, Or.inl rfl⟩
    refine (hshared hfits _).2 ⟨_, _, _, rfl, ?_⟩
    exact ⟨[("container 'api' in network 'main'", "api"),
      ("container 'mail' in network 'main'", "mail")], [], by decide +kernel, by decide +kernel,
      by decide +kernel⟩

end Description

end Groundwork
