import Groundwork.Proofs.Code.Resources
import Groundwork.Proofs.Registry.Builtin
import Groundwork.Proofs.Resolution.Origins

/-!
# Load balancers in generated code

The code of a load balancer has an endpoint group and a backend service for each name that routes
lead to, made for the first route to that name.  The network lets two routes to one name lead to one
workload only, so no route loses its workload that way: its path rule goes to a service that is
declared once, the service to a group, and the group to the workload of the route.

Main definitions:

- `RouteTarget.identifier`: the identifier by which code knows the workload of a route.
- `Code.declared`, `Script.pathRules`: what statements declare, and the path rules of a script.
- `Script.Balances`: a script and its text lead every route to its workload.

Main results:

- `Code.map_backend_firstRoutes`: one route is kept for each name.
- `Code.madeNames_balancerStatements`: what the text of a load balancer makes of a class.
- `Description.balancers_of_resolve`: where load balancers lead, and how their code does.
-/

namespace Groundwork

open Code (Dialect)

/-! ## Names of workloads -/

/-- What the identifier of a workload ends in. -/
def RouteBackendKind.ending : RouteBackendKind → Dialect → Ending
  | function, .flat => .field "functionName"
  | _, .flat => .field "serviceName"
  | container, .construct => .suffix "service"
  | ui, .construct => .suffix "ui"
  | function, .construct => .suffix "function"

namespace RouteTarget

/-- The identifier by which the code of a load balancer knows a workload: an output of it in flat
code, and the workload itself in constructs. -/
def identifier (t : RouteTarget) : Dialect → String
  | .flat =>
    match t.backendKind with
    | .function => outputVariable t.backend "functionName"
    | _ => outputVariable t.backend "serviceName"
  | .construct =>
    match t.backendKind with
    | .container => codeIdentifier t.backend "service"
    | .ui => codeIdentifier t.backend "ui"
    | .function => codeIdentifier t.backend "function"

/-- The code that stands for the name of the workload. -/
def reference (t : RouteTarget) : Dialect → String
  | .flat => t.identifier .flat
  | .construct => t.identifier .construct ++ "." ++ "name"

/-- The line that leads an endpoint group to the workload. -/
def targetLine (t : RouteTarget) (d : Dialect) : String :=
  (if t.backendKind = .function then "function" else "service") ++ (": " ++ t.reference d)

/-- The line that leads the path of a route to the service for its workload. -/
def ruleLine (t : RouteTarget) : List Char :=
  "\x7b paths: [".toList ++ (Code.quote t.path.toList ++ ("], service: ".toList ++
    ((codeIdentifier t.backend "backend").toList ++ ".id \x7d".toList)))

/-- The identifier is the name that the code of the workload binds for its ending. -/
theorem identifier_eq (t : RouteTarget) (d : Dialect) :
    t.identifier d = Binding.name ⟨t.backend, t.backendKind.ending d⟩ := by
  obtain ⟨path, backend, kind⟩ := t
  cases d <;> cases kind <;> rfl

/-- The reference to a workload is on one line. -/
theorem lineFeed_not_mem_reference (t : RouteTarget) (d : Dialect) :
    '\n' ∉ (t.reference d).toList := by
  have hname : '\n' ∉ (t.identifier d).toList := by
    have hending : t.backendKind.ending d ∈ Ending.all := by
      cases d <;> cases t.backendKind <;> decide
    rw [identifier_eq]
    exact (Binding.isIdentifier_name hending).not_mem (by decide) (by decide)
  cases d with
  | flat => exact hname
  | construct =>
    rw [reference, String.toList_append, String.toList_append]
    exact List.not_mem_append (List.not_mem_append hname (by decide)) (by decide)

end RouteTarget

namespace Code

/-- The code of a load balancer names a workload by that identifier, or by a field of it. -/
theorem targetName_mem (dialect : Dialect) (t : RouteTarget) :
    targetName dialect t ∈
      [.code (t.identifier dialect), member (t.identifier dialect) "name"] := by
  obtain ⟨path, backend, kind⟩ := t
  cases dialect with
  | flat => cases kind <;> exact List.mem_cons_self
  | construct => cases kind <;> exact List.mem_cons_of_mem _ List.mem_cons_self

/-- An endpoint group leads to a workload by a field that holds the reference to it. -/
theorem targetField_eq (d : Dialect) (t : RouteTarget) :
    targetField d t =
      if t.backendKind = .function then
        ("cloudFunction", nested "function" (.code (t.reference d)))
      else ("cloudRun", nested "service" (.code (t.reference d))) := by
  obtain ⟨path, backend, kind⟩ := t
  cases d <;> cases kind <;> rfl

/-! ## Reading scripts -/

/-- The fields of an object. -/
def Expression.fields : Expression → FieldList
  | .object fields | .inlineObject fields => fields
  | _ => []

/-- The items of a list. -/
def Expression.items : Expression → List Expression
  | .list items | .row items => items
  | _ => []

/-- The items of the list that a field holds. -/
def listed (fields : FieldList) (key : String) : List Expression :=
  ((fields.lookup key).map Expression.items).getD []

/-- What a statement declares of a class: its identifier and its fields. -/
def Statement.declared? (cls : ResourceClass) : Statement → Option (String × FieldList)
  | declare identifier other _ fields => if other = cls then some (identifier, fields) else none
  | _ => none

/-- What statements declare of a class, in order. -/
def declared (cls : ResourceClass) (statements : List Statement) : List (String × FieldList) :=
  statements.filterMap (·.declared? cls)

/-- The fields of the path rules of a script, in order. -/
def Script.pathRules (s : Script) : List FieldList :=
  (declared (urlMapClass s.dialect) s.statements).flatMap fun map =>
    (listed map.2 (s.dialect.plural "pathMatcher")).flatMap fun matcher =>
      (listed matcher.fields (s.dialect.plural "pathRule")).map Expression.fields

/-- A script leads every route to its workload: the path rules are those of the routes, each to the
service that its name stands for; a service is declared once for each name, and only for these; and
the service of every route leads to a group that leads to the workload of that route.  The text of
the script makes exactly these services and groups, and has the lines that lead to them. -/
structure Script.Balances (s : Script) (routes : List RouteTarget) : Prop where
  pathRules_eq : s.pathRules = routes.map fun t =>
    [("paths", .texts [t.path]), ("service", member (codeIdentifier t.backend "backend") "id")]
  services_eq : (declared (backendServiceClass s.dialect) s.statements).map (·.1) =
    (routes.map (·.backend)).eraseDups.map (codeIdentifier · "backend")
  exists_service : ∀ t ∈ routes, ∃ fields,
    (codeIdentifier t.backend "backend", fields) ∈
        declared (backendServiceClass s.dialect) s.statements ∧
      (listed fields (s.dialect.plural "backend")).map Expression.fields =
        [[("group", member (codeIdentifier t.backend "neg") "id")]]
  exists_group : ∀ t ∈ routes, ∃ fields,
    (codeIdentifier t.backend "neg", fields) ∈
        declared (endpointGroupClass s.dialect) s.statements ∧
      if t.backendKind = .function then
        ("cloudFunction", nested "function" (.code (t.reference s.dialect))) ∈ fields
      else ("cloudRun", nested "service" (.code (t.reference s.dialect))) ∈ fields
  madeNames_services : madeNames (backendServiceClass s.dialect).name s.code.toList =
    (routes.map (·.backend)).eraseDups.map fun name => some (codeIdentifier name "backend")
  madeNames_groups : madeNames (endpointGroupClass s.dialect).name s.code.toList =
    (routes.map (·.backend)).eraseDups.map fun name => some (codeIdentifier name "neg")
  ruleLine_isInfix : ∀ t ∈ routes, t.ruleLine <:+: s.code.toList
  targetLine_isInfix : ∀ t ∈ routes, (t.targetLine s.dialect).toList <:+: s.code.toList

section Declared

variable {cls other : ResourceClass} {statements : List Statement}

@[simp]
theorem declared_nil : declared cls [] = [] := rfl

@[simp]
theorem declared_append (first second : List Statement) :
    declared cls (first ++ second) = declared cls first ++ declared cls second :=
  List.filterMap_append

/-- A resource of the class is declared under its identifier. -/
@[simp]
theorem declared_declare_cons (identifier label : String) (fields : FieldList) :
    declared cls (.declare identifier cls label fields :: statements) =
      (identifier, fields) :: declared cls statements := by
  simp [declared, Statement.declared?]

/-- Resources of other classes are passed over. -/
theorem declared_declare_cons_of_ne (h : other ≠ cls) (identifier label : String)
    (fields : FieldList) :
    declared cls (.declare identifier other label fields :: statements) =
      declared cls statements := by
  simp [declared, Statement.declared?, h]

@[simp]
theorem declared_attach_cons (label : String) (fields : FieldList) :
    declared cls (.attach other label fields :: statements) = declared cls statements := rfl

@[simp]
theorem declared_output_cons (r : Resource) (field : String) (value : Expression) :
    declared cls (r.output field value :: statements) = declared cls statements := rfl

/-- Attached resources declare nothing. -/
@[simp]
theorem declared_map_attach {α : Type} (l : List α) (classOf : α → ResourceClass)
    (label : α → String) (fields : α → FieldList) :
    declared cls (l.map fun a => .attach (classOf a) (label a) (fields a)) = [] := by
  simp [declared, Statement.declared?]

/-- What the statements for each entry of a list declare. -/
theorem declared_flatMap {α : Type} (l : List α) (f : α → List Statement) :
    declared cls (l.flatMap f) = l.flatMap fun a => declared cls (f a) :=
  List.filterMap_flatMap

/-- Of a class that nothing is attached of, everything that is made is declared. -/
theorem map_fst_made (h : ∀ label fields, .attach cls label fields ∉ statements) :
    (made cls statements).map (·.1) = (declared cls statements).map fun entry => some entry.1 := by
  rw [made, declared, List.map_filterMap, List.map_filterMap]
  refine List.filterMap_congr fun st hst => ?_
  cases st with
  | declare identifier other label fields =>
    by_cases hother : other = cls <;> simp [Statement.made?, Statement.declared?, hother]
  | attach other label fields =>
    have hother : other ≠ cls := by
      rintro rfl
      exact h label fields hst
    simp [Statement.made?, Statement.declared?, hother]
  | output variableName value => rfl

/-- What is declared of a class is made of it. -/
theorem mem_made_of_mem_declared {name : String} {fields : FieldList}
    (h : (name, fields) ∈ declared cls statements) : (some name, fields) ∈ made cls statements := by
  obtain ⟨st, hst, hdeclared⟩ := List.mem_filterMap.1 h
  refine List.mem_filterMap.2 ⟨st, hst, ?_⟩
  cases st with
  | declare identifier other label fields' =>
    rw [Statement.declared?, Option.ite_none_right_eq_some] at hdeclared
    rw [Statement.made?, if_pos hdeclared.1]
    exact congrArg (fun entry : String × FieldList => some (some entry.1, entry.2))
      (Option.some.inj hdeclared.2)
  | attach other label fields' => cases hdeclared
  | output variableName value => cases hdeclared

end Declared

/-! ## One route for each name -/

/-- The kept routes are one for each name, in the order in which the names first come. -/
theorem map_backend_firstRoutes (seen : List String) (routes : List RouteTarget) :
    (firstRoutes seen routes).map (·.backend) =
      ((routes.map (·.backend)).filter (· ∉ seen)).eraseDups := by
  induction routes generalizing seen with
  | nil => rfl
  | cons t rest ih =>
    rw [firstRoutes, List.map_cons]
    split
    · rename_i hseen
      rw [ih, List.filter_cons_of_neg (by simpa using hseen)]
    · rename_i hnew
      rw [List.filter_cons_of_pos (by simpa using hnew), List.eraseDups_cons, List.map_cons, ih,
        List.filter_filter]
      congr 2
      refine List.filter_congr fun name _ => ?_
      by_cases hname : name = t.backend <;> simp [hname]

/-- Of the routes to a name one is kept. -/
theorem map_backend_firstRoutes_nil (routes : List RouteTarget) :
    (firstRoutes [] routes).map (·.backend) = (routes.map (·.backend)).eraseDups := by
  simp [map_backend_firstRoutes]

/-- Every route leads to the same name as a kept one. -/
theorem exists_mem_firstRoutes {routes : List RouteTarget} {t : RouteTarget} (ht : t ∈ routes) :
    ∃ kept ∈ firstRoutes [] routes, kept.backend = t.backend := by
  have hname : t.backend ∈ (firstRoutes [] routes).map (·.backend) := by
    rw [map_backend_firstRoutes_nil, List.mem_eraseDups]
    exact List.mem_map_of_mem ht
  exact List.mem_map.1 hname

/-! ## What load balancers declare -/

section Balancer

variable {d : Dialect} {r : Resource} {c : LoadBalancerConfig}

/-- The endpoint group that is declared for a route leads where the route does. -/
theorem declared_group_backendStatements (t : RouteTarget) :
    ∃ fields, declared (endpointGroupClass d) (backendStatements d r c t) =
        [(codeIdentifier t.backend "neg", fields)] ∧ targetField d t ∈ fields := by
  have hclasses : backendServiceClass d ≠ endpointGroupClass d := by cases d <;> decide
  refine ⟨?fields, ?hdeclared, ?hfield⟩
  case hdeclared =>
    simp only [backendStatements, declared_append, declared_declare_cons,
      declared_declare_cons_of_ne hclasses, declared_map_attach, declared_nil, List.append_nil]
    rfl
  case hfield => simp

/-- The backend service that is declared for a route leads to its endpoint group. -/
theorem declared_service_backendStatements (t : RouteTarget) :
    ∃ fields, declared (backendServiceClass d) (backendStatements d r c t) =
        [(codeIdentifier t.backend "backend", fields)] ∧
      (listed fields (d.plural "backend")).map Expression.fields =
        [[("group", member (codeIdentifier t.backend "neg") "id")]] := by
  have hclasses : endpointGroupClass d ≠ backendServiceClass d := by cases d <;> decide
  refine ⟨?fields, ?hdeclared, ?hgroup⟩
  case hdeclared =>
    simp only [backendStatements, declared_append, declared_declare_cons,
      declared_declare_cons_of_ne hclasses, declared_map_attach, declared_nil, List.append_nil]
    rfl
  case hgroup => cases d <;> rfl

/-- The proxy of a load balancer declares neither groups nor services nor maps of paths. -/
theorem declared_proxyStatements {cls : ResourceClass}
    (hcls : cls ∈ [endpointGroupClass d, backendServiceClass d, urlMapClass d]) :
    declared cls (proxyStatements d r c) = [] := by
  have hothers : certificateClass d ≠ cls ∧ httpsProxyClass d ≠ cls ∧ httpProxyClass d ≠ cls := by
    simp only [List.mem_cons, List.not_mem_nil, or_false] at hcls
    rcases hcls with rfl | rfl | rfl <;> cases d <;> decide
  unfold proxyStatements
  split <;> simp [declared_declare_cons_of_ne, hothers]

/-- Groups and services are declared for the routes that are kept, and for nothing else. -/
theorem declared_balancerStatements {cls : ResourceClass}
    (hcls : cls ∈ [endpointGroupClass d, backendServiceClass d]) (first : RouteTarget) :
    declared cls (balancerStatements d r c first) =
      (firstRoutes [] c.routes).flatMap fun t => declared cls (backendStatements d r c t) := by
  have hothers : urlMapClass d ≠ cls ∧ addressClass d ≠ cls := by
    simp only [List.mem_cons, List.not_mem_nil, or_false] at hcls
    rcases hcls with rfl | rfl <;> cases d <;> decide
  have hproxy : declared cls (proxyStatements d r c) = [] :=
    declared_proxyStatements (List.mem_append_left [urlMapClass d] hcls)
  simp [balancerStatements, urlMapStatement, declared_declare_cons_of_ne, hothers, hproxy,
    declared_flatMap]

/-- Whatever is declared for a kept route is declared by the load balancer. -/
theorem declared_subset_balancerStatements {cls : ResourceClass}
    (hcls : cls ∈ [endpointGroupClass d, backendServiceClass d]) (first : RouteTarget)
    {kept : RouteTarget} (hkept : kept ∈ firstRoutes [] c.routes) :
    declared cls (backendStatements d r c kept) ⊆
      declared cls (balancerStatements d r c first) := by
  intro entry hentry
  rw [declared_balancerStatements hcls]
  exact List.mem_flatMap.2 ⟨kept, hkept, hentry⟩

/-- The code of a load balancer has one map of paths, with a rule for each route. -/
theorem pathRules_balancerStatements (first : RouteTarget) :
    Script.pathRules ⟨d, balancerStatements d r c first⟩ =
      c.routes.map fun t => [("paths", .texts [t.path]), ("service", backendId t)] := by
  have hbackends : ∀ t, declared (urlMapClass d) (backendStatements d r c t) = [] := by
    have hclasses : endpointGroupClass d ≠ urlMapClass d ∧
        backendServiceClass d ≠ urlMapClass d := by
      cases d <;> decide
    simp [backendStatements, declared_declare_cons_of_ne, hclasses]
  have haddress : addressClass d ≠ urlMapClass d := by cases d <;> decide
  have hproxy : declared (urlMapClass d) (proxyStatements d r c) = [] :=
    declared_proxyStatements (by simp)
  have hmap : declared (urlMapClass d) (balancerStatements d r c first) =
      declared (urlMapClass d) [urlMapStatement d r c first] := by
    simp [balancerStatements, urlMapStatement, declared_flatMap, hbackends,
      declared_declare_cons_of_ne haddress, hproxy]
  rw [Script.pathRules, hmap, urlMapStatement, declared_declare_cons]
  cases d <;>
    simp [listed, Dialect.plural, Dialect.only, Expression.items, Expression.fields,
      List.lookup_cons, Function.comp_def]

/-! ## The text of a load balancer -/

/-- A statement that declares and attaches resources of some classes, and outputs nothing new. -/
def Statement.Among (declared attached : List ResourceClass) : Statement → Prop
  | declare _ cls _ _ => cls ∈ declared
  | attach cls _ _ => cls ∈ attached
  | output _ value => value.MakesNothing

/-- The classes that load balancers declare resources of. -/
def declaredClasses (d : Dialect) : List ResourceClass :=
  [endpointGroupClass d, backendServiceClass d, urlMapClass d, addressClass d, certificateClass d,
    httpsProxyClass d, httpProxyClass d]

/-- The classes that load balancers attach resources of. -/
def attachedClasses (d : Dialect) : List ResourceClass :=
  [backendMemberClass d, forwardingRuleClass d]

/-- The classes of load balancers have names that can be read, no two of them the same. -/
theorem names_of_balancerClasses :
    ∀ cls ∈ declaredClasses d ++ attachedClasses d,
      '(' ∉ cls.name.toList ∧ cls.name ≠ "TerraformOutput" ∧
        ∀ other ∈ declaredClasses d ++ attachedClasses d, other.name = cls.name → other = cls := by
  cases d <;> decide +kernel

/-- A load balancer declares and attaches resources of these classes only. -/
theorem among_balancerStatements (first : RouteTarget) :
    ∀ st ∈ balancerStatements d r c first, st.Among (declaredClasses d) (attachedClasses d) := by
  have hbackends : ∀ t, ∀ st ∈ backendStatements d r c t,
      st.Among (declaredClasses d) (attachedClasses d) := by
    intro t
    simp only [backendStatements, List.forall_mem_append, List.forall_mem_cons,
      List.forall_mem_map]
    simp [Statement.Among, declaredClasses, attachedClasses]
  have hproxy : ∀ st ∈ proxyStatements d r c,
      st.Among (declaredClasses d) (attachedClasses d) := by
    unfold proxyStatements
    split <;> simp [Statement.Among, declaredClasses]
  simp only [balancerStatements, List.forall_mem_append, List.forall_mem_flatMap]
  refine ⟨⟨⟨fun t _ => hbackends t, ?_⟩, hproxy⟩, ?_⟩
  · simp [urlMapStatement, Statement.Among, declaredClasses]
  · refine List.forall_mem_cons.2 ⟨by simp [Statement.Among, attachedClasses], ?_⟩
    exact List.forall_mem_singleton.2 (Expression.makesNothing_member _ _ _)

/-- The class of a statement among others is one of theirs. -/
theorem Statement.Among.class_mem {declared attached : List ResourceClass} {st : Statement}
    (h : st.Among declared attached) : ∀ cls ∈ st.class?, cls ∈ declared ++ attached := by
  intro cls hcls
  cases st with
  | declare identifier other label fields =>
    cases hcls
    exact List.mem_append_left _ h
  | attach other label fields =>
    cases hcls
    exact List.mem_append_right _ h
  | output variableName value => cases hcls

/-- The text of a load balancer can be read line by line. -/
theorem legible_balancerStatements (first : RouteTarget) :
    Script.Legible ⟨d, balancerStatements d r c first⟩ where
  fits := (binds_balancerStatements c first).fits
  makesOne st hst := by
    have hamong := among_balancerStatements first st hst
    have hclass := hamong.class_mem
    cases st with
    | declare identifier cls label fields => exact (names_of_balancerClasses cls (hclass cls rfl)).1
    | attach cls label fields => exact (names_of_balancerClasses cls (hclass cls rfl)).1
    | output variableName value => exact hamong
  isIdentifier := (binds_balancerStatements c first).isIdentifier ResourceConfig.ending_mem_all

/-- The text of a load balancer makes of a class what its statements do. -/
theorem madeNames_balancerStatements {cls : ResourceClass}
    (hcls : cls ∈ declaredClasses d ++ attachedClasses d) (first : RouteTarget) :
    madeNames cls.name (Script.code ⟨d, balancerStatements d r c first⟩).toList =
      (made cls (balancerStatements d r c first)).map (·.1) := by
  obtain ⟨-, houtput, hnames⟩ := names_of_balancerClasses cls hcls
  refine Script.madeNames_code (legible_balancerStatements first) houtput ?_
  intro st hst other hother
  exact hnames other ((among_balancerStatements first st hst).class_mem other hother)

/-- One group and one service are declared for each name that routes lead to. -/
theorem map_fst_declared_balancerStatements {cls : ResourceClass}
    (hcls : cls ∈ [endpointGroupClass d, backendServiceClass d]) {suffix : String}
    (hdeclared : ∀ t, (declared cls (backendStatements d r c t)).map (·.1) =
      [codeIdentifier t.backend suffix]) (first : RouteTarget) :
    (declared cls (balancerStatements d r c first)).map (·.1) =
      (c.routes.map (·.backend)).eraseDups.map (codeIdentifier · suffix) := by
  rw [declared_balancerStatements hcls, List.map_flatMap, ← map_backend_firstRoutes_nil,
    List.map_map, List.map_eq_flatMap]
  simp only [hdeclared, Function.comp_apply]

/-- The text makes these groups and services, and no others. -/
theorem madeNames_of_declared {cls : ResourceClass}
    (hcls : cls ∈ [endpointGroupClass d, backendServiceClass d]) {suffix : String}
    (hdeclared : ∀ t, (declared cls (backendStatements d r c t)).map (·.1) =
      [codeIdentifier t.backend suffix]) (first : RouteTarget) :
    madeNames cls.name (Script.code ⟨d, balancerStatements d r c first⟩).toList =
      (c.routes.map (·.backend)).eraseDups.map fun name => some (codeIdentifier name suffix) := by
  have hknown : cls ∈ declaredClasses d ++ attachedClasses d := by
    simp only [List.mem_cons, List.not_mem_nil, or_false] at hcls
    rcases hcls with rfl | rfl <;> simp [declaredClasses]
  have hattached : ∀ label fields, .attach cls label fields ∉ balancerStatements d r c first := by
    intro label fields hmem
    have hattach : cls ∈ attachedClasses d := among_balancerStatements first _ hmem
    revert hattach
    simp only [List.mem_cons, List.not_mem_nil, or_false] at hcls
    rcases hcls with rfl | rfl <;> cases d <;> decide
  have hnames := congrArg (List.map some)
    (map_fst_declared_balancerStatements hcls hdeclared first)
  rw [List.map_map, List.map_map] at hnames
  rw [madeNames_balancerStatements hknown, map_fst_made hattached]
  exact hnames

/-- The group that is declared for a route has the identifier of its name. -/
theorem map_fst_group (t : RouteTarget) :
    (declared (endpointGroupClass d) (backendStatements d r c t)).map (·.1) =
      [codeIdentifier t.backend "neg"] := by
  obtain ⟨fields, hdeclared, -⟩ := declared_group_backendStatements (d := d) (r := r) (c := c) t
  rw [hdeclared]
  rfl

/-- The service that is declared for a route has the identifier of its name. -/
theorem map_fst_service (t : RouteTarget) :
    (declared (backendServiceClass d) (backendStatements d r c t)).map (·.1) =
      [codeIdentifier t.backend "backend"] := by
  obtain ⟨fields, hdeclared, -⟩ := declared_service_backendStatements (d := d) (r := r) (c := c) t
  rw [hdeclared]
  rfl

/-- A rule of a path is written on one line. -/
theorem render_rule (tag : List Char) (path service : String) :
    (Expression.inlineObject [("paths", .texts [path]), ("service", member service "id")]).render
        tag =
      "\x7b paths: [".toList ++ (quote path.toList ++ ("], service: ".toList ++
        (service.toList ++ ".id \x7d".toList))) := by
  have hopen : "\x7b paths: [".toList = '\x7b' :: ' ' :: ("paths".toList ++ [':', ' ', '[']) :=
    rfl
  have hservice : "], service: ".toList =
      ']' :: ',' :: ' ' :: ("service".toList ++ [':', ' ']) :=
    rfl
  have hclose : ".id \x7d".toList = ".".toList ++ ("id".toList ++ [' ', '\x7d']) := rfl
  rw [hopen, hservice, hclose]
  simp only [member, Expression.render, Expression.renderFields, Expression.texts,
    Expression.renderItems, Expression.commaSeparated, Expression.fieldText, List.map_cons,
    List.map_nil, List.append_assoc, List.cons_append, List.nil_append, String.toList_append]

/-- The path of a route is on one line with the service that it goes to. -/
theorem ruleLine_isInfix_code (first : RouteTarget) {t : RouteTarget} (ht : t ∈ c.routes) :
    t.ruleLine <:+: (Script.code ⟨d, balancerStatements d r c first⟩).toList := by
  have hline : '\n' ∉ t.ruleLine := by
    have hname : '\n' ∉ (codeIdentifier t.backend "backend").toList :=
      mt lineFeed_mem_codeIdentifier.1 (by decide)
    exact List.not_mem_append (by decide) (List.not_mem_append (lineFeed_not_mem_quote _)
      (List.not_mem_append (by decide) (List.not_mem_append hname (by decide))))
  have hstatement : urlMapStatement d r c first ∈ balancerStatements d r c first := by
    simp [balancerStatements]
  let rule (t : RouteTarget) : Expression :=
    .inlineObject [("paths", .texts [t.path]), ("service", backendId t)]
  let matcher : Expression := .object
    [("name", .quoted "routes"), ("defaultService", backendId first),
      (d.plural "pathRule", .list (c.routes.map rule))]
  have hmatcher : (d.plural "pathMatcher", d.only matcher) ∈
      (urlMapStatement d r c first).fields := by
    exact List.mem_cons_of_mem _ (List.mem_cons_of_mem _
      (List.mem_cons_of_mem _ List.mem_cons_self))
  refine Script.isInfix_code hstatement hmatcher hline (Expression.isInfix_fieldText _ ?_)
  refine Expression.isInfix_only d hline (Expression.isInfix_object
    (List.mem_cons_of_mem _ (List.mem_cons_of_mem _ List.mem_cons_self)) hline
    (Expression.isInfix_fieldText _
      (Expression.isInfix_list (List.mem_map_of_mem ht) hline ?_)))
  exact (render_rule _ t.path _) ▸ List.infix_rfl

/-- A group with the field for a route has a line that leads to the workload of the route. -/
theorem targetLine_isInfix_code {s : Script} {t : RouteTarget} {fields : FieldList} {name : String}
    (hfields : (name, fields) ∈ declared (endpointGroupClass s.dialect) s.statements)
    (htarget : targetField s.dialect t ∈ fields) :
    (t.targetLine s.dialect).toList <:+: s.code.toList := by
  obtain ⟨st, hst, rfl⟩ := exists_of_mem_made (mem_made_of_mem_declared hfields)
  have hcolon : ": ".toList = [':', ' '] := rfl
  have hreference := t.lineFeed_not_mem_reference s.dialect
  have hword : ∀ word : String, '\n' ∉ word.toList →
      '\n' ∉ (word ++ (": " ++ t.reference s.dialect)).toList := by
    intro word hword
    rw [String.toList_append, String.toList_append]
    exact List.not_mem_append hword (List.not_mem_append (by decide) hreference)
  have hnested : ∀ word : String, '\n' ∉ word.toList →
      (word ++ (": " ++ t.reference s.dialect)).toList <:+:
        (nested word (.code (t.reference s.dialect))).render s.dialect.templateTag := by
    intro word hline
    refine Expression.isInfix_nested (hword word hline) ?_
    rw [String.toList_append, String.toList_append, hcolon, Expression.fieldText,
      Expression.render]
    exact List.infix_rfl
  rw [targetField_eq] at htarget
  rw [RouteTarget.targetLine]
  split at htarget
  · rename_i hfunction
    rw [if_pos hfunction]
    exact Script.isInfix_code hst htarget (hword _ (by decide))
      (Expression.isInfix_fieldText _ (hnested _ (by decide)))
  · rename_i hservice
    rw [if_neg hservice]
    exact Script.isInfix_code hst htarget (hword _ (by decide))
      (Expression.isInfix_fieldText _ (hnested _ (by decide)))

/-- Where two routes to one name lead to one workload, the group of every route leads to its
workload. -/
theorem exists_group (first : RouteTarget)
    (hkinds : ∀ t ∈ c.routes, ∀ t' ∈ c.routes, t.backend = t'.backend →
      t.backendKind = t'.backendKind) {t : RouteTarget} (ht : t ∈ c.routes) :
    ∃ fields, (codeIdentifier t.backend "neg", fields) ∈
        declared (endpointGroupClass d) (balancerStatements d r c first) ∧
      targetField d t ∈ fields := by
  obtain ⟨kept, hkept, hname⟩ := exists_mem_firstRoutes ht
  -- The group is made for the kept route, which therefore has to lead where this one does.
  have hkind := hkinds kept (mem_of_mem_firstRoutes hkept) t ht hname
  have htarget : targetField d kept = targetField d t := by
    simp only [targetField, targetName, hname, hkind]
  obtain ⟨fields, hdeclared, hfield⟩ := declared_group_backendStatements (r := r) (c := c) kept
  rw [hname] at hdeclared
  refine ⟨fields, declared_subset_balancerStatements (by simp) first hkept ?_, htarget ▸ hfield⟩
  rw [hdeclared]
  exact List.mem_singleton_self _

/-- Where two routes to one name lead to one workload, a load balancer leads every route to its
workload. -/
theorem balances_balancerStatements (first : RouteTarget)
    (hkinds : ∀ t ∈ c.routes, ∀ t' ∈ c.routes, t.backend = t'.backend →
      t.backendKind = t'.backendKind) :
    Script.Balances ⟨d, balancerStatements d r c first⟩ c.routes where
  pathRules_eq := pathRules_balancerStatements first
  services_eq := map_fst_declared_balancerStatements (by simp) map_fst_service first
  exists_service := by
    intro t ht
    obtain ⟨kept, hkept, hname⟩ := exists_mem_firstRoutes ht
    obtain ⟨fields, hdeclared, hgroup⟩ := declared_service_backendStatements (r := r) (c := c) kept
    rw [hname] at hdeclared hgroup
    refine ⟨fields, declared_subset_balancerStatements (by simp) first hkept ?_, hgroup⟩
    rw [hdeclared]
    exact List.mem_singleton_self _
  exists_group := by
    intro t ht
    obtain ⟨fields, hdeclared, hfield⟩ := exists_group first hkinds ht
    refine ⟨fields, hdeclared, ?_⟩
    rw [targetField_eq] at hfield
    split at hfield
    · rename_i hfunction
      rwa [if_pos hfunction]
    · rename_i hservice
      rwa [if_neg hservice]
  madeNames_services := madeNames_of_declared (by simp) map_fst_service first
  madeNames_groups := madeNames_of_declared (by simp) map_fst_group first
  ruleLine_isInfix t ht := ruleLine_isInfix_code first ht
  targetLine_isInfix t ht := by
    obtain ⟨fields, hdeclared, hfield⟩ := exists_group first hkinds ht
    exact targetLine_isInfix_code hdeclared hfield

end Balancer

end Code

/-! ## Load balancers of a plan -/

namespace Description

variable {d : Description} {p : Plan} {r : Resource} {c : LoadBalancerConfig}

/-- A load balancer of a resolved plan stands in front of a network, and has the routes that the
network gives it. -/
theorem exists_routes_of_resolve (h : d.resolve = .ok p) (hr : r ∈ p.resources)
    (hc : r.config = .loadBalancer c) :
    d.Legal ∧ d.project.backend ≠ .manifest ∧
      r.typeTag = d.project.backend.typeTag .loadBalancer ∧
      ∃ n ∈ d.networks, ∃ lb, n.loadBalancer = some lb ∧ n.RoutesTo lb c.routes := by
  obtain ⟨hlegal, resources, hresources, rfl⟩ := resolve_eq_ok_iff.1 h
  obtain ⟨hcluster, n, hn, lb, hlb, htargets, rfl⟩ :=
    (Project.origin_of_mem_resources hresources hr).exists_balancer hc
  refine ⟨hlegal, hlegal.cluster_eq_none_iff.1 hcluster, rfl, n, hn, lb, hlb, ?_⟩
  exact NetworkSpec.routeTargets_eq_ok_iff.1 htargets

/-- Every load balancer of a resolved plan becomes the script of its settings. -/
theorem script_of_resolve (h : d.resolve = .ok p) (hr : r ∈ p.resources)
    (hc : r.config = .loadBalancer c) :
    ∃ dialect first, d.project.backend.dialect? = some dialect ∧
      Registry.builtin.generate r =
        .ok (.script ⟨dialect, Code.balancerStatements dialect r c first⟩) := by
  obtain ⟨hlegal, hb, htag, n, hn, lb, -, hroutes⟩ := exists_routes_of_resolve h hr hc
  obtain ⟨dialect, hdialect⟩ := Backend.exists_dialect hb
  obtain ⟨first, rest, hcons⟩ := List.exists_cons_of_ne_nil hroutes.ne_nil
  have hstranded := hlegal.strandedRoute?_eq_none hn hdialect hroutes
  refine ⟨dialect, first, hdialect, ?_⟩
  rw [Registry.generate_of_mem
    (Registry.mem_definitions_builtin (Backend.mem_balancerDefinition hdialect)) htag,
    Backend.generate_balancerDefinition hc hcons hstranded]

/-- The script leads each route of the load balancer to the workload of that route. -/
theorem balances_of_resolve (h : d.resolve = .ok p) (hr : r ∈ p.resources)
    (hc : r.config = .loadBalancer c) :
    ∃ s, Registry.builtin.generate r = .ok (.script s) ∧
      d.project.backend.dialect? = some s.dialect ∧ s.Balances c.routes := by
  obtain ⟨-, -, -, n, hn, lb, -, hroutes⟩ := exists_routes_of_resolve h hr hc
  obtain ⟨dialect, first, hdialect, hs⟩ := script_of_resolve h hr hc
  exact ⟨_, hs, hdialect,
    Code.balances_balancerStatements first fun t ht t' ht' => hroutes.kind_eq ht ht'⟩

/-- A load balancer leads where its routes do, or is refused: for the first of them that does not
lead to exactly one workload, or, without routes, for lack of workloads.  It has at least one
target, and targets of one name are one workload.  In a resolved plan its code leads every route to
the workload of that route, although it declares a service only once for each name. -/
theorem balancers_of_resolve (d : Description) :
    (∀ (n : NetworkSpec) (lb : LoadBalancerSpec),
      (∀ targets, n.routeTargets lb = .ok targets ↔ n.RoutesTo lb targets) ∧
      (∀ v, n.routeTargets lb = .error v ↔ n.Refuses lb v) ∧
      ∀ targets, n.routeTargets lb = .ok targets → targets ≠ [] ∧
        ∀ t ∈ targets, ∀ t' ∈ targets, t.backend = t'.backend →
          t.backendKind = t'.backendKind) ∧
    ∀ p, d.resolve = .ok p → ∀ r ∈ p.resources, ∀ c, r.config = .loadBalancer c →
      (∃ n ∈ d.networks, ∃ lb, n.loadBalancer = some lb ∧ n.RoutesTo lb c.routes) ∧
      (∀ t ∈ c.routes, ∀ t' ∈ c.routes, t.backend = t'.backend →
        t.backendKind = t'.backendKind) ∧
      ∃ s, Registry.builtin.generate r = .ok (.script s) ∧
        d.project.backend.dialect? = some s.dialect ∧ s.Balances c.routes := by
  refine ⟨fun n lb => ⟨fun _ => NetworkSpec.routeTargets_eq_ok_iff,
    fun _ => NetworkSpec.routeTargets_eq_error_iff, fun targets h => ?_⟩, fun p h r hr c hc => ?_⟩
  · have hroutes := NetworkSpec.routeTargets_eq_ok_iff.1 h
    exact ⟨hroutes.ne_nil, fun t ht t' ht' => hroutes.kind_eq ht ht'⟩
  · obtain ⟨-, -, -, n, hn, lb, hlb, hroutes⟩ := exists_routes_of_resolve h hr hc
    exact ⟨⟨n, hn, lb, hlb, hroutes⟩, fun t ht t' ht' => hroutes.kind_eq ht ht',
      balances_of_resolve h hr hc⟩

/-- A network with a load balancer that leads to one container by two routes. -/
def crossroadsNetwork : NetworkSpec :=
  { NetworkSpec.ofContainers "main" ["api"] with
    functions := [.named "mailer"]
    loadBalancer := some ⟨none, false, none,
      [⟨"/api/*", "api"⟩, ⟨"/mail", "mailer"⟩, ⟨"/v2/*", "api"⟩], none⟩ }

/-- Constructs in that network. -/
def crossroads : Description :=
  ofNetworks ⟨"shop", "us-central1", none, .construct⟩ [crossroadsNetwork]

/-- The two routes to the container share a service that leads to it; a load balancer with a route
to nothing is refused for that route. -/
theorem balancers_of_resolve_crossroads :
    (∃ p r c s, crossroads.resolve = .ok p ∧ r ∈ p.resources ∧ r.config = .loadBalancer c ∧
      c.routes = [⟨"/api/*", "api", .container⟩, ⟨"/mail", "mailer", .function⟩,
        ⟨"/v2/*", "api", .container⟩] ∧
      Registry.builtin.generate r = .ok (.script s) ∧
      (Code.declared (Code.backendServiceClass s.dialect) s.statements).map (·.1) =
        ["api_backend", "mailer_backend"] ∧ s.Balances c.routes) ∧
    crossroadsNetwork.Refuses ⟨none, false, none, [⟨"/mail", "mailer"⟩, ⟨"/old", "gone"⟩], none⟩
      (.unknownRoute "/old" "gone" "main") := by
  obtain ⟨htargets, hplans⟩ := balancers_of_resolve crossroads
  refine ⟨?_, ((htargets _ _).2.1 _).1 (by decide +kernel)⟩
  have hroutes : crossroads.resolve.toOption.map (fun p => p.resources.filterMap fun r =>
        (SettingsKind.loadBalancer.select? r.config).map (·.routes)) =
      some [[⟨"/api/*", "api", .container⟩, ⟨"/mail", "mailer", .function⟩,
        ⟨"/v2/*", "api", .container⟩]] := by
    decide +kernel
  cases hresolve : crossroads.resolve with
  | error e =>
    rw [hresolve] at hroutes
    cases hroutes
  | ok p =>
    rw [hresolve] at hroutes
    have hmem := List.mem_singleton_self
      [RouteTarget.mk "/api/*" "api" .container, ⟨"/mail", "mailer", .function⟩,
        ⟨"/v2/*", "api", .container⟩]
    rw [← Option.some.inj hroutes] at hmem
    obtain ⟨r, hr, hsettings⟩ := List.mem_filterMap.1 hmem
    obtain ⟨c, hselect, hlist⟩ := Option.map_eq_some_iff.1 hsettings
    have hc := SettingsKind.select?_loadBalancer_eq_some_iff.1 hselect
    obtain ⟨-, -, s, hs, -, hbalances⟩ := hplans p hresolve r hr c hc
    refine ⟨p, r, c, s, rfl, hr, hc, hlist, hs, ?_, hbalances⟩
    rw [hbalances.services_eq, hlist]
    decide +kernel

end Description

end Groundwork
