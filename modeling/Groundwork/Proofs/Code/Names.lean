import Groundwork.Proofs.Code.Lines
import Groundwork.Proofs.Registry.Builtin

/-!
# The names that the code of a node binds

`ResourceConfig.bindings` says which names the code of a node binds, read off the settings of the
node alone: for a resource under the identifier of the node and a suffix, for an output under the
identifier and a field, and for each workload that a load balancer leads to under the identifier of
the workload.  Every generator binds exactly these, in this order.

Main definitions:

- `ResourceConfig.endings`, `ResourceConfig.routed`, `ResourceConfig.bindings`: what is bound.
- `Code.Binds`: statements that bind given names and nothing else.

Main results:

- `Code.Binds.boundNames_code`: what the text of such statements binds.
- `Code.binds_serviceAccount` and its siblings: each generator binds what it should.
-/

namespace Groundwork

open Code (Dialect Script Statement Expression)

namespace ResourceConfig

/-- The endings of the names that the code of a node binds for the node itself, in order. -/
def endings (d : Dialect) : ResourceConfig → List Ending
  | serviceAccount _ => [.suffix "account", .field "email"]
  | bucket _ => [.suffix "bucket", .field "name", .field "url"]
  | secret _ => [.suffix "secret", .field "secretId", .field "secretName", .field "secretVersion"]
  | topic _ => [.suffix "topic", .field "name", .field "topicId"]
  | queue _ => [.suffix "queue", .field "name", .field "queueId"]
  | network _ =>
    .suffix "network" :: match d with
      | .flat => [.field "name"]
      | .construct => []
  | subnet _ => [.suffix "subnet"]
  | firewall _ => [.suffix "firewall"]
  | registry _ => [.suffix "registry", .field "url"]
  | connector _ => [.suffix "connector"]
  | container _ =>
    [.suffix "service", .field "url"] ++ match d with
      | .flat => [.field "serviceName"]
      | .construct => []
  | function _ =>
    match d with
      | .flat =>
        [.suffix "source", .suffix "archive", .suffix "function", .field "url",
          .field "functionName"]
      | .construct =>
        [.suffix "asset", .suffix "source", .suffix "archive", .suffix "function", .field "url"]
  | database _ =>
    [.suffix "instance", .suffix "database", .field "connectionString", .field "host",
      .field "port", .field "instanceName", .field "databaseName"]
  | cache _ => [.suffix "cache", .field "host", .field "port", .field "connectionString"]
  | kernel c =>
    match c.variant with
      | .native => [.suffix "kernel", .field "address"]
      | .hybrid => [.suffix "kernel", .field "url"]
  | ui _ => [.suffix "ui", .field "url"]
  | loadBalancer c =>
    [.suffix "url_map", .suffix "address"]
      ++ (if c.https && c.domain.isSome then [.suffix "cert"] else [])
      ++ [.suffix "proxy", .field "ipAddress"]
  | cron _ => [.suffix "job"]
  | clusterNamespace _ | configMap _ | deployment _ | service _ | ingress _ | networkPolicy _ => []

/-- The workloads for which the code of a load balancer binds names, each once. -/
def routed : ResourceConfig → List String
  | loadBalancer c => (Code.firstRoutes [] c.routes).map (·.backend)
  | _ => []

/-- The endings of the names that are bound for such a workload. -/
def routedEndings : List Ending := [.suffix "neg", .suffix "backend"]

/-- The names that the code of a node with some name binds, in order. -/
def bindings (d : Dialect) (name : String) (config : ResourceConfig) : List Binding :=
  config.routed.flatMap (fun workload => routedEndings.map (⟨workload, ·⟩))
    ++ (config.endings d).map (⟨name, ·⟩)

variable {d : Dialect} {config : ResourceConfig}

/-- What holds of the endings of every node: none comes twice, none is one for workloads behind a
load balancer, and only nodes of some kinds have endings in which others end. -/
structure Suits (kind : ConfigKind) (endings : List Ending) : Prop where
  nodup : endings.Nodup
  mem_all : ∀ e ∈ endings, e ∈ Ending.all
  not_routed : ∀ e ∈ endings, e ∉ routedEndings
  kind_mem : ∀ e ∈ endings, e ∈ Ending.shared →
    kind ∈ [ConfigKind.bucket, .topic, .queue, .network, .kernel]

/-- The endings of every node suit its kind. -/
theorem suits_endings (d : Dialect) (config : ResourceConfig) :
    Suits config.kind (config.endings d) := by
  cases config with
  | kernel c =>
    simp only [endings, kind]
    cases c.variant <;> constructor <;> decide
  | loadBalancer c =>
    simp only [endings, kind]
    split <;> constructor <;> decide
  | network c => cases d <;> simp only [endings, kind] <;> constructor <;> decide
  | container c => cases d <;> simp only [endings, kind] <;> constructor <;> decide
  | function c => cases d <;> simp only [endings, kind] <;> constructor <;> decide
  | _ => simp only [endings, kind]; constructor <;> decide

/-- A name is bound for a workload behind a load balancer or for the node itself. -/
theorem mem_bindings_iff {name : String} {b : Binding} :
    b ∈ config.bindings d name ↔
      (∃ workload ∈ config.routed, ∃ e ∈ routedEndings, b = ⟨workload, e⟩) ∨
        ∃ e ∈ config.endings d, b = ⟨name, e⟩ := by
  simp only [bindings, List.mem_append, List.mem_flatMap, List.mem_map, eq_comm (a := b)]

/-- Every name that is bound ends in one of the known endings. -/
theorem ending_mem_all {name : String} : ∀ b ∈ config.bindings d name, b.ending ∈ Ending.all := by
  intro b hb
  rcases mem_bindings_iff.1 hb with ⟨workload, -, e, he, rfl⟩ | ⟨e, he, rfl⟩
  · exact (by decide : ∀ e ∈ routedEndings, e ∈ Ending.all) e he
  · exact (suits_endings d config).mem_all e he

end ResourceConfig

namespace Code

/-- Statements that bind some names, in order, and take further lines only where nothing is
bound. -/
inductive Binds (d : Dialect) : List Statement → List Binding → Prop where
  | nil : Binds d [] []
  | declare {name suffix label : String} {cls : ResourceClass} {fields : FieldList}
      {statements : List Statement} {bindings : List Binding} (hcls : '\n' ∉ cls.name.toList)
      (h : Binds d statements bindings) :
      Binds d (.declare (codeIdentifier name suffix) cls label fields :: statements)
        (⟨name, .suffix suffix⟩ :: bindings)
  | attach {label : String} {cls : ResourceClass} {fields : FieldList}
      {statements : List Statement} {bindings : List Binding} (hcls : '\n' ∉ cls.name.toList)
      (h : Binds d statements bindings) : Binds d (.attach cls label fields :: statements) bindings
  | output {r : Resource} {field : String} {value : Expression} {statements : List Statement}
      {bindings : List Binding} (hvalue : '\n' ∉ value.render d.templateTag)
      (h : Binds d statements bindings) :
      Binds d (r.output field value :: statements) (⟨r.name, .field field⟩ :: bindings)

namespace Binds

variable {d : Dialect} {statements statements' : List Statement} {bindings bindings' : List Binding}

/-- What follows binds its names after the others. -/
theorem append (h : Binds d statements bindings) (h' : Binds d statements' bindings') :
    Binds d (statements ++ statements') (bindings ++ bindings') := by
  induction h with
  | nil => exact h'
  | declare hcls _ ih => exact .declare hcls ih
  | attach hcls _ ih => exact .attach hcls ih
  | output hvalue _ ih => exact .output hvalue ih

/-- Every such statement fits on its lines. -/
theorem fits (h : Binds d statements bindings) : ∀ st ∈ statements, st.Fits d := by
  induction h with
  | nil => simp
  | declare hcls _ ih => exact List.forall_mem_cons.2 ⟨hcls, ih⟩
  | attach hcls _ ih => exact List.forall_mem_cons.2 ⟨hcls, ih⟩
  | output hvalue _ ih => exact List.forall_mem_cons.2 ⟨hvalue, ih⟩

/-- The names that the statements bind are the names of the bindings, in order. -/
theorem bound_eq (h : Binds d statements bindings) :
    statements.filterMap Statement.bound? = bindings.map Binding.name := by
  induction h with
  | nil => rfl
  | declare _ _ ih => exact congrArg (_ :: ·) ih
  | attach _ _ ih => exact ih
  | output _ _ ih => exact congrArg (_ :: ·) ih

/-- Statements that only attach something bind nothing. -/
theorem attach_map {α : Type} (l : List α) {cls : ResourceClass} {label : α → String}
    {fields : α → FieldList} (hcls : '\n' ∉ cls.name.toList) :
    Binds d (l.map fun x => .attach cls (label x) (fields x)) [] := by
  induction l with
  | nil => exact .nil
  | cons x rest ih => exact .attach hcls ih

/-- A resource without a name binds nothing, under a condition or not. -/
theorem attach_ite (b : Bool) {cls : ResourceClass} {label : String} {fields : FieldList}
    (hcls : '\n' ∉ cls.name.toList) :
    Binds d (if b then [.attach cls label fields] else []) [] := by
  cases b with
  | false => exact .nil
  | true => exact .attach hcls .nil

/-- Statements for each entry of a list bind the names for each, in the order of the list. -/
theorem flatMap {α : Type} (l : List α) {made : α → List Statement} {bound : α → List Binding}
    (h : ∀ x, Binds d (made x) (bound x)) : Binds d (l.flatMap made) (l.flatMap bound) := by
  induction l with
  | nil => exact .nil
  | cons x rest ih => exact (h x).append ih

/-- Statements before others that bind nothing. -/
theorem skip (h : Binds d statements []) (h' : Binds d statements' bindings) :
    Binds d (statements ++ statements') bindings :=
  h.append h'

/-- What statements bind are identifiers. -/
theorem isIdentifier (h : Binds d statements bindings)
    (hknown : ∀ b ∈ bindings, b.ending ∈ Ending.all) :
    ∀ name ∈ statements.filterMap Statement.bound?, IsIdentifier name := by
  intro name hname
  rw [h.bound_eq] at hname
  obtain ⟨b, hb, rfl⟩ := List.mem_map.1 hname
  exact Binding.isIdentifier_name (hknown b hb)

/-- The text of a script binds what its statements do. -/
theorem boundNames_code {s : Script} (h : Binds s.dialect s.statements bindings)
    (hknown : ∀ b ∈ bindings, b.ending ∈ Ending.all) :
    boundNames s.code.toList = bindings.map Binding.name := by
  have hbound : s.bound = bindings.map Binding.name := h.bound_eq
  rw [← hbound]
  exact Script.boundNames_code h.fits (h.isIdentifier hknown)

end Binds

namespace Expression

variable {tag : List Char}

/-- Code has the line feeds that it is given. -/
@[simp]
theorem lineFeed_mem_render_code {s : String} :
    '\n' ∈ (Expression.code s).render tag ↔ '\n' ∈ s.toList := by
  rw [render]

/-- A literal stays on its line. -/
@[simp]
theorem lineFeed_not_mem_render_quoted {s : String} :
    '\n' ∉ (Expression.quoted s).render tag := by
  rw [render]
  exact lineFeed_not_mem_quote _

/-- A template has the line feeds that stand in it. -/
@[simp]
theorem lineFeed_mem_render_template {s : String} :
    '\n' ∈ (Expression.template s).render tag ↔ '\n' ∈ tag ∨ '\n' ∈ s.toList := by
  have hescape : ∀ c : Char,
      '\n' ∈ (if c = Char.ofNat 96 then ['\\', c] else [c]) ↔ c = '\n' := by
    intro c
    by_cases hc : c = Char.ofNat 96
    · rw [if_pos hc, hc]
      decide
    · rw [if_neg hc, List.mem_singleton, eq_comm]
  rw [render]
  simp [escapeTemplate, hescape]

end Expression

/-- An identifier stays on its line, whatever the name is. -/
@[simp]
theorem lineFeed_not_mem_sanitizeIdentifier (name : String) :
    '\n' ∉ (sanitizeIdentifier name).toList :=
  (isIdentifier_sanitizeIdentifier name).not_mem (by decide) (by decide)

/-- What stands before a template stays on its line. -/
@[simp]
theorem lineFeed_not_mem_templateTag (d : Dialect) : '\n' ∉ d.templateTag := by
  cases d <;> decide

/-- A number stays on its line. -/
@[simp]
theorem lineFeed_not_mem_toDigits (n : Nat) : '\n' ∉ Nat.toDigits 10 n := by
  intro h
  have hdigit := Nat.isDigit_of_mem_toDigits (by decide) (by decide) h
  exact absurd hdigit (by decide)

/-- Only the suffix can bring a line feed into an identifier. -/
@[simp]
theorem lineFeed_mem_codeIdentifier {name suffix : String} :
    '\n' ∈ (codeIdentifier name suffix).toList ↔ '\n' ∈ suffix.toList := by
  simp [codeIdentifier]

/-- A placeholder has the line feeds of its code. -/
@[simp]
theorem lineFeed_mem_placeholder {code : String} :
    '\n' ∈ (placeholder code).toList ↔ '\n' ∈ code.toList := by
  simp [placeholder]

/-- A field of something has the line feeds of the identifier and of the field. -/
@[simp]
theorem lineFeed_mem_member {tag : List Char} {identifier field : String} :
    '\n' ∈ (member identifier field).render tag ↔
      '\n' ∈ identifier.toList ∨ '\n' ∈ field.toList := by
  simp [member]

variable {d : Dialect} {r : Resource}

/-- A service account binds itself and its address. -/
theorem binds_serviceAccount (c : ServiceAccountConfig) :
    Binds d (serviceAccount d r c).statements
      ((ResourceConfig.serviceAccount c).bindings d r.name) := by
  refine .declare ?_ (.skip (.attach_map _ ?_) (.output ?_ .nil))
  · cases d <;> decide
  · cases d <;> decide
  · simp

/-- A bucket binds itself, its name and where it is found. -/
theorem binds_storageBucket (c : BucketConfig) :
    Binds d (storageBucket d r c).statements
      ((ResourceConfig.bucket c).bindings d r.name) := by
  refine .declare ?_ (.skip (.attach_ite c.isPublic ?_) (.output ?_ (.output ?_ .nil)))
  · cases d <;> decide
  · cases d <;> decide
  all_goals simp

/-- A secret binds itself, its id, its name and its version. -/
theorem binds_secret (c : SecretConfig) :
    Binds d (secret d r c).statements ((ResourceConfig.secret c).bindings d r.name) := by
  refine .declare ?_ (.output ?_ (.output ?_ (.output ?_ .nil)))
  · cases d <;> decide
  all_goals simp

/-- A topic binds itself, its name and its id. -/
theorem binds_pubsubTopic (c : TopicConfig) :
    Binds d (pubsubTopic d r c).statements ((ResourceConfig.topic c).bindings d r.name) := by
  refine .declare ?_ (.output ?_ (.output ?_ .nil))
  · cases d <;> decide
  all_goals simp

/-- A queue binds itself, its name and its id. -/
theorem binds_tasksQueue (c : QueueConfig) :
    Binds d (tasksQueue d r c).statements ((ResourceConfig.queue c).bindings d r.name) := by
  refine .declare ?_ (.output ?_ (.output ?_ .nil))
  · cases d <;> decide
  all_goals simp

/-- A cron binds itself alone. -/
theorem binds_schedulerJob (c : CronConfig) :
    Binds .flat (schedulerJob r c).statements ((ResourceConfig.cron c).bindings .flat r.name) :=
  .declare (by decide) .nil

/-- A network binds itself and, outside a stack, its name. -/
theorem binds_network (c : NetworkConfig) :
    Binds d (network d r c).statements ((ResourceConfig.network c).bindings d r.name) := by
  cases d with
  | flat => exact .declare (by decide) (.output (by simp) .nil)
  | construct => exact .declare (by decide) .nil

/-- A subnet binds itself alone. -/
theorem binds_subnetwork (c : SubnetConfig) :
    Binds d (subnetwork d r c).statements ((ResourceConfig.subnet c).bindings d r.name) :=
  .declare (by cases d <;> decide) .nil

/-- A firewall binds itself alone. -/
theorem binds_firewall (c : FirewallConfig) :
    Binds d (firewall d r c).statements ((ResourceConfig.firewall c).bindings d r.name) :=
  .declare (by cases d <;> decide) .nil

/-- A registry binds itself and where it is found. -/
theorem binds_artifactRegistry (c : RegistryConfig) :
    Binds d (artifactRegistry d r c).statements
      ((ResourceConfig.registry c).bindings d r.name) :=
  .declare (by cases d <;> decide) (.output (by simp) .nil)

/-- A connector binds itself alone. -/
theorem binds_vpcConnector (c : ConnectorConfig) :
    Binds .construct (vpcConnector r c).statements
      ((ResourceConfig.connector c).bindings .construct r.name) :=
  .declare (by decide) .nil

/-- A container binds itself, where it is found and, outside a stack, its name. -/
theorem binds_container (c : ContainerConfig) :
    Binds d (container d r c).statements ((ResourceConfig.container c).bindings d r.name) := by
  simp only [container, List.append_assoc, List.singleton_append]
  cases d with
  | flat =>
    refine .declare (by decide) (.skip (.attach_ite c.allowUnauthenticated ?_)
      (.output ?_ (.output ?_ .nil)))
    · decide
    all_goals simp
  | construct =>
    refine .declare (by decide) (.skip (.attach_ite c.allowUnauthenticated ?_) (.output ?_ .nil))
    · decide
    · simp

/-- A user interface binds itself and where it is found. -/
theorem binds_ui (c : UiConfig) :
    Binds .construct (ui r c).statements ((ResourceConfig.ui c).bindings .construct r.name) :=
  .declare (by decide) (.attach (by decide) (.output (by simp) .nil))

/-- A function binds what its source is made of before itself; a stack has an asset besides and no
name of the function. -/
theorem binds_function (c : FunctionConfig) :
    Binds d (function d r c).statements ((ResourceConfig.function c).bindings d r.name) := by
  cases d with
  | flat =>
    refine .declare (by decide) (.declare (by decide) (.declare (by decide)
      (.skip (.attach_ite c.allowUnauthenticated ?_) (.output ?_ (.output ?_ .nil)))))
    · decide
    all_goals simp
  | construct =>
    refine .declare (by decide) (.declare (by decide) (.declare (by decide) (.declare (by decide)
      (.skip (.attach_ite c.allowUnauthenticated ?_) (.output ?_ .nil)))))
    · decide
    · simp

/-- A kernel binds itself and where it is found, which is an address in one variant. -/
theorem binds_kernel (c : KernelConfig) :
    Binds .construct (kernel r c).statements
      ((ResourceConfig.kernel c).bindings .construct r.name) := by
  obtain ⟨kernelName, variant, image, region, machineType, port, env, connector⟩ := c
  cases variant with
  | native =>
    refine .declare (by decide) (.output ?_ .nil)
    simp
  | hybrid =>
    refine .declare (by decide) (.output ?_ .nil)
    simp

/-- A database binds its instance, itself and five fields. -/
theorem binds_sqlDatabase (c : DatabaseConfig) :
    Binds .flat (sqlDatabase r c).statements
      ((ResourceConfig.database c).bindings .flat r.name) := by
  have haddress : '\n' ∉ (if c.network.isSome then "privateIpAddress"
      else "publicIpAddress").toList := by
    split <;> decide
  refine .declare (by decide) (.declare (by decide) (.output ?_ (.output ?_ (.output ?_
    (.output ?_ (.output ?_ .nil))))))
  all_goals simp [haddress]

/-- A cache binds itself and three fields. -/
theorem binds_redisCache (c : CacheConfig) :
    Binds .flat (redisCache r c).statements ((ResourceConfig.cache c).bindings .flat r.name) := by
  refine .declare (by decide) (.output ?_ (.output ?_ (.output ?_ .nil)))
  all_goals simp

/-- For a workload that it leads to, a load balancer binds a group and a service. -/
theorem binds_backendStatements (c : LoadBalancerConfig) (t : RouteTarget) :
    Binds d (backendStatements d r c t)
      [⟨t.backend, .suffix "neg"⟩, ⟨t.backend, .suffix "backend"⟩] := by
  refine .declare ?_ (.declare ?_ (.attach_map _ ?_))
  all_goals cases d <;> decide

/-- A load balancer without a domain to certify has no certificate. -/
theorem certified_eq_false {c : LoadBalancerConfig}
    (h : ∀ domain, c.https = true → c.domain = some domain → False) :
    (c.https && c.domain.isSome) = false := by
  cases hhttps : c.https with
  | false => rfl
  | true =>
    cases hdomain : c.domain with
    | none => rfl
    | some domain => exact absurd hdomain (h domain hhttps)

/-- A load balancer binds a proxy, and before it a certificate if there is a domain to certify. -/
theorem binds_proxyStatements (c : LoadBalancerConfig) :
    Binds d (proxyStatements d r c)
      (((if c.https && c.domain.isSome then [Ending.suffix "cert"] else [])
        ++ [Ending.suffix "proxy"]).map (⟨r.name, ·⟩)) := by
  unfold proxyStatements
  split
  · rename_i hhttps hdomain
    rw [hhttps, hdomain]
    refine .declare ?_ (.declare ?_ .nil)
    all_goals cases d <;> decide
  · rename_i hnone
    rw [certified_eq_false hnone]
    refine .declare ?_ .nil
    cases d <;> decide

/-- A load balancer binds what it has for each workload, each once, then its own parts and its
address. -/
theorem binds_balancerStatements (c : LoadBalancerConfig) (first : RouteTarget) :
    Binds d (balancerStatements d r c first)
      ((ResourceConfig.loadBalancer c).bindings d r.name) := by
  have hbackends := Binds.flatMap (firstRoutes [] c.routes)
    (binds_backendStatements (d := d) (r := r) c)
  have hmap : Binds d
      [urlMapStatement d r c first,
        .declare (codeIdentifier r.name "address") (addressClass d) (d.label r "-address")
          [("name", .quoted (c.lbName ++ "-ip"))]]
      [⟨r.name, .suffix "url_map"⟩, ⟨r.name, .suffix "address"⟩] := by
    refine .declare ?_ (.declare ?_ .nil)
    all_goals cases d <;> decide
  have hbindings : (ResourceConfig.loadBalancer c).bindings d r.name =
      (firstRoutes [] c.routes).flatMap (fun t =>
          [⟨t.backend, .suffix "neg"⟩, ⟨t.backend, .suffix "backend"⟩])
        ++ [⟨r.name, .suffix "url_map"⟩, ⟨r.name, .suffix "address"⟩]
        ++ ((if c.https && c.domain.isSome then [Ending.suffix "cert"] else [])
          ++ [Ending.suffix "proxy"]).map (⟨r.name, ·⟩)
        ++ [⟨r.name, .field "ipAddress"⟩] := by
    simp [ResourceConfig.bindings, ResourceConfig.routed, ResourceConfig.endings,
      ResourceConfig.routedEndings, List.flatMap_map]
  rw [hbindings]
  refine .append (.append (.append hbackends hmap) (binds_proxyStatements c))
    (.attach ?_ (.output ?_ .nil))
  · cases d <;> decide
  · simp

end Code

end Groundwork
