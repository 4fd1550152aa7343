import Groundwork.Proofs.Provisioning.Cycle
import Groundwork.Proofs.Report.Balancers
import Groundwork.Proofs.Report.Names
import Groundwork.Proofs.Resolution.Requests

/-!
# Identifiers that nodes borrow

The code of a node uses identifiers that the code of other nodes binds: that of its network, that
of the connector in front of it, and those of the workloads behind a load balancer.  The settings of
a node hold them as texts, made from the names of networks and workloads and not from the nodes that
bind them.  In a compiled plan the code of a node that stands earlier binds each of them.

Main definitions:

- `Plan.Lends`: the code of an earlier node of a kind and name binds an identifier.
- `Plan.Writes`: the script of a node has a text on one of its lines.
- `Plan.Borrows`: what settings borrow is lent.

Main results:

- `Description.Compiles.lends`: what stands earlier lends the names that its kind binds.
- `Plan.borrows_of_compile`: every node of a compiled plan for code borrows what is lent.
-/

namespace Groundwork

open Code (Dialect Script)

/-! ## What is borrowed -/

/-- The code of a workload binds what load balancers know it by, but flat code has no frontends. -/
theorem RouteBackendKind.ending_mem {kind : RouteBackendKind} {dialect : Dialect}
    (hui : dialect = .flat → kind ≠ .ui) {config : ResourceConfig}
    (hkind : config.kind = kind.resourceKind.configKind) :
    kind.ending dialect ∈ config.endings dialect := by
  cases kind with
  | container =>
    cases config with
    | container c => cases dialect <;> exact List.mem_of_elem_eq_true rfl
    | _ => cases hkind
  | function =>
    cases config with
    | function c => cases dialect <;> exact List.mem_of_elem_eq_true rfl
    | _ => cases hkind
  | ui =>
    cases config with
    | ui c =>
      cases dialect with
      | flat => exact absurd rfl (hui rfl)
      | construct => exact List.mem_cons_self
    | _ => cases hkind

namespace Plan

/-- Before a node stands one of a kind and name whose code binds an identifier. -/
def Lends (p : Plan) (r : Resource) (k : ResourceKind) (name identifier : String) : Prop :=
  ∃ t ∈ p.resources, t.id = k.nodeId name ∧ t.config.kind = k.configKind ∧
    Provisioning.Precedes p.order t.id r.id ∧
    ∃ s : Script, Registry.builtin.generate t = .ok (.script s) ∧
      identifier ∈ Code.boundNames s.code.toList

/-- An identifier is made from the name of the network of a node, and a node of that name lends
it. -/
def LendsOwn (p : Plan) (r : Resource) (k : ResourceKind) (suffix identifier : String) : Prop :=
  ∃ network, r.network = some network ∧ identifier = codeIdentifier network suffix ∧
    p.Lends r k network identifier

/-- The script of a node has some text on one of its lines. -/
def Writes (r : Resource) (line : String) : Prop :=
  ∃ s : Script, Registry.builtin.generate r = .ok (.script s) ∧ line.toList <:+: s.code.toList

/-- Whatever the code of a node borrows by its settings is lent: its network to subnets, rules,
connectors, databases and caches; the connector, where there is one, to workloads; the network of
the node to a kernel with a machine of its own, whose script names it; and to a load balancer the
workloads behind it, under the identifiers by which its script names them. -/
def Borrows (dialect : Dialect) (p : Plan) (r : Resource) : Prop :=
  let network := p.LendsOwn r .network "network"
  let connector := p.LendsOwn r .connector "connector"
  match r.config with
  | .subnet c => network c.network
  | .firewall c => network c.network
  | .connector c => network c.network
  | .database c => ∃ identifier, c.network = some identifier ∧ network identifier
  | .cache c => ∃ identifier, c.network = some identifier ∧ network identifier
  | .container c => ∀ identifier ∈ c.connector, connector identifier
  | .function c => ∀ identifier ∈ c.connector, connector identifier
  | .ui c => ∀ identifier ∈ c.connector, connector identifier
  | .kernel c =>
    (∀ identifier ∈ c.connector, connector identifier) ∧
      (c.variant = .native → ∃ identifier, network identifier ∧
        Writes r ("network: " ++ identifier ++ ".name"))
  | .loadBalancer c =>
    ∀ t ∈ c.routes,
      Code.targetName dialect t ∈
          [.code (t.identifier dialect), Code.member (t.identifier dialect) "name"] ∧
        Writes r (t.targetLine dialect) ∧
        p.Lends r t.backendKind.resourceKind t.backend (t.identifier dialect)
  | _ => True

end Plan

/-! ## Nodes of a network -/

/-- The kinds of node that lend. -/
def lenderKinds : List ResourceKind := [.network, .connector, .container, .function, .ui]

/-- In code no other kind begins its ids as those that lend. -/
theorem Backend.eq_of_firstWord {b : Backend} {dialect : Dialect} (hb : b.dialect? = some dialect) :
    ∀ k ∈ lenderKinds, ∀ k' ∈ b.kinds, k'.firstWord = k.firstWord → k' = k := by
  cases b with
  | flat => decide
  | construct => decide
  | manifest => cases hb

namespace Project

variable {p : Project}

/-- A network that something lives inside has a node. -/
theorem networkId_bareSite {n : NetworkSpec} (h : p.backend = .construct ∨ n.hasInfrastructure) :
    (p.bareSite n).networkId = some (ResourceKind.network.nodeId n.name) := by
  unfold bareSite
  rcases h with h | h
  · simp [h]
  · simp [h]

/-- Outside a cluster a workload is its own node. -/
theorem eq_node_of_mem_workloadNodes (hc : p.cluster = none) {site : Site} {k : ResourceKind}
    {name : String} {pod : Pod} {config : ResourceConfig} {dependsOn : List String} {r : Resource}
    (hr : r ∈ p.workloadNodes site k name pod config dependsOn) :
    r = p.node k name config dependsOn (some site.spec.name) := by
  rw [workloadNodes, hc] at hr
  exact List.mem_singleton.1 hr

theorem networkId_workloadSite (hc : p.cluster = none) {n : NetworkSpec}
    (h : p.backend = .construct ∨ n.hasInfrastructure) (k : ResourceKind) :
    (p.workloadSite n k).networkId = some (ResourceKind.network.nodeId n.name) := by
  obtain ⟨base, hsite⟩ := exists_workloadSite_eq hc n k
  rw [hsite]
  exact networkId_bareSite h

/-- Only constructs reach a network through a connector, and under the name of the network. -/
theorem mem_connector_workloadSite (hc : p.cluster = none) {n : NetworkSpec} {k : ResourceKind}
    {identifier : String} (h : identifier ∈ (p.workloadSite n k).connector) :
    p.backend = .construct ∧ identifier = codeIdentifier n.name "connector" := by
  obtain ⟨base, hsite⟩ := exists_workloadSite_eq hc n k
  rw [hsite] at h
  by_cases hb : p.backend = .construct
  · simp only [bareSite, hb, if_true] at h
    exact ⟨hb, (Option.some.inj h).symm⟩
  · simp [bareSite, hb] at h

/-- The connector of a network waits for the network. -/
theorem connectorNode_mem_networkNodes (hc : p.cluster = none) (hb : p.backend = .construct)
    (n : NetworkSpec) :
    ∃ t ∈ p.networkNodes n, t.id = ResourceKind.connector.nodeId n.name ∧
      ResourceKind.network.nodeId n.name ∈ t.dependsOn := by
  have hconnector : (p.bareSite n).connector = some (codeIdentifier n.name "connector") := by
    simp [bareSite, hb]
  simp only [networkNodes, hc, cloudNetworkNodes, hconnector, networkId_bareSite (Or.inl hb)]
  exact ⟨_, List.mem_append_left _ (List.mem_append_right _ List.mem_cons_self), rfl,
    List.mem_singleton_self _⟩

end Project

namespace Description.Compiles

variable {d : Description} {p : Plan} {dialect : Dialect} {n : NetworkSpec} {r : Resource}

/-! ## What is lent -/

/-- What stands earlier under an id lends all names that nodes of its kind bind. -/
theorem lends (h : d.Compiles p) (hdialect : d.project.backend.dialect? = some dialect)
    {k : ResourceKind} (hk : k ∈ lenderKinds) {name : String}
    (hprecedes : Provisioning.Precedes p.order (k.nodeId name) r.id) (ending : Ending)
    (hending : ∀ config : ResourceConfig, config.kind = k.configKind →
      ending ∈ config.endings dialect) :
    p.Lends r k name (Binding.name ⟨name, ending⟩) := by
  obtain ⟨t, ht, hid⟩ := List.mem_map.1 (h.isGreedyOrder.perm.mem_iff.1 hprecedes.mem_left)
  obtain ⟨k', hk', hnode, -⟩ := h.served ht
  have hsame := hnode.id_eq.symm.trans hid
  obtain rfl := Backend.eq_of_firstWord hdialect k hk k' hk'
    (ResourceKind.firstWord_eq_of_nodeId_eq hsame)
  have hname : t.name = name := (String.append_right_inj _).1 hsame
  obtain ⟨s, hs, rfl, hbinds⟩ := h.exists_script hdialect ht
  refine ⟨t, ht, hid, hnode.kind_eq, hid ▸ hprecedes, s, hs, ?_⟩
  rw [hbinds.boundNames_code ResourceConfig.ending_mem_all]
  refine List.mem_map_of_mem (ResourceConfig.mem_bindings_iff.2 (Or.inr ⟨ending, ?_, ?_⟩))
  · exact hending t.config hnode.kind_eq
  · rw [hname]

/-- A network lends its identifier to what stands after it. -/
theorem lends_network (h : d.Compiles p) (hdialect : d.project.backend.dialect? = some dialect)
    {network : String} (hnetwork : r.network = some network)
    (hprecedes : Provisioning.Precedes p.order (ResourceKind.network.nodeId network) r.id) :
    p.LendsOwn r .network "network" (codeIdentifier network "network") := by
  refine ⟨network, hnetwork, rfl, h.lends hdialect (by decide) hprecedes (.suffix "network") ?_⟩
  intro config hkind
  cases config <;> first | exact List.mem_cons_self | cases hkind

/-- A connector lends its identifier to what stands after it. -/
theorem lends_connector (h : d.Compiles p) (hdialect : d.project.backend.dialect? = some dialect)
    {network : String} (hnetwork : r.network = some network)
    (hprecedes : Provisioning.Precedes p.order (ResourceKind.connector.nodeId network) r.id) :
    p.LendsOwn r .connector "connector" (codeIdentifier network "connector") := by
  refine ⟨network, hnetwork, rfl, h.lends hdialect (by decide) hprecedes (.suffix "connector") ?_⟩
  intro config hkind
  cases config <;> first | exact List.mem_cons_self | cases hkind

/-! ## What the parts of a description borrow -/

/-- Subnets, rules and connectors wait for the network that they name. -/
theorem borrows_of_mem_networkNodes (h : d.Compiles p)
    (hdialect : d.project.backend.dialect? = some dialect) (hc : (Project.of d).cluster = none)
    (hn : n ∈ d.networks) (hr : r ∈ (Project.of d).networkNodes n) : p.Borrows dialect r := by
  have hmem := h.networkNodes_subset hn hr
  have hlent : r.network = some n.name → ResourceKind.network.nodeId n.name ∈ r.dependsOn →
      p.LendsOwn r .network "network" (networkIdentifier n.name) :=
    fun hnetwork hid => h.lends_network hdialect hnetwork (h.precedes hmem hid)
  have hnode : (Project.of d).backend = .construct ∨ n.hasInfrastructure →
      ResourceKind.network.nodeId n.name ∈ ((Project.of d).bareSite n).networkId.toList := by
    intro hinside
    rw [Project.networkId_bareSite hinside]
    exact List.mem_singleton_self _
  simp only [Project.networkNodes, hc, Project.cloudNetworkNodes, List.mem_append, List.mem_map,
    Option.mem_toList] at hr
  rcases hr with (((⟨_, -, rfl⟩ | ⟨subnet, hsubnet, rfl⟩) | ⟨rule, hrule, rfl⟩) |
    ⟨_, hconnector, rfl⟩) | ⟨registry, -, rfl⟩
  · trivial
  · refine hlent rfl (hnode (Or.inr ?_))
    simp [NetworkSpec.hasInfrastructure, List.ne_nil_of_mem hsubnet]
  · refine hlent rfl (hnode (Or.inr ?_))
    simp [NetworkSpec.hasInfrastructure, List.ne_nil_of_mem hrule]
  · refine hlent rfl (hnode (Or.inl ?_))
    exact (Project.connector_bareSite_isSome_iff n).1 (by rw [hconnector]; rfl)
  · trivial

/-- Databases and caches wait for the network that they name. -/
theorem lends_network_of_data (h : d.Compiles p)
    (hdialect : d.project.backend.dialect? = some dialect) (hc : (Project.of d).cluster = none)
    (hinfra : n.hasInfrastructure) (hr : r ∈ p.resources)
    (hnetwork : r.network = some ((Project.of d).siteWithKernel ((Project.of d).site n)).spec.name)
    (hdepends : r.dependsOn = (Project.of d).dataDependencies
      ((Project.of d).siteWithKernel ((Project.of d).site n))) :
    ∃ identifier, (((Project.of d).siteWithKernel ((Project.of d).site n)).networkId.map fun _ =>
        networkIdentifier ((Project.of d).siteWithKernel ((Project.of d).site n)).spec.name) =
          some identifier ∧
      p.LendsOwn r .network "network" identifier := by
  have hid : ((Project.of d).siteWithKernel ((Project.of d).site n)).networkId =
      some (ResourceKind.network.nodeId n.name) :=
    Project.networkId_workloadSite hc (Or.inr hinfra) .database
  rw [Project.dataDependencies, hid] at hdepends
  rw [Project.spec_siteWithKernel_site] at hnetwork ⊢
  refine ⟨networkIdentifier n.name, by rw [hid]; rfl, h.lends_network hdialect hnetwork ?_⟩
  exact h.precedes hr (hdepends ▸ List.mem_singleton_self _)

/-- Workloads wait for the connector that they name. -/
theorem lends_connector_of_base (h : d.Compiles p)
    (hdialect : d.project.backend.dialect? = some dialect) (hc : (Project.of d).cluster = none)
    {k : ResourceKind} (hr : r ∈ p.resources)
    (hnetwork : r.network = some ((Project.of d).workloadSite n k).spec.name)
    (hbase : ((Project.of d).workloadSite n k).base ⊆ r.dependsOn) :
    ∀ identifier ∈ ((Project.of d).workloadSite n k).connector,
      p.LendsOwn r .connector "connector" identifier := by
  intro identifier hidentifier
  obtain ⟨hb, rfl⟩ := Project.mem_connector_workloadSite hc hidentifier
  rw [Project.spec_workloadSite] at hnetwork
  refine h.lends_connector hdialect hnetwork (h.precedes hr (hbase ?_))
  have hconstruct : d.project.backend = .construct := hb
  rw [h.legal.base_workloadSite, base, hconstruct]
  exact List.mem_cons_self

/-- In constructs the network stands before whatever waits for its connector. -/
theorem precedes_network (h : d.Compiles p) (hb : d.project.backend = .construct)
    (hn : n ∈ d.networks) (hr : r ∈ p.resources)
    (hconnector : ResourceKind.connector.nodeId n.name ∈ r.dependsOn) :
    Provisioning.Precedes p.order (ResourceKind.network.nodeId n.name) r.id := by
  have hc := h.cluster_eq_none_iff.2 (by rw [hb]; decide)
  obtain ⟨t, ht, hid, hdepends⟩ := Project.connectorNode_mem_networkNodes hc hb n
  have hfirst := h.precedes (h.networkNodes_subset hn ht) hdepends
  rw [hid] at hfirst
  exact hfirst.trans h.isGreedyOrder.greedy.nodup (h.precedes hr hconnector)

/-- A load balancer waits for the workloads behind it, and flat code has no frontends. -/
theorem lends_of_target (h : d.Compiles p)
    (hdialect : d.project.backend.dialect? = some dialect) (hn : n ∈ d.networks)
    (hr : r ∈ p.resources) {t : RouteTarget} (hdeclares : n.Declares t.backendKind t.backend)
    (hid : t.backendKind.resourceKind.nodeId t.backend ∈ r.dependsOn) :
    p.Lends r t.backendKind.resourceKind t.backend (t.identifier dialect) := by
  have hkind : t.backendKind.resourceKind ∈ lenderKinds := by
    cases t.backendKind <;> decide
  have hui : dialect = .flat → t.backendKind ≠ .ui := by
    rintro rfl hui
    rw [hui] at hdeclares
    obtain ⟨spec, hspec, -⟩ := hdeclares
    exact h.legal.backend_of_ui hn hspec (Backend.eq_flat_of_dialect? hdialect)
  rw [t.identifier_eq]
  exact h.lends hdialect hkind (h.precedes hr hid) _ fun _ => RouteBackendKind.ending_mem hui

/-- What is outside any network borrows nothing by its settings. -/
theorem borrows_of_mem_globalNodes (hr : r ∈ (Project.of d).globalNodes) : p.Borrows dialect r := by
  simp only [Project.globalNodes, List.mem_append, List.mem_flatMap, List.mem_map,
    Option.mem_toList, Project.clusterNodes, List.mem_cons, List.not_mem_nil, or_false] at hr
  rcases hr with ((((⟨c, -, rfl | rfl⟩ | ⟨spec, -, rfl⟩) | ⟨spec, -, rfl⟩) | ⟨spec, -, rfl⟩) |
    ⟨spec, -, rfl⟩) | ⟨spec, -, rfl⟩
  all_goals trivial

/-- The machine of a kernel is attached to the network of the node. -/
theorem networkLine_isInfix_kernel {r : Resource} {c : KernelConfig} {network : String}
    (hnative : c.variant = .native) (hnetwork : r.network = some network) :
    ("network: " ++ codeIdentifier network "network" ++ ".name").toList <:+:
      (Code.kernel r c).code.toList := by
  have hopen : "network: ".toList = "network".toList ++ ": ".toList := rfl
  have hclose : ".name".toList = ".".toList ++ "name".toList := rfl
  have hname : '\n' ∉ (codeIdentifier network "network").toList :=
    mt Code.lineFeed_mem_codeIdentifier.1 (by decide)
  have hline : '\n' ∉ ("network: " ++ codeIdentifier network "network" ++ ".name").toList := by
    rw [String.toList_append, String.toList_append]
    exact List.not_mem_append (List.not_mem_append (by decide) hname) (by decide)
  obtain ⟨st, hst, hfield⟩ : ∃ st ∈ (Code.kernel r c).statements, ("networkInterface", .list
      [Code.nested "network" (Code.member (codeIdentifier network "network") "name")]) ∈
        st.fields := by
    rw [Code.kernel, hnative, Code.nativeKernel, hnetwork]
    refine ⟨_, List.mem_cons_self, ?_⟩
    simp [Code.Statement.fields]
  refine Code.Script.isInfix_code hst hfield hline (Code.Expression.isInfix_fieldText _ ?_)
  refine Code.Expression.isInfix_list (List.mem_singleton_self _) hline
    (Code.Expression.isInfix_nested hline ?_)
  rw [Code.Expression.fieldText_member, String.toList_append, String.toList_append, hopen, hclose]
  simp only [List.append_assoc]
  exact List.infix_rfl

/-- A kernel with a machine of its own names its network on a line of its script. -/
theorem writes_kernel {variant : KernelVariant} {r : Resource} {c : KernelConfig} {network : String}
    (htag : r.typeTag = Backend.construct.typeTag variant.resourceKind)
    (hconfig : r.config = .kernel c) (hnative : c.variant = .native)
    (hnetwork : r.network = some network) :
    Plan.Writes r ("network: " ++ codeIdentifier network "network" ++ ".name") := by
  have hdefinition : .ofScript (Backend.construct.typeTag variant.resourceKind) .kernel Code.kernel ∈
      Backend.construct.definitions := by
    cases variant <;> simp [Backend.definitions, Backend.constructDefinitions,
      KernelVariant.resourceKind]
  have hselect : SettingsKind.kernel.select? r.config = some c := by
    rw [hconfig]
    rfl
  refine ⟨Code.kernel r c, ?_, ?_⟩
  · rw [Registry.generate_of_mem (Registry.mem_definitions_builtin hdefinition) htag]
    exact Definition.generate_of hselect
  · exact networkLine_isInfix_kernel hnative hnetwork

/-- Kernels wait for the connector that they name, and behind it stands their network. -/
theorem borrows_kernel (h : d.Compiles p)
    (hdialect : d.project.backend.dialect? = some dialect) (hc : (Project.of d).cluster = none)
    (hn : n ∈ d.networks) {variant : KernelVariant} {spec : KernelSpec}
    (hspec : (Project.of d).kernelOf? n = some (variant, spec)) {nodes : List Resource}
    (hnodes : (Project.of d).kernelNodes ((Project.of d).site n) variant spec = .ok nodes)
    (hr : r ∈ p.resources) (hmem : r ∈ nodes) : p.Borrows dialect r := by
  have hconstruct : d.project.backend = .construct :=
    Backend.eq_construct (h.legal.backend_of_kernel (Project.kernel?_of_kernelOf? hspec))
      (h.cluster_eq_none_iff.1 hc)
  rw [← Project.workloadSite_kernel n variant, Project.kernelNodes, bind_eq_ok_iff] at hnodes
  obtain ⟨env, -, hnodes⟩ := hnodes
  cases hnodes
  obtain rfl := Project.eq_node_of_mem_workloadNodes hc hmem
  have hbase := Project.base_subset_dependencies (p := Project.of d)
    ((Project.of d).workloadSite n variant.resourceKind)
    env.nodes []
  refine ⟨h.lends_connector_of_base hdialect hc hr rfl hbase, fun hnative => ?_⟩
  have hconnector : ResourceKind.connector.nodeId n.name ∈ d.base n variant.resourceKind := by
    rw [base, hconstruct]
    exact List.mem_cons_self
  rw [← h.legal.base_workloadSite] at hconnector
  have hnetwork : ((Project.of d).workloadSite n variant.resourceKind).spec.name = n.name := by
    rw [Project.spec_workloadSite]
  refine ⟨_, h.lends_network hdialect (congrArg some hnetwork)
    (h.precedes_network hconstruct hn hr (hbase hconnector)), ?_⟩
  exact writes_kernel (congrArg (Backend.typeTag · variant.resourceKind) hconstruct) rfl hnative
    (congrArg some hnetwork)

/-- A load balancer borrows from the workloads behind it. -/
theorem borrows_balancer (h : d.Compiles p)
    (hdialect : d.project.backend.dialect? = some dialect) (hc : (Project.of d).cluster = none)
    (hn : n ∈ d.networks) {lb : LoadBalancerSpec} {nodes : List Resource}
    (hnodes : (Project.of d).loadBalancerNodes
      ((Project.of d).siteWithKernel ((Project.of d).site n)) lb = .ok nodes)
    (hr : r ∈ p.resources) (hmem : r ∈ nodes) : p.Borrows dialect r := by
  obtain ⟨targets, htargets, ⟨c, hsome, -⟩ | ⟨-, rfl⟩⟩ := Project.loadBalancerNodes_cases hnodes
  · rw [hc] at hsome
    cases hsome
  · obtain rfl := List.mem_singleton.1 hmem
    rw [Project.spec_siteWithKernel_site] at htargets
    have hleads := NetworkSpec.routeTargets_eq_ok_iff.1 htargets
    obtain ⟨s, hs, hdialect', hbalances⟩ := Description.balances_of_resolve h.resolve_eq hr rfl
    obtain rfl := Option.some.inj (hdialect.symm.trans hdialect')
    refine fun t ht => ⟨Code.targetName_mem s.dialect t, ⟨s, hs, ?_⟩, ?_⟩
    · exact hbalances.targetLine_isInfix t ht
    refine h.lends_of_target hdialect hn hr (hleads.declares t ht) ?_
    rw [Project.balancerNode, Project.node, List.mem_eraseDups]
    exact List.mem_append_right _ (List.mem_map_of_mem ht)

end Description.Compiles

namespace Plan

variable {d : Description} {p : Plan} {dialect : Dialect}

/-- In a compiled plan for code, every identifier that the settings of a node borrow is bound by the
code of a node of the right kind and name that stands earlier in the order. -/
theorem borrows_of_compile (h : d.compile = .ok p)
    (hdialect : d.project.backend.dialect? = some dialect) {r : Resource} (hr : r ∈ p.resources) :
    p.Borrows dialect r := by
  have hcompiles := Description.compile_eq_ok_iff.1 h
  have hc : (Project.of d).cluster = none := by
    refine hcompiles.cluster_eq_none_iff.2 fun hb => ?_
    rw [hb] at hdialect
    cases hdialect
  cases hcompiles.origin hr with
  | global hmem => exact Description.Compiles.borrows_of_mem_globalNodes hmem
  | network hn hmem => exact hcompiles.borrows_of_mem_networkNodes hdialect hc hn hmem
  | kernel hn hspec hnodes hmem =>
    exact hcompiles.borrows_kernel hdialect hc hn hspec hnodes hr hmem
  | container hn hspec hnodes hmem =>
    rw [← Project.workloadSite_of_not_isKernel _ (k := .container) rfl, Project.containerNodes,
      bind_eq_ok_iff] at hnodes
    obtain ⟨env, -, hnodes⟩ := hnodes
    cases hnodes
    obtain rfl := Project.eq_node_of_mem_workloadNodes hc hmem
    exact hcompiles.lends_connector_of_base hdialect hc hr rfl
      (Project.base_subset_dependencies _ _ _)
  | function hn hspec hnodes hmem =>
    rw [← Project.workloadSite_of_not_isKernel _ (k := .function) rfl, Project.functionNodes,
      bind_eq_ok_iff] at hnodes
    obtain ⟨env, -, hnodes⟩ := hnodes
    obtain ⟨topic, -, hnodes⟩ := bind_eq_ok_iff.1 hnodes
    cases hnodes
    obtain rfl := Project.eq_node_of_mem_workloadNodes hc hmem
    exact hcompiles.lends_connector_of_base hdialect hc hr rfl
      (Project.base_subset_dependencies _ _ _)
  | ui hn hspec hnodes hmem =>
    rw [← Project.workloadSite_of_not_isKernel _ (k := .ui) rfl, Project.uiNodes,
      bind_eq_ok_iff] at hnodes
    obtain ⟨env, -, hnodes⟩ := hnodes
    cases hnodes
    obtain rfl := Project.eq_node_of_mem_workloadNodes hc hmem
    exact hcompiles.lends_connector_of_base hdialect hc hr rfl
      (Project.base_subset_dependencies _ _ _)
  | database hn hspec hnode =>
    subst hnode
    refine hcompiles.lends_network_of_data hdialect hc ?_ hr rfl rfl
    simp [NetworkSpec.hasInfrastructure, List.ne_nil_of_mem hspec]
  | cache hn hspec hnode =>
    subst hnode
    refine hcompiles.lends_network_of_data hdialect hc ?_ hr rfl rfl
    simp [NetworkSpec.hasInfrastructure, List.ne_nil_of_mem hspec]
  | loadBalancer hn hspec hnodes hmem =>
    exact hcompiles.borrows_balancer hdialect hc hn hnodes hr hmem
  | cron hspec hnodes hmem =>
    obtain ⟨kind, target, c, -, -, rfl⟩ := Project.cronNodes_cases hnodes
    obtain rfl := List.mem_singleton.1 hmem
    trivial

end Plan

/-- Constructs of every kind in one network, with a kernel on a machine of its own and a load
balancer that leads to all three kinds of workload. -/
def Description.gateway : Description :=
  { ofNetworks ⟨"shop", "us-central1", none, .construct⟩ [
      { NetworkSpec.ofContainers "main" ["api"] with
        subnets := [⟨"inner", "10.0.0.0/24", none⟩]
        firewall := [⟨"https", "tcp", ["443"], []⟩]
        functions := [.named "mailer"]
        uis := [⟨"web", none, none, 3000, ∅, ∅, []⟩]
        loadBalancer := some ⟨none, false, none,
          [⟨"/*", "web"⟩, ⟨"/api/*", "api"⟩, ⟨"/mail", "mailer"⟩], none⟩ }] with
    kernel := some ⟨"engine", none, none, "e2-medium", 8080, ∅, ∅⟩ }

/-- All nodes of the network, its kernel and its load balancer borrow what is lent. -/
theorem Plan.borrows_of_compile_gateway :
    ∃ p, Description.gateway.compile = .ok p ∧
      p.order = ["network-main", "subnet-inner", "firewall-https", "connector-main",
        "kernel-engine", "container-api", "function-mailer", "ui-web", "load-balancer-main"] ∧
      ∀ r ∈ p.resources, p.Borrows .construct r := by
  have horder : Description.gateway.compile.toOption.map (·.order) =
      some ["network-main", "subnet-inner", "firewall-https", "connector-main",
        "kernel-engine", "container-api", "function-mailer", "ui-web", "load-balancer-main"] := by
    decide +kernel
  cases hcompile : Description.gateway.compile with
  | error e =>
    rw [hcompile] at horder
    cases horder
  | ok p =>
    rw [hcompile] at horder
    exact ⟨p, rfl, Option.some.inj horder, fun r hr => borrows_of_compile hcompile rfl hr⟩

end Groundwork
