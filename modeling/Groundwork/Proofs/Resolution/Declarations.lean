import Groundwork.Proofs.Resolution.Compiled

/-!
# What a description declares

The nodes of a plan can be read off the description before anything is resolved: their kinds, their
names and the networks that they are declared in.  Every step of a resolution has its own
declarations, and if it succeeds its nodes are those that it declares, in order.

Main results:

- `Project.steps_yield`: the nodes of each step are those that it declares.
- `Project.realizes_of_isPrefix`: the nodes of the first steps are those that they declare.
- `Project.realizes_resources`: the nodes of a project are all that it declares.
-/

namespace Groundwork

/-- A node to be: its kind, its name, and the network that it is declared in. -/
structure Declaration where
  kind : ResourceKind
  name : String
  network : Option String
  deriving DecidableEq

/-- The id of the node to be. -/
def Declaration.id (a : Declaration) : String := a.kind.nodeId a.name

namespace Project

variable (p : Project)

/-! ## Declarations -/

/-- What is declared outside any network, before the networks. -/
def globalDeclarations : List Declaration :=
  let d := p.description
  let outside (kind : ResourceKind) (name : String) : Declaration := ⟨kind, name, none⟩
  p.cluster.toList.flatMap
      (fun c => [outside .clusterNamespace c.namespaceName, outside .configMap p.name])
    ++ d.serviceAccount.toList.map (outside .serviceAccount ·.name)
    ++ d.buckets.map (outside .bucket ·.name)
    ++ d.secrets.map (outside .secret ·.name)
    ++ d.topics.map (outside .topic ·.name)
    ++ d.queues.map (outside .queue ·.name)

/-- What a network declares before its workloads. -/
def networkDeclarations (n : NetworkSpec) : List Declaration :=
  let inside (kind : ResourceKind) (name : String) : Declaration := ⟨kind, name, some n.name⟩
  match p.cluster with
  | some _ => n.firewall.map (inside .networkPolicy ·.name)
  | none =>
    (p.bareSite n).networkId.toList.map (fun _ => inside .network n.name)
      ++ n.subnets.map (inside .subnet ·.name)
      ++ n.firewall.map (inside .firewall ·.name)
      ++ (p.bareSite n).connector.toList.map (fun _ => inside .connector n.name)
      ++ n.registry.toList.map (inside .registry ·.name)

/-- What a workload of a network declares. -/
def workloadDeclarations (n : NetworkSpec) (kind : ResourceKind) (name : String) :
    List Declaration :=
  if p.cluster.isSome then [⟨.deployment, name, some n.name⟩, ⟨.service, name, some n.name⟩]
  else [⟨kind, name, some n.name⟩]

/-- What the load balancer of a network declares. -/
def balancerDeclaration (n : NetworkSpec) (lb : LoadBalancerSpec) : Declaration where
  kind := if p.cluster.isSome then .ingress else .loadBalancer
  name := lb.name.getD n.name
  network := some n.name

/-- What a network declares, step by step. -/
def networkChunks (n : NetworkSpec) : List (List Declaration) :=
  [p.networkDeclarations n]
    ++ (p.kernelOf? n).toList.map
      (fun (variant, k) => p.workloadDeclarations n variant.resourceKind k.name)
    ++ n.containers.map (p.workloadDeclarations n .container ·.name)
    ++ n.functions.map (p.workloadDeclarations n .function ·.name)
    ++ [n.databases.map fun spec => ⟨.database, spec.name, some n.name⟩]
    ++ [n.caches.map fun spec => ⟨.cache, spec.name, some n.name⟩]
    ++ n.uis.map (p.workloadDeclarations n .ui ·.name)
    ++ n.loadBalancer.toList.map (fun lb => [p.balancerDeclaration n lb])

/-- What a project declares, step by step. -/
def chunks : List (List Declaration) :=
  [p.globalDeclarations]
    ++ p.description.networks.flatMap p.networkChunks
    ++ p.description.crons.map (fun spec => [⟨.cron, spec.name, none⟩])

/-- All that a project declares. -/
def declarations : List Declaration := p.chunks.flatten

/-! ## From declarations to nodes -/

/-- A node is what a declaration becomes. -/
structure Realizes (a : Declaration) (r : Resource) : Prop extends p.IsNode a.kind r where
  name_eq : r.name = a.name
  network_eq : r.network = a.network

variable {p}

/-- A node has the id of its declaration. -/
theorem Realizes.id_eq_id {a : Declaration} {r : Resource} (h : p.Realizes a r) :
    r.id = a.id := by
  rw [h.id_eq, h.name_eq, Declaration.id]

/-- Nodes have the ids of the declarations that they come from. -/
theorem map_id_of_realizes {declared : List Declaration} {nodes : List Resource}
    (h : List.Forall₂ p.Realizes declared nodes) : nodes.map (·.id) = declared.map (·.id) := by
  induction h with
  | nil => rfl
  | cons hreal _ ih => rw [List.map_cons, List.map_cons, hreal.id_eq_id, ih]

/-- A node is what is declared if its settings are of the kind. -/
theorem realizes_node {k : ResourceKind} {name : String} {config : ResourceConfig}
    {dependsOn : List String} {network : Option String} (hconfig : config.kind = k.configKind) :
    p.Realizes ⟨k, name, network⟩ (p.node k name config dependsOn network) :=
  ⟨isNode_node hconfig, rfl, rfl⟩

/-- Declarations and nodes made of the same parts of a description. -/
theorem realizes_map {α : Type} {l : List α} {f : α → Declaration} {g : α → Resource}
    (h : ∀ x ∈ l, p.Realizes (f x) (g x)) : List.Forall₂ p.Realizes (l.map f) (l.map g) := by
  rw [List.forall₂_map_left_iff, List.forall₂_map_right_iff, List.forall₂_same]
  exact h

/-- The nodes outside any network are what is declared there, in order. -/
theorem realizes_globalNodes :
    List.Forall₂ p.Realizes p.globalDeclarations p.globalNodes := by
  have hcluster : List.Forall₂ p.Realizes
      (p.cluster.toList.flatMap fun c =>
        [⟨.clusterNamespace, c.namespaceName, none⟩, ⟨.configMap, p.name, none⟩])
      (p.cluster.toList.flatMap p.clusterNodes) := by
    cases p.cluster with
    | none => exact .nil
    | some c => exact .cons (realizes_node rfl) (.cons (realizes_node rfl) .nil)
  refine List.rel_append (List.rel_append (List.rel_append (List.rel_append (List.rel_append
    hcluster ?_) ?_) ?_) ?_) ?_
  all_goals exact realizes_map fun _ _ => realizes_node rfl

/-- The nodes of a network itself are what is declared for it, in order. -/
theorem realizes_networkNodes (n : NetworkSpec) :
    List.Forall₂ p.Realizes (p.networkDeclarations n) (p.networkNodes n) := by
  unfold networkDeclarations networkNodes
  cases p.cluster with
  | some c => exact realizes_map fun _ _ => realizes_node rfl
  | none =>
    refine List.rel_append (List.rel_append (List.rel_append (List.rel_append ?_ ?_) ?_) ?_) ?_
    all_goals exact realizes_map fun _ _ => realizes_node rfl

/-- The nodes of a workload are what is declared for it, in order. -/
theorem Resolves.realizes {site : Site} {w : Workload} {nodes : List Resource}
    (h : p.Resolves site w nodes) :
    List.Forall₂ p.Realizes (p.workloadDeclarations site.spec w.kind w.name) nodes := by
  obtain ⟨env, topicNodes, pod, config, rfl, -, hsettings⟩ := h
  unfold workloadDeclarations workloadNodes
  cases p.cluster with
  | some c => exact .cons (realizes_node rfl) (.cons (realizes_node rfl) .nil)
  | none => exact .cons (realizes_node hsettings.kind_eq) .nil

/-- The node of a load balancer is what is declared for it. -/
theorem realizes_loadBalancerNodes {site : Site} {lb : LoadBalancerSpec} {nodes : List Resource}
    (h : p.loadBalancerNodes site lb = .ok nodes) :
    List.Forall₂ p.Realizes [p.balancerDeclaration site.spec lb] nodes := by
  unfold balancerDeclaration
  obtain ⟨targets, -, ⟨c, hc, rfl⟩ | ⟨hc, rfl⟩⟩ := loadBalancerNodes_cases h
  · simp only [hc]
    exact .cons (realizes_node rfl) .nil
  · simp only [hc]
    exact .cons (realizes_node rfl) .nil

/-! ## Steps -/

/-- If a step succeeds, its nodes are those that it declares. -/
def Yields (p : Project) (chunk : List Declaration) (step : Except CompileError (List Resource)) :
    Prop :=
  ∀ nodes, step = .ok nodes → List.Forall₂ p.Realizes chunk nodes

/-- A step that gives what is declared has done its part. -/
theorem yields_ok {chunk : List Declaration} {nodes : List Resource}
    (h : List.Forall₂ p.Realizes chunk nodes) : p.Yields chunk (.ok nodes) := by
  rintro _ ⟨⟩
  exact h

/-- Steps and their declarations made of the same parts of a description. -/
theorem yields_map {α : Type} {l : List α} {f : α → List Declaration}
    {g : α → Except CompileError (List Resource)} (h : ∀ x ∈ l, p.Yields (f x) (g x)) :
    List.Forall₂ p.Yields (l.map f) (l.map g) := by
  rw [List.forall₂_map_left_iff, List.forall₂_map_right_iff, List.forall₂_same]
  exact h

/-- The site of a network is there for that network. -/
theorem spec_site (n : NetworkSpec) : (p.site n).spec = n := by
  unfold site bareSite
  split
  · rfl
  · split <;> rfl

section Site

variable {n : NetworkSpec} {site : Site} (hsite : site.spec = n)
include hsite

/-- Steps that resolve workloads at a site of a network. -/
theorem yields_workloads {α : Type} {l : List α} (f : α → Workload)
    {g : α → Except CompileError (List Resource)}
    (h : ∀ x ∈ l, ∀ nodes, g x = .ok nodes → p.Resolves site (f x) nodes) :
    List.Forall₂ p.Yields (l.map fun x => p.workloadDeclarations n (f x).kind (f x).name)
      (l.map g) := by
  subst hsite
  exact yields_map fun x hx nodes hnodes => (h x hx nodes hnodes).realizes

/-- The databases of a network are what is declared, in order. -/
theorem yields_databases (l : List DatabaseSpec) :
    List.Forall₂ p.Yields [l.map fun spec => ⟨.database, spec.name, some n.name⟩]
      [.ok (l.map (p.databaseNode site))] := by
  subst hsite
  exact .cons (yields_ok (realizes_map fun _ _ => realizes_node rfl)) .nil

/-- The caches of a network are what is declared, in order. -/
theorem yields_caches (l : List CacheSpec) :
    List.Forall₂ p.Yields [l.map fun spec => ⟨.cache, spec.name, some n.name⟩]
      [.ok (l.map (p.cacheNode site))] := by
  subst hsite
  exact .cons (yields_ok (realizes_map fun _ _ => realizes_node rfl)) .nil

end Site

/-- What the steps after the kernel's and before the load balancer's declare. -/
def innerChunks (p : Project) (n : NetworkSpec) : List (List Declaration) :=
  n.containers.map (p.workloadDeclarations n .container ·.name)
    ++ n.functions.map (p.workloadDeclarations n .function ·.name)
    ++ [n.databases.map fun spec => ⟨.database, spec.name, some n.name⟩]
    ++ [n.caches.map fun spec => ⟨.cache, spec.name, some n.name⟩]
    ++ n.uis.map (p.workloadDeclarations n .ui ·.name)

/-- The steps of a network after the kernel's and before the load balancer's. -/
def innerSteps (p : Project) (n : NetworkSpec) : List (Except CompileError (List Resource)) :=
  let shared := p.siteWithKernel (p.site n)
  n.containers.map (p.containerNodes shared)
    ++ n.functions.map (p.functionNodes shared)
    ++ [.ok (n.databases.map (p.databaseNode shared))]
    ++ [.ok (n.caches.map (p.cacheNode shared))]
    ++ n.uis.map (p.uiNodes shared)

/-- The declarations of a network: its own, its kernel's, those inside and its load balancer's. -/
theorem networkChunks_eq (p : Project) (n : NetworkSpec) :
    p.networkChunks n =
      [p.networkDeclarations n] ++ ((p.kernelOf? n).toList.map (fun (variant, k) =>
        p.workloadDeclarations n variant.resourceKind k.name) ++ (p.innerChunks n ++
          n.loadBalancer.toList.map fun lb => [p.balancerDeclaration n lb])) := by
  simp only [networkChunks, innerChunks, List.append_assoc]

/-- The steps that resolve a network, grouped in the same way. -/
theorem networkSteps_eq (p : Project) (n : NetworkSpec) :
    p.networkSteps n =
      [.ok (p.networkNodes n)] ++ ((p.kernelOf? n).toList.map (fun (variant, k) =>
        p.kernelNodes (p.site n) variant k) ++ (p.innerSteps n ++
          n.loadBalancer.toList.map (p.loadBalancerNodes (p.siteWithKernel (p.site n))))) := by
  simp only [networkSteps, innerSteps, List.append_assoc]

/-- The step of the kernel gives what is declared for it. -/
theorem kernelSteps_yield (n : NetworkSpec) :
    List.Forall₂ p.Yields
      ((p.kernelOf? n).toList.map fun (variant, k) =>
        p.workloadDeclarations n variant.resourceKind k.name)
      ((p.kernelOf? n).toList.map fun (variant, k) => p.kernelNodes (p.site n) variant k) :=
  yields_workloads (spec_site n) (Function.uncurry .ofKernel)
    fun _ _ _ hnodes => kernelNodes_resolves hnodes

/-- The steps inside a network give what is declared there. -/
theorem innerSteps_yield (n : NetworkSpec) :
    List.Forall₂ p.Yields (p.innerChunks n) (p.innerSteps n) := by
  have hspec : (p.siteWithKernel (p.site n)).spec = n := spec_siteWithKernel_site n
  refine List.rel_append (List.rel_append (List.rel_append (List.rel_append ?_ ?_) ?_) ?_) ?_
  · exact yields_workloads hspec .ofContainer fun _ _ _ hnodes => containerNodes_resolves hnodes
  · exact yields_workloads hspec .ofFunction fun _ _ _ hnodes => functionNodes_resolves hnodes
  · exact yields_databases hspec n.databases
  · exact yields_caches hspec n.caches
  · exact yields_workloads hspec .ofUi fun _ _ _ hnodes => uiNodes_resolves hnodes

/-- The steps of a network give what is declared for it. -/
theorem networkSteps_yield (n : NetworkSpec) :
    List.Forall₂ p.Yields (p.networkChunks n) (p.networkSteps n) := by
  rw [networkChunks_eq, networkSteps_eq]
  refine List.rel_append ?_ (List.rel_append (kernelSteps_yield n)
    (List.rel_append (innerSteps_yield n) ?_))
  · exact .cons (yields_ok (realizes_networkNodes n)) .nil
  · refine yields_map fun lb _ nodes hnodes => ?_
    have h := realizes_loadBalancerNodes hnodes
    rwa [spec_siteWithKernel_site] at h

/-- The nodes of the steps of some networks are those that these declare. -/
theorem networks_yield (networks : List NetworkSpec) :
    List.Forall₂ p.Yields (networks.flatMap p.networkChunks) (networks.flatMap p.networkSteps) := by
  rw [List.flatMap, List.flatMap]
  refine List.rel_flatten ?_
  rw [List.forall₂_map_left_iff, List.forall₂_map_right_iff, List.forall₂_same]
  exact fun n _ => networkSteps_yield n

/-- The nodes of each step are those that it declares. -/
theorem steps_yield : List.Forall₂ p.Yields p.chunks p.steps := by
  unfold chunks steps
  refine List.rel_append (List.rel_append ?_ ?_) ?_
  · exact .cons (yields_ok realizes_globalNodes) .nil
  · exact networks_yield p.description.networks
  · refine yields_map fun spec _ nodes hnodes => ?_
    obtain ⟨kind, target, c, -, -, rfl⟩ := cronNodes_cases hnodes
    exact .cons (realizes_node rfl) .nil

/-- The nodes of the first steps are those that these steps declare. -/
theorem realizes_of_isPrefix {lists : List (List Resource)}
    (h : lists.map Except.ok <+: p.steps) :
    List.Forall₂ p.Realizes (p.chunks.take lists.length).flatten lists.flatten := by
  obtain ⟨rest, hsteps⟩ := h
  have hyield := p.steps_yield
  rw [← hsteps] at hyield
  have htaken := List.forall₂_take_append _ _ _ hyield
  rw [List.length_map, List.forall₂_map_right_iff] at htaken
  exact List.rel_flatten (htaken.imp fun chunk nodes hchunk => hchunk nodes rfl)

/-- The nodes of a project are all that it declares, in order. -/
theorem realizes_resources {resources : List Resource} (h : p.resources = .ok resources) :
    List.Forall₂ p.Realizes p.declarations resources := by
  obtain ⟨lists, hsteps, rfl, -⟩ := resources_eq_ok_iff.1 h
  have hall : p.chunks.length = lists.length := by
    rw [p.steps_yield.length_eq, hsteps, List.length_map]
  have hprefix : lists.map Except.ok <+: p.steps := ⟨[], by rw [List.append_nil, hsteps]⟩
  have hrealizes := realizes_of_isPrefix hprefix
  rwa [← hall, List.take_length] at hrealizes

end Project

end Groundwork
