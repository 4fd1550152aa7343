import Groundwork.Proofs.Registry.Calls
import Mathlib.Data.List.Nodup

/-!
# The generators of the built-in registry

Every backend has one generator for each kind of node that it knows, under the type tag of the kind
and for the settings of the kind.  Registering all of them succeeds, since no tag is claimed twice,
so the registry finds for every known kind the generator of that kind.

Main results:

- `Backend.definitions_table`: tags and settings of the generators, kind by kind.
- `Registry.definitions_builtin`: the registry holds the generators of all backends.
- `Registry.generate_of_mem`: a node with the tag of a generator is given to that generator.
- `Backend.generate_total`: apart from load balancers, no generator refuses settings of its kind.
- `Backend.exists_generate`: what a node has to be like for the registry to make something of it.
-/

namespace Groundwork

namespace ResourceKind

/-- The kind of settings that nodes of a kind carry; both kernels have the same. -/
def configKind : ResourceKind → ConfigKind
  | serviceAccount => .serviceAccount
  | bucket => .bucket
  | secret => .secret
  | topic => .topic
  | queue => .queue
  | network => .network
  | subnet => .subnet
  | firewall => .firewall
  | registry => .registry
  | connector => .connector
  | container => .container
  | function => .function
  | database => .database
  | cache => .cache
  | kernel => .kernel
  | hybridKernel => .kernel
  | ui => .ui
  | loadBalancer => .loadBalancer
  | cron => .cron
  | clusterNamespace => .clusterNamespace
  | configMap => .configMap
  | deployment => .deployment
  | service => .service
  | ingress => .ingress
  | networkPolicy => .networkPolicy

/-- Only load balancers have the settings of a load balancer. -/
theorem eq_loadBalancer_of_configKind {k : ResourceKind} (h : k.configKind = .loadBalancer) :
    k = .loadBalancer := by
  cases k <;> first | rfl | cases h

end ResourceKind

namespace Backend

/-! ## The kinds that a backend knows -/

/-- The kinds of node that a backend has generators for, in the order of registration. -/
def kinds : Backend → List ResourceKind
  | flat =>
    [.serviceAccount, .bucket, .secret, .topic, .queue, .network, .subnet, .firewall, .registry,
     .container, .function, .database, .cache, .loadBalancer, .cron]
  | construct =>
    [.serviceAccount, .bucket, .secret, .topic, .queue, .network, .subnet, .firewall, .registry,
     .connector, .container, .function, .kernel, .hybridKernel, .ui, .loadBalancer]
  | manifest =>
    [.clusterNamespace, .configMap, .serviceAccount, .secret, .bucket, .topic, .queue, .database,
     .cache, .networkPolicy, .deployment, .service, .ingress]

/-- There are three backends. -/
theorem eq_construct {b : Backend} (hflat : b ≠ .flat) (hmanifest : b ≠ .manifest) :
    b = .construct := by
  cases b with
  | flat => exact absurd rfl hflat
  | construct => rfl
  | manifest => exact absurd rfl hmanifest

/-- Kinds that both backends for code know. -/
theorem mem_kinds_of_ne_manifest {b : Backend} {k : ResourceKind}
    (hk : k ∈ [ResourceKind.network, .subnet, .firewall, .registry] ++
      [.container, .function, .loadBalancer]) (hb : b ≠ .manifest) : k ∈ b.kinds := by
  revert k
  cases b with
  | flat => decide
  | construct => decide
  | manifest => exact absurd rfl hb

/-- Kinds that flat code and manifests know. -/
theorem mem_kinds_of_ne_construct {b : Backend} {k : ResourceKind}
    (hk : k ∈ [ResourceKind.database, .cache]) (hb : b ≠ .construct) : k ∈ b.kinds := by
  revert k
  cases b with
  | flat => decide
  | construct => exact absurd rfl hb
  | manifest => decide

/-- The generators of a backend are those of its kinds, each for the settings of its kind. -/
theorem definitions_table (b : Backend) :
    b.definitions.map (fun g => (g.id, g.kind)) =
      b.kinds.map fun k => (b.typeTag k, k.configKind) := by
  cases b with
  | flat => rfl
  | construct => rfl
  | manifest => rfl

/-- The generators of a backend are for the type tags of its kinds. -/
theorem map_id_definitions (b : Backend) :
    b.definitions.map (·.id) = b.kinds.map b.typeTag := by
  have h := congrArg (List.map Prod.fst) b.definitions_table
  simpa [List.map_map, Function.comp_def] using h

/-- A backend has a generator for each of its kinds. -/
theorem exists_definition {b : Backend} {k : ResourceKind} (hk : k ∈ b.kinds) :
    ∃ g ∈ b.definitions, g.id = b.typeTag k ∧ g.kind = k.configKind := by
  have hmem : (b.typeTag k, k.configKind) ∈ b.definitions.map fun g => (g.id, g.kind) := by
    rw [definitions_table]
    exact List.mem_map_of_mem hk
  obtain ⟨g, hg, heq⟩ := List.mem_map.1 hmem
  exact ⟨g, hg, congrArg Prod.fst heq, congrArg Prod.snd heq⟩

/-- Every type tag of a backend begins as its tags do. -/
theorem tagPrefix_isPrefixOf_typeTag (b : Backend) (k : ResourceKind) :
    b.tagPrefix.toList.isPrefixOf (b.typeTag k).toList = true := by
  unfold typeTag
  rw [String.toList_append, List.isPrefixOf_iff_prefix]
  exact List.prefix_append _ _

end Backend

namespace Registry

/-! ## Registering -/

/-- No two generators of any backends have the same type tag. -/
theorem nodup_typeTags :
    ([Backend.flat, .construct, .manifest].flatMap fun b => b.kinds.map b.typeTag).Nodup := by
  decide +kernel

/-- The generators of all backends, as plugins. -/
def builtinPlugins : List Plugin :=
  [Backend.flat, .construct, .manifest].flatMap fun b => b.definitions.map fun d => ⟨b, d⟩

/-- All generators are registered in the built-in registry, each under its tag, and none is
refused. -/
theorem registerAll_builtinPlugins :
    builtin.table.entries = builtinPlugins.map Plugin.entry ∧
      (empty.registerAll builtinPlugins).2 = none := by
  have hfits : ∀ p ∈ builtinPlugins, p.Fits := by
    intro p hp
    obtain ⟨b, -, hp⟩ := List.mem_flatMap.1 hp
    obtain ⟨g, hg, rfl⟩ := List.mem_map.1 hp
    have hid : g.id ∈ b.kinds.map b.typeTag := by
      rw [← b.map_id_definitions]
      exact List.mem_map_of_mem hg
    obtain ⟨k, -, hk⟩ := List.mem_map.1 hid
    rw [Plugin.Fits, ← hk, ← List.isPrefixOf_iff_prefix]
    exact b.tagPrefix_isPrefixOf_typeTag k
  have hids : builtinPlugins.map (·.definition.id) =
      [Backend.flat, .construct, .manifest].flatMap fun b => b.kinds.map b.typeTag := by
    simp only [builtinPlugins, List.map_flatMap, List.map_map, ← Backend.map_id_definitions]
    rfl
  have hnodup : (empty.types ++ builtinPlugins.map (·.definition.id)).Nodup := by
    rw [hids]
    exact nodup_typeTags
  exact registerAll_eq_of_nodup hfits hnodup

/-- The built-in registry holds the generators of all backends. -/
theorem definitions_builtin :
    builtin.definitions =
      [Backend.flat, .construct, .manifest].flatMap Backend.definitions := by
  rw [definitions, OrderedMap.values, registerAll_builtinPlugins.1, List.map_map, builtinPlugins,
    List.map_flatMap]
  simp [Function.comp_def, Plugin.entry]

/-- The tags of the built-in registry are those of its generators. -/
theorem types_builtin : builtin.types = builtin.definitions.map (·.id) := by
  rw [types, OrderedMap.keys, definitions, OrderedMap.values, registerAll_builtinPlugins.1]
  simp [Function.comp_def, Plugin.entry]

/-- The built-in registry holds each generator of a backend. -/
theorem mem_definitions_builtin {b : Backend} {g : Definition} (hg : g ∈ b.definitions) :
    g ∈ builtin.definitions := by
  rw [definitions_builtin, List.mem_flatMap]
  exact ⟨b, by cases b <;> simp, hg⟩

/-- The built-in registry finds each of its generators under its tag. -/
theorem get?_of_mem {g : Definition} (hg : g ∈ builtin.definitions) :
    builtin.get? g.id = some g := by
  rw [definitions, OrderedMap.values, registerAll_builtinPlugins.1, List.map_map] at hg
  obtain ⟨p, hp, rfl⟩ := List.mem_map.1 hg
  rw [get?, OrderedMap.get?_eq_some_iff, registerAll_builtinPlugins.1]
  exact List.mem_map_of_mem hp

/-- A node with the tag of a generator is given to that generator. -/
theorem generate_of_mem {g : Definition} (hg : g ∈ builtin.definitions)
    {node : Resource} (htag : node.typeTag = g.id) : builtin.generate node = g.generate node := by
  rw [generate, htag, get?_of_mem hg]

end Registry

/-! ## What generators accept -/

/-- Leaving out repetitions brings in no routes. -/
theorem Code.mem_of_mem_firstRoutes {seen : List String} {routes : List RouteTarget}
    {t : RouteTarget} (h : t ∈ Code.firstRoutes seen routes) : t ∈ routes := by
  induction routes generalizing seen with
  | nil => cases h
  | cons route rest ih =>
    rw [Code.firstRoutes] at h
    split at h
    · exact List.mem_cons_of_mem _ (ih h)
    · rcases List.mem_cons.1 h with rfl | h
      · exact List.mem_cons_self
      · exact List.mem_cons_of_mem _ (ih h)

/-- No route is stranded where none leads to a frontend, or the dialect has frontends. -/
theorem Code.strandedRoute?_eq_none {d : Code.Dialect} {c : LoadBalancerConfig}
    (h : d = .flat → ∀ t ∈ c.routes, t.backendKind ≠ .ui) : Code.strandedRoute? d c = none := by
  cases d with
  | construct => rfl
  | flat =>
    rw [Code.strandedRoute?, List.find?_eq_none]
    intro t ht hui
    exact h rfl t (Code.mem_of_mem_firstRoutes ht) (of_decide_eq_true hui)

/-- The settings of a load balancer are picked exactly where there are some. -/
theorem SettingsKind.select?_loadBalancer_eq_some_iff {config : ResourceConfig}
    {c : LoadBalancerConfig} :
    loadBalancer.select? config = some c ↔ config = .loadBalancer c := by
  cases config <;> simp [loadBalancer]

/-- A node of the kind of load balancers has settings of a load balancer. -/
theorem ResourceConfig.exists_loadBalancer {config : ResourceConfig}
    (h : config.kind = .loadBalancer) : ∃ c, config = .loadBalancer c := by
  obtain ⟨c, hc⟩ :=
    Option.isSome_iff_exists.1 ((SettingsKind.loadBalancer.isSome_select? config).2 h)
  exact ⟨c, SettingsKind.select?_loadBalancer_eq_some_iff.1 hc⟩

namespace Definition

/-- A generator that makes something of all settings of its kind. -/
def Total (g : Definition) : Prop :=
  ∀ r : Resource, r.config.kind = g.kind → ∃ a, g.generate r = .ok a

/-- A generator made for one kind of settings is given these settings. -/
theorem generate_of {α : Type} {id : String} {settings : SettingsKind α}
    {make : Resource → α → Except String Artifact} {r : Resource} {c : α}
    (hc : settings.select? r.config = some c) :
    (of id settings make).generate r = (make r c).mapError (.render r.id) := by
  simp only [of, hc]

/-- Settings of the kind that is asked for are found. -/
theorem exists_select?_of_kind {α : Type} (settings : SettingsKind α) {c : ResourceConfig}
    (h : c.kind = settings.kind) : ∃ x, settings.select? c = some x :=
  Option.isSome_iff_exists.1 ((settings.isSome_select? c).2 h)

/-- A generator that writes a script never fails on settings of its kind. -/
@[simp]
theorem total_ofScript {α : Type} (id : String) (settings : SettingsKind α)
    (make : Resource → α → Code.Script) : (ofScript id settings make).Total := by
  intro r hr
  obtain ⟨c, hc⟩ := exists_select?_of_kind settings hr
  exact ⟨.script (make r c), generate_of hc⟩

/-- A generator that writes a manifest never fails on settings of its kind. -/
@[simp]
theorem total_ofManifest {α : Type} (id : String) (settings : SettingsKind α)
    (make : α → Json) : (ofManifest id settings make).Total := by
  intro r hr
  obtain ⟨c, hc⟩ := exists_select?_of_kind settings hr
  exact ⟨.manifest (make c), generate_of hc⟩

end Definition

namespace Backend

/-- Apart from load balancers, no generator refuses settings of its kind. -/
theorem generate_total (b : Backend) :
    ∀ g ∈ b.definitions, g.kind ≠ .loadBalancer → g.Total := by
  cases b with
  | flat => simp [definitions, flatDefinitions, sharedDefinitions, balancerDefinition,
      Definition.of, SettingsKind.loadBalancer]
  | construct => simp [definitions, constructDefinitions, sharedDefinitions, balancerDefinition,
      Definition.of, SettingsKind.loadBalancer]
  | manifest => simp [definitions, manifestDefinitions]

/-- The dialect in which a backend writes code, if it does. -/
def dialect? : Backend → Option Code.Dialect
  | flat => some .flat
  | construct => some .construct
  | manifest => none

/-- A backend that writes scripts writes them in a dialect. -/
theorem exists_dialect {b : Backend} (hb : b ≠ .manifest) : ∃ d, b.dialect? = some d := by
  cases b with
  | flat => exact ⟨.flat, rfl⟩
  | construct => exact ⟨.construct, rfl⟩
  | manifest => exact absurd rfl hb

/-- Only one backend writes the flat dialect. -/
theorem eq_flat_of_dialect? {b : Backend} (h : b.dialect? = some .flat) : b = .flat := by
  cases b with
  | flat => rfl
  | construct => cases h
  | manifest => cases h

/-- Of the backends for code, only flat code has databases and caches. -/
theorem eq_flat_of_mem_kinds {b : Backend} {d : Code.Dialect} {k : ResourceKind}
    (hd : b.dialect? = some d) (hflat : k ∉ construct.kinds) (hk : k ∈ b.kinds) : b = .flat := by
  cases b with
  | flat => rfl
  | construct => exact absurd hk hflat
  | manifest => cases hd

/-- A backend of scripts that is not for stacks writes the flat dialect. -/
theorem dialect_eq_flat {b : Backend} {d : Code.Dialect} (hd : b.dialect? = some d)
    (hb : b ≠ .construct) : d = .flat := by
  cases b with
  | flat => cases hd; rfl
  | construct => exact absurd rfl hb
  | manifest => cases hd

/-- A backend of scripts has a generator for load balancers. -/
theorem mem_balancerDefinition {b : Backend} {d : Code.Dialect} (hd : b.dialect? = some d) :
    b.balancerDefinition d ∈ b.definitions := by
  cases b with
  | flat => cases hd; simp [definitions, flatDefinitions]
  | construct => cases hd; simp [definitions, constructDefinitions]
  | manifest => cases hd

/-- A node with the tag of a generator of scripts becomes the script of its settings. -/
theorem generate_ofScript {b : Backend} {α : Type} {id : String} {settings : SettingsKind α}
    {make : Resource → α → Code.Script} (hg : Definition.ofScript id settings make ∈ b.definitions)
    {r : Resource} (htag : r.typeTag = id) (hkind : r.config.kind = settings.kind) :
    ∃ c, Registry.builtin.generate r = .ok (.script (make r c)) := by
  obtain ⟨c, hc⟩ := Definition.exists_select?_of_kind settings hkind
  refine ⟨c, ?_⟩
  rw [Registry.generate_of_mem (Registry.mem_definitions_builtin hg) htag]
  exact Definition.generate_of hc

/-- A node with the tag of a generator of manifests becomes the manifest of its settings. -/
theorem generate_ofManifest {b : Backend} {α : Type} {id : String} {settings : SettingsKind α}
    {make : α → Json} (hg : Definition.ofManifest id settings make ∈ b.definitions)
    {r : Resource} (htag : r.typeTag = id) {c : α} (hc : settings.select? r.config = some c) :
    Registry.builtin.generate r = .ok (.manifest (make c)) := by
  rw [Registry.generate_of_mem (Registry.mem_definitions_builtin hg) htag]
  exact Definition.generate_of hc

/-- A backend of scripts has the generators that all of them share. -/
theorem mem_definitions_of_mem_sharedDefinitions {b : Backend} {d : Code.Dialect}
    (hd : b.dialect? = some d) {g : Definition} (hg : g ∈ b.sharedDefinitions d) :
    g ∈ b.definitions := by
  cases b with
  | flat => cases hd; exact List.mem_append_left _ hg
  | construct => cases hd; exact List.mem_append_left _ hg
  | manifest => cases hd

/-- A backend of scripts has a generator for containers. -/
theorem mem_containerDefinition {b : Backend} {d : Code.Dialect} (hd : b.dialect? = some d) :
    .ofScript (b.typeTag .container) .container (Code.container d) ∈ b.definitions := by
  cases b with
  | flat => cases hd; simp [definitions, flatDefinitions]
  | construct => cases hd; simp [definitions, constructDefinitions]
  | manifest => cases hd

/-- A backend of scripts has a generator for functions. -/
theorem mem_functionDefinition {b : Backend} {d : Code.Dialect} (hd : b.dialect? = some d) :
    .ofScript (b.typeTag .function) .function (Code.function d) ∈ b.definitions := by
  cases b with
  | flat => cases hd; simp [definitions, flatDefinitions]
  | construct => cases hd; simp [definitions, constructDefinitions]
  | manifest => cases hd

/-- The generator of load balancers accepts those with routes, none of which is stranded. -/
theorem generate_balancerDefinition {b : Backend} {d : Code.Dialect} {r : Resource}
    {c : LoadBalancerConfig} (hc : r.config = .loadBalancer c) {first : RouteTarget}
    {rest : List RouteTarget} (hroutes : c.routes = first :: rest)
    (hstranded : Code.strandedRoute? d c = none) :
    (b.balancerDefinition d).generate r =
      .ok (.script ⟨d, Code.balancerStatements d r c first⟩) := by
  rw [balancerDefinition,
    Definition.generate_of (SettingsKind.select?_loadBalancer_eq_some_iff.2 hc)]
  simp only [Code.loadBalancer, hroutes, hstranded]
  rfl

/-- Settings that the generators of a backend can express: a load balancer has routes, and code in
the backend's dialect can lead all of them somewhere. -/
def Accepts (b : Backend) (config : ResourceConfig) : Prop :=
  ∀ c, config = .loadBalancer c →
    c.routes ≠ [] ∧ ∀ d, b.dialect? = some d → Code.strandedRoute? d c = none

/-- Only the settings of load balancers are ever refused. -/
theorem accepts_of_kind_ne {b : Backend} {config : ResourceConfig}
    (h : config.kind ≠ .loadBalancer) : b.Accepts config := by
  rintro c rfl
  exact absurd rfl h

/-- The registry has a generator for every node of a kind that the backend knows, and it makes
something of all settings that can be expressed. -/
theorem exists_generate {b : Backend} {k : ResourceKind} {r : Resource} (hk : k ∈ b.kinds)
    (htag : r.typeTag = b.typeTag k) (hconfig : r.config.kind = k.configKind)
    (haccepts : b.Accepts r.config) :
    ∃ g, Registry.builtin.get? r.typeTag = some g ∧ r.config.kind = g.kind ∧
      ∃ a, g.generate r = .ok a := by
  by_cases hkind : k.configKind = .loadBalancer
  · obtain rfl := ResourceKind.eq_loadBalancer_of_configKind hkind
    obtain ⟨c, hc⟩ := ResourceConfig.exists_loadBalancer hconfig
    have hb : b ≠ .manifest := by
      rintro rfl
      simp [kinds] at hk
    obtain ⟨d, hd⟩ := exists_dialect hb
    obtain ⟨hroutes, hstranded⟩ := haccepts c hc
    obtain ⟨first, rest, hcons⟩ := List.exists_cons_of_ne_nil hroutes
    have hid : r.typeTag = (b.balancerDefinition d).id := htag
    refine ⟨b.balancerDefinition d, ?_, hconfig, _,
      generate_balancerDefinition hc hcons (hstranded d hd)⟩
    rw [hid]
    exact Registry.get?_of_mem (Registry.mem_definitions_builtin (mem_balancerDefinition hd))
  · obtain ⟨g, hg, hid, hgkind⟩ := exists_definition hk
    have hsame : r.config.kind = g.kind := hconfig.trans hgkind.symm
    refine ⟨g, ?_, hsame, ?_⟩
    · rw [htag, ← hid]
      exact Registry.get?_of_mem (Registry.mem_definitions_builtin hg)
    · exact generate_total b g hg (hgkind ▸ hkind) r hsame

end Backend

end Groundwork
