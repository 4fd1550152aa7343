import Groundwork.Proofs.Code.Constructs
import Groundwork.Proofs.Registry.Builtin
import Groundwork.Proofs.Resolution.Steps

/-!
# The scripts of the built-in generators

Every generator of a backend for code makes scripts in the dialect of the backend.  What is known of
the statements that each of them writes for given settings is known of whatever the backend
generates; so what a script binds, and which constructs it makes, can be read off the node.

Main results:

- `Definition.writes_of`: from the code to the generator.
- `Backend.writes_flatDefinitions`, `Backend.writes_constructDefinitions`: from each generator to
  all of them.
- `Backend.binds_of_mem`: the generators of a backend bind what the settings of nodes demand.
- `Backend.makes_of_mem`: the generators of constructs make what the settings of nodes demand.
-/

namespace Groundwork

open Code (Dialect Script Statement)

namespace Definition

variable {d : Dialect} {P : Resource → ResourceConfig → List Statement → Prop}

/-- A generator of scripts whose statements suit the node and its settings. -/
def Writes (d : Dialect) (P : Resource → ResourceConfig → List Statement → Prop)
    (g : Definition) : Prop :=
  ∀ r a, g.generate r = .ok a → ∃ s : Script, a = .script s ∧ s.dialect = d ∧
    P r r.config s.statements

/-- A generator of scripts that bind the names which the settings of the node demand. -/
def Binds (d : Dialect) (g : Definition) : Prop :=
  g.Writes d fun r config statements => Code.Binds d statements (config.bindings d r.name)

/-- A generator of scripts that make the constructs which the settings of the node demand. -/
def Makes (g : Definition) : Prop :=
  g.Writes .construct fun r config statements =>
    Code.Makes r statements (config.labels r.id) config.boundFields

/-- The settings that a kind of settings selects are those of the node. -/
def Injects {α : Type} (settings : SettingsKind α) (inject : α → ResourceConfig) : Prop :=
  ∀ config c, settings.select? config = some c → config = inject c

/-- A generator writes statements of some shape if what it makes from its settings has that
shape. -/
theorem writes_of {α : Type} {id : String} {settings : SettingsKind α}
    {make : Resource → α → Except String Artifact} {inject : α → ResourceConfig}
    (hinject : Injects settings inject)
    (h : ∀ r c a, make r c = .ok a → ∃ s : Script, a = .script s ∧ s.dialect = d ∧
      P r (inject c) s.statements) :
    (of id settings make).Writes d P := by
  intro r a ha
  cases hc : settings.select? r.config with
  | none =>
    simp only [of, hc] at ha
    cases ha
  | some c =>
    rw [generate_of hc, mapError_eq_ok_iff] at ha
    rw [hinject r.config c hc]
    exact h r c a ha

/-- The same of a generator that cannot fail. -/
theorem writes_ofScript {α : Type} {id : String} {settings : SettingsKind α}
    {make : Resource → α → Script} {inject : α → ResourceConfig}
    (hinject : Injects settings inject) (hdialect : ∀ r c, (make r c).dialect = d)
    (h : ∀ r c, P r (inject c) (make r c).statements) :
    (ofScript id settings make).Writes d P := by
  refine writes_of hinject fun r c a ha => ?_
  cases ha
  exact ⟨make r c, rfl, hdialect r c, h r c⟩

end Definition

namespace Backend

open Definition (writes_of writes_ofScript)

variable {d : Dialect} {P : Resource → ResourceConfig → List Statement → Prop}

/-- What has to be known of the statements that code in both dialects has. -/
structure SharedStatements (d : Dialect) (P : Resource → ResourceConfig → List Statement → Prop) :
    Prop where
  serviceAccount : ∀ r c, P r (.serviceAccount c) (Code.serviceAccount d r c).statements
  bucket : ∀ r c, P r (.bucket c) (Code.storageBucket d r c).statements
  secret : ∀ r c, P r (.secret c) (Code.secret d r c).statements
  topic : ∀ r c, P r (.topic c) (Code.pubsubTopic d r c).statements
  queue : ∀ r c, P r (.queue c) (Code.tasksQueue d r c).statements
  network : ∀ r c, P r (.network c) (Code.network d r c).statements
  subnet : ∀ r c, P r (.subnet c) (Code.subnetwork d r c).statements
  firewall : ∀ r c, P r (.firewall c) (Code.firewall d r c).statements
  registry : ∀ r c, P r (.registry c) (Code.artifactRegistry d r c).statements
  container : ∀ r c, P r (.container c) (Code.container d r c).statements
  function : ∀ r c, P r (.function c) (Code.function d r c).statements
  loadBalancer : ∀ r c first, P r (.loadBalancer c) (Code.balancerStatements d r c first)

/-- What has to be known of the statements of flat code. -/
structure FlatStatements (P : Resource → ResourceConfig → List Statement → Prop) : Prop
    extends SharedStatements .flat P where
  database : ∀ r c, P r (.database c) (Code.sqlDatabase r c).statements
  cache : ∀ r c, P r (.cache c) (Code.redisCache r c).statements
  cron : ∀ r c, P r (.cron c) (Code.schedulerJob r c).statements

/-- What has to be known of the statements of constructs. -/
structure ConstructStatements (P : Resource → ResourceConfig → List Statement → Prop) : Prop
    extends SharedStatements .construct P where
  connector : ∀ r c, P r (.connector c) (Code.vpcConnector r c).statements
  kernel : ∀ r c, P r (.kernel c) (Code.kernel r c).statements
  ui : ∀ r c, P r (.ui c) (Code.ui r c).statements

/-- The generator for load balancers writes statements of the shape that they share. -/
theorem writes_balancerDefinition (b : Backend) (h : SharedStatements d P) :
    (b.balancerDefinition d).Writes d P := by
  apply writes_of
  · intro config c h
    cases config <;> cases h
    rfl
  · intro r c a ha
    unfold Code.loadBalancer at ha
    split at ha
    · cases ha
    · cases ha
    · rename_i first _ _ _
      cases ha
      exact ⟨_, rfl, rfl, h.loadBalancer r c first⟩

/-- So do all generators that the backends of scripts share. -/
theorem writes_sharedDefinitions (b : Backend) (h : SharedStatements d P) :
    ∀ g ∈ b.sharedDefinitions d, g.Writes d P := by
  simp only [sharedDefinitions, List.forall_mem_cons]
  refine ⟨writes_ofScript ?_ (fun _ _ => rfl) h.serviceAccount,
    writes_ofScript ?_ (fun _ _ => rfl) h.bucket,
    writes_ofScript ?_ (fun _ _ => rfl) h.secret,
    writes_ofScript ?_ (fun _ _ => rfl) h.topic,
    writes_ofScript ?_ (fun _ _ => rfl) h.queue,
    writes_ofScript ?_ (fun _ _ => rfl) h.network,
    writes_ofScript ?_ (fun _ _ => rfl) h.subnet,
    writes_ofScript ?_ (fun _ _ => rfl) h.firewall,
    writes_ofScript ?_ (fun _ _ => rfl) h.registry, by simp⟩
  all_goals
    intro config c h
    cases config <;> cases h
    rfl

/-- What holds of every generator's statements outside a stack holds of all that is written
there. -/
theorem writes_flatDefinitions (h : FlatStatements P) :
    ∀ g ∈ flat.definitions, g.Writes .flat P := by
  simp only [definitions, flatDefinitions, List.forall_mem_append, List.forall_mem_cons]
  refine ⟨writes_sharedDefinitions flat h.toSharedStatements,
    writes_ofScript ?_ (fun _ _ => rfl) h.container,
    writes_ofScript ?_ (fun _ _ => rfl) h.function,
    writes_ofScript ?_ (fun _ _ => rfl) h.database,
    writes_ofScript ?_ (fun _ _ => rfl) h.cache,
    writes_balancerDefinition flat h.toSharedStatements,
    writes_ofScript ?_ (fun _ _ => rfl) h.cron, by simp⟩
  all_goals
    intro config c h
    cases config <;> cases h
    rfl

/-- What holds of every generator's statements in a stack holds of all that is written there. -/
theorem writes_constructDefinitions (h : ConstructStatements P) :
    ∀ g ∈ construct.definitions, g.Writes .construct P := by
  simp only [definitions, constructDefinitions, List.forall_mem_append, List.forall_mem_cons]
  refine ⟨writes_sharedDefinitions construct h.toSharedStatements,
    writes_ofScript ?_ (fun _ _ => rfl) h.connector,
    writes_ofScript ?_ (fun _ _ => rfl) h.container,
    writes_ofScript ?_ (fun _ _ => rfl) h.function,
    writes_ofScript ?_ (fun _ _ => rfl) h.kernel,
    writes_ofScript ?_ (fun _ _ => rfl) h.kernel,
    writes_ofScript ?_ (fun _ _ => rfl) h.ui,
    writes_balancerDefinition construct h.toSharedStatements, by simp⟩
  all_goals
    intro config c h
    cases config <;> cases h
    rfl

/-! ## What generators bind and make -/

theorem binds_sharedStatements (d : Dialect) :
    SharedStatements d fun r config statements =>
      Code.Binds d statements (config.bindings d r.name) where
  serviceAccount _ := Code.binds_serviceAccount
  bucket _ := Code.binds_storageBucket
  secret _ := Code.binds_secret
  topic _ := Code.binds_pubsubTopic
  queue _ := Code.binds_tasksQueue
  network _ := Code.binds_network
  subnet _ := Code.binds_subnetwork
  firewall _ := Code.binds_firewall
  registry _ := Code.binds_artifactRegistry
  container _ := Code.binds_container
  function _ := Code.binds_function
  loadBalancer _ := Code.binds_balancerStatements

/-- The generators of a backend for code bind what the settings of nodes demand. -/
theorem binds_of_mem {b : Backend} (hd : b.dialect? = some d) :
    ∀ g ∈ b.definitions, g.Binds d := by
  cases b with
  | flat =>
    cases hd
    exact writes_flatDefinitions
      { toSharedStatements := binds_sharedStatements .flat
        database := fun _ => Code.binds_sqlDatabase
        cache := fun _ => Code.binds_redisCache
        cron := fun _ => Code.binds_schedulerJob }
  | construct =>
    cases hd
    exact writes_constructDefinitions
      { toSharedStatements := binds_sharedStatements .construct
        connector := fun _ => Code.binds_vpcConnector
        kernel := fun _ => Code.binds_kernel
        ui := fun _ => Code.binds_ui }
  | manifest => cases hd

/-- The generators of constructs make what the settings of nodes demand. -/
theorem makes_of_mem : ∀ g ∈ construct.definitions, g.Makes :=
  writes_constructDefinitions
    { serviceAccount := fun _ => Code.makes_serviceAccount
      bucket := fun _ => Code.makes_storageBucket
      secret := fun _ => Code.makes_secret
      topic := fun _ => Code.makes_pubsubTopic
      queue := fun _ => Code.makes_tasksQueue
      network := fun _ => Code.makes_network
      subnet := fun _ => Code.makes_subnetwork
      firewall := fun _ => Code.makes_firewall
      registry := fun _ => Code.makes_artifactRegistry
      container := fun _ => Code.makes_container
      function := fun _ => Code.makes_function
      loadBalancer := fun _ => Code.makes_balancerStatements
      connector := fun _ => Code.makes_vpcConnector
      kernel := fun _ => Code.makes_kernel
      ui := fun _ => Code.makes_ui }

end Backend

end Groundwork
