import Groundwork.Proofs.Code.Exports
import Groundwork.Proofs.Registry.Scripts

/-!
# What the built-in registry makes of a node

A node can carry any type tag with any settings.  The registry answers for a tag that it does not
know, for settings of another kind than the tag is for, and for a load balancer that cannot be
expressed; of every other node it makes an artifact.  Routes that lead to the same name are written
once, so it is the first of them that decides whether flat code can express a load balancer.

Main definition:

- `Backend.Refuses`: settings that a backend has no artifact for.

Main results:

- `Code.mem_firstRoutes_iff`: the routes that are written.
- `Backend.generate_cases`: the answer to a node with a known tag, case by case.
- `Backend.outputs_of_generate`: the outputs of an artifact, and where flat code exports them.
- `Registry.generate_exact`: the answer to any node.
-/

namespace Groundwork

open Code (Dialect Script)

/-! ## Routes that are written -/

/-- A route is kept if it is the first to lead to its name, and the name was not there before. -/
theorem Code.mem_firstRoutes_iff {seen : List String} {routes : List RouteTarget}
    {t : RouteTarget} :
    t ∈ firstRoutes seen routes ↔
      t.backend ∉ seen ∧ ∃ before after, routes = before ++ t :: after ∧
        t.backend ∉ before.map (·.backend) := by
  induction routes generalizing seen with
  | nil => simp [firstRoutes]
  | cons route rest ih =>
    rw [firstRoutes]
    by_cases hseen : route.backend ∈ seen
    · rw [if_pos hseen, ih]
      constructor
      · rintro ⟨hnew, before, after, rfl, hfirst⟩
        have hother : t.backend ≠ route.backend := fun heq => hnew (heq ▸ hseen)
        exact ⟨hnew, route :: before, after, rfl, by simpa [hother] using hfirst⟩
      · rintro ⟨hnew, before, after, heq, hfirst⟩
        cases before with
        | nil =>
          obtain ⟨rfl, rfl⟩ := List.cons.inj heq
          exact absurd hseen hnew
        | cons other more =>
          obtain ⟨rfl, rfl⟩ := List.cons.inj heq
          rw [List.map_cons, List.mem_cons, not_or] at hfirst
          exact ⟨hnew, more, after, rfl, hfirst.2⟩
    · rw [if_neg hseen, List.mem_cons, ih]
      constructor
      · rintro (rfl | ⟨hnew, before, after, rfl, hfirst⟩)
        · exact ⟨hseen, [], rest, rfl, by simp⟩
        · rw [List.mem_cons, not_or] at hnew
          exact ⟨hnew.2, route :: before, after, rfl, by simpa [hnew.1] using hfirst⟩
      · rintro ⟨hnew, before, after, heq, hfirst⟩
        cases before with
        | nil =>
          obtain ⟨rfl, rfl⟩ := List.cons.inj heq
          exact Or.inl rfl
        | cons other more =>
          obtain ⟨rfl, rfl⟩ := List.cons.inj heq
          rw [List.map_cons, List.mem_cons, not_or] at hfirst
          exact Or.inr ⟨fun hmem => (List.mem_cons.1 hmem).elim hfirst.1 hnew, more, after, rfl,
            hfirst.2⟩

/-- Some name is first led to as that of a frontend. -/
def LoadBalancerConfig.LeadsToUi (c : LoadBalancerConfig) : Prop :=
  ∃ before t after, c.routes = before ++ t :: after ∧
    t.backend ∉ before.map (·.backend) ∧ t.backendKind = .ui

/-- Outside a stack a load balancer has somewhere to go for each route unless one leads to a user
interface. -/
theorem Code.strandedRoute?_flat_eq_none_iff {c : LoadBalancerConfig} :
    strandedRoute? .flat c = none ↔ ¬ c.LeadsToUi := by
  rw [strandedRoute?, List.find?_eq_none]
  constructor
  · rintro h ⟨before, t, after, hroutes, hfirst, hui⟩
    have hmem : t ∈ firstRoutes [] c.routes :=
      mem_firstRoutes_iff.2 ⟨by simp, before, after, hroutes, hfirst⟩
    exact h t hmem (decide_eq_true hui)
  · intro h t ht hui
    obtain ⟨-, before, after, hroutes, hfirst⟩ := mem_firstRoutes_iff.1 ht
    exact h ⟨before, t, after, hroutes, hfirst, of_decide_eq_true hui⟩

/-! ## Settings that are refused -/

/-- Settings that a backend has no artifact for: a load balancer without routes, and in flat code
one that leads to a frontend. -/
def Backend.Refuses (b : Backend) (config : ResourceConfig) : Prop :=
  ∃ c, config = .loadBalancer c ∧ (c.routes = [] ∨ b = .flat ∧ c.LeadsToUi)

/-- A load balancer is refused for what its routes are, and the reason is given. -/
theorem Code.exists_loadBalancer_error {d : Dialect} {r : Resource} {c : LoadBalancerConfig}
    (h : c.routes = [] ∨ strandedRoute? d c ≠ none) :
    ∃ reason, loadBalancer d r c = .error reason := by
  unfold loadBalancer
  split
  · exact ⟨_, rfl⟩
  · exact ⟨_, rfl⟩
  · rename_i hroutes hstranded
    rcases h with hempty | hsome
    · rw [hempty] at hroutes
      cases hroutes
    · exact absurd hstranded hsome

namespace Backend

variable {b : Backend} {k : ResourceKind} {r : Resource}

/-- What is not refused is accepted. -/
theorem accepts_of_not_refuses (h : ¬ b.Refuses r.config) : b.Accepts r.config := by
  intro c hc
  refine ⟨fun hroutes => h ⟨c, hc, Or.inl hroutes⟩, fun d hd => ?_⟩
  cases d with
  | construct => rfl
  | flat =>
    rw [Code.strandedRoute?_flat_eq_none_iff]
    exact fun hui => h ⟨c, hc, Or.inr ⟨eq_flat_of_dialect? hd, hui⟩⟩

/-- Only backends for code have load balancers. -/
theorem exists_dialect_of_loadBalancer (h : ResourceKind.loadBalancer ∈ b.kinds) :
    ∃ d, b.dialect? = some d := by
  refine exists_dialect ?_
  rintro rfl
  exact absurd h (by decide)

end Backend

namespace Definition

/-- A generator that reports settings of another kind. -/
def Checks (g : Definition) : Prop :=
  ∀ r : Resource, r.config.kind ≠ g.kind →
    g.generate r = .error (.configMismatch r.id r.typeTag g.kind.tag r.config.kind.tag)

/-- A generator checks the kind of the settings before it makes anything. -/
@[simp]
theorem checks_of {α : Type} (id : String) (settings : SettingsKind α)
    (make : Resource → α → Except String Artifact) : (of id settings make).Checks :=
  fun r h => (generate_of_eq_configMismatch_iff id settings make r).2 h

/-- So does one that writes a script. -/
@[simp]
theorem checks_ofScript {α : Type} (id : String) (settings : SettingsKind α)
    (make : Resource → α → Script) : (ofScript id settings make).Checks :=
  checks_of id settings _

/-- So does one that writes a manifest. -/
@[simp]
theorem checks_ofManifest {α : Type} (id : String) (settings : SettingsKind α)
    (make : α → Json) : (ofManifest id settings make).Checks :=
  checks_of id settings _

/-- A generator whose artifacts bind nothing for other nodes. -/
def Silent (g : Definition) : Prop :=
  ∀ r a, g.generate r = .ok a → a.outputs = []

/-- A generator of manifests gives out nothing. -/
@[simp]
theorem silent_ofManifest {α : Type} (id : String) (settings : SettingsKind α)
    (make : α → Json) : (ofManifest id settings make).Silent := by
  intro r a ha
  cases hc : settings.select? r.config with
  | none =>
    simp only [ofManifest, of, hc] at ha
    cases ha
  | some c =>
    rw [ofManifest, generate_of hc] at ha
    cases ha
    rfl

end Definition

namespace Backend

variable {b : Backend} {k : ResourceKind} {r : Resource}

/-- Every generator checks the kind of the settings. -/
theorem generate_checks (b : Backend) : ∀ g ∈ b.definitions, g.Checks := by
  cases b with
  | flat => simp [definitions, flatDefinitions, sharedDefinitions, balancerDefinition]
  | construct => simp [definitions, constructDefinitions, sharedDefinitions, balancerDefinition]
  | manifest => simp [definitions, manifestDefinitions]

/-- No manifest gives out anything. -/
theorem silent_manifestDefinitions : ∀ g ∈ manifest.definitions, g.Silent := by
  simp [definitions, manifestDefinitions]

/-- A node with a tag of a backend is given to a generator of the backend, for settings of the kind
of the tag. -/
theorem exists_generate_eq (hk : k ∈ b.kinds) (htag : r.typeTag = b.typeTag k) :
    ∃ g ∈ b.definitions, g.kind = k.configKind ∧
      Registry.builtin.generate r = g.generate r := by
  obtain ⟨g, hg, hid, hkind⟩ := exists_definition hk
  exact ⟨g, hg, hkind,
    Registry.generate_of_mem (Registry.mem_definitions_builtin hg) (htag.trans hid.symm)⟩

/-- A load balancer that is refused is reported with a reason. -/
theorem exists_render_error (hk : k ∈ b.kinds) (htag : r.typeTag = b.typeTag k)
    (hkind : r.config.kind = k.configKind) (hrefuses : b.Refuses r.config) :
    ∃ reason, Registry.builtin.generate r = .error (.render r.id reason) := by
  obtain ⟨c, hc, hroutes⟩ := hrefuses
  rw [hc] at hkind
  obtain rfl := ResourceKind.eq_loadBalancer_of_configKind hkind.symm
  obtain ⟨d, hd⟩ := exists_dialect_of_loadBalancer hk
  have hstranded : c.routes = [] ∨ Code.strandedRoute? d c ≠ none := by
    refine hroutes.imp_right ?_
    rintro ⟨rfl, hui⟩
    cases hd
    exact fun hnone => Code.strandedRoute?_flat_eq_none_iff.1 hnone hui
  obtain ⟨reason, hreason⟩ := Code.exists_loadBalancer_error (r := r) hstranded
  have hgenerator := Registry.mem_definitions_builtin (mem_balancerDefinition hd)
  refine ⟨reason, ?_⟩
  rw [Registry.generate_of_mem hgenerator htag, balancerDefinition,
    Definition.generate_of (SettingsKind.select?_loadBalancer_eq_some_iff.2 hc), hreason]
  rfl

/-- A node with a known tag has settings of another kind, or is refused, or becomes an artifact. -/
theorem generate_cases (hk : k ∈ b.kinds) (htag : r.typeTag = b.typeTag k) :
    (r.config.kind ≠ k.configKind ∧ Registry.builtin.generate r =
      .error (.configMismatch r.id r.typeTag k.configKind.tag r.config.kind.tag)) ∨
    (r.config.kind = k.configKind ∧ b.Refuses r.config ∧
      ∃ reason, Registry.builtin.generate r = .error (.render r.id reason)) ∨
    (r.config.kind = k.configKind ∧ ¬ b.Refuses r.config ∧
      ∃ a, Registry.builtin.generate r = .ok a) := by
  by_cases hkind : r.config.kind = k.configKind
  · by_cases hrefuses : b.Refuses r.config
    · exact Or.inr (Or.inl ⟨hkind, hrefuses, exists_render_error hk htag hkind hrefuses⟩)
    · obtain ⟨g, hget, -, a, ha⟩ :=
        exists_generate hk htag hkind (accepts_of_not_refuses hrefuses)
      refine Or.inr (Or.inr ⟨hkind, hrefuses, a, ?_⟩)
      rw [Registry.generate, hget]
      exact ha
  · obtain ⟨g, hg, hgkind, hgenerate⟩ := exists_generate_eq hk htag
    refine Or.inl ⟨hkind, ?_⟩
    rw [hgenerate, ← hgkind]
    exact generate_checks b g hg r (hgkind ▸ hkind)

/-- A tag of the backend fails with a mismatch exactly for settings of another kind, and the error
names both. -/
theorem generate_eq_configMismatch_iff (hk : k ∈ b.kinds) (htag : r.typeTag = b.typeTag k)
    {id tag expected found : String} :
    Registry.builtin.generate r = .error (.configMismatch id tag expected found) ↔
      (id = r.id ∧ tag = r.typeTag ∧ expected = k.configKind.tag ∧
        found = r.config.kind.tag) ∧ r.config.kind ≠ k.configKind := by
  rcases generate_cases hk htag with ⟨hother, h⟩ | ⟨hkind, -, reason, h⟩ | ⟨hkind, -, a, h⟩
  · rw [h]
    constructor
    · intro heq
      cases heq
      exact ⟨⟨rfl, rfl, rfl, rfl⟩, hother⟩
    · rintro ⟨⟨rfl, rfl, rfl, rfl⟩, -⟩
      rfl
  · simp [h, hkind]
  · simp [h, hkind]

/-- It fails while it writes exactly for settings of the kind that the backend refuses. -/
theorem exists_render_error_iff (hk : k ∈ b.kinds) (htag : r.typeTag = b.typeTag k) :
    (∃ reason, Registry.builtin.generate r = .error (.render r.id reason)) ↔
      r.config.kind = k.configKind ∧ b.Refuses r.config := by
  rcases generate_cases hk htag with ⟨hother, h⟩ | ⟨hkind, hrefuses, h⟩ | ⟨-, hrefuses, a, h⟩
  · simp [h, hother]
  · exact iff_of_true h ⟨hkind, hrefuses⟩
  · simp [h, hrefuses]

/-- It makes something exactly for the other settings of the kind. -/
theorem exists_artifact_iff (hk : k ∈ b.kinds) (htag : r.typeTag = b.typeTag k) :
    (∃ a, Registry.builtin.generate r = .ok a) ↔
      r.config.kind = k.configKind ∧ ¬ b.Refuses r.config := by
  rcases generate_cases hk htag with ⟨hother, h⟩ | ⟨-, hrefuses, reason, h⟩ | ⟨hkind, hrefuses, h⟩
  · simp [h, hother]
  · simp [h, hrefuses]
  · exact iff_of_true h ⟨hkind, hrefuses⟩

/-- The outputs of an artifact are fields of the node, and flat code exports each of them on one
line, in order. -/
theorem outputs_of_generate (hk : k ∈ b.kinds) (htag : r.typeTag = b.typeTag k) {a : Artifact}
    (ha : Registry.builtin.generate r = .ok a) :
    (∀ name ∈ a.outputs, ∃ field, name = outputVariable r.name field) ∧
      (b = .flat → a.outputs.Nodup ∧ Code.exportedNames a.code.toList = a.outputs) := by
  obtain ⟨g, hg, -, hgenerate⟩ := exists_generate_eq hk htag
  rw [hgenerate] at ha
  by_cases hb : b = .manifest
  · subst hb
    rw [silent_manifestDefinitions g hg r a ha]
    exact ⟨by simp, fun h => by cases h⟩
  · obtain ⟨d, hd⟩ := exists_dialect hb
    obtain ⟨s, rfl, hdialect, hbinds⟩ := binds_of_mem hd g hg r a ha
    have houtputs : s.outputs = (r.config.outputFields d).map (outputVariable r.name) :=
      hbinds.outputs_eq.trans (r.config.filterMap_bindings d r.name)
    constructor
    · intro name hname
      rw [Artifact.outputs, houtputs] at hname
      obtain ⟨field, -, rfl⟩ := List.mem_map.1 hname
      exact ⟨field, rfl⟩
    · rintro rfl
      cases hd
      refine ⟨?_, Code.Script.exportedNames_code hdialect hbinds.fits
        (hbinds.isIdentifier ResourceConfig.ending_mem_all)⟩
      rw [Artifact.outputs, houtputs]
      exact r.config.nodup_outputs .flat r.name

end Backend

namespace Registry

/-- The tags that the registry knows are those of the kinds of every backend. -/
theorem mem_types_builtin_iff {tag : String} :
    tag ∈ builtin.types ↔ ∃ b : Backend, ∃ k ∈ b.kinds, tag = b.typeTag k := by
  have hall : ∀ b : Backend, b ∈ [Backend.flat, .construct, .manifest] := by
    intro b
    cases b <;> decide
  rw [types_builtin, definitions_builtin, List.map_flatMap]
  simp only [Backend.map_id_definitions, List.mem_flatMap, List.mem_map, hall, true_and,
    eq_comm (a := tag)]

/-- A tag that is not registered is unknown. -/
theorem generate_of_not_mem {r : Resource} (h : r.typeTag ∉ builtin.types) :
    builtin.generate r = .error (.unknownType r.id r.typeTag) := by
  have hnone : builtin.get? r.typeTag = none := OrderedMap.get?_eq_none_iff.2 h
  rw [generate, hnone]

/-- A tag of a backend is not unknown. -/
theorem generate_ne_unknownType {b : Backend} {k : ResourceKind} {r : Resource}
    (hk : k ∈ b.kinds) (htag : r.typeTag = b.typeTag k) (id tag : String) :
    builtin.generate r ≠ .error (.unknownType id tag) := by
  rcases Backend.generate_cases hk htag with ⟨-, h⟩ | ⟨-, -, reason, h⟩ | ⟨-, -, a, h⟩
  all_goals
    rw [h]
    intro heq
    cases heq

/-- The answer of the built-in registry to a node.  The tag is unknown exactly if no generator is
registered under it.  For a tag of a kind of some backend, a mismatch is reported exactly if the
settings are of another kind than the tag is for, a reason is given exactly if the backend refuses
the settings, and all else becomes an artifact.  Its outputs are named after fields of the node, and
in flat code each is exported by one line of the text, in order. -/
theorem generate_exact (r : Resource) :
    (∀ id tag, builtin.generate r = .error (.unknownType id tag) ↔
      (id = r.id ∧ tag = r.typeTag) ∧ r.typeTag ∉ builtin.types) ∧
    (r.typeTag ∈ builtin.types ↔ ∃ b : Backend, ∃ k ∈ b.kinds, r.typeTag = b.typeTag k) ∧
    ∀ b : Backend, ∀ k ∈ b.kinds, r.typeTag = b.typeTag k →
      (∀ id tag expected found,
        builtin.generate r = .error (.configMismatch id tag expected found) ↔
          (id = r.id ∧ tag = r.typeTag ∧ expected = k.configKind.tag ∧
            found = r.config.kind.tag) ∧ r.config.kind ≠ k.configKind) ∧
      ((∃ reason, builtin.generate r = .error (.render r.id reason)) ↔
        r.config.kind = k.configKind ∧ b.Refuses r.config) ∧
      ((∃ a, builtin.generate r = .ok a) ↔
        r.config.kind = k.configKind ∧ ¬ b.Refuses r.config) ∧
      ∀ a, builtin.generate r = .ok a →
        (∀ name ∈ a.outputs, ∃ field, name = outputVariable r.name field) ∧
          (b = .flat → a.outputs.Nodup ∧ Code.exportedNames a.code.toList = a.outputs) := by
  refine ⟨fun id tag => ⟨fun h => ?_, ?_⟩, mem_types_builtin_iff, fun b k hk htag => ?_⟩
  · by_cases hmem : r.typeTag ∈ builtin.types
    · obtain ⟨b, k, hk, htag⟩ := mem_types_builtin_iff.1 hmem
      exact absurd h (generate_ne_unknownType hk htag id tag)
    · rw [generate_of_not_mem hmem] at h
      cases h
      exact ⟨⟨rfl, rfl⟩, hmem⟩
  · rintro ⟨⟨rfl, rfl⟩, hmem⟩
    exact generate_of_not_mem hmem
  · exact ⟨fun _ _ _ _ => Backend.generate_eq_configMismatch_iff hk htag,
      Backend.exists_render_error_iff hk htag, Backend.exists_artifact_iff hk htag,
      fun _ => Backend.outputs_of_generate hk htag⟩

/-- A node of the attic with some tag and settings. -/
def atticNode (typeTag : String) (config : ResourceConfig) : Resource :=
  ⟨"attic", typeTag, "attic", config, [], none⟩

/-- A load balancer of the attic with some routes. -/
def atticBalancer (routes : List RouteTarget) : Resource :=
  atticNode "gcp:load_balancer" (.loadBalancer ⟨"attic", "us-central1", false, none, routes, none⟩)

/-- In the attic an unknown tag, a bucket with the settings of a secret, and a load balancer that
leads to a frontend are reported.  One that leads to a container first under the same name is not,
nor is a secret, whose outputs are exported. -/
theorem generate_exact_attic :
    builtin.generate (atticNode "gcp:attic" (.secret ⟨"attic", none, none⟩)) =
      .error (.unknownType "attic" "gcp:attic") ∧
    builtin.generate (atticNode "gcp:storage_bucket" (.secret ⟨"attic", none, none⟩)) =
      .error (.configMismatch "attic" "gcp:storage_bucket" "bucket" "secret") ∧
    (∃ reason, builtin.generate (atticBalancer [⟨"/", "web", .ui⟩]) =
      .error (.render "attic" reason)) ∧
    (∃ a, builtin.generate (atticBalancer [⟨"/", "web", .container⟩, ⟨"/new", "web", .ui⟩]) =
      .ok a) ∧
    ∃ a, builtin.generate (atticNode "gcp:secret" (.secret ⟨"attic", none, none⟩)) = .ok a ∧
      Code.exportedNames a.code.toList = a.outputs := by
  refine ⟨?_, ?_, ?_, ?_, ?_⟩
  · refine ((generate_exact _).1 _ _).2 ⟨⟨rfl, rfl⟩, ?_⟩
    rw [mem_types_builtin_iff]
    rintro ⟨b, k, hk, htag⟩
    revert k
    cases b <;> decide
  · obtain ⟨hmismatch, -⟩ := (generate_exact (atticNode "gcp:storage_bucket"
      (.secret ⟨"attic", none, none⟩))).2.2 .flat .bucket (by decide) rfl
    exact (hmismatch _ _ _ _).2 ⟨⟨rfl, rfl, rfl, rfl⟩, by decide⟩
  · obtain ⟨-, hrender, -⟩ :=
      (generate_exact (atticBalancer [⟨"/", "web", .ui⟩])).2.2 .flat .loadBalancer (by decide) rfl
    exact hrender.2 ⟨rfl, _, rfl, Or.inr ⟨rfl, [], _, [], rfl, by simp, rfl⟩⟩
  · obtain ⟨-, -, hok, -⟩ :=
      (generate_exact (atticBalancer [⟨"/", "web", .container⟩, ⟨"/new", "web", .ui⟩])).2.2 .flat
        .loadBalancer (by decide) rfl
    refine hok.2 ⟨rfl, ?_⟩
    rintro ⟨c, hc, hroutes | ⟨-, hui⟩⟩
    · cases hc
      cases hroutes
    · cases hc
      exact Code.strandedRoute?_flat_eq_none_iff.1 rfl hui
  · obtain ⟨-, -, hok, houtputs⟩ := (generate_exact (atticNode "gcp:secret"
      (.secret ⟨"attic", none, none⟩))).2.2 .flat .secret (by decide) rfl
    have hrefuses : ¬ Backend.flat.Refuses (.secret ⟨"attic", none, none⟩) := by
      rintro ⟨c, hc, -⟩
      cases hc
    obtain ⟨a, ha⟩ := hok.2 ⟨rfl, hrefuses⟩
    exact ⟨a, ha, ((houtputs a ha).2 rfl).2⟩

end Registry

end Groundwork
