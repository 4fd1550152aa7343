import Groundwork.Proofs.Registry.Scripts
import Groundwork.Proofs.Report.Complete
import Groundwork.Proofs.Resolution.Names
import Mathlib.Data.List.Flatten
import Mathlib.Data.List.Perm.Subperm

/-!
# The names of a generated program

All blocks of a program stand in one scope, so no name should be bound in two of them.  What the
text of a program binds is what its nodes are to bind, and names that are made in different ways
are never the same; so a name is bound twice only where two nodes have names that become one
identifier and kinds with an ending in common, or where load balancers lead to two workloads whose
names become one identifier.

Main definitions:

- `Report.boundNames`: the names that the text of a program binds.
- `Plan.NamesApart`: what keeps the names of a plan apart.

Main results:

- `Description.Compiles.boundNames_generateAll`: the text binds what the nodes are to bind.
- `Plan.nodup_boundNames_iff`: no name is bound twice exactly if names are kept apart.
-/

namespace Groundwork

open Code (Dialect Script)

/-! ## Names that are kept apart -/

/-- What is made in a one-to-one way of an owner and something of its own is distinct exactly if no
two with the same owner have anything in common. -/
theorem nodup_flatMap_map_iff {α β γ δ : Type} {mk : α → β → δ} (hmk : Function.Injective2 mk)
    {l : List γ} {owned : γ → List β} {owner : γ → α} (h : ∀ x ∈ l, (owned x).Nodup) :
    (l.flatMap fun x => (owned x).map (mk (owner x))).Nodup ↔
      l.Pairwise fun x y => owner x = owner y → ∀ b ∈ owned x, b ∉ owned y := by
  have heach : ∀ x ∈ l, ((owned x).map (mk (owner x))).Nodup :=
    fun x hx => (h x hx).map (hmk.right _)
  rw [List.nodup_flatMap, and_iff_right heach]
  refine List.Pairwise.iff fun x y => ?_
  constructor
  · intro hdisjoint hsame b hx hy
    refine hdisjoint (List.mem_map_of_mem hx) ?_
    rw [hsame]
    exact List.mem_map_of_mem hy
  · intro hapart d hx hy
    obtain ⟨b, hb, rfl⟩ := List.mem_map.1 hx
    obtain ⟨c, hc, heq⟩ := List.mem_map.1 hy
    obtain ⟨hsame, rfl⟩ := hmk heq
    exact hapart hsame.symm _ hb hc

/-- A pair says of what it is made. -/
theorem injective2_mk {α β : Type} : Function.Injective2 (Prod.mk : α → β → α × β) :=
  fun _ _ _ _ h => Prod.mk.inj h

namespace Binding

/-- What tells bound names apart. -/
def key (b : Binding) : String × Ending := (sanitizeIdentifier b.owner, b.ending)

/-- Regular names are distinct exactly if their keys are: a name says what it is the name of. -/
theorem nodup_map_name_iff {bindings : List Binding} (h : ∀ b ∈ bindings, b.Regular) :
    (bindings.map name).Nodup ↔ (bindings.map key).Nodup := by
  rw [List.nodup_iff_pairwise_ne, List.nodup_iff_pairwise_ne, List.pairwise_map, List.pairwise_map]
  refine List.Pairwise.iff_of_mem fun {a b} ha hb => not_congr ?_
  rw [name_eq_iff (h a ha) (h b hb), key, key, Prod.mk.injEq]

end Binding

namespace Plan

variable {d : Dialect} {p : Plan}

/-- The names that the code of all nodes is to bind, in the order of their declaration. -/
def bindings (d : Dialect) (p : Plan) : List Binding :=
  p.resources.flatMap fun r => r.config.bindings d r.name

/-- Nodes whose names become one identifier have no ending in common, and the workloads that load
balancers lead to have names that become different identifiers. -/
structure NamesApart (d : Dialect) (p : Plan) : Prop where
  apart : p.resources.Pairwise fun r s =>
    sanitizeIdentifier r.name = sanitizeIdentifier s.name →
      ∀ e ∈ r.config.endings d, e ∉ s.config.endings d
  routed : ((p.resources.flatMap (·.config.routed)).map sanitizeIdentifier).Nodup

/-- When the names of a plan are apart, with the conditions spelled out node by node. -/
theorem namesApart_iff :
    p.NamesApart d ↔
      (p.resources.Pairwise fun r s =>
        sanitizeIdentifier r.name = sanitizeIdentifier s.name →
          ∀ e ∈ r.config.endings d, e ∉ s.config.endings d) ∧
      ((p.resources.flatMap (·.config.routed)).map sanitizeIdentifier).Nodup :=
  ⟨fun h => ⟨h.apart, h.routed⟩, fun h => ⟨h.1, h.2⟩⟩

instance : Decidable (p.NamesApart d) := decidable_of_iff _ namesApart_iff.symm

/-- What tells the names apart that are bound for workloads behind load balancers. -/
def routeKeys (p : Plan) : List (String × Ending) :=
  ((p.resources.flatMap (·.config.routed)).map sanitizeIdentifier).flatMap fun word =>
    ResourceConfig.routedEndings.map (word, ·)

/-- What tells the names apart that are bound for the nodes themselves. -/
def nodeKeys (d : Dialect) (p : Plan) : List (String × Ending) :=
  p.resources.flatMap fun r => (r.config.endings d).map (sanitizeIdentifier r.name, ·)

/-- The keys of all names: those for workloads behind load balancers and those of the nodes. -/
theorem map_key_bindings_perm :
    ((p.bindings d).map Binding.key).Perm (p.routeKeys ++ p.nodeKeys d) := by
  have hkeys : (p.bindings d).map Binding.key =
      p.resources.flatMap fun r =>
        (r.config.routed.flatMap fun workload =>
            ResourceConfig.routedEndings.map (sanitizeIdentifier workload, ·))
          ++ (r.config.endings d).map (sanitizeIdentifier r.name, ·) := by
    simp only [bindings, ResourceConfig.bindings, List.map_flatMap, List.map_append, List.map_map]
    rfl
  have hroutes : p.routeKeys =
      p.resources.flatMap fun r => r.config.routed.flatMap fun workload =>
        ResourceConfig.routedEndings.map (sanitizeIdentifier workload, ·) := by
    rw [routeKeys, List.flatMap_map, List.flatMap_assoc]
  rw [hkeys, hroutes, nodeKeys]
  exact (List.flatMap_append_perm _ _ _).symm

/-- Routes have endings of their own. -/
theorem disjoint_keys : List.Disjoint p.routeKeys (p.nodeKeys d) := by
  intro key hroute hnode
  obtain ⟨word, -, hroute⟩ := List.mem_flatMap.1 hroute
  obtain ⟨e, he, rfl⟩ := List.mem_map.1 hroute
  obtain ⟨r, -, hnode⟩ := List.mem_flatMap.1 hnode
  obtain ⟨f, hf, heq⟩ := List.mem_map.1 hnode
  rw [← (Prod.mk.inj heq).2] at he
  exact (ResourceConfig.suits_endings d r.config).not_routed f hf he

/-- The keys for workloads are distinct exactly if no two load balancers lead to one identifier. -/
theorem nodup_routeKeys_iff :
    p.routeKeys.Nodup ↔
      ((p.resources.flatMap (·.config.routed)).map sanitizeIdentifier).Nodup := by
  have hendings : ResourceConfig.routedEndings.Nodup := by decide
  refine (nodup_flatMap_map_iff injective2_mk fun _ _ => hendings).trans ?_
  rw [List.nodup_iff_pairwise_ne]
  refine List.Pairwise.iff fun word word' => ?_
  simp [ResourceConfig.routedEndings]

/-- The keys of nodes are distinct exactly if no two nodes with one identifier share an ending. -/
theorem nodup_nodeKeys_iff :
    (p.nodeKeys d).Nodup ↔
      p.resources.Pairwise fun r s => sanitizeIdentifier r.name = sanitizeIdentifier s.name →
        ∀ e ∈ r.config.endings d, e ∉ s.config.endings d :=
  nodup_flatMap_map_iff injective2_mk fun r _ => (ResourceConfig.suits_endings d r.config).nodup

/-- The names that nodes bind are distinct exactly if names are kept apart. -/
theorem nodup_bindings_iff : ((p.bindings d).map Binding.key).Nodup ↔ p.NamesApart d := by
  rw [map_key_bindings_perm.nodup_iff, List.nodup_append', nodup_routeKeys_iff, nodup_nodeKeys_iff]
  constructor
  · rintro ⟨hrouted, hapart, -⟩
    exact ⟨hapart, hrouted⟩
  · intro h
    exact ⟨h.routed, h.apart, disjoint_keys⟩

/-- The ordered resources of a plan are its resources. -/
theorem ordered_perm (hnodup : (p.resources.map (·.id)).Nodup)
    (horder : p.order.Perm (p.resources.map (·.id))) : p.ordered.Perm p.resources := by
  have hids := map_id_ordered horder
  have hordered : p.ordered.Nodup := by
    refine List.Nodup.of_map (·.id) ?_
    rw [hids]
    exact horder.nodup_iff.2 hnodup
  have hsubset : p.ordered ⊆ p.resources := fun r hr => mem_resources_of_mem_ordered hr
  refine (List.subperm_of_subset hordered hsubset).perm_of_length_le ?_
  have hlength := horder.length_eq
  rw [← hids, List.length_map, List.length_map] at hlength
  omega

end Plan

/-! ## What the nodes of a compiled plan bind -/

namespace Description.Compiles

variable {d : Description} {p : Plan} {dialect : Dialect}

/-- The registry makes of a node what one of the generators of the backend does. -/
theorem exists_definition (h : d.Compiles p) {r : Resource} (hr : r ∈ p.resources) :
    ∃ g ∈ d.project.backend.definitions, ∃ a, g.generate r = .ok a ∧
      Registry.builtin.generate r = .ok a := by
  obtain ⟨k, hk, hnode, haccepts⟩ := h.served hr
  obtain ⟨g, hg, hid, -⟩ := Backend.exists_definition hk
  have htag : r.typeTag = g.id := hnode.typeTag_eq.trans hid.symm
  have hgenerate := Registry.generate_of_mem (Registry.mem_definitions_builtin hg) htag
  obtain ⟨g', hget, -, a, ha⟩ :=
    Backend.exists_generate hk hnode.typeTag_eq hnode.kind_eq haccepts
  have hmade : Registry.builtin.generate r = .ok a := by
    rw [Registry.generate, hget]
    exact ha
  exact ⟨g, hg, a, hgenerate.symm.trans hmade, hmade⟩

/-- Every node of a compiled plan for code becomes a script that binds what its settings demand. -/
theorem exists_script (h : d.Compiles p) (hdialect : d.project.backend.dialect? = some dialect)
    {r : Resource} (hr : r ∈ p.resources) :
    ∃ s : Script, Registry.builtin.generate r = .ok (.script s) ∧ s.dialect = dialect ∧
      Code.Binds dialect s.statements (r.config.bindings dialect r.name) := by
  obtain ⟨g, hg, a, ha, hmade⟩ := h.exists_definition hr
  obtain ⟨s, rfl, hs, hbinds⟩ := Backend.binds_of_mem hdialect g hg r a ha
  exact ⟨s, hmade, hs, hbinds⟩

/-- What the nodes of a compiled plan bind is told apart by identifier and ending. -/
theorem regular_bindings (h : d.Compiles p) : ∀ b ∈ p.bindings dialect, b.Regular := by
  intro b hb
  obtain ⟨r, hr, hb⟩ := List.mem_flatMap.1 hb
  refine ⟨ResourceConfig.ending_mem_all b hb, ?_⟩
  rcases ResourceConfig.mem_bindings_iff.1 hb with ⟨workload, -, e, he, rfl⟩ | ⟨e, he, rfl⟩
  · intro hshared
    exact absurd hshared
      ((by decide : ∀ e ∈ ResourceConfig.routedEndings, e ∉ Ending.shared) e he)
  · intro hshared
    have hkind := (ResourceConfig.suits_endings dialect r.config).kind_mem e he hshared
    refine isUpper_sanitizeIdentifier (h.isValidName_of_mem hr ?_)
    exact (by decide : ∀ k ∈ [ConfigKind.bucket, .topic, .queue, .network, .kernel],
      k ∉ [ConfigKind.clusterNamespace, .loadBalancer, .ingress]) _ hkind

end Description.Compiles

/-! ## What programs bind -/

namespace Report

/-- The names that the lines of all blocks bind, in order. -/
def boundNames (r : Report) : List String :=
  r.blocks.flatMap fun b => Code.boundNames b.code.toList

variable {registry : Registry} {nodes : List Resource}

/-- What a report has of a node is what its generator makes. -/
theorem mem_artifacts_iff {r : Resource} {a : Artifact} :
    (r, a) ∈ artifacts registry nodes ↔ r ∈ nodes ∧ registry.generate r = .ok a := by
  rw [artifacts, List.mem_filterMap]
  constructor
  · rintro ⟨s, hs, hmade⟩
    split at hmade
    · rename_i b hb
      cases hmade
      exact ⟨hs, hb⟩
    · cases hmade
  · rintro ⟨hr, ha⟩
    exact ⟨r, hr, by rw [ha]⟩

/-- What is read off the artifacts of nodes all of which become something. -/
theorem flatMap_artifacts {α : Type} {f : Artifact → List α} {g : Resource → List α}
    (h : ∀ r ∈ nodes, ∃ a, registry.generate r = .ok a ∧ f a = g r) :
    (artifacts registry nodes).flatMap (fun made => f made.2) = nodes.flatMap g := by
  induction nodes with
  | nil => rfl
  | cons r rest ih =>
    obtain ⟨a, ha, heq⟩ := h r List.mem_cons_self
    have hrest := ih fun s hs => h s (List.mem_cons_of_mem r hs)
    rw [artifacts, List.filterMap_cons_some (by rw [ha]), List.flatMap_cons, List.flatMap_cons,
      ← artifacts, hrest, heq]

/-- The same, where only what is read counts and not its order. -/
theorem flatMap_artifacts_perm {α : Type} {f : Artifact → List α} {g : Resource → List α}
    (h : ∀ r ∈ nodes, ∃ a, registry.generate r = .ok a ∧ (f a).Perm (g r)) :
    ((artifacts registry nodes).flatMap fun made => f made.2).Perm (nodes.flatMap g) := by
  have hread : ∀ r ∈ nodes, ∃ a, registry.generate r = .ok a ∧
      f a = ((registry.generate r).toOption.map f).getD [] := by
    intro r hr
    obtain ⟨a, ha, -⟩ := h r hr
    refine ⟨a, ha, ?_⟩
    rw [ha]
    rfl
  rw [flatMap_artifacts hread]
  refine List.Perm.flatMap_left _ fun r hr => ?_
  obtain ⟨a, ha, hperm⟩ := h r hr
  rw [ha]
  exact hperm

end Report

namespace Description.Compiles

variable {d : Description} {p : Plan} {dialect : Dialect}

/-- A report binds the names that the code of each node binds, in order. -/
theorem boundNames_generateAll_eq (p : Plan) :
    (p.generateAll .builtin).boundNames =
      (Report.artifacts .builtin p.ordered).flatMap fun made =>
        Code.boundNames made.2.code.toList := by
  simp only [Report.boundNames, Plan.generateAll, List.flatMap_map]

/-- The names that a program binds are those that its nodes are to bind. -/
theorem boundNames_generateAll (h : d.Compiles p)
    (hdialect : d.project.backend.dialect? = some dialect) :
    (p.generateAll .builtin).boundNames =
      p.ordered.flatMap fun r => (r.config.bindings dialect r.name).map Binding.name := by
  rw [boundNames_generateAll_eq]
  refine Report.flatMap_artifacts (f := fun a => Code.boundNames a.code.toList) ?_
  intro r hr
  obtain ⟨s, hs, rfl, hbinds⟩ := h.exists_script hdialect (Plan.mem_resources_of_mem_ordered hr)
  exact ⟨.script s, hs, hbinds.boundNames_code ResourceConfig.ending_mem_all⟩

/-- The outputs of a program are among the names that it binds, in the same order. -/
theorem outputs_sublist_boundNames (h : d.Compiles p)
    (hdialect : d.project.backend.dialect? = some dialect) :
    (p.generateAll .builtin).outputs.Sublist (p.generateAll .builtin).boundNames := by
  rw [boundNames_generateAll_eq]
  refine List.Sublist.flatMap_right _ ?_
  rintro ⟨r, a⟩ hmade
  obtain ⟨hr, ha⟩ := Report.mem_artifacts_iff.1 hmade
  obtain ⟨s, hs, rfl, hbinds⟩ := h.exists_script hdialect (Plan.mem_resources_of_mem_ordered hr)
  rw [hs] at ha
  cases ha
  show s.outputs.Sublist (Code.boundNames s.code.toList)
  rw [hbinds.boundNames_code ResourceConfig.ending_mem_all, ← hbinds.bound_eq]
  exact s.outputs_sublist_bound

end Description.Compiles

namespace Plan

/-- In the program of a compiled plan no name is bound twice exactly if names are kept apart: no two
nodes whose names become one identifier have an ending in common, and no two of the workloads that
load balancers lead to have names that become one identifier. -/
theorem nodup_boundNames_iff {d : Description} {p : Plan} {dialect : Dialect}
    (h : d.compile = .ok p) (hdialect : d.project.backend.dialect? = some dialect) :
    (p.generateAll .builtin).outputs.Sublist (p.generateAll .builtin).boundNames ∧
      ((p.generateAll .builtin).boundNames.Nodup ↔ p.NamesApart dialect) := by
  have hcompiles := Description.compile_eq_ok_iff.1 h
  have hordered := ordered_perm hcompiles.nodup_ids hcompiles.isGreedyOrder.perm
  refine ⟨hcompiles.outputs_sublist_boundNames hdialect, ?_⟩
  have hperm : (p.generateAll .builtin).boundNames.Perm
      ((p.bindings dialect).map Binding.name) := by
    rw [hcompiles.boundNames_generateAll hdialect, bindings, List.map_flatMap]
    exact hordered.flatMap_right _
  rw [hperm.nodup_iff, Binding.nodup_map_name_iff hcompiles.regular_bindings, nodup_bindings_iff]

/-- The shop as flat code: its names are apart, and none is bound twice. -/
theorem nodup_boundNames_iff_storefront :
    ∃ p, (Description.storefront .flat).compile = .ok p ∧ p.NamesApart .flat ∧
      (p.generateAll .builtin).outputs.Sublist (p.generateAll .builtin).boundNames ∧
      (p.generateAll .builtin).boundNames.Nodup := by
  have hapart : ((Description.storefront .flat).compile.toOption.any fun p =>
      decide (p.NamesApart .flat)) = true := by
    decide +kernel
  cases hcompile : (Description.storefront .flat).compile with
  | error e =>
    rw [hcompile] at hapart
    cases hapart
  | ok p =>
    rw [hcompile] at hapart
    have hnames : p.NamesApart .flat := of_decide_eq_true hapart
    have hbound := nodup_boundNames_iff hcompile rfl
    exact ⟨p, rfl, hnames, hbound.1, hbound.2.2 hnames⟩

end Plan

/-- A bucket and a topic of one name. -/
def Description.uploads : Description :=
  { ofNetworks ⟨"shop", "us-central1", none, .flat⟩ [] with
    buckets := [⟨"uploads", none, "STANDARD", false, false, []⟩]
    topics := [⟨"uploads", none⟩] }

/-- The names of both are bound as `uploadsName`. -/
theorem Plan.not_nodup_boundNames_uploads :
    ∃ p, Description.uploads.compile = .ok p ∧
      (p.generateAll .builtin).outputs =
        ["uploadsName", "uploadsUrl", "uploadsName", "uploadsTopicId"] ∧
      ¬ (p.generateAll .builtin).boundNames.Nodup := by
  have houtputs : (Description.uploads.compile.toOption.map fun p =>
      (p.generateAll .builtin).outputs) =
      some ["uploadsName", "uploadsUrl", "uploadsName", "uploadsTopicId"] := by
    decide +kernel
  cases hcompile : Description.uploads.compile with
  | error e =>
    rw [hcompile] at houtputs
    cases houtputs
  | ok p =>
    rw [hcompile] at houtputs
    have htwice : (p.generateAll .builtin).outputs =
        ["uploadsName", "uploadsUrl", "uploadsName", "uploadsTopicId"] := Option.some.inj houtputs
    have hcompiles := Description.compile_eq_ok_iff.1 hcompile
    refine ⟨p, rfl, htwice, fun hnodup => ?_⟩
    have hnone := hnodup.sublist (hcompiles.outputs_sublist_boundNames rfl)
    rw [htwice] at hnone
    exact absurd hnone (by decide)

end Groundwork
