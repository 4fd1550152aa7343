import Groundwork.Proofs.Code.Exports
import Groundwork.Proofs.Naming.Part
import Groundwork.Proofs.Report.Names
import Groundwork.Proofs.Resolution.References

/-!
# The constructs of a generated stack

All blocks of a program for constructs stand in one stack, so no id should be given to two
constructs.  The ids are those that the nodes of the plan are to give out: labels, which all have a
hyphen, and the names of outputs, which have none.  A label comes twice only where the id of a node
is what a part of another node is labelled, or where two load balancers label the parts for two
workloads alike; an output comes twice only where two nodes have names that become one identifier
and a field in common.

Main definitions:

- `Report.constructIds`: the ids of the constructs that the text of a program makes.
- `Plan.labels`, `Plan.outputBindings`: what the nodes of a plan give ids to.
- `Plan.ConstructsApart`: what keeps the constructs of a plan apart.

Main results:

- `Description.Compiles.constructIds_generateAll`: the text makes what the nodes are to make.
- `Plan.nodup_labels_iff`, `Plan.nodup_outputs_iff`: when labels and outputs are distinct.
- `Plan.nodup_constructIds_iff`: no id is given out twice exactly if constructs are kept apart.
-/

namespace Groundwork

/-- The ids of the constructs that the lines of all blocks make, in order. -/
def Report.constructIds (r : Report) : List String :=
  r.blocks.flatMap fun b => Code.constructIds b.code.toList

namespace Plan

variable {p : Plan}

/-- What the parts of all nodes are labelled in a stack. -/
def labels (p : Plan) : List PartLabel := p.resources.flatMap fun r => r.config.labels r.id

/-- The outputs of all nodes in a stack. -/
def outputBindings (p : Plan) : List Binding :=
  p.resources.flatMap fun r => r.config.boundFields.map fun field => ⟨r.name, .field field⟩

/-- The labels for the workloads behind load balancers. -/
def routeLabels (p : Plan) : List PartLabel :=
  p.resources.flatMap fun r => r.config.routed.flatMap fun workload =>
    r.config.routeParts.map (⟨r.id ++ "-" ++ workload, ·⟩)

/-- The labels for the nodes themselves. -/
def nodeLabels (p : Plan) : List PartLabel :=
  p.resources.flatMap fun r => r.config.parts.map (⟨r.id, ·⟩)

/-- The labels, without a part, for the workloads behind load balancers. -/
def routeStems (p : Plan) : List String :=
  p.resources.flatMap fun r => r.config.routed.map (r.id ++ "-" ++ ·)

/-- No part of a node is labelled by the id of another node, no two workloads behind load balancers
have labels that begin alike, and no two nodes whose names become one identifier bind one field. -/
structure ConstructsApart (p : Plan) : Prop where
  attached : ∀ r ∈ p.resources, ∀ part ∈ r.config.parts, part ≠ .whole →
    ∀ s ∈ p.resources, .whole ∈ s.config.parts → s.id ≠ r.id ++ part.text
  routed : p.routeStems.Nodup
  outputs : p.resources.Pairwise fun r s =>
    sanitizeIdentifier r.name = sanitizeIdentifier s.name →
      ∀ field ∈ r.config.boundFields, field ∉ s.config.boundFields

/-- When the constructs of a plan are apart, with the conditions spelled out node by node. -/
theorem constructsApart_iff :
    p.ConstructsApart ↔
      (∀ r ∈ p.resources, ∀ part ∈ r.config.parts, part ≠ .whole →
        ∀ s ∈ p.resources, .whole ∈ s.config.parts → s.id ≠ r.id ++ part.text) ∧
      p.routeStems.Nodup ∧
      p.resources.Pairwise fun r s =>
        sanitizeIdentifier r.name = sanitizeIdentifier s.name →
          ∀ field ∈ r.config.boundFields, field ∉ s.config.boundFields :=
  ⟨fun h => ⟨h.attached, h.routed, h.outputs⟩, fun h => ⟨h.1, h.2.1, h.2.2⟩⟩

instance : Decidable p.ConstructsApart := decidable_of_iff _ constructsApart_iff.symm

/-! ## Labels -/

/-- A label is one for a workload behind a load balancer or one for a node itself. -/
theorem labels_perm : p.labels.Perm (p.routeLabels ++ p.nodeLabels) :=
  (List.flatMap_append_perm _ _ _).symm

/-- What is labelled for the workloads behind load balancers. -/
theorem mem_routeLabels_iff {l : PartLabel} :
    l ∈ p.routeLabels ↔ ∃ r ∈ p.resources, ∃ workload ∈ r.config.routed,
      l.stem = r.id ++ "-" ++ workload ∧ l.part ∈ r.config.routeParts := by
  obtain ⟨stem, part⟩ := l
  simp only [routeLabels, List.mem_flatMap, List.mem_map, PartLabel.mk.injEq, eq_comm (a := stem)]
  constructor
  · rintro ⟨r, hr, workload, hworkload, _, hpart, hstem, rfl⟩
    exact ⟨r, hr, workload, hworkload, hstem, hpart⟩
  · rintro ⟨r, hr, workload, hworkload, hstem, hpart⟩
    exact ⟨r, hr, workload, hworkload, part, hpart, hstem, rfl⟩

/-- What is labelled for nodes themselves. -/
theorem mem_nodeLabels_iff {l : PartLabel} :
    l ∈ p.nodeLabels ↔ ∃ r ∈ p.resources, l.stem = r.id ∧ l.part ∈ r.config.parts := by
  obtain ⟨stem, part⟩ := l
  simp only [nodeLabels, List.mem_flatMap, List.mem_map, PartLabel.mk.injEq, eq_comm (a := stem)]
  constructor
  · rintro ⟨r, hr, _, hpart, hstem, rfl⟩
    exact ⟨r, hr, hstem, hpart⟩
  · rintro ⟨r, hr, hstem, hpart⟩
    exact ⟨r, hr, part, hpart, hstem, rfl⟩

/-- A label for a workload behind a load balancer ends in one of the words for that. -/
theorem word_mem_of_mem_routeLabels {l : PartLabel} (h : l ∈ p.routeLabels) :
    l.part.word ∈ Part.routeWords := by
  obtain ⟨r, -, _, -, -, hpart⟩ := mem_routeLabels_iff.1 h
  exact ResourceConfig.word_mem_of_mem_routeParts _ hpart

/-- A label for a node itself is the id or ends in one of the words for parts of nodes. -/
theorem word_mem_of_mem_nodeLabels {l : PartLabel} (h : l ∈ p.nodeLabels) :
    l.part = .whole ∨ l.part.word ∈ Part.nodeWords := by
  obtain ⟨r, -, -, hpart⟩ := mem_nodeLabels_iff.1 h
  exact ResourceConfig.word_mem_of_mem_parts _ hpart

/-- Parts for workloads behind load balancers have words of their own. -/
theorem disjoint_labels : List.Disjoint p.routeLabels p.nodeLabels := by
  have hapart : ∀ word ∈ Part.routeWords, word ≠ "" ∧ word ∉ Part.nodeWords := by decide
  intro l hroute hnode
  have hword := hapart _ (word_mem_of_mem_routeLabels hroute)
  rcases word_mem_of_mem_nodeLabels hnode with hwhole | hmem
  · apply hword.1
    rw [hwhole]
    rfl
  · exact hword.2 hmem

/-- Every label ends in one of the known words. -/
theorem regular_labels : ∀ l ∈ p.labels, l.Regular := by
  intro l hl
  rcases List.mem_append.1 (labels_perm.mem_iff.1 hl) with hroute | hnode
  · exact Or.inr (List.mem_append_right _ (word_mem_of_mem_routeLabels hroute))
  · exact (word_mem_of_mem_nodeLabels hnode).imp_right (List.mem_append_left _)

/-- A label says of what stem and of what part it is. -/
theorem injective2_label : Function.Injective2 PartLabel.mk :=
  fun _ _ _ _ h => PartLabel.mk.inj h

/-- Nodes with ids of their own have labels of their own. -/
theorem nodup_nodeLabels (hids : (p.resources.map (·.id)).Nodup) : p.nodeLabels.Nodup := by
  refine (nodup_flatMap_map_iff injective2_label fun r _ =>
    ResourceConfig.nodup_parts r.config).2 ?_
  rw [List.nodup_iff_pairwise_ne, List.pairwise_map] at hids
  exact hids.imp fun hne hsame => absurd hsame hne

/-- What the labels for each workload behind a load balancer begin with, and the parts they have. -/
def routes (p : Plan) : List (String × List Part) :=
  p.resources.flatMap fun r => r.config.routed.map fun workload =>
    (r.id ++ "-" ++ workload, r.config.routeParts)

/-- The labels for workloads behind load balancers, from what they are led to by. -/
theorem routeLabels_eq :
    p.routeLabels = p.routes.flatMap fun route => route.2.map (PartLabel.mk route.1) := by
  simp only [routeLabels, routes, List.flatMap_assoc, List.flatMap_map]

/-- The stems of these labels, in the same order. -/
theorem routeStems_eq : p.routeStems = p.routes.map Prod.fst := by
  simp only [routeStems, routes, List.map_flatMap, List.map_map, Function.comp_def]

/-- The parts for a workload are distinct, and an endpoint group is among them. -/
theorem parts_of_mem_routes {route : String × List Part} (h : route ∈ p.routes) :
    route.2.Nodup ∧ .named "-neg" ∈ route.2 := by
  obtain ⟨r, -, hroute⟩ := List.mem_flatMap.1 h
  obtain ⟨workload, hworkload, rfl⟩ := List.mem_map.1 hroute
  exact ⟨ResourceConfig.nodup_routeParts _, (ResourceConfig.of_mem_routed hworkload).2⟩

/-- As every workload has an endpoint group, only what labels begin with tells workloads apart. -/
theorem nodup_routeLabels_iff : p.routeLabels.Nodup ↔ p.routeStems.Nodup := by
  rw [routeLabels_eq, routeStems_eq,
    nodup_flatMap_map_iff injective2_label fun _ h => (parts_of_mem_routes h).1,
    List.nodup_iff_pairwise_ne, List.pairwise_map]
  refine List.Pairwise.iff_of_mem fun {route other} hroute hother => ?_
  constructor
  · intro hapart hsame
    exact hapart hsame _ (parts_of_mem_routes hroute).2 (parts_of_mem_routes hother).2
  · intro hne hsame
    exact absurd hsame hne

/-- Labels come twice only if a load balancer and a workload make one stem with another such
pair. -/
theorem nodup_labels_iff (hids : (p.resources.map (·.id)).Nodup) :
    p.labels.Nodup ↔ p.routeStems.Nodup := by
  rw [labels_perm.nodup_iff, List.nodup_append', nodup_routeLabels_iff]
  exact and_iff_left ⟨nodup_nodeLabels hids, disjoint_labels⟩

/-- What is labelled as a whole node is one. -/
theorem whole_mem_labels_iff {text : String} :
    ⟨text, .whole⟩ ∈ p.labels ↔ ∃ s ∈ p.resources, .whole ∈ s.config.parts ∧ s.id = text := by
  have hroute : ⟨text, .whole⟩ ∉ p.routeLabels := fun hmem =>
    absurd (word_mem_of_mem_routeLabels hmem)
      (by decide : Part.whole.word ∉ Part.routeWords)
  rw [labels_perm.mem_iff, List.mem_append, or_iff_right hroute, mem_nodeLabels_iff]
  simp only [eq_comm (a := text), and_comm]

/-! ## Outputs -/

/-- A field is bound in a stack if a name that ends in it is. -/
theorem mem_boundFields_iff {config : ResourceConfig} {field : String} :
    field ∈ config.boundFields ↔ .field field ∈ config.endings .construct :=
  ResourceConfig.mem_outputFields_iff

/-- No node binds a field twice. -/
theorem nodup_boundFields (config : ResourceConfig) : config.boundFields.Nodup :=
  config.nodup_outputFields .construct

/-- Outputs are among the names that are bound. -/
theorem outputBindings_subset : p.outputBindings ⊆ p.bindings .construct := by
  intro b hb
  obtain ⟨r, hr, hb⟩ := List.mem_flatMap.1 hb
  obtain ⟨field, hfield, rfl⟩ := List.mem_map.1 hb
  refine List.mem_flatMap.2 ⟨r, hr, ResourceConfig.mem_bindings_iff.2 (Or.inr ?_)⟩
  exact ⟨.field field, mem_boundFields_iff.1 hfield, rfl⟩

/-- Outputs are named apart exactly if no two nodes with one identifier bind one field. -/
theorem nodup_outputs_iff (hregular : ∀ b ∈ p.outputBindings, b.Regular) :
    (p.outputBindings.map Binding.name).Nodup ↔
      p.resources.Pairwise fun r s =>
        sanitizeIdentifier r.name = sanitizeIdentifier s.name →
          ∀ field ∈ r.config.boundFields, field ∉ s.config.boundFields := by
  have hkeys : p.outputBindings.map Binding.key =
      p.resources.flatMap fun r =>
        r.config.boundFields.map (fun field => (sanitizeIdentifier r.name, Ending.field field)) := by
    simp only [outputBindings, List.map_flatMap, List.map_map]
    rfl
  have hinjective : Function.Injective2 fun (word field : String) => (word, Ending.field field) :=
    fun _ _ _ _ h => ⟨(Prod.mk.inj h).1, Ending.field.inj (Prod.mk.inj h).2⟩
  rw [Binding.nodup_map_name_iff hregular, hkeys]
  exact nodup_flatMap_map_iff hinjective fun r _ => nodup_boundFields r.config

end Plan

/-! ## What the nodes of a compiled plan make -/

/-- Among constructs only load balancers have the settings of one, or ids that begin as theirs. -/
theorem Backend.eq_loadBalancer_of_construct : ∀ k ∈ Backend.construct.kinds,
    k.configKind = .loadBalancer ∨ k.firstWord = ResourceKind.loadBalancer.firstWord →
      k = .loadBalancer := by
  decide

namespace Description.Compiles

variable {d : Description} {p : Plan}

/-- Every node of a compiled plan for constructs becomes a script that makes what its settings
demand. -/
theorem constructIds_perm_of_mem (h : d.Compiles p) (hb : d.project.backend = .construct)
    {r : Resource} (hr : r ∈ p.resources) :
    ∃ a, Registry.builtin.generate r = .ok a ∧
      (Code.constructIds a.code.toList).Perm (r.config.constructIds r.id r.name) := by
  have hdialect : d.project.backend.dialect? = some .construct := by
    rw [hb]
    rfl
  obtain ⟨g, hg, a, ha, hmade⟩ := h.exists_definition hr
  obtain ⟨s, rfl, hs, hbinds⟩ := Backend.binds_of_mem hdialect g hg r a ha
  rw [hb] at hg
  obtain ⟨s', hscript, -, hmakes⟩ := Backend.makes_of_mem g hg r _ ha
  cases hscript
  exact ⟨.script s, hmade, hmakes.constructIds_code hbinds hs ResourceConfig.ending_mem_all⟩

/-- The constructs of a program are those that its nodes are to make. -/
theorem constructIds_generateAll (h : d.Compiles p) (hb : d.project.backend = .construct) :
    (p.generateAll .builtin).constructIds.Perm
      (p.labels.map PartLabel.text ++ p.outputBindings.map Binding.name) := by
  have hordered := Plan.ordered_perm h.nodup_ids h.isGreedyOrder.perm
  have hids : (p.generateAll .builtin).constructIds =
      (Report.artifacts .builtin p.ordered).flatMap fun made =>
        Code.constructIds made.2.code.toList := by
    simp only [Report.constructIds, Plan.generateAll, List.flatMap_map]
  have hnodes : (p.resources.flatMap fun r => r.config.constructIds r.id r.name).Perm
      (p.labels.map PartLabel.text ++ p.outputBindings.map Binding.name) := by
    simp only [Plan.labels, Plan.outputBindings, List.map_flatMap, List.map_map]
    exact (List.flatMap_append_perm _ _ _).symm
  rw [hids]
  refine (Report.flatMap_artifacts_perm (f := fun a => Code.constructIds a.code.toList) ?_).trans
    ((hordered.flatMap_right _).trans hnodes)
  intro r hr
  exact h.constructIds_perm_of_mem hb (Plan.mem_resources_of_mem_ordered hr)

/-- The id of what is no load balancer does not begin with that of one. -/
theorem id_ne_of_routed (h : d.Compiles p) (hb : d.project.backend = .construct)
    {r s : Resource} (hr : r ∈ p.resources) (hs : s ∈ p.resources) {workload : String}
    (hrouted : workload ∈ r.config.routed) (hwhole : .whole ∈ s.config.parts) (rest : String) :
    s.id ≠ r.id ++ rest := by
  obtain ⟨k, hk, hnode, -⟩ := h.served hr
  obtain ⟨k', hk', hnode', -⟩ := h.served hs
  rw [show (Project.of d).backend = .construct from hb] at hk hk'
  have hkind : k = .loadBalancer := by
    apply Backend.eq_loadBalancer_of_construct k hk
    rw [← hnode.kind_eq]
    exact Or.inl (ResourceConfig.of_mem_routed hrouted).1
  intro hid
  have hlonger : ResourceKind.loadBalancer.nodeId r.name ++ rest =
      ResourceKind.loadBalancer.nodeId (r.name ++ rest) := by
    simp only [ResourceKind.nodeId, String.append_assoc]
  rw [hnode.id_eq, hnode'.id_eq, hkind, hlonger] at hid
  have hkind' : k' = .loadBalancer :=
    Backend.eq_loadBalancer_of_construct k' hk'
      (Or.inr (ResourceKind.firstWord_eq_of_nodeId_eq hid))
  apply ResourceConfig.whole_not_mem_parts _ hwhole
  rw [hnode'.kind_eq, hkind']
  rfl

/-- Whether labels of parts can be taken for nodes is a question of the parts of nodes alone. -/
theorem attached_iff (h : d.Compiles p) (hb : d.project.backend = .construct) :
    (∀ l ∈ p.labels, l.part ≠ .whole → ⟨l.text, .whole⟩ ∉ p.labels) ↔
      ∀ r ∈ p.resources, ∀ part ∈ r.config.parts, part ≠ .whole →
        ∀ s ∈ p.resources, .whole ∈ s.config.parts → s.id ≠ r.id ++ part.text := by
  constructor
  · intro hapart r hr part hpart hne s hs hwhole hid
    have hlabel : ⟨r.id, part⟩ ∈ p.labels :=
      Plan.labels_perm.mem_iff.2
        (List.mem_append_right _ (Plan.mem_nodeLabels_iff.2 ⟨r, hr, rfl, hpart⟩))
    exact hapart _ hlabel hne (Plan.whole_mem_labels_iff.2 ⟨s, hs, hwhole, hid⟩)
  · intro hapart l hl hne hmem
    obtain ⟨s, hs, hwhole, hid⟩ := Plan.whole_mem_labels_iff.1 hmem
    rcases List.mem_append.1 (Plan.labels_perm.mem_iff.1 hl) with hroute | hnode
    · obtain ⟨r, hr, workload, hworkload, hstem, -⟩ := Plan.mem_routeLabels_iff.1 hroute
      refine h.id_ne_of_routed hb hr hs hworkload hwhole ("-" ++ workload ++ l.part.text) ?_
      rw [hid, PartLabel.text, hstem]
      simp only [String.append_assoc]
    · obtain ⟨r, hr, hstem, hpart⟩ := Plan.mem_nodeLabels_iff.1 hnode
      refine hapart r hr l.part hpart hne s hs hwhole ?_
      rw [hid, PartLabel.text, hstem]

/-- Every label has a hyphen. -/
theorem hyphen_mem_text (h : d.Compiles p) {l : PartLabel} (hl : l ∈ p.labels) :
    '-' ∈ l.text.toList := by
  have hid : ∀ r ∈ p.resources, '-' ∈ r.id.toList := by
    intro r hr
    obtain ⟨k, -, hnode, -⟩ := h.served hr
    rw [hnode.id_eq, ResourceKind.nodeId]
    simp
  rw [PartLabel.text, String.toList_append]
  refine List.mem_append_left _ ?_
  rcases List.mem_append.1 (Plan.labels_perm.mem_iff.1 hl) with hroute | hnode
  · obtain ⟨r, hr, workload, -, hstem, -⟩ := Plan.mem_routeLabels_iff.1 hroute
    rw [hstem]
    simp
  · obtain ⟨r, hr, hstem, -⟩ := Plan.mem_nodeLabels_iff.1 hnode
    rw [hstem]
    exact hid r hr

/-- No output has the id of a label. -/
theorem disjoint_ids (h : d.Compiles p) :
    List.Disjoint (p.labels.map PartLabel.text) (p.outputBindings.map Binding.name) := by
  intro id hlabel houtput
  obtain ⟨l, hl, rfl⟩ := List.mem_map.1 hlabel
  obtain ⟨b, hb, hname⟩ := List.mem_map.1 houtput
  have hregular := h.regular_bindings b (Plan.outputBindings_subset hb)
  have hidentifier := Binding.isIdentifier_name hregular.ending_mem
  rw [hname] at hidentifier
  exact hidentifier.not_mem (by decide) (by decide) (h.hyphen_mem_text hl)

end Description.Compiles

namespace Plan

/-- In the stack of a compiled plan no two constructs have one id exactly if constructs are kept
apart: no part of a node is labelled by the id of another node, no two workloads behind load
balancers have labels that begin alike, and no two nodes whose names become one identifier bind one
field. -/
theorem nodup_constructIds_iff {d : Description} {p : Plan} (h : d.compile = .ok p)
    (hb : d.project.backend = .construct) :
    (p.generateAll .builtin).constructIds.Nodup ↔ p.ConstructsApart := by
  have hcompiles := Description.compile_eq_ok_iff.1 h
  have hregular : ∀ b ∈ p.outputBindings, b.Regular := fun b hmem =>
    hcompiles.regular_bindings b (outputBindings_subset hmem)
  rw [(hcompiles.constructIds_generateAll hb).nodup_iff, List.nodup_append',
    PartLabel.nodup_map_text_iff regular_labels, nodup_labels_iff hcompiles.nodup_ids,
    hcompiles.attached_iff hb, nodup_outputs_iff hregular, constructsApart_iff]
  constructor
  · rintro ⟨⟨hrouted, hattached⟩, houtputs, -⟩
    exact ⟨hattached, hrouted, houtputs⟩
  · rintro ⟨hattached, hrouted, houtputs⟩
    exact ⟨⟨hrouted, hattached⟩, houtputs, hcompiles.disjoint_ids⟩

/-- The shop as constructs: they are apart, and no two of them have one id. -/
theorem nodup_constructIds_iff_storefront :
    ∃ p, (Description.storefront .construct).compile = .ok p ∧ p.ConstructsApart ∧
      (p.generateAll .builtin).constructIds.Nodup := by
  have hapart : ((Description.storefront .construct).compile.toOption.any fun p =>
      decide p.ConstructsApart) = true := by
    decide +kernel
  cases hcompile : (Description.storefront .construct).compile with
  | error e =>
    rw [hcompile] at hapart
    cases hapart
  | ok p =>
    rw [hcompile] at hapart
    have hids : p.ConstructsApart := of_decide_eq_true hapart
    exact ⟨p, rfl, hids, (nodup_constructIds_iff hcompile rfl).2 hids⟩

end Plan

/-- A public bucket, and one that is named like the leave to read it. -/
def Description.downloads : Description :=
  { ofNetworks ⟨"shop", "us-central1", none, .construct⟩ [.ofContainers "main" ["api"]] with
    buckets :=
      [⟨"uploads", none, "STANDARD", false, true, []⟩,
       ⟨"uploads-public", none, "STANDARD", false, false, []⟩] }

/-- The leave to read one bucket and the other bucket itself have one id. -/
theorem Plan.not_nodup_constructIds_downloads :
    ∃ p, Description.downloads.compile = .ok p ∧
      (p.generateAll .builtin).constructIds.count "bucket-uploads-public" = 2 ∧
      ¬ (p.generateAll .builtin).constructIds.Nodup := by
  have hlabels : (Description.downloads.compile.toOption.map fun p =>
      p.labels.map PartLabel.text ++ p.outputBindings.map Binding.name) =
      some ["bucket-uploads", "bucket-uploads-public", "bucket-uploads-public", "network-main",
        "connector-main", "container-api", "uploadsName", "uploadsUrl", "uploads_publicName",
        "uploads_publicUrl", "apiUrl"] := by
    decide +kernel
  cases hcompile : Description.downloads.compile with
  | error e =>
    rw [hcompile] at hlabels
    cases hlabels
  | ok p =>
    rw [hcompile] at hlabels
    have hmade := (Description.compile_eq_ok_iff.1 hcompile).constructIds_generateAll rfl
    rw [show p.labels.map PartLabel.text ++ p.outputBindings.map Binding.name = _ from
      Option.some.inj hlabels] at hmade
    have htwice : (p.generateAll .builtin).constructIds.count "bucket-uploads-public" = 2 := by
      rw [hmade.count_eq]
      decide
    refine ⟨p, rfl, htwice, fun hnodup => ?_⟩
    have honce := List.nodup_iff_count_le_one.1 hnodup "bucket-uploads-public"
    omega

end Groundwork
