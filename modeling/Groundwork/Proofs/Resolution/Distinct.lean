import Groundwork.Proofs.Resolution.Groups
import Mathlib.Data.List.Pairwise

/-!
# Declarations are distinct

No two declarations of a valid and legal description have the same kind, name and network.  In a
cluster, where all workloads have the same two kinds, it is legality that keeps their names apart.

Main results:

- `Legality.firstShared?_eq_none_iff`: what the check of the names of workloads lets through.
- `Description.Legal.nodup_declarations`: no declaration comes twice.
- `Description.Legal.eq_of_service`: in a cluster, services of one name are one declaration.
- `Description.Legal.kind_mem_kinds`: the kinds of the declarations are known to the backend.
-/

namespace Groundwork

/-! ## Names of workloads -/

namespace Legality

/-- No workload shares its name with an earlier one exactly if all the names are distinct. -/
theorem firstShared?_eq_none_iff {seen entries : List (String × String)} :
    firstShared? seen entries = none ↔
      (entries.map (·.2)).Nodup ∧ ∀ entry ∈ entries, entry.2 ∉ seen.map (·.2) := by
  induction entries generalizing seen with
  | nil => simp [firstShared?]
  | cons entry rest ih =>
    obtain ⟨words, name⟩ := entry
    rw [firstShared?, List.map_cons, List.nodup_cons, List.forall_mem_cons]
    cases hfind : seen.find? (fun earlier => decide (earlier.2 = name)) with
    | some earlier =>
      have hname : earlier.2 = name := by simpa using List.find?_some hfind
      have hseen : name ∈ seen.map (·.2) :=
        hname ▸ List.mem_map_of_mem (List.mem_of_find?_eq_some hfind)
      simp only [reduceCtorEq, false_iff, not_and]
      intro _ hfresh
      exact absurd hseen hfresh
    | none =>
      have hfresh : name ∉ seen.map (·.2) := by
        intro hmem
        obtain ⟨earlier, hearlier, heq⟩ := List.mem_map.1 hmem
        exact List.find?_eq_none.1 hfind earlier hearlier (decide_eq_true heq)
      simp only [ih, List.map_append, List.map_cons, List.map_nil, List.mem_append,
        List.mem_singleton, not_or]
      constructor
      · rintro ⟨hnodup, hrest⟩
        refine ⟨⟨?_, hnodup⟩, hfresh, fun e he => (hrest e he).1⟩
        intro hmem
        obtain ⟨e, he, heq⟩ := List.mem_map.1 hmem
        exact (hrest e he).2 heq
      · rintro ⟨⟨hnew, hnodup⟩, -, hrest⟩
        exact ⟨hnodup, fun e he =>
          ⟨hrest e he, fun heq => hnew (heq ▸ List.mem_map_of_mem he)⟩⟩

end Legality

/-- The names of the workloads of a network, its kernel apart. -/
def NetworkSpec.workloadNames (n : NetworkSpec) : List String :=
  n.containers.map (·.name) ++ n.functions.map (·.name) ++ n.uis.map (·.name)

theorem Legality.map_snd_workloads (d : Description) :
    (Legality.workloads d).map (·.2) =
      d.networks.flatMap NetworkSpec.workloadNames ++ d.hybridKernel.toList.map (·.name) := by
  have hnames : NetworkSpec.workloadNames = fun n =>
      n.containers.map (·.name) ++ n.functions.map (·.name) ++ n.uis.map (·.name) := rfl
  simp [workloads, hnames, List.map_flatMap, Function.comp_def]

/-! ## Names in a cluster -/

/-- A workload of a network is its kernel, or has one of the names of the network's workloads. -/
theorem Project.name_of_mem_workloadsOf {p : Project} {n : NetworkSpec} {w : Declaration}
    (hw : w ∈ p.workloadsOf n) :
    (∃ k, p.kernelOf? n = some k ∧ w.name = k.2.name) ∨ w.name ∈ n.workloadNames := by
  simp only [workloadsOf, kernelWorkload, List.mem_append, List.mem_map, Option.mem_toList] at hw
  unfold NetworkSpec.workloadNames
  simp only [List.mem_append, List.mem_map]
  rcases hw with ((⟨k, hk, rfl⟩ | ⟨spec, hspec, rfl⟩) | ⟨spec, hspec, rfl⟩) | ⟨spec, hspec, rfl⟩
  · exact Or.inl ⟨k, hk, rfl⟩
  · exact Or.inr (Or.inl (Or.inl ⟨spec, hspec, rfl⟩))
  · exact Or.inr (Or.inl (Or.inr ⟨spec, hspec, rfl⟩))
  · exact Or.inr (Or.inr ⟨spec, hspec, rfl⟩)

theorem Project.kernelNetwork?_of_kernelOf? {p : Project} {n : NetworkSpec}
    {k : KernelVariant × KernelSpec} (h : p.kernelOf? n = some k) :
    p.kernelNetwork? = some n.name := by
  unfold kernelOf? at h
  split at h
  · assumption
  · cases h

namespace Description

variable {d : Description}

/-- In a cluster all names of workloads are distinct, that of the kernel included. -/
theorem Legal.nodup_names (h : d.Legal) (hb : d.project.backend = .manifest) :
    (d.networks.flatMap NetworkSpec.workloadNames ++ d.hybridKernel.toList.map (·.name)).Nodup := by
  have hrule := h.violation?_eq_none (q := .distinctWorkloads) (by simp [hb, Backend.requirements])
  rw [← Legality.map_snd_workloads]
  exact (Legality.firstShared?_eq_none_iff.1 hrule).1

/-- In a cluster every kernel is a hybrid one. -/
theorem Legal.hybridKernel_of_kernelOf? (h : d.Legal) (hb : d.project.backend = .manifest)
    {n : NetworkSpec} {k : KernelVariant × KernelSpec}
    (hk : (Project.of d).kernelOf? n = some k) : d.hybridKernel = some k.2 := by
  have hnative := h.native_eq_none hb
  have hkernel := Project.kernel?_of_kernelOf? hk
  simp only [Project.kernel?, Project.of, hnative] at hkernel
  cases hhybrid : d.hybridKernel with
  | none => simp [hhybrid] at hkernel
  | some spec =>
    simp only [hhybrid, Option.some.injEq] at hkernel
    rw [← hkernel]

/-- In a cluster the workloads of a network have distinct names. -/
theorem Legal.nodup_workloadsOf (h : d.Legal) (hb : d.project.backend = .manifest)
    {n : NetworkSpec} (hn : n ∈ d.networks) :
    (((Project.of d).workloadsOf n).map (·.name)).Nodup := by
  have hnames := h.nodup_names hb
  have hsplit : ((Project.of d).workloadsOf n).map (·.name) =
      ((Project.of d).kernelOf? n).toList.map (·.2.name) ++ n.workloadNames := by
    simp [Project.workloadsOf, Project.kernelWorkload, NetworkSpec.workloadNames,
      Function.comp_def]
  have hsublist : (n.workloadNames ++
      ((Project.of d).kernelOf? n).toList.map (·.2.name)).Sublist
        (d.networks.flatMap NetworkSpec.workloadNames ++ d.hybridKernel.toList.map (·.name)) := by
    refine List.Sublist.append ?_ ?_
    · rw [List.flatMap_def]
      exact List.sublist_flatten_of_mem (List.mem_map_of_mem hn)
    · cases hk : (Project.of d).kernelOf? n with
      | none => exact List.nil_sublist _
      | some k =>
        rw [h.hybridKernel_of_kernelOf? hb hk]
        exact List.Sublist.refl _
  rw [hsplit, List.perm_append_comm.nodup_iff]
  exact hnames.sublist hsublist

/-- In a cluster no two networks have workloads of one name. -/
theorem Legal.eq_of_workload (h : d.Legal) (hvalid : d.Valid)
    (hb : d.project.backend = .manifest) {n m : NetworkSpec} (hn : n ∈ d.networks)
    (hm : m ∈ d.networks) {w w' : Declaration} (hw : w ∈ (Project.of d).workloadsOf n)
    (hw' : w' ∈ (Project.of d).workloadsOf m) (hname : w.name = w'.name) : n = m := by
  obtain ⟨hnodup, -, hapart⟩ := List.nodup_append.1 (h.nodup_names hb)
  have hkernel : ∀ m ∈ d.networks, ∀ n k, (Project.of d).kernelOf? n = some k →
      k.2.name ∉ m.workloadNames := by
    intro m hm n k hk hmem
    refine hapart _ (List.mem_flatMap.2 ⟨m, hm, hmem⟩) k.2.name ?_ rfl
    rw [h.hybridKernel_of_kernelOf? hb hk]
    exact List.mem_singleton_self _
  rcases Project.name_of_mem_workloadsOf hw with ⟨k, hk, hwk⟩ | hwn <;>
    rcases Project.name_of_mem_workloadsOf hw' with ⟨k', hk', hwk'⟩ | hwm
  · have hnetwork := Project.kernelNetwork?_of_kernelOf? hk
    rw [Project.kernelNetwork?_of_kernelOf? hk', Option.some.injEq] at hnetwork
    exact List.inj_on_of_nodup_map hvalid.networks.nodup hn hm hnetwork.symm
  · exact absurd (hwk ▸ hname ▸ hwm) (hkernel m hm n k hk)
  · exact absurd (hwk' ▸ hname ▸ hwn) (hkernel n hn m k' hk')
  · by_contra hne
    have hsymm : Std.Symm (Function.onFun List.Disjoint NetworkSpec.workloadNames) :=
      ⟨fun _ _ hdisjoint => List.disjoint_symm hdisjoint⟩
    have hdisjoint := (List.nodup_flatMap.1 hnodup).2.forall hn hm hne
    exact List.disjoint_left.1 hdisjoint hwn (hname ▸ hwm)

/-- No declaration of a valid and legal description comes twice. -/
theorem Legal.nodup_declarations (h : d.Legal) (hvalid : d.Valid) :
    (Project.of d).declarations.Nodup :=
  Project.nodup_declarations hvalid fun hcluster _ hn =>
    h.nodup_workloadsOf (h.cluster?_isSome_iff.1 hcluster) hn

/-- The kind of a declaration decides whether a network makes it. -/
theorem Legal.network_of_mem_declarations (h : d.Legal) (hvalid : d.Valid) {a : Declaration}
    (ha : a ∈ (Project.of d).declarations) :
    a.kind ∈ ResourceKind.inside ∧ (∃ n ∈ d.networks, a.network = some n.name) ∨
      a.kind ∉ ResourceKind.inside ∧ a.network = none :=
  Project.network_of_mem_declarations (p := Project.of d) hvalid (fun hcluster _ hn =>
    h.nodup_workloadsOf (h.cluster?_isSome_iff.1 hcluster) hn) ha

/-! ## Kinds of declarations -/

theorem Legal.workload_kind_mem_kinds (h : d.Legal) (hb : d.project.backend ≠ .manifest)
    {n : NetworkSpec} (hn : n ∈ d.networks) {w : Declaration}
    (hw : w ∈ (Project.of d).workloadsOf n) : w.kind ∈ d.project.backend.kinds := by
  simp only [Project.workloadsOf, Project.kernelWorkload, List.mem_append, List.mem_map,
    Option.mem_toList] at hw
  rcases hw with ((⟨⟨variant, k⟩, hk, rfl⟩ | ⟨spec, -, rfl⟩) | ⟨spec, -, rfl⟩) | ⟨spec, hspec, rfl⟩
  · rw [Backend.eq_construct (h.backend_of_kernel (Project.kernel?_of_kernelOf? hk)) hb]
    cases variant <;> exact List.mem_of_elem_eq_true rfl
  · exact Backend.mem_kinds_of_ne_manifest (List.mem_of_elem_eq_true rfl) hb
  · exact Backend.mem_kinds_of_ne_manifest (List.mem_of_elem_eq_true rfl) hb
  · rw [Backend.eq_construct (h.backend_of_ui hn hspec) hb]
    exact List.mem_of_elem_eq_true rfl

theorem Legal.network_kind_mem_kinds (h : d.Legal) {n : NetworkSpec} {a : Declaration}
    (ha : a ∈ (Project.of d).networkDeclarations n) : a.kind ∈ d.project.backend.kinds := by
  have hsome : (Project.of d).cluster.isSome ↔ d.project.backend = .manifest :=
    h.cluster?_isSome_iff
  unfold Project.networkDeclarations at ha
  cases hc : (Project.of d).cluster with
  | some c =>
    simp only [hc, List.mem_map] at ha
    obtain ⟨rule, -, rfl⟩ := ha
    rw [hsome.1 (by rw [hc]; rfl)]
    exact List.mem_of_elem_eq_true rfl
  | none =>
    have hb : d.project.backend ≠ .manifest := by
      intro hb
      rw [← hsome, hc] at hb
      cases hb
    simp only [hc, List.mem_append, List.mem_map, Option.mem_toList] at ha
    rcases ha with (((⟨_, -, rfl⟩ | ⟨s, -, rfl⟩) | ⟨rule, -, rfl⟩) | ⟨_, hconnector, rfl⟩) |
      ⟨registry, -, rfl⟩
    · exact Backend.mem_kinds_of_ne_manifest (List.mem_of_elem_eq_true rfl) hb
    · exact Backend.mem_kinds_of_ne_manifest (List.mem_of_elem_eq_true rfl) hb
    · exact Backend.mem_kinds_of_ne_manifest (List.mem_of_elem_eq_true rfl) hb
    · have hconstruct : d.project.backend = .construct :=
        (Project.connector_bareSite_isSome_iff (p := Project.of d) n).1 (by rw [hconnector]; rfl)
      rw [hconstruct]
      exact List.mem_of_elem_eq_true rfl
    · exact Backend.mem_kinds_of_ne_manifest (List.mem_of_elem_eq_true rfl) hb

/-- The kinds of the declarations are known to the backend. -/
theorem Legal.kind_mem_kinds (h : d.Legal) {a : Declaration}
    (ha : a ∈ (Project.of d).declarations) : a.kind ∈ d.project.backend.kinds := by
  have hsome : (Project.of d).cluster.isSome ↔ d.project.backend = .manifest :=
    h.cluster?_isSome_iff
  rcases Project.mem_declarations_iff.1 ha with hglobal | ⟨n, hn, hinside⟩ | ⟨spec, hspec, rfl⟩
  · simp only [Project.globalDeclarations, List.mem_append, List.mem_flatMap, List.mem_map,
      Option.mem_toList, List.mem_cons, List.not_mem_nil, or_false] at hglobal
    rcases hglobal with ((((⟨c, hc, hkind⟩ | ⟨spec, -, rfl⟩) | ⟨spec, -, rfl⟩) | ⟨spec, -, rfl⟩) |
      ⟨spec, -, rfl⟩) | ⟨spec, -, rfl⟩
    · rw [hsome.1 (by rw [hc]; rfl)]
      rcases hkind with rfl | rfl <;> exact List.mem_of_elem_eq_true rfl
    all_goals cases d.project.backend <;> exact List.mem_of_elem_eq_true rfl
  · rcases Project.mem_networkChunks_iff.1 hinside with
      hself | ⟨w, hw, hdeclared⟩ | ⟨spec, hspec, rfl⟩ | ⟨spec, hspec, rfl⟩ | ⟨lb, -, rfl⟩
    · exact h.network_kind_mem_kinds hself
    · by_cases hb : d.project.backend = .manifest
      · rw [Project.mem_workloadDeclarations (hsome.2 hb)] at hdeclared
        rw [hb]
        rcases hdeclared with rfl | rfl <;> exact List.mem_of_elem_eq_true rfl
      · rw [Project.workloadDeclarations, if_neg (mt hsome.1 hb), List.mem_singleton] at hdeclared
        have hkind := h.workload_kind_mem_kinds hb hn hw
        rw [hdeclared]
        exact hkind
    · exact Backend.mem_kinds_of_ne_construct (List.mem_of_elem_eq_true rfl)
        (h.backend_of_database hn hspec)
    · exact Backend.mem_kinds_of_ne_construct (List.mem_of_elem_eq_true rfl)
        (h.backend_of_cache hn hspec)
    · unfold Project.balancerDeclaration
      by_cases hb : d.project.backend = .manifest
      · rw [if_pos (hsome.2 hb), hb]
        exact List.mem_of_elem_eq_true rfl
      · rw [if_neg (mt hsome.1 hb)]
        exact Backend.mem_kinds_of_ne_manifest (List.mem_of_elem_eq_true rfl) hb
  · rw [h.backend_of_cron hspec]
    exact List.mem_of_elem_eq_true rfl

/-- In a cluster services of one name are one declaration. -/
theorem Legal.eq_of_service (h : d.Legal) (hvalid : d.Valid) {a b : Declaration}
    (ha : a ∈ (Project.of d).declarations) (hb : b ∈ (Project.of d).declarations)
    (hkind : a.kind = .service) (hkind' : b.kind = .service) (hname : a.name = b.name) :
    a = b := by
  have hservice : ∀ {a : Declaration}, a ∈ (Project.of d).declarations → a.kind = .service →
      d.project.backend = .manifest ∧ ∃ n ∈ d.networks, ∃ w ∈ (Project.of d).workloadsOf n,
        a = ⟨.service, w.name, some n.name⟩ := by
    intro a ha hkind
    obtain ⟨n, hn, w, hw, hdeclared⟩ :=
      Project.workload_of_kind hvalid ha (by rw [hkind]; decide)
    by_cases hc : (Project.of d).cluster.isSome
    · refine ⟨h.cluster?_isSome_iff.1 hc, n, hn, w, hw, ?_⟩
      rcases (Project.mem_workloadDeclarations hc).1 hdeclared with rfl | rfl
      · cases hkind
      · rfl
    · rw [Project.workloadDeclarations, if_neg hc, List.mem_singleton] at hdeclared
      have hmem := (Project.group_workloadsOf (hvalid.inside n hn)).kind_mem w hw
      rw [hdeclared] at hkind
      rw [show w.kind = .service from hkind] at hmem
      exact absurd hmem (by decide)
  obtain ⟨hmanifest, n, hn, w, hw, rfl⟩ := hservice ha hkind
  obtain ⟨-, m, hm, w', hw', rfl⟩ := hservice hb hkind'
  rw [h.eq_of_workload hvalid hmanifest hn hm hw hw' hname, show w.name = w'.name from hname]

/-- A description has kernels of one kind only. -/
theorem kind_eq_of_kernel (hvalid : d.Valid) {a b : Declaration}
    (ha : a ∈ (Project.of d).declarations) (hb : b ∈ (Project.of d).declarations)
    (hkind : a.kind ∈ [ResourceKind.kernel, .hybridKernel])
    (hkind' : b.kind ∈ [ResourceKind.kernel, .hybridKernel]) : a.kind = b.kind := by
  have hkernel : ∀ {a : Declaration}, a ∈ (Project.of d).declarations →
      a.kind ∈ [ResourceKind.kernel, .hybridKernel] →
      ∃ k, (Project.of d).kernel? = some k ∧ a.kind = k.1.resourceKind := by
    intro a ha hkind
    obtain ⟨n, hn, w, hw, hdeclared⟩ := Project.workload_of_kind hvalid ha
      (List.mem_append_left [ResourceKind.deployment, .service] hkind)
    by_cases hc : (Project.of d).cluster.isSome
    · rcases (Project.mem_workloadDeclarations hc).1 hdeclared with rfl | rfl
      · exact absurd hkind (by simp)
      · exact absurd hkind (by simp)
    · rw [Project.workloadDeclarations, if_neg hc, List.mem_singleton] at hdeclared
      rw [hdeclared] at hkind ⊢
      simp only [Project.workloadsOf, Project.kernelWorkload, List.mem_append, List.mem_map,
        Option.mem_toList] at hw
      rcases hw with ((⟨k, hk, rfl⟩ | ⟨spec, -, rfl⟩) | ⟨spec, -, rfl⟩) | ⟨spec, -, rfl⟩
      · exact ⟨k, Project.kernel?_of_kernelOf? hk, rfl⟩
      all_goals exact absurd hkind (by simp)
  obtain ⟨k, hk, hak⟩ := hkernel ha hkind
  obtain ⟨k', hk', hbk⟩ := hkernel hb hkind'
  rw [hk, Option.some.injEq] at hk'
  rw [hak, hbk, hk']

end Description

end Groundwork
