import Groundwork.Proofs.Provisioning.Order

/-!
# What sorting answers

Sorting checks that ids are distinct, then that dependencies are known, and only then places
resources.  Each check is characterised by itself; the answer then depends on one settled list.

Main results:

- `firstDuplicate?_eq_none_iff`, `firstDangling?_eq_none_iff`: what the two checks let through.
- `sort_of_wellFormed`: for what they let through, the answer is the settled list if it misses
  nothing, and else the missing resources.
- `sort_eq_ok_iff`: sorting gives exactly the greedy order.
- `sort_greedy`: the order of a successful sort, with all that determines it.
-/

namespace Groundwork
namespace Provisioning

variable {resources : List Resource}

/-! ## The checks -/

/-- No duplicate is found exactly if the ids are distinct and none was seen before. -/
theorem firstDuplicate?_eq_none_iff {seen ids : List String} :
    firstDuplicate? seen ids = none ↔ ids.Nodup ∧ ∀ id ∈ ids, id ∉ seen := by
  induction ids generalizing seen with
  | nil => simp [firstDuplicate?]
  | cons id rest ih =>
    simp only [firstDuplicate?]
    split <;> rename_i hid
    · simp [hid]
    · rw [ih, List.nodup_cons, List.forall_mem_cons]
      constructor
      · rintro ⟨hnodup, hfresh⟩
        refine ⟨⟨fun hmem => hfresh id hmem List.mem_cons_self, hnodup⟩, hid, ?_⟩
        exact fun a ha hmem => hfresh a ha (List.mem_cons_of_mem id hmem)
      · rintro ⟨⟨hnew, hnodup⟩, -, hfresh⟩
        refine ⟨hnodup, ?_⟩
        intro a ha hmem
        rcases List.mem_cons.1 hmem with rfl | hmem
        · exact hnew ha
        · exact hfresh a ha hmem

/-- The id that a check reports is the first that occurred before. -/
theorem firstDuplicate?_eq_some {seen ids : List String} {id : String}
    (h : firstDuplicate? seen ids = some id) :
    ∃ before after, ids = before ++ id :: after ∧ before.Nodup ∧ (∀ a ∈ before, a ∉ seen) ∧
      (id ∈ before ∨ id ∈ seen) := by
  induction ids generalizing seen with
  | nil => simp [firstDuplicate?] at h
  | cons a rest ih =>
    simp only [firstDuplicate?] at h
    split at h <;> rename_i ha
    · cases h
      exact ⟨[], rest, rfl, List.nodup_nil, by simp, Or.inr ha⟩
    · obtain ⟨before, after, rfl, hnodup, hfresh, hid⟩ := ih h
      have hnew : a ∉ before := fun hmem => hfresh a hmem List.mem_cons_self
      refine ⟨a :: before, after, rfl, List.nodup_cons.2 ⟨hnew, hnodup⟩, ?_, ?_⟩
      · intro b hb
        rcases List.mem_cons.1 hb with rfl | hb
        · exact ha
        · exact fun hmem => hfresh b hb (List.mem_cons_of_mem a hmem)
      · rcases hid with hid | hid
        · exact Or.inl (List.mem_cons_of_mem a hid)
        · rcases List.mem_cons.1 hid with rfl | hid
          · exact Or.inl List.mem_cons_self
          · exact Or.inr hid

/-- Nothing dangling is found exactly if nothing dangles. -/
theorem firstDangling?_eq_none_iff :
    firstDangling? (resources.map (·.id)) resources = none ↔ NoDangling resources := by
  simp [firstDangling?, NoDangling]

/-- The pair that a check reports is the first one, by resource and then by dependency. -/
theorem firstDangling?_eq_some {ids : List String} {node missing : String}
    (h : firstDangling? ids resources = some (node, missing)) :
    ∃ before r after earlier later, resources = before ++ r :: after ∧
      (∀ s ∈ before, ∀ d ∈ s.dependsOn, d ∈ ids) ∧ r.id = node ∧
      r.dependsOn = earlier ++ missing :: later ∧ (∀ d ∈ earlier, d ∈ ids) ∧ missing ∉ ids := by
  obtain ⟨before, r, after, hsplit, hr, hbefore⟩ := List.findSome?_eq_some_iff.1 h
  obtain ⟨d, hd, hpair⟩ := Option.map_eq_some_iff.1 hr
  cases hpair
  obtain ⟨hmissing, earlier, later, hdeps, hearlier⟩ := List.find?_eq_some_iff_append.1 hd
  refine ⟨before, r, after, earlier, later, hsplit, ?_, rfl, hdeps, ?_, by simpa using hmissing⟩
  · intro s hs d hd
    have := hbefore s hs
    simp only [Option.map_eq_none_iff, List.find?_eq_none] at this
    simpa using this d hd
  · intro d hd
    simpa using hearlier d hd

/-! ## Placing -/

/-- A counter is positive at the end exactly for a resource that is missing. -/
theorem countP_dependencies_pos_iff {placed : List Nat} (hids : (resources.map (·.id)).Nodup)
    (hknown : NoDangling resources) (hlt : ∀ i ∈ placed, i < resources.length)
    (hsettled : Settled resources (placedIds resources placed)) {r : Resource}
    (hr : r ∈ resources) :
    0 < (r.dependsOn.map fun id => (resources.map (·.id)).idxOf id).countP (· ∉ placed) ↔
      r.id ∉ placedIds resources placed := by
  have hpos : 0 < (r.dependsOn.map fun id => (resources.map (·.id)).idxOf id).countP
        (· ∉ placed) ↔ ∃ d ∈ r.dependsOn, d ∉ placedIds resources placed := by
    rw [List.countP_pos_iff]
    simp only [List.mem_map, decide_not, Bool.not_eq_true', decide_eq_false_iff_not,
      exists_exists_and_eq_and]
    refine exists_congr fun d => and_congr_right fun hd => ?_
    rw [mem_placedIds_iff hids hlt (hknown r hr d hd)]
  rw [hpos]
  constructor
  · rintro ⟨d, hd, hmissing⟩ hmem
    obtain ⟨before, after, heq, hbefore⟩ := hsettled.greedy.precedes hids hr hmem hd
    exact hmissing (heq ▸ List.mem_append_left _ hbefore)
  · exact hsettled.stuck r hr

/-- The resources whose counters stay positive are the missing ones. -/
theorem filterMap_waiting {placed : List Nat} (hids : (resources.map (·.id)).Nodup)
    (hknown : NoDangling resources) (hlt : ∀ i ∈ placed, i < resources.length)
    (hsettled : Settled resources (placedIds resources placed)) :
    (((resources.map (·.id)).zip
        (Progress.after (dependencyIndices resources) placed).waiting).filterMap
          fun (id, count) => if 0 < count then some id else none) =
      (resources.map (·.id)).filter (· ∉ placedIds resources placed) := by
  simp only [Progress.after, dependencyIndices, List.map_map, List.zip_map',
    ← List.filterMap_eq_filter, List.filterMap_map]
  apply List.filterMap_congr
  intro r hr
  simp only [Function.comp_apply, countP_dependencies_pos_iff hids hknown hlt hsettled hr]
  by_cases hmissing : r.id ∈ placedIds resources placed
  · simp [hmissing, Option.guard]
  · simp [hmissing, Option.guard]

/-- What sorting answers for resources that pass both checks. -/
theorem sort_of_wellFormed (hids : (resources.map (·.id)).Nodup)
    (hknown : NoDangling resources) :
    ∃ order, Settled resources order ∧
      sort resources =
        if order.length = resources.length then .ok order
        else .error (.cycle ((resources.map (·.id)).filter (· ∉ order))) := by
  obtain ⟨placed, hrun, hlt, hsettled⟩ := exists_settled hids hknown
  refine ⟨placedIds resources placed, hsettled, ?_⟩
  have hduplicate : firstDuplicate? [] (resources.map (·.id)) = none :=
    firstDuplicate?_eq_none_iff.2 ⟨hids, by simp⟩
  have hdangling := firstDangling?_eq_none_iff.2 hknown
  simp only [sort, hduplicate, hdangling, hrun]
  rw [filterMap_waiting hids hknown hlt hsettled, length_placedIds]
  rfl

/-- Sorting fails at the first check that fails, and else answers as for well-formed resources. -/
theorem sort_cases (resources : List Resource) :
    (∃ id, firstDuplicate? [] (resources.map (·.id)) = some id ∧
        sort resources = .error (.duplicate id)) ∨
      ((resources.map (·.id)).Nodup ∧ ∃ node missing,
        firstDangling? (resources.map (·.id)) resources = some (node, missing) ∧
        sort resources = .error (.dangling node missing)) ∨
      ((resources.map (·.id)).Nodup ∧ NoDangling resources) := by
  cases hduplicate : firstDuplicate? [] (resources.map (·.id)) with
  | some id =>
    refine Or.inl ⟨id, rfl, ?_⟩
    simp only [sort, hduplicate]
  | none =>
    have hids := (firstDuplicate?_eq_none_iff.1 hduplicate).1
    cases hdangling : firstDangling? (resources.map (·.id)) resources with
    | some pair =>
      obtain ⟨node, missing⟩ := pair
      refine Or.inr (Or.inl ⟨hids, node, missing, rfl, ?_⟩)
      simp only [sort, hduplicate, hdangling]
    | none => exact Or.inr (Or.inr ⟨hids, firstDangling?_eq_none_iff.1 hdangling⟩)

/-- Resources that can be sorted have distinct ids and known dependencies. -/
theorem wellFormed_of_sort_eq_ok {order : List String} (h : sort resources = .ok order) :
    (resources.map (·.id)).Nodup ∧ NoDangling resources := by
  rcases sort_cases resources with ⟨id, -, herr⟩ | ⟨-, node, missing, -, herr⟩ | hwell
  · rw [herr] at h
    cases h
  · rw [herr] at h
    cases h
  · exact hwell

/-- An unknown dependency that is reported is one of a resource. -/
theorem exists_of_sort_eq_dangling {node missing : String}
    (h : sort resources = .error (.dangling node missing)) :
    ∃ r ∈ resources, missing ∈ r.dependsOn ∧ missing ∉ resources.map (·.id) := by
  rcases sort_cases resources with ⟨id, -, herr⟩ | ⟨-, node', missing', hfirst, herr⟩ |
    ⟨hids, hknown⟩
  · rw [herr] at h
    cases h
  · rw [herr] at h
    cases h
    obtain ⟨before, r, after, earlier, later, rfl, -, -, hdeps, -, hmissing⟩ :=
      firstDangling?_eq_some hfirst
    refine ⟨r, by simp, ?_, hmissing⟩
    rw [hdeps]
    exact List.mem_append_right _ List.mem_cons_self
  · obtain ⟨order, -, hsort⟩ := sort_of_wellFormed hids hknown
    rw [hsort] at h
    split at h
    · cases h
    · cases h

/-! ## The greedy order -/

/-- What has a greedy order has ids without repeats. -/
theorem IsGreedyOrder.nodup_ids {order : List String} (h : IsGreedyOrder resources order) :
    (resources.map (·.id)).Nodup :=
  h.perm.nodup_iff.1 h.greedy.nodup

/-- Resources that have a greedy order have no unknown dependency. -/
theorem IsGreedyOrder.noDangling {order : List String} (h : IsGreedyOrder resources order) :
    NoDangling resources := by
  intro r hr d hd
  have hmem : r.id ∈ order := h.perm.mem_iff.2 (List.mem_map_of_mem hr)
  obtain ⟨before, after, heq, hbefore⟩ := h.greedy.precedes h.nodup_ids hr hmem hd
  exact h.perm.mem_iff.1 (heq ▸ List.mem_append_left _ hbefore)

/-- Sorting gives exactly the greedy order. -/
theorem sort_eq_ok_iff {order : List String} :
    sort resources = .ok order ↔ IsGreedyOrder resources order := by
  constructor
  · intro h
    obtain ⟨hids, hknown⟩ := wellFormed_of_sort_eq_ok h
    obtain ⟨settled, hsettled, hsort⟩ := sort_of_wellFormed hids hknown
    rw [hsort] at h
    split at h <;> rename_i hlen
    · cases h
      exact hsettled.isGreedyOrder hlen
    · cases h
  · intro h
    obtain ⟨settled, hsettled, hsort⟩ := sort_of_wellFormed h.nodup_ids h.noDangling
    have hle : order.length ≤ settled.length :=
      (List.subperm_of_subset h.greedy.nodup
        (hsettled.subset_of_isGreedy h.greedy)).length_le
    have hge : settled.length ≤ resources.length := by
      simpa using (List.subperm_of_subset hsettled.greedy.nodup hsettled.greedy.subset).length_le
    have hall : order.length = resources.length := by simpa using h.perm.length_eq
    have hlen : settled.length = resources.length := by omega
    rw [hsort, if_pos hlen, (hsettled.isGreedyOrder hlen).eq h]

/-- The same resources up to the order and the repetitions of their dependencies. -/
def SameDependencies (resources others : List Resource) : Prop :=
  List.Forall₂ (fun r s => r.id = s.id ∧ ∀ d, d ∈ r.dependsOn ↔ d ∈ s.dependsOn) resources others

/-- Entries with the same dependencies have the same ids. -/
theorem SameDependencies.map_id {others : List Resource} (h : SameDependencies resources others) :
    resources.map (·.id) = others.map (·.id) := by
  induction h with
  | nil => rfl
  | cons hrs _ ih => rw [List.map_cons, List.map_cons, hrs.1, ih]

/-- What is next depends on nothing but the ids and the dependencies. -/
theorem SameDependencies.isNext {others : List Resource} (h : SameDependencies resources others)
    {before : List String} {id : String} (hnext : IsNext resources before id) :
    IsNext others before id := by
  have hfollow : ∀ {r s : Resource}, r.id = s.id → (∀ d, d ∈ r.dependsOn ↔ d ∈ s.dependsOn) →
      (CanFollow before r ↔ CanFollow before s) := by
    intro r s hid hdeps
    simp only [CanFollow, hid, hdeps]
  obtain ⟨hlen, hget⟩ := List.forall₂_iff_get.1 h
  obtain ⟨i, r, hi, hid, hr, hleast⟩ := hnext
  obtain ⟨hilt, rfl⟩ := List.getElem?_eq_some_iff.1 hi
  have hi' := hget i hilt (hlen ▸ hilt)
  refine ⟨i, others[i], List.getElem?_eq_getElem _, hi'.1 ▸ hid, (hfollow hi'.1 hi'.2).1 hr, ?_⟩
  intro j s hj hs
  obtain ⟨hjlt, rfl⟩ := List.getElem?_eq_some_iff.1 hj
  have hj' := hget j (hlen ▸ hjlt) hjlt
  exact hleast j _ (List.getElem?_eq_getElem _) ((hfollow hj'.1 hj'.2).2 hs)

/-- A greedy order does not depend on the order or the repetitions of dependencies. -/
theorem SameDependencies.isGreedyOrder {others : List Resource}
    (h : SameDependencies resources others) {order : List String}
    (horder : IsGreedyOrder resources order) : IsGreedyOrder others order where
  perm := h.map_id ▸ horder.perm
  greedy := fun before id after heq => h.isNext (horder.greedy before id after heq)

/-- Every resource waits only for resources declared before it. -/
def Backward (resources : List Resource) : Prop :=
  ∀ before r after, resources = before ++ r :: after → r.dependsOn ⊆ before.map (·.id)

/-- A resource is next once exactly the ones before it are placed, if it waits only for these. -/
theorem isNext_of_subset {before after : List Resource} {r : Resource} {placed : List String}
    (hids : ((before ++ r :: after).map (·.id)).Nodup)
    (hplaced : ∀ id, id ∈ placed ↔ id ∈ before.map (·.id))
    (hback : r.dependsOn ⊆ before.map (·.id)) : IsNext (before ++ r :: after) placed r.id := by
  have hnew : r.id ∉ before.map (·.id) := by
    rw [List.map_append, List.map_cons, List.nodup_append] at hids
    exact fun hmem => hids.2.2 r.id hmem r.id List.mem_cons_self rfl
  refine ⟨before.length, r, by simp, rfl, ⟨fun hmem => hnew ((hplaced _).1 hmem), ?_⟩, ?_⟩
  · exact fun d hd => (hplaced d).2 (hback hd)
  · -- Whatever stands before `r` is placed already.
    intro j s hj hs
    by_contra hlt
    rw [List.getElem?_append_left (Nat.lt_of_not_le hlt)] at hj
    exact hs.1 ((hplaced _).2 (List.mem_map_of_mem (List.mem_of_getElem? hj)))

/-- If no resource waits for a later one, the order of declaration is the greedy order. -/
theorem Backward.isGreedyOrder (h : Backward resources) (hids : (resources.map (·.id)).Nodup) :
    IsGreedyOrder resources (resources.map (·.id)) where
  perm := List.Perm.refl _
  greedy := by
    intro placed id rest heq
    obtain ⟨before, later, rfl, rfl, hlater⟩ := List.map_eq_append_iff.1 heq
    obtain ⟨r, after, rfl, rfl, -⟩ := List.map_eq_cons_iff.1 hlater
    exact isNext_of_subset hids (fun _ => Iff.rfl) (h before r after rfl)

/-- The order that sorting gives: a permutation of the ids with every dependency before what waits
for it, in which at every place stands the resource that was declared first among those that can
come next.  It is the only such order, and neither the order nor the repetition of dependencies
changes it. -/
theorem sort_greedy {order : List String} (h : sort resources = .ok order) :
    order.Perm (resources.map (·.id)) ∧ order.Nodup ∧
      (∀ r ∈ resources, ∀ d ∈ r.dependsOn, Precedes order d r.id) ∧
      IsGreedy resources order ∧
      (∀ other, IsGreedyOrder resources other → other = order) ∧
      (∀ others, SameDependencies resources others → sort others = .ok order) := by
  have horder := sort_eq_ok_iff.1 h
  refine ⟨horder.perm, horder.greedy.nodup, ?_, horder.greedy, ?_, ?_⟩
  · intro r hr d hd
    exact horder.greedy.precedes horder.nodup_ids hr
      (horder.perm.mem_iff.2 (List.mem_map_of_mem hr)) hd
  · intro other hother
    exact hother.eq horder
  · intro others hothers
    exact sort_eq_ok_iff.2 (hothers.isGreedyOrder horder)

/-- A topic with some dependencies. -/
def plainTopic (id : String) (dependsOn : List String) : Resource where
  id := id
  typeTag := "gcp:pubsub_topic"
  name := id
  config := .topic ⟨id, none, none⟩
  dependsOn := dependsOn
  network := none

/-- What becomes ready late still comes before what was declared after it, and a dependency may be
listed twice. -/
theorem sort_greedy_late :
    sort [plainTopic "first" ["root", "root"], plainTopic "root" [], plainTopic "second" []] =
        .ok ["root", "first", "second"] ∧
      Precedes ["root", "first", "second"] "root" "first" :=
  have h : sort [plainTopic "first" ["root", "root"], plainTopic "root" [],
      plainTopic "second" []] = .ok ["root", "first", "second"] := by
    decide
  ⟨h, (sort_greedy h).2.2.1 _ List.mem_cons_self _ List.mem_cons_self⟩

end Provisioning
end Groundwork
