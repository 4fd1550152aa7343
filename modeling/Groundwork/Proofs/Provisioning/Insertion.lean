import Groundwork.Proofs.Provisioning.Sort

/-!
# One more resource

A resource that nothing waits for can be put anywhere among resources that can be ordered.  It takes
a place of its own in the order, and whenever another one is next, that one would be next without
it.  So the others keep the order that they have by themselves.

Main results:

- `IsNext.of_insertion`: what is next beside the new resource is next without it.
- `Settled.of_insertion`: placing as far as possible commutes with leaving the new resource out.
- `sort_insertion`: the order with the new resource is the order without it, with one id put in.
-/

namespace Groundwork
namespace Provisioning

variable {first last : List Resource} {n : Resource} {order placed : List String}

/-! ## Indices -/

/-- Where the element at an index stands once a new one is put in at `k`. -/
def shifted (k i : Nat) : Nat :=
  if i < k then i else i + 1

/-- Shifting keeps the order of indices. -/
theorem le_of_shifted_le_shifted {k i j : Nat} (h : shifted k i ≤ shifted k j) : i ≤ j := by
  unfold shifted at h
  split at h <;> split at h <;> omega

/-- An entry is found where it was, or one place later if it stood behind the new one. -/
theorem getElem?_shifted (i : Nat) :
    (first ++ n :: last)[shifted first.length i]? = (first ++ last)[i]? := by
  unfold shifted
  split <;> rename_i hi
  · rw [List.getElem?_append_left hi, List.getElem?_append_left hi]
  · have hle : first.length ≤ i := Nat.le_of_not_lt hi
    rw [List.getElem?_append_right hle, List.getElem?_append_right (Nat.le_succ_of_le hle),
      Nat.succ_sub hle, List.getElem?_cons_succ]

/-- Every other resource stands at a shifted index. -/
theorem exists_eq_shifted {i : Nat} {r : Resource} (hi : (first ++ n :: last)[i]? = some r)
    (hr : r ≠ n) : ∃ j, i = shifted first.length j := by
  rcases Nat.lt_trichotomy i first.length with hlt | rfl | hgt
  · exact ⟨i, by rw [shifted, if_pos hlt]⟩
  · simp at hi
    exact absurd hi.symm hr
  · refine ⟨i - 1, ?_⟩
    have hge : ¬ i - 1 < first.length := by omega
    rw [shifted, if_neg hge]
    omega

/-! ## What is next -/

/-- An id that a resource neither has nor waits for does not matter to whether it can follow. -/
theorem canFollow_filter_iff {r : Resource} {id : String} (hid : r.id ≠ id)
    (hfree : id ∉ r.dependsOn) :
    CanFollow (placed.filter (· ≠ id)) r ↔ CanFollow placed r := by
  have hmem : ∀ a, a ≠ id → (a ∈ placed.filter (· ≠ id) ↔ a ∈ placed) := by
    intro a ha
    simp [ha]
  have hdeps : (∀ d ∈ r.dependsOn, d ∈ placed.filter (· ≠ id)) ↔ ∀ d ∈ r.dependsOn, d ∈ placed :=
    forall₂_congr fun d hd => hmem d fun heq => hfree (heq ▸ hd)
  rw [CanFollow, CanFollow, hmem _ hid, hdeps]

/-- What is next beside the new resource is next without it. -/
theorem IsNext.of_insertion {id : String} (h : IsNext (first ++ n :: last) placed id)
    (hid : id ≠ n.id) (hnew : n.id ∉ (first ++ last).map (·.id))
    (hfree : ∀ r ∈ first ++ last, n.id ∉ r.dependsOn) :
    IsNext (first ++ last) (placed.filter (· ≠ n.id)) id := by
  have hsame : ∀ {r : Resource}, r ∈ first ++ last →
      (CanFollow (placed.filter (· ≠ n.id)) r ↔ CanFollow placed r) := by
    intro r hr
    have hne : r.id ≠ n.id := fun heq => hnew (heq ▸ List.mem_map_of_mem hr)
    exact canFollow_filter_iff hne (hfree r hr)
  obtain ⟨i, r, hi, rfl, hr, hleast⟩ := h
  obtain ⟨i, rfl⟩ := exists_eq_shifted hi (fun heq => hid (congrArg Resource.id heq))
  rw [getElem?_shifted] at hi
  refine ⟨i, r, hi, rfl, (hsame (List.mem_of_getElem? hi)).2 hr, ?_⟩
  intro j s hj hs
  apply le_of_shifted_le_shifted (k := first.length)
  apply hleast _ s
  · rw [getElem?_shifted, hj]
  · exact (hsame (List.mem_of_getElem? hj)).1 hs

/-! ## Greedy lists -/

/-- A greedy list is greedy without the new resource. -/
theorem IsGreedy.of_insertion (h : IsGreedy (first ++ n :: last) order)
    (hnew : n.id ∉ (first ++ last).map (·.id)) (hfree : ∀ r ∈ first ++ last, n.id ∉ r.dependsOn) :
    IsGreedy (first ++ last) (order.filter (· ≠ n.id)) := by
  induction order using List.reverseRecOn with
  | nil => exact isGreedy_nil
  | append_singleton order id ih =>
    rw [isGreedy_concat_iff] at h
    rw [List.filter_append]
    by_cases hid : id = n.id
    · simpa [hid] using ih h.1
    · have hkeep : [id].filter (· ≠ n.id) = [id] := by simp [hid]
      rw [hkeep, isGreedy_concat_iff]
      exact ⟨ih h.1, h.2.of_insertion hid hnew hfree⟩

/-- What is stuck beside the new resource is stuck without it. -/
theorem Settled.of_insertion (h : Settled (first ++ n :: last) order)
    (hnew : n.id ∉ (first ++ last).map (·.id)) (hfree : ∀ r ∈ first ++ last, n.id ∉ r.dependsOn) :
    Settled (first ++ last) (order.filter (· ≠ n.id)) where
  greedy := h.greedy.of_insertion hnew hfree
  stuck := by
    intro r hr hmissing
    have hne : r.id ≠ n.id := fun heq => hnew (heq ▸ List.mem_map_of_mem hr)
    have hmem : r ∈ first ++ n :: last :=
      ((List.sublist_cons_self n last).append_left first).subset hr
    obtain ⟨d, hd, hunplaced⟩ := h.stuck r hmem fun hplaced =>
      hmissing (List.mem_filter.2 ⟨hplaced, by simpa using hne⟩)
    exact ⟨d, hd, fun hplaced => hunplaced (List.mem_of_mem_filter hplaced)⟩

/-- A settled list that misses nothing has as many elements as there are resources. -/
theorem Settled.length_eq {resources : List Resource} (h : Settled resources order)
    (hids : (resources.map (·.id)).Nodup) (hall : resources.map (·.id) ⊆ order) :
    order.length = resources.length := by
  have hle := (List.subperm_of_subset hids hall).length_le
  have hge := (List.subperm_of_subset h.greedy.nodup h.greedy.subset).length_le
  rw [List.length_map] at hle hge
  exact le_antisymm hge hle

/-! ## The checks -/

theorem perm_map_id_insertion :
    ((first ++ n :: last).map (·.id)).Perm (n.id :: (first ++ last).map (·.id)) :=
  List.perm_middle.map _

theorem mem_map_id_insertion {id : String} :
    id ∈ (first ++ n :: last).map (·.id) ↔ id = n.id ∨ id ∈ (first ++ last).map (·.id) := by
  rw [perm_map_id_insertion.mem_iff, List.mem_cons]

theorem nodup_map_id_insertion (hids : ((first ++ last).map (·.id)).Nodup)
    (hnew : n.id ∉ (first ++ last).map (·.id)) : ((first ++ n :: last).map (·.id)).Nodup := by
  rw [perm_map_id_insertion.nodup_iff, List.nodup_cons]
  exact ⟨hnew, hids⟩

/-- Nothing dangles after the insertion of an entry that depends on known ones. -/
theorem NoDangling.insertion (h : NoDangling (first ++ last))
    (hknown : n.dependsOn ⊆ (first ++ last).map (·.id)) : NoDangling (first ++ n :: last) := by
  intro r hr d hd
  rw [mem_map_id_insertion]
  right
  rcases List.mem_cons.1 (List.perm_middle.mem_iff.1 hr) with rfl | hr
  · exact hknown hd
  · exact h r hr d hd

/-! ## The order -/

/-- Where all others can be ordered, placing misses nothing: all others are placed, so nothing is
left that the new resource could wait for. -/
theorem Settled.map_id_subset_of_insertion {order' : List String}
    (h : Settled (first ++ n :: last) order') (horder : IsGreedyOrder (first ++ last) order)
    (hrest : Settled (first ++ last) (order'.filter (· ≠ n.id)))
    (hknown : n.dependsOn ⊆ (first ++ last).map (·.id)) :
    (first ++ n :: last).map (·.id) ⊆ order' := by
  have hothers : (first ++ last).map (·.id) ⊆ order' := by
    intro id hid
    have hplaced := hrest.subset_of_isGreedy horder.greedy (horder.perm.mem_iff.2 hid)
    exact List.mem_of_mem_filter hplaced
  intro id hid
  rcases mem_map_id_insertion.1 hid with rfl | hid
  · by_contra hmissing
    obtain ⟨d, hd, hunplaced⟩ := h.stuck n (by simp) hmissing
    exact hunplaced (hothers (hknown hd))
  · exact hothers hid

/-- A resource with a new id and known dependencies, put anywhere among resources that can be
ordered, can be ordered with them, and without it the order is the one that they have by
themselves.  None of them can wait for it, since it is unknown to them. -/
theorem sort_insertion (first last : List Resource) (n : Resource)
    (hnew : n.id ∉ (first ++ last).map (·.id))
    (hknown : n.dependsOn ⊆ (first ++ last).map (·.id)) (h : sort (first ++ last) = .ok order) :
    ∃ order', sort (first ++ n :: last) = .ok order' ∧ n.id ∈ order' ∧
      order'.erase n.id = order := by
  have horder := sort_eq_ok_iff.1 h
  have hids := nodup_map_id_insertion horder.nodup_ids hnew
  obtain ⟨order', hsettled, hsort⟩ :=
    sort_of_wellFormed hids (horder.noDangling.insertion hknown)
  have hrest := hsettled.of_insertion hnew fun r hr hd => hnew (horder.noDangling r hr n.id hd)
  have hall := hsettled.map_id_subset_of_insertion horder hrest hknown
  have hself : n.id ∈ order' := hall (mem_map_id_insertion.2 (Or.inl rfl))
  have hlen := hsettled.length_eq hids hall
  have herase : order'.filter (· ≠ n.id) = order'.erase n.id := by
    rw [hsettled.greedy.nodup.erase_eq_filter]
    exact List.filter_congr fun id _ => by rw [Bool.eq_iff_iff]; simp
  rw [herase] at hrest
  have hlen' : (order'.erase n.id).length = (first ++ last).length := by
    rw [List.length_erase_of_mem hself, hlen, List.length_append, List.length_append,
      List.length_cons, Nat.add_succ_sub_one]
  exact ⟨order', by rw [hsort, if_pos hlen], hself, (hrest.isGreedyOrder hlen').eq horder⟩

/-- A topic that becomes ready between two others, and takes its place there. -/
theorem sort_insertion_topic :
    "new" ∉ ["late", "root", "side"] ∧ ["root"] ⊆ ["late", "root", "side"] ∧
      sort [plainTopic "late" ["side"], plainTopic "root" [], plainTopic "side" []] =
        .ok ["root", "side", "late"] ∧
      ∃ order', sort [plainTopic "late" ["side"], plainTopic "new" ["root"],
          plainTopic "root" [], plainTopic "side" []] = .ok order' ∧
        "new" ∈ order' ∧ order'.erase "new" = ["root", "side", "late"] := by
  have hnew : "new" ∉ ["late", "root", "side"] := by decide
  have hknown : ["root"] ⊆ ["late", "root", "side"] := by decide
  have hsort : sort [plainTopic "late" ["side"], plainTopic "root" [], plainTopic "side" []] =
      .ok ["root", "side", "late"] := by
    decide
  exact ⟨hnew, hknown, hsort,
    sort_insertion [plainTopic "late" ["side"]] [plainTopic "root" [], plainTopic "side" []]
      (plainTopic "new" ["root"]) hnew hknown hsort⟩

end Provisioning
end Groundwork
