import Groundwork.Proofs.Provisioning.Progress
import Mathlib.Data.List.Induction

/-!
# What an order of ids says

The order is computed on declaration indices and read off as ids.  This module says in terms of ids
what the order is for: which resource can come next, when a whole order is the greedy one, and how
far the order gets for resources with distinct ids and no unknown dependency.

Main results:

- `IsGreedyOrder`: at every place stands the resource that was declared first among those that can
  come next.
- `IsGreedyOrder.eq`: there is at most one such order.
- `exists_settled`: placing resources ends in a greedy list after which nothing can come next.
-/

namespace Groundwork
namespace Provisioning

variable {resources : List Resource} {placed : List Nat}

/-! ## Orders -/

/-- `a` stands before `b` in a list. -/
def Precedes (order : List String) (a b : String) : Prop :=
  ∃ before after, order = before ++ b :: after ∧ a ∈ before

/-- Every dependency is the id of a resource. -/
def NoDangling (resources : List Resource) : Prop :=
  ∀ r ∈ resources, ∀ d ∈ r.dependsOn, d ∈ resources.map (·.id)

/-- A resource can come after some ids: it is none of them, and its dependencies all are. -/
def CanFollow (placed : List String) (r : Resource) : Prop :=
  r.id ∉ placed ∧ ∀ d ∈ r.dependsOn, d ∈ placed

/-- The id of the resource with the least declaration index among those that can come next. -/
def IsNext (resources : List Resource) (placed : List String) (id : String) : Prop :=
  ∃ (i : Nat) (r : Resource), resources[i]? = some r ∧ r.id = id ∧ CanFollow placed r ∧
    ∀ (j : Nat) (s : Resource), resources[j]? = some s → CanFollow placed s → i ≤ j

/-- Every id of a list is the next one after those before it. -/
def IsGreedy (resources : List Resource) (order : List String) : Prop :=
  ∀ before id after, order = before ++ id :: after → IsNext resources before id

/-- The greedy order of some resources: their ids, each the next one after those before it. -/
structure IsGreedyOrder (resources : List Resource) (order : List String) : Prop where
  perm : order.Perm (resources.map (·.id))
  greedy : IsGreedy resources order

/-! ## Greedy lists -/

/-- Only one entry is next. -/
theorem IsNext.unique {before : List String} {a b : String} (ha : IsNext resources before a)
    (hb : IsNext resources before b) : a = b := by
  obtain ⟨i, r, hi, rfl, hr, hileast⟩ := ha
  obtain ⟨j, s, hj, rfl, hs, hjleast⟩ := hb
  have hij : i = j := le_antisymm (hileast j s hj hs) (hjleast i r hi hr)
  subst j
  rw [hi] at hj
  cases hj
  rfl

/-- The empty order is greedy. -/
theorem isGreedy_nil : IsGreedy resources [] := by
  intro before id after h
  simp at h

/-- A list with one more id is greedy if the list is and the id is the next one. -/
theorem isGreedy_concat_iff {order : List String} {id : String} :
    IsGreedy resources (order ++ [id]) ↔ IsGreedy resources order ∧ IsNext resources order id := by
  constructor
  · intro h
    refine ⟨?_, h order id [] rfl⟩
    rintro before a after rfl
    exact h before a (after ++ [id]) (by simp)
  · rintro ⟨hgreedy, hnext⟩ before a after heq
    rcases List.eq_nil_or_concat after with rfl | ⟨after', z, rfl⟩
    · obtain ⟨rfl, hlast⟩ := List.append_inj' heq rfl
      cases hlast
      exact hnext
    · have heq' : order ++ [id] = (before ++ a :: after') ++ [z] := by simpa using heq
      obtain ⟨rfl, -⟩ := List.append_inj' heq' rfl
      exact hgreedy before a after' rfl

/-- Two greedy lists of the same length are equal. -/
theorem IsGreedy.eq {order other : List String} (horder : IsGreedy resources order)
    (hother : IsGreedy resources other) (hlen : order.length = other.length) : order = other := by
  induction order using List.reverseRecOn generalizing other with
  | nil => exact (List.length_eq_zero_iff.1 hlen.symm).symm
  | append_singleton order id ih =>
    rcases List.eq_nil_or_concat other with rfl | ⟨other', id', rfl⟩
    · simp at hlen
    · rw [isGreedy_concat_iff] at horder
      rw [List.concat_eq_append, isGreedy_concat_iff] at hother
      have hsame : order = other' := ih horder.1 hother.1 (by simpa using hlen)
      subst hsame
      rw [horder.2.unique hother.2, List.concat_eq_append]

/-- There is at most one greedy order. -/
theorem IsGreedyOrder.eq {order other : List String} (horder : IsGreedyOrder resources order)
    (hother : IsGreedyOrder resources other) : order = other :=
  horder.greedy.eq hother.greedy (horder.perm.length_eq.trans hother.perm.length_eq.symm)

/-- A greedy order has only entries that there are. -/
theorem IsGreedy.subset {order : List String} (hgreedy : IsGreedy resources order) :
    order ⊆ resources.map (·.id) := by
  intro id hid
  obtain ⟨before, after, heq⟩ := List.append_of_mem hid
  obtain ⟨i, r, hi, rfl, -⟩ := hgreedy before id after heq
  exact List.mem_map_of_mem (List.mem_of_getElem? hi)

/-- No id comes twice in a greedy list, since the next id is a new one. -/
theorem IsGreedy.nodup {order : List String} (hgreedy : IsGreedy resources order) :
    order.Nodup := by
  induction order using List.reverseRecOn with
  | nil => exact List.nodup_nil
  | append_singleton order id ih =>
    obtain ⟨hinit, i, r, hi, rfl, hr, -⟩ := isGreedy_concat_iff.1 hgreedy
    exact List.nodup_append.2 ⟨ih hinit, List.nodup_singleton _, fun a ha b hb => by
      rw [List.mem_singleton] at hb
      subst b
      exact fun hab => hr.1 (hab ▸ ha)⟩

/-- In a greedy list every dependency of a resource stands before it. -/
theorem IsGreedy.precedes {order : List String} (hgreedy : IsGreedy resources order)
    (hids : (resources.map (·.id)).Nodup) {r : Resource} (hr : r ∈ resources)
    (hmem : r.id ∈ order) {d : String} (hd : d ∈ r.dependsOn) : Precedes order d r.id := by
  obtain ⟨before, after, heq⟩ := List.append_of_mem hmem
  obtain ⟨i, s, hi, hid, hs, -⟩ := hgreedy before r.id after heq
  have hsr : s = r := List.inj_on_of_nodup_map hids (List.mem_of_getElem? hi) hr hid
  subst s
  exact ⟨before, after, heq, hs.2 d hd⟩

/-! ## From declaration indices to ids -/

/-- The ids of placed resources, in the order in which they were placed. -/
def placedIds (resources : List Resource) (placed : List Nat) : List String :=
  placed.reverse.map fun i => (resources.map (·.id))[i]?.getD ""

/-- The entry that is placed comes last in the order. -/
theorem placedIds_cons {i : Nat} {r : Resource} (hi : resources[i]? = some r) :
    placedIds resources (i :: placed) = placedIds resources placed ++ [r.id] := by
  simp [placedIds, hi]

/-- The order is as long as there are entries placed. -/
@[simp]
theorem length_placedIds : (placedIds resources placed).length = placed.length := by
  simp [placedIds]

/-- Every entry has dependencies, if only none. -/
@[simp]
theorem length_dependencyIndices (resources : List Resource) :
    (dependencyIndices resources).length = resources.length := by
  simp [dependencyIndices]

/-- The dependencies of an entry, as places. -/
theorem dependenciesOf_dependencyIndices {i : Nat} {r : Resource} (hi : resources[i]? = some r) :
    Progress.dependenciesOf (dependencyIndices resources) i =
      r.dependsOn.map fun id => (resources.map (·.id)).idxOf id := by
  simp [Progress.dependenciesOf, dependencyIndices, hi]

/-- An id is among those of the placed resources exactly if its index is placed. -/
theorem mem_placedIds_iff (hids : (resources.map (·.id)).Nodup)
    (hlt : ∀ i ∈ placed, i < resources.length) {id : String}
    (hid : id ∈ resources.map (·.id)) :
    id ∈ placedIds resources placed ↔ (resources.map (·.id)).idxOf id ∈ placed := by
  simp only [placedIds, List.mem_map, List.mem_reverse]
  constructor
  · rintro ⟨i, hi, rfl⟩
    have hlen : i < (resources.map (·.id)).length := by simpa using hlt i hi
    rw [List.getElem?_eq_getElem hlen, Option.getD_some, hids.idxOf_getElem i hlen]
    exact hi
  · intro hmem
    refine ⟨_, hmem, ?_⟩
    rw [List.getElem?_idxOf hid, Option.getD_some]

/-- The id of a resource is found at its declaration index. -/
theorem idxOf_id (hids : (resources.map (·.id)).Nodup) {i : Nat} {r : Resource}
    (hi : resources[i]? = some r) : (resources.map (·.id)).idxOf r.id = i := by
  obtain ⟨hlt, rfl⟩ := List.getElem?_eq_some_iff.1 hi
  have := hids.idxOf_getElem i (by simpa using hlt)
  rwa [List.getElem_map] at this

/-- What can follow is the same by index and by id. -/
theorem progress_canFollow_iff (hids : (resources.map (·.id)).Nodup)
    (hknown : NoDangling resources) (hlt : ∀ i ∈ placed, i < resources.length) {i : Nat}
    {r : Resource} (hi : resources[i]? = some r) :
    Progress.CanFollow (dependencyIndices resources) placed i ↔
      CanFollow (placedIds resources placed) r := by
  have hr : r ∈ resources := List.mem_of_getElem? hi
  have hbound : i < resources.length := (List.getElem?_eq_some_iff.1 hi).1
  have hself : r.id ∈ placedIds resources placed ↔ i ∈ placed := by
    rw [mem_placedIds_iff hids hlt (List.mem_map_of_mem hr), idxOf_id hids hi]
  have hdeps : (∀ d ∈ Progress.dependenciesOf (dependencyIndices resources) i, d ∈ placed) ↔
      ∀ d ∈ r.dependsOn, d ∈ placedIds resources placed := by
    rw [dependenciesOf_dependencyIndices hi, List.forall_mem_map]
    refine forall₂_congr fun d hd => ?_
    rw [mem_placedIds_iff hids hlt (hknown r hr d hd)]
  simp only [Progress.CanFollow, CanFollow, length_dependencyIndices, hbound, true_and, hself,
    hdeps]

/-- The least index that can follow gives the next id. -/
theorem isNext_of_progress_next (hids : (resources.map (·.id)).Nodup)
    (hknown : NoDangling resources) (hlt : ∀ i ∈ placed, i < resources.length) {i : Nat}
    {r : Resource} (hi : resources[i]? = some r)
    (hnext : Progress.Next (dependencyIndices resources) placed i) :
    IsNext resources (placedIds resources placed) r.id := by
  refine ⟨i, r, hi, rfl, (progress_canFollow_iff hids hknown hlt hi).1 hnext.1, ?_⟩
  intro j s hj hs
  exact hnext.2 j ((progress_canFollow_iff hids hknown hlt hj).2 hs)

/-- Every list that steps build is greedy in terms of ids. -/
theorem isGreedy_placedIds (hids : (resources.map (·.id)).Nodup) (hknown : NoDangling resources)
    (h : Progress.Reached (dependencyIndices resources) placed) :
    IsGreedy resources (placedIds resources placed) := by
  induction h with
  | start => exact isGreedy_nil
  | @place placed i hplaced hnext ih =>
    have hlt : ∀ j ∈ placed, j < resources.length := by simpa using hplaced.lt
    have hbound : i < resources.length := by simpa using hnext.1.1
    have hi : resources[i]? = some resources[i] := List.getElem?_eq_getElem hbound
    rw [placedIds_cons hi, isGreedy_concat_iff]
    exact ⟨ih, isNext_of_progress_next hids hknown hlt hi hnext⟩

/-! ## Where placing ends -/

/-- A greedy list after which nothing can come: whatever is missing waits for something missing. -/
structure Settled (resources : List Resource) (order : List String) : Prop where
  greedy : IsGreedy resources order
  stuck : ∀ r ∈ resources, r.id ∉ order → ∃ d ∈ r.dependsOn, d ∉ order

/-- A settled list that misses nothing is the greedy order. -/
theorem Settled.isGreedyOrder {order : List String} (h : Settled resources order)
    (hlen : order.length = resources.length) : IsGreedyOrder resources order where
  perm := (List.subperm_of_subset h.greedy.nodup h.greedy.subset).perm_of_length_le
    (by simp [hlen])
  greedy := h.greedy

/-- Any list in which dependencies come first lies within every settled list. -/
theorem Settled.subset_of_isGreedy {order other : List String} (h : Settled resources order)
    (hother : IsGreedy resources other) : other ⊆ order := by
  induction other using List.reverseRecOn with
  | nil => exact List.nil_subset _
  | append_singleton other id ih =>
    obtain ⟨hinit, i, r, hi, rfl, hr, -⟩ := isGreedy_concat_iff.1 hother
    have hsub := ih hinit
    intro a ha
    rcases List.mem_append.1 ha with ha | ha
    · exact hsub ha
    · rw [List.mem_singleton] at ha
      subst a
      by_contra hmissing
      obtain ⟨d, hd, hdmissing⟩ := h.stuck r (List.mem_of_getElem? hi) hmissing
      exact hdmissing (hsub (hr.2 d hd))

/-- Placing resources one after the other ends in a settled list. -/
theorem exists_settled (hids : (resources.map (·.id)).Nodup) (hknown : NoDangling resources) :
    ∃ placed, Progress.run (dependencyIndices resources) resources.length
          (.start (dependencyIndices resources)) =
        Progress.after (dependencyIndices resources) placed ∧
      (∀ i ∈ placed, i < resources.length) ∧ Settled resources (placedIds resources placed) := by
  obtain ⟨placed, hrun, hreached, hend⟩ := Progress.run_start (dependencyIndices resources)
  rw [length_dependencyIndices] at hrun
  have hlt : ∀ i ∈ placed, i < resources.length := by simpa using hreached.lt
  refine ⟨placed, hrun, hlt, isGreedy_placedIds hids hknown hreached, ?_⟩
  intro r hr hmissing
  obtain ⟨i, hi⟩ := List.getElem?_of_mem hr
  have hblocked := hend i
  rw [progress_canFollow_iff hids hknown hlt hi, CanFollow, not_and] at hblocked
  simpa using hblocked hmissing

end Provisioning
end Groundwork
