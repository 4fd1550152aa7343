import Groundwork.Proofs.Provisioning.Cycle

/-!
# Where resources come to stand

The greedy order follows the declarations as far as dependencies let it.  Some places in it can be
told without computing it: what needs nothing from the rest keeps its place at the front, what the
rest needs nothing from keeps its place at the end, and of two resources the one that was declared
first comes first if it waits for nothing that the other does not wait for.

Main results:

- `IsGreedyOrder.isPrefix`: the greedy order of the first resources begins that of all.
- `IsGreedyOrder.head?_eq`: what all others wait for comes first.
- `IsGreedyOrder.append`, `IsGreedyOrder.isSuffix`: resources that only look back, and that no
  other resource waits for, stand at the end as they are declared.
- `IsGreedyOrder.precedes_of_subset`: a resource stands before a later one that waits for as much.
-/

namespace Groundwork
namespace Provisioning

open Relation

variable {resources first last : List Resource} {order : List String}

/-! ## The front -/

/-- Resources that are declared later do not change which of the first ones is next. -/
theorem IsNext.append_right {placed : List String} {id : String} (h : IsNext first placed id)
    (rest : List Resource) : IsNext (first ++ rest) placed id := by
  obtain ⟨i, r, hi, hid, hr, hleast⟩ := h
  have hlt : i < first.length := (List.getElem?_eq_some_iff.1 hi).1
  refine ⟨i, r, by rw [List.getElem?_append_left hlt, hi], hid, hr, fun j s hj hs => ?_⟩
  rcases Nat.lt_or_ge j first.length with hbefore | hafter
  · rw [List.getElem?_append_left hbefore] at hj
    exact hleast j s hj hs
  · exact hlt.le.trans hafter

/-- A greedy order stays greedy when entries are declared after the others. -/
theorem IsGreedy.append_right (h : IsGreedy first order) (rest : List Resource) :
    IsGreedy (first ++ rest) order :=
  fun before id after heq => (h before id after heq).append_right rest

/-- The beginning of a greedy list is greedy. -/
theorem IsGreedy.of_append {before after : List String} (h : IsGreedy resources (before ++ after)) :
    IsGreedy resources before := by
  rintro placed id rest rfl
  exact h placed id (rest ++ after) (by simp)

/-- Where the first resources can be ordered by themselves, their order begins the whole order. -/
theorem IsGreedyOrder.isPrefix {rest : List Resource} {front : List String}
    (hfront : IsGreedyOrder first front) (horder : IsGreedyOrder (first ++ rest) order) :
    front <+: order := by
  have hle : front.length ≤ order.length := by
    rw [hfront.perm.length_eq, horder.perm.length_eq, List.length_map, List.length_map,
      List.length_append]
    exact Nat.le_add_right _ _
  have hall : IsGreedy (first ++ rest) (order.take front.length ++ order.drop front.length) := by
    rw [List.take_append_drop]
    exact horder.greedy
  have heq : front = order.take front.length :=
    (hfront.greedy.append_right rest).eq hall.of_append
      (by rw [List.length_take, min_eq_left hle])
  rw [heq]
  exact List.take_prefix _ _

/-- A resource that all others wait for comes first. -/
theorem IsGreedyOrder.head?_eq (h : IsGreedyOrder resources order) {t : Resource}
    (ht : t ∈ resources) (hwait : ∀ r ∈ resources, r = t ∨ t.id ∈ r.dependsOn) :
    order.head? = some t.id := by
  have hmem : t.id ∈ order := h.perm.mem_iff.2 (List.mem_map_of_mem ht)
  cases order with
  | nil => cases hmem
  | cons id rest =>
    obtain ⟨i, r, hi, rfl, hfollow, -⟩ := h.greedy [] id rest rfl
    rcases hwait r (List.mem_of_getElem? hi) with rfl | hdep
    · rfl
    · -- Nothing is placed before the first one, so it waits for nothing.
      cases hfollow.2 _ hdep

/-! ## The end -/

/-- Resources that wait only for earlier ones can be placed after all others as they are
declared. -/
theorem IsGreedyOrder.append (h : IsGreedyOrder first order)
    (hids : ((first ++ last).map (·.id)).Nodup)
    (hback : ∀ before r after, last = before ++ r :: after →
      r.dependsOn ⊆ (first ++ before).map (·.id)) :
    IsGreedyOrder (first ++ last) (order ++ last.map (·.id)) where
  perm := by
    rw [List.map_append]
    exact h.perm.append_right _
  greedy := by
    have hrun : ∀ before after, last = before ++ after →
        IsGreedy (first ++ last) (order ++ before.map (·.id)) := by
      intro before
      induction before using List.reverseRecOn with
      | nil =>
        intro after _
        rw [List.map_nil, List.append_nil]
        exact h.greedy.append_right last
      | append_singleton before r ih =>
        intro after hsplit
        rw [List.append_assoc, List.singleton_append] at hsplit
        rw [List.map_append, ← List.append_assoc]
        refine isGreedy_concat_iff.2 ⟨ih _ hsplit, ?_⟩
        subst hsplit
        rw [← List.append_assoc] at hids ⊢
        refine isNext_of_subset hids (fun id => ?_) (hback before r after rfl)
        rw [List.map_append, List.mem_append, List.mem_append, h.perm.mem_iff]
    exact hrun last [] (List.append_nil last).symm

/-- Where all resources can be ordered, so can the first ones if they do not wait for the rest. -/
theorem IsGreedyOrder.exists_of_append (h : IsGreedyOrder (first ++ last) order)
    (hfree : ∀ r ∈ first, ∀ d ∈ r.dependsOn, d ∉ last.map (·.id)) :
    ∃ front, IsGreedyOrder first front := by
  have hids := h.nodup_ids
  rw [List.map_append] at hids
  have hknown : NoDangling first := by
    intro r hr d hd
    have hmem := h.noDangling r (List.mem_append_left _ hr) d hd
    rw [List.map_append, List.mem_append] at hmem
    exact hmem.resolve_right (hfree r hr d hd)
  rcases sort_of_wellFormed_eq (List.Nodup.of_append_left hids) hknown with
    ⟨front, hsort, -⟩ | ⟨-, id, hcycle⟩
  · exact ⟨front, sort_eq_ok_iff.1 hsort⟩
  · -- A cycle among the first resources is one among all.
    have hmono : ∀ a b, DependsOn first a b → DependsOn (first ++ last) a b :=
      fun a b ⟨r, hr, hab⟩ => ⟨r, List.mem_append_left _ hr, hab⟩
    have hall : TransGen (DependsOn (first ++ last)) id id := TransGen.mono hmono _ _ hcycle
    have hid : id ∈ order := h.perm.mem_iff.2 (mem_ids_of_transGen hall)
    exact absurd ⟨id, ReflTransGen.refl, hall⟩
      (h.greedy.not_reachesCycle h.nodup_ids hid)

/-- Resources that only look back, and that no other resource waits for, come last as they are
declared. -/
theorem IsGreedyOrder.isSuffix (h : IsGreedyOrder (first ++ last) order)
    (hfree : ∀ r ∈ first, ∀ d ∈ r.dependsOn, d ∉ last.map (·.id))
    (hback : ∀ before r after, last = before ++ r :: after →
      r.dependsOn ⊆ (first ++ before).map (·.id)) :
    last.map (·.id) <:+ order := by
  obtain ⟨front, hfront⟩ := h.exists_of_append hfree
  rw [h.eq (hfront.append h.nodup_ids hback)]
  exact List.suffix_append _ _

/-! ## Which comes first -/

/-- What is first precedes what is last. -/
theorem precedes_append {first last : List String} {a b : String} (ha : a ∈ first)
    (hb : b ∈ last) : Precedes (first ++ last) a b := by
  obtain ⟨before, after, rfl⟩ := List.append_of_mem hb
  exact ⟨first ++ before, after, by simp, List.mem_append_left _ ha⟩

/-- Precedence is kept behind something else. -/
theorem Precedes.append_left {a b : String} (h : Precedes order a b) (first : List String) :
    Precedes (first ++ order) a b := by
  obtain ⟨before, after, rfl, ha⟩ := h
  exact ⟨first ++ before, after, by simp, List.mem_append_right _ ha⟩

/-- Precedence is kept before something else. -/
theorem Precedes.append_right {a b : String} (h : Precedes order a b) (last : List String) :
    Precedes (order ++ last) a b := by
  obtain ⟨before, after, rfl, ha⟩ := h
  exact ⟨before, after ++ last, by simp, ha⟩

/-- Of two resources, the one that is declared first comes first if it waits for nothing that the
other does not wait for. -/
theorem IsGreedyOrder.precedes_of_subset (h : IsGreedyOrder resources order) {s r : Resource}
    (hs : s ∈ resources) (hr : r ∈ resources)
    (hdeclared : Precedes (resources.map (·.id)) s.id r.id) (hsub : s.dependsOn ⊆ r.dependsOn) :
    Precedes order s.id r.id := by
  have hids := h.nodup_ids
  obtain ⟨placed, rest, heq⟩ :=
    List.append_of_mem (h.perm.mem_iff.2 (List.mem_map_of_mem hr))
  obtain ⟨i, r', hi, hid, hfollow, hleast⟩ := h.greedy placed r.id rest heq
  have hsame : r' = r := List.inj_on_of_nodup_map hids (List.mem_of_getElem? hi) hr hid
  subst hsame
  refine ⟨placed, rest, heq, ?_⟩
  by_contra hnot
  obtain ⟨j, hj⟩ := List.mem_iff_getElem?.1 hs
  have hle : i ≤ j := hleast j s hj ⟨hnot, fun d hd => hfollow.2 d (hsub hd)⟩
  have hlt := ((precedes_iff_idxOf_lt hids).1 hdeclared).2
  rw [idxOf_id hids hj, idxOf_id hids hi] at hlt
  exact Nat.not_lt.2 hle hlt

end Provisioning
end Groundwork
