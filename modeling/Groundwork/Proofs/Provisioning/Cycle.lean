import Groundwork.Proofs.Provisioning.Sort
import Mathlib.Data.Fintype.Pigeonhole
import Mathlib.Data.Fintype.Sets
import Mathlib.Logic.Relation

/-!
# Why sorting fails

Sorting reports the first repeated id, or else the first unknown dependency, or else the resources
from which a cycle of dependencies can be reached.  The last report is read off the counters that
stay positive; a resource that is never placed waits for one that is never placed either, and among
finitely many resources such a chain runs into a cycle.

Main results:

- `exists_cycle_of_forall_successor`: a finite chain without end runs into a cycle.
- `Settled.missing_iff_reachesCycle`: a settled list misses exactly what reaches a cycle.
- `sort_failure`: when sorting fails, and what it then reports.
-/

namespace Groundwork
namespace Provisioning

open Relation

variable {resources : List Resource}

/-! ## Cycles of dependencies -/

/-- `a` is the id of a resource that lists `b` among its dependencies. -/
def DependsOn (resources : List Resource) (a b : String) : Prop :=
  ∃ r ∈ resources, r.id = a ∧ b ∈ r.dependsOn

/-- Following dependencies from `a` leads to an id on a cycle. -/
def ReachesCycle (resources : List Resource) (a : String) : Prop :=
  ∃ c, ReflTransGen (DependsOn resources) a c ∧ TransGen (DependsOn resources) c c

/-- Where every element of a list has a successor in the list, successors run into a cycle. -/
theorem exists_cycle_of_forall_successor {α : Type} {r : α → α → Prop} {l : List α}
    (hsucc : ∀ a ∈ l, ∃ b ∈ l, r a b) {a : α} (ha : a ∈ l) :
    ∃ c, ReflTransGen r a c ∧ TransGen r c c := by
  classical
  choose! next hmem hnext using hsucc
  have hiter : ∀ n, next^[n] a ∈ l := by
    intro n
    induction n with
    | zero => exact ha
    | succ n ih =>
      rw [Function.iterate_succ_apply']
      exact hmem _ ih
  have hreach : ∀ m n, ReflTransGen r (next^[m] a) (next^[m + n] a) := by
    intro m n
    induction n with
    | zero => exact ReflTransGen.refl
    | succ n ih =>
      rw [← Nat.add_assoc, Function.iterate_succ_apply']
      exact ih.tail (hnext _ (hiter _))
  -- Among infinitely many steps through finitely many elements two lead to the same one.
  obtain ⟨m, n, hlt, heq⟩ : ∃ m n, m < n ∧ next^[m] a = next^[n] a := by
    obtain ⟨m, n, hne, heq⟩ := Finite.exists_ne_map_eq_of_infinite
      fun n => (⟨next^[n] a, hiter n⟩ : {x // x ∈ l})
    have heq' : next^[m] a = next^[n] a := congrArg Subtype.val heq
    rcases Nat.lt_or_gt_of_ne hne with hlt | hgt
    · exact ⟨m, n, hlt, heq'⟩
    · exact ⟨n, m, hgt, heq'.symm⟩
  refine ⟨next^[m] a, by simpa using hreach 0 m, ?_⟩
  have hfirst : r (next^[m] a) (next^[m + 1] a) := by
    rw [Function.iterate_succ_apply']
    exact hnext _ (hiter m)
  have hrest := hreach (m + 1) (n - (m + 1))
  rw [Nat.add_sub_cancel' hlt, ← heq] at hrest
  exact TransGen.head' hfirst hrest

/-! ## Places in an order -/

/-- In a list without repetitions, what stands before has the smaller index. -/
theorem precedes_iff_idxOf_lt {order : List String} (hnodup : order.Nodup) {a b : String} :
    Precedes order a b ↔ b ∈ order ∧ order.idxOf a < order.idxOf b := by
  constructor
  · rintro ⟨before, after, rfl, ha⟩
    have hb : b ∉ before := by
      intro hb
      exact (List.nodup_append.1 hnodup).2.2 b hb b List.mem_cons_self rfl
    refine ⟨List.mem_append_right _ List.mem_cons_self, ?_⟩
    rw [List.idxOf_append_of_mem ha, List.idxOf_append_of_notMem hb, List.idxOf_cons_self]
    exact Nat.lt_of_lt_of_le (List.idxOf_lt_length_of_mem ha) (Nat.le_add_right _ _)
  · rintro ⟨hb, hlt⟩
    obtain ⟨before, after, rfl, hnot⟩ := List.eq_append_cons_of_mem hb
    refine ⟨before, after, rfl, ?_⟩
    by_contra ha
    rw [List.idxOf_append_of_notMem hnot, List.idxOf_cons_self,
      List.idxOf_append_of_notMem ha] at hlt
    omega

/-- What precedes something is in the order. -/
theorem Precedes.mem_left {order : List String} {a b : String} (h : Precedes order a b) :
    a ∈ order := by
  obtain ⟨before, after, rfl, ha⟩ := h
  exact List.mem_append_left _ ha

/-- Precedence is transitive in an order without repeats. -/
theorem Precedes.trans {order : List String} (hnodup : order.Nodup) {a b c : String}
    (hab : Precedes order a b) (hbc : Precedes order b c) : Precedes order a c := by
  rw [precedes_iff_idxOf_lt hnodup] at hab hbc ⊢
  exact ⟨hbc.1, hab.2.trans hbc.2⟩

/-- Along dependencies, a greedy list runs backwards. -/
theorem IsGreedy.precedes_of_transGen {order : List String} (hgreedy : IsGreedy resources order)
    (hids : (resources.map (·.id)).Nodup) {a b : String} (ha : a ∈ order)
    (h : TransGen (DependsOn resources) a b) : Precedes order b a := by
  have hstep : ∀ {x y}, x ∈ order → DependsOn resources x y → Precedes order y x := by
    rintro x y hx ⟨r, hr, rfl, hy⟩
    exact hgreedy.precedes hids hr hx hy
  induction h with
  | single h => exact hstep ha h
  | tail _ hbc ih => exact (hstep ih.mem_left hbc).trans hgreedy.nodup ih

/-- Nothing in a greedy list reaches a cycle. -/
theorem IsGreedy.not_reachesCycle {order : List String} (hgreedy : IsGreedy resources order)
    (hids : (resources.map (·.id)).Nodup) {a : String} (ha : a ∈ order) :
    ¬ ReachesCycle resources a := by
  rintro ⟨c, hac, hcc⟩
  have hc : c ∈ order := by
    rcases reflTransGen_iff_eq_or_transGen.1 hac with rfl | hac
    · exact ha
    · exact (hgreedy.precedes_of_transGen hids ha hac).mem_left
  have hself := hgreedy.precedes_of_transGen hids hc hcc
  rw [precedes_iff_idxOf_lt hgreedy.nodup] at hself
  exact Nat.lt_irrefl _ hself.2

/-- A settled list misses exactly the resources from which a cycle can be reached. -/
theorem Settled.missing_iff_reachesCycle {order : List String} (h : Settled resources order)
    (hids : (resources.map (·.id)).Nodup) (hknown : NoDangling resources) {id : String}
    (hid : id ∈ resources.map (·.id)) : id ∉ order ↔ ReachesCycle resources id := by
  constructor
  · intro hmissing
    refine exists_cycle_of_forall_successor (l := (resources.map (·.id)).filter (· ∉ order)) ?_
      (List.mem_filter.2 ⟨hid, by simpa using hmissing⟩)
    intro a ha
    rw [List.mem_filter, decide_eq_true_eq] at ha
    obtain ⟨r, hr, rfl⟩ := List.mem_map.1 ha.1
    obtain ⟨d, hd, hdmissing⟩ := h.stuck r hr ha.2
    exact ⟨d, List.mem_filter.2 ⟨hknown r hr d hd, by simpa using hdmissing⟩, r, hr, rfl, hd⟩
  · intro hcycle hmem
    exact h.greedy.not_reachesCycle hids hmem hcycle

/-! ## When sorting fails -/

/-- `id` is the first id of a list that occurred before. -/
def IsFirstRepetition (ids : List String) (id : String) : Prop :=
  ∃ before after, ids = before ++ id :: after ∧ before.Nodup ∧ id ∈ before

/-- `node` is the first resource with an unknown dependency, and `missing` the first one that it
lists. -/
def IsFirstDangling (resources : List Resource) (node missing : String) : Prop :=
  ∃ before r after earlier later, resources = before ++ r :: after ∧ r.id = node ∧
    r.dependsOn = earlier ++ missing :: later ∧ missing ∉ resources.map (·.id) ∧
    (∀ d ∈ earlier, d ∈ resources.map (·.id)) ∧
    ∀ s ∈ before, ∀ d ∈ s.dependsOn, d ∈ resources.map (·.id)

/-- Where every cycle starts there is a resource. -/
theorem mem_ids_of_transGen {a b : String} (h : TransGen (DependsOn resources) a b) :
    a ∈ resources.map (·.id) := by
  obtain ⟨c, ⟨r, hr, rfl, -⟩, -⟩ := TransGen.head'_iff.1 h
  exact List.mem_map_of_mem hr

open Classical in
/-- What sorting answers for resources that pass both checks, in terms of cycles. -/
theorem sort_of_wellFormed_eq (hids : (resources.map (·.id)).Nodup)
    (hknown : NoDangling resources) :
    (∃ order, sort resources = .ok order ∧ ∀ id, ¬ TransGen (DependsOn resources) id id) ∨
      (sort resources = .error
          (.cycle ((resources.map (·.id)).filter fun id => decide (ReachesCycle resources id))) ∧
        ∃ id, TransGen (DependsOn resources) id id) := by
  obtain ⟨order, hsettled, hsort⟩ := sort_of_wellFormed hids hknown
  have hmissing : ∀ {id : String}, id ∈ resources.map (·.id) →
      (id ∉ order ↔ ReachesCycle resources id) :=
    hsettled.missing_iff_reachesCycle hids hknown
  by_cases hlen : order.length = resources.length
  · refine Or.inl ⟨order, by rw [hsort, if_pos hlen], ?_⟩
    intro id hcycle
    have hid := mem_ids_of_transGen hcycle
    have hmem : id ∈ order := (hsettled.isGreedyOrder hlen).perm.mem_iff.2 hid
    exact (hmissing hid).2 ⟨id, ReflTransGen.refl, hcycle⟩ hmem
  · refine Or.inr ⟨?_, ?_⟩
    · rw [hsort, if_neg hlen]
      congr 2
      apply List.filter_congr
      intro id hid
      rw [decide_eq_decide]
      exact hmissing hid
    · by_contra hacyclic
      have hsub : resources.map (·.id) ⊆ order := by
        intro id hid
        by_contra hnot
        obtain ⟨c, -, hcycle⟩ := (hmissing hid).1 hnot
        exact hacyclic ⟨c, hcycle⟩
      have hle := (List.subperm_of_subset hids hsub).length_le
      have hge := (List.subperm_of_subset hsettled.greedy.nodup hsettled.greedy.subset).length_le
      rw [List.length_map] at hle hge
      exact hlen (le_antisymm hge hle)

open Classical in
/-- When sorting fails, and what it then reports: a repeated id; or else an unknown dependency; or
else, if there is a cycle of dependencies, the resources that reach one, in the order of
declaration.  It fails in no other case. -/
theorem sort_failure (resources : List Resource) :
    ((∃ id, sort resources = .error (.duplicate id)) ↔ ¬ (resources.map (·.id)).Nodup) ∧
    (∀ id, sort resources = .error (.duplicate id) →
      IsFirstRepetition (resources.map (·.id)) id) ∧
    ((∃ node missing, sort resources = .error (.dangling node missing)) ↔
      (resources.map (·.id)).Nodup ∧ ¬ NoDangling resources) ∧
    (∀ node missing, sort resources = .error (.dangling node missing) →
      IsFirstDangling resources node missing) ∧
    ((∃ nodes, sort resources = .error (.cycle nodes)) ↔
      (resources.map (·.id)).Nodup ∧ NoDangling resources ∧
        ∃ id, TransGen (DependsOn resources) id id) ∧
    (∀ nodes, sort resources = .error (.cycle nodes) →
      nodes = (resources.map (·.id)).filter fun id => decide (ReachesCycle resources id)) ∧
    ((∃ order, sort resources = .ok order) ↔
      (resources.map (·.id)).Nodup ∧ NoDangling resources ∧
        ∀ id, ¬ TransGen (DependsOn resources) id id) := by
  rcases sort_cases resources with ⟨id, hfirst, hsort⟩ | ⟨hids, node, missing, hfirst, hsort⟩ |
    ⟨hids, hknown⟩
  · have hdup : ¬ (resources.map (·.id)).Nodup := by
      intro hids
      rw [firstDuplicate?_eq_none_iff.2 ⟨hids, by simp⟩] at hfirst
      cases hfirst
    obtain ⟨before, after, heq, hnodup, -, hid⟩ := firstDuplicate?_eq_some hfirst
    have hrep : IsFirstRepetition (resources.map (·.id)) id :=
      ⟨before, after, heq, hnodup, hid.resolve_right List.not_mem_nil⟩
    simp [hsort, hdup, hrep]
  · have hunknown : ¬ NoDangling resources := by
      intro hknown
      rw [firstDangling?_eq_none_iff.2 hknown] at hfirst
      cases hfirst
    obtain ⟨before, r, after, earlier, later, heq, hbefore, hnode, hdeps, hearlier, hmissing⟩ :=
      firstDangling?_eq_some hfirst
    have hdangling : IsFirstDangling resources node missing :=
      ⟨before, r, after, earlier, later, heq, hnode, hdeps, hmissing, hearlier, hbefore⟩
    simp [hsort, hids, hunknown, hdangling]
  · rcases sort_of_wellFormed_eq hids hknown with ⟨order, hsort, hacyclic⟩ | ⟨hsort, hcycle⟩
    · simp [hsort, hids, hknown, hacyclic]
    · simp [hsort, hids, hknown, hcycle]

end Provisioning
end Groundwork
