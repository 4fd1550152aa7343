import Groundwork.Provisioning
import Mathlib.Data.List.Sort

/-!
# The states of the ordering loop

Whatever the loop does, its state is determined by the resources that it has placed: each counter is
the number of dependencies that are not placed, repetitions counted, and the ready list holds
exactly the resources that are not placed and whose dependencies all are.  `Progress.after` is that
state, and placing the first ready resource leads from one such state to the next.

Main results:

- `Progress.start_eq_after`: the loop starts in the state in which nothing is placed.
- `Progress.step?_after`: a step places the least resource that can follow, and nothing else.
- `Progress.run_start`: the loop ends in a state that was built by such steps and in which nothing
  can follow.
-/

namespace Groundwork
namespace Provisioning
namespace Progress

variable {dependencies : List (List Nat)} {placed : List Nat}

/-! ## States determined by what is placed -/

/-- The dependencies of the resource with a declaration index. -/
def dependenciesOf (dependencies : List (List Nat)) (i : Nat) : List Nat :=
  dependencies[i]?.getD []

/-- A resource can come next: it is not placed, and everything that it depends on is. -/
def CanFollow (dependencies : List (List Nat)) (placed : List Nat) (i : Nat) : Prop :=
  i < dependencies.length ∧ i ∉ placed ∧ ∀ d ∈ dependenciesOf dependencies i, d ∈ placed

instance (dependencies : List (List Nat)) (placed : List Nat) :
    DecidablePred (CanFollow dependencies placed) := fun i =>
  inferInstanceAs (Decidable (i < dependencies.length ∧ i ∉ placed ∧
    ∀ d ∈ dependenciesOf dependencies i, d ∈ placed))

/-- The resource with the least declaration index among those that can come next. -/
def Next (dependencies : List (List Nat)) (placed : List Nat) (i : Nat) : Prop :=
  CanFollow dependencies placed i ∧ ∀ j, CanFollow dependencies placed j → i ≤ j

/-- The state in which exactly the given resources are placed, the last one first. -/
def after (dependencies : List (List Nat)) (placed : List Nat) : Progress where
  placed := placed
  waiting := dependencies.map fun deps => deps.countP (· ∉ placed)
  ready := (List.range dependencies.length).filter (CanFollow dependencies placed ·)

/-- The entries that are placed are known in every state. -/
@[simp]
theorem after_placed : (after dependencies placed).placed = placed :=
  rfl

/-- An entry is ready exactly if it can follow what is placed. -/
@[simp]
theorem mem_after_ready {i : Nat} :
    i ∈ (after dependencies placed).ready ↔ CanFollow dependencies placed i := by
  simp only [after, List.mem_filter, List.mem_range, decide_eq_true_eq]
  exact ⟨fun h => h.2, fun h => ⟨h.1, h⟩⟩

/-- The ready list is strictly ascending. -/
theorem pairwise_after_ready (dependencies : List (List Nat)) (placed : List Nat) :
    (after dependencies placed).ready.Pairwise (· < ·) :=
  List.pairwise_lt_range.filter _

/-- The loop starts in the state in which nothing is placed. -/
theorem start_eq_after (dependencies : List (List Nat)) :
    start dependencies = after dependencies [] := by
  have hwaiting : dependencies.map List.length =
      dependencies.map fun deps => deps.countP (· ∉ ([] : List Nat)) := by
    apply List.map_congr_left
    intro deps _
    simp
  have hready : ((List.range dependencies.length).filter fun i =>
        (dependencies[i]?.getD []).isEmpty) =
      (List.range dependencies.length).filter (CanFollow dependencies [] ·) := by
    apply List.filter_congr
    intro i hi
    have hlt := List.mem_range.1 hi
    rw [Bool.eq_iff_iff]
    simp [CanFollow, dependenciesOf, hlt, List.eq_nil_iff_forall_not_mem]
  rw [start, after, hwaiting, hready]

/-! ## Putting released resources among the ready ones -/

/-- An insertion adds the entry and nothing else. -/
@[simp]
theorem mem_insertAscending {i j : Nat} {ready : List Nat} :
    j ∈ insertAscending i ready ↔ j = i ∨ j ∈ ready := by
  induction ready with
  | nil => simp [insertAscending]
  | cons k rest ih =>
    simp only [insertAscending]
    split <;> simp [ih, or_left_comm]

/-- Putting in a new index keeps the order strict. -/
theorem pairwise_insertAscending {i : Nat} {ready : List Nat} (hready : ready.Pairwise (· < ·))
    (hi : i ∉ ready) : (insertAscending i ready).Pairwise (· < ·) := by
  induction ready with
  | nil => simp [insertAscending]
  | cons k rest ih =>
    rw [List.pairwise_cons] at hready
    rw [List.mem_cons, not_or] at hi
    simp only [insertAscending]
    split <;> rename_i hik
    · have hlt : i < k := by omega
      refine List.pairwise_cons.2 ⟨?_, List.pairwise_cons.2 hready⟩
      intro j hj
      rcases List.mem_cons.1 hj with rfl | hj
      · exact hlt
      · exact hlt.trans (hready.1 j hj)
    · refine List.pairwise_cons.2 ⟨?_, ih hready.2 hi.2⟩
      intro j hj
      rcases mem_insertAscending.1 hj with rfl | hj
      · omega
      · exact hready.1 j hj

/-- Insertions add the entries and nothing else. -/
@[simp]
theorem mem_foldl_insertAscending {j : Nat} {freed ready : List Nat} :
    j ∈ freed.foldl (fun ready i => insertAscending i ready) ready ↔ j ∈ freed ∨ j ∈ ready := by
  induction freed generalizing ready with
  | nil => simp
  | cons i rest ih =>
    simp only [List.foldl_cons, ih, mem_insertAscending, List.mem_cons]
    tauto

/-- Putting in new indices one after the other keeps the order strict. -/
theorem pairwise_foldl_insertAscending {freed ready : List Nat}
    (hready : ready.Pairwise (· < ·)) (hfreed : freed.Nodup) (hnew : ∀ i ∈ freed, i ∉ ready) :
    (freed.foldl (fun ready i => insertAscending i ready) ready).Pairwise (· < ·) := by
  induction freed generalizing ready with
  | nil => exact hready
  | cons i rest ih =>
    rw [List.nodup_cons] at hfreed
    rw [List.foldl_cons]
    apply ih (pairwise_insertAscending hready (hnew i List.mem_cons_self)) hfreed.2
    intro j hj hmem
    rcases mem_insertAscending.1 hmem with rfl | hmem
    · exact hfreed.1 hj
    · exact hnew j (List.mem_cons_of_mem i hj) hmem

/-! ## One step -/

/-- Every dependency of a placed resource is placed. -/
def Closed (dependencies : List (List Nat)) (placed : List Nat) : Prop :=
  ∀ i ∈ placed, ∀ d ∈ dependenciesOf dependencies i, d ∈ placed

/-- What can follow entries that wait for nothing else may be placed after them. -/
theorem Closed.cons {i : Nat} (hclosed : Closed dependencies placed)
    (hi : CanFollow dependencies placed i) : Closed dependencies (i :: placed) := by
  intro j hj d hd
  rcases List.mem_cons.1 hj with rfl | hj
  · exact List.mem_cons_of_mem _ (hi.2.2 d hd)
  · exact List.mem_cons_of_mem _ (hclosed j hj d hd)

/-- Placing a resource lowers a counter by the number of times that it is depended on. -/
theorem countP_not_mem_cons {i : Nat} (hi : i ∉ placed) (deps : List Nat) :
    deps.countP (· ∉ placed) - deps.count i = deps.countP (· ∉ i :: placed) := by
  have hsplit : deps.countP (· ∉ placed) = deps.countP (· ∉ i :: placed) + deps.count i := by
    induction deps with
    | nil => rfl
    | cons d deps ih =>
      rw [List.countP_cons, List.countP_cons, List.count_cons, ih]
      by_cases hd : d = i
      · subst d
        simp [hi]
        omega
      · simp [hd]
        omega
  omega

/-- The counters after a release. -/
theorem release_waiting {i : Nat} (hi : i ∉ placed) :
    List.zipWith (fun count deps => count - deps.count i)
        (after dependencies placed).waiting dependencies =
      (after dependencies (i :: placed)).waiting := by
  simp only [after, List.zipWith_map_left, List.zipWith_self]
  apply List.map_congr_left
  intro deps _
  exact countP_not_mem_cons hi deps

/-- A counter is zero exactly if every dependency is placed. -/
theorem waiting_eq_zero_iff {j : Nat} (hj : j < dependencies.length) :
    (after dependencies placed).waiting[j]?.getD 0 = 0 ↔
      ∀ d ∈ dependenciesOf dependencies j, d ∈ placed := by
  simp [after, dependenciesOf, hj, List.countP_eq_zero]

/-- The resources that placing `i` frees: those that wait for `i` and then for nothing more. -/
def freed (dependencies : List (List Nat)) (i : Nat) (waiting : List Nat) : List Nat :=
  (List.range dependencies.length).filter fun j =>
    (dependencies[j]?.getD []).contains i && waiting[j]?.getD 0 == 0

/-- Placing an entry frees those that waited for it last. -/
theorem mem_freed {i j : Nat} :
    j ∈ freed dependencies i (after dependencies (i :: placed)).waiting ↔
      j < dependencies.length ∧ i ∈ dependenciesOf dependencies j ∧
        ∀ d ∈ dependenciesOf dependencies j, d ∈ i :: placed := by
  simp only [freed, List.mem_filter, List.mem_range, Bool.and_eq_true, List.contains_iff_mem,
    beq_iff_eq]
  constructor
  · rintro ⟨hj, hmem, hzero⟩
    exact ⟨hj, hmem, (waiting_eq_zero_iff hj).1 hzero⟩
  · rintro ⟨hj, hmem, hall⟩
    exact ⟨hj, hmem, (waiting_eq_zero_iff hj).2 hall⟩

/-- What can follow once `i` is placed: what could before, and what `i` frees. -/
theorem canFollow_cons_iff {i j : Nat} (hclosed : Closed dependencies placed)
    (hi : CanFollow dependencies placed i) :
    CanFollow dependencies (i :: placed) j ↔
      j ∈ freed dependencies i (after dependencies (i :: placed)).waiting ∨
        (CanFollow dependencies placed j ∧ j ≠ i) := by
  rw [mem_freed]
  constructor
  · rintro ⟨hlt, hnew, hall⟩
    rw [List.mem_cons, not_or] at hnew
    by_cases hdep : i ∈ dependenciesOf dependencies j
    · exact Or.inl ⟨hlt, hdep, hall⟩
    · refine Or.inr ⟨⟨hlt, hnew.2, ?_⟩, hnew.1⟩
      intro d hd
      rcases List.mem_cons.1 (hall d hd) with rfl | hd'
      · exact (hdep hd).elim
      · exact hd'
  · rintro (⟨hlt, hdep, hall⟩ | ⟨⟨hlt, hnew, hall⟩, hne⟩)
    · refine ⟨hlt, ?_, hall⟩
      intro hj
      -- A placed resource, and `i` itself, has no dependency outside what was placed before `i`.
      have hbefore : ∀ d ∈ dependenciesOf dependencies j, d ∈ placed := by
        rcases List.mem_cons.1 hj with rfl | hj
        · exact hi.2.2
        · exact hclosed j hj
      exact hi.2.1 (hbefore i hdep)
    · exact ⟨hlt, by simp [hne, hnew], fun d hd => List.mem_cons_of_mem i (hall d hd)⟩

/-- What the first ready resource frees, put among the other ready ones in any order, gives the ready
list of the state in which that resource is placed too. -/
theorem foldl_insertAscending_ready {i : Nat} {rest new : List Nat}
    (hclosed : Closed dependencies placed)
    (hready : (after dependencies placed).ready = i :: rest) (hnodup : new.Nodup)
    (hnew : ∀ j, j ∈ new ↔ j ∈ freed dependencies i (after dependencies (i :: placed)).waiting) :
    new.foldl (fun ready j => insertAscending j ready) rest =
      (after dependencies (i :: placed)).ready := by
  have hi : CanFollow dependencies placed i := by
    rw [← mem_after_ready, hready]
    exact List.mem_cons_self
  have hsorted := pairwise_after_ready dependencies placed
  rw [hready, List.pairwise_cons] at hsorted
  have hrest : ∀ j, j ∈ rest ↔ CanFollow dependencies placed j ∧ j ≠ i := by
    intro j
    rw [← mem_after_ready, hready, List.mem_cons]
    constructor
    · intro hj
      exact ⟨Or.inr hj, (hsorted.1 j hj).ne'⟩
    · rintro ⟨hj, hne⟩
      exact hj.resolve_left hne
  have hfresh : ∀ j ∈ new, j ∉ rest := by
    intro j hj hmem
    exact hi.2.1 (((hrest j).1 hmem).1.2.2 i (mem_freed.1 ((hnew j).1 hj)).2.1)
  refine List.Pairwise.eq_of_mem_iff (pairwise_foldl_insertAscending hsorted.2 hnodup hfresh)
    (pairwise_after_ready _ _) ?_
  intro j
  rw [mem_foldl_insertAscending, mem_after_ready, canFollow_cons_iff hclosed hi, hrest, hnew]

/-- Placing the first ready resource leads to the state in which it is placed too. -/
theorem release_after {i : Nat} {rest : List Nat} (hclosed : Closed dependencies placed)
    (hready : (after dependencies placed).ready = i :: rest) :
    release dependencies i { after dependencies placed with placed := i :: placed, ready := rest } =
      after dependencies (i :: placed) := by
  have hi : CanFollow dependencies placed i := by
    rw [← mem_after_ready, hready]
    exact List.mem_cons_self
  have hnodup : (freed dependencies i (after dependencies (i :: placed)).waiting).Nodup :=
    List.nodup_range.filter _
  have hreadyAfter := foldl_insertAscending_ready hclosed hready hnodup fun j => Iff.rfl
  simp only [release, release_waiting hi.2.1]
  rw [← freed, hreadyAfter]
  rfl

/-- The first ready resource is the least one that can follow. -/
theorem next_iff_ready_eq_cons {i : Nat} :
    Next dependencies placed i ↔ ∃ rest, (after dependencies placed).ready = i :: rest := by
  have hsorted := pairwise_after_ready dependencies placed
  constructor
  · rintro ⟨hi, hleast⟩
    cases hready : (after dependencies placed).ready with
    | nil =>
      have := mem_after_ready.2 hi
      rw [hready] at this
      exact absurd this List.not_mem_nil
    | cons k rest =>
      have hk : CanFollow dependencies placed k := by
        rw [← mem_after_ready, hready]
        exact List.mem_cons_self
      have hmem := mem_after_ready.2 hi
      rw [hready] at hmem hsorted
      rcases List.mem_cons.1 hmem with rfl | hmem
      · exact ⟨rest, rfl⟩
      · have := hleast k hk
        have := (List.pairwise_cons.1 hsorted).1 i hmem
        omega
  · rintro ⟨rest, hready⟩
    rw [hready, List.pairwise_cons] at hsorted
    refine ⟨?_, ?_⟩
    · rw [← mem_after_ready, hready]
      exact List.mem_cons_self
    · intro j hj
      rw [← mem_after_ready, hready] at hj
      rcases List.mem_cons.1 hj with rfl | hj
      · exact le_rfl
      · exact (hsorted.1 j hj).le

/-- A step places the least resource that can follow, and nothing else. -/
theorem step?_after {p : Progress} (hclosed : Closed dependencies placed) :
    (after dependencies placed).step? dependencies = some p ↔
      ∃ i, Next dependencies placed i ∧ p = after dependencies (i :: placed) := by
  cases hready : (after dependencies placed).ready with
  | nil =>
    simp only [step?, hready, reduceCtorEq, false_iff, not_exists, not_and]
    intro i hi
    obtain ⟨rest, h⟩ := next_iff_ready_eq_cons.1 hi
    simp [hready] at h
  | cons i rest =>
    have hstep : (after dependencies placed).step? dependencies =
        some (after dependencies (i :: placed)) := by
      simp only [step?, hready, after_placed]
      rw [release_after hclosed hready]
    have hnext : ∀ j, Next dependencies placed j ↔ j = i := by
      intro j
      rw [next_iff_ready_eq_cons, hready]
      simp [eq_comm]
    simp only [hstep, hnext, Option.some.injEq, exists_eq_left]
    exact eq_comm

/-- No step is possible exactly if nothing can follow. -/
theorem step?_after_eq_none_iff :
    (after dependencies placed).step? dependencies = none ↔
      ∀ i, ¬ CanFollow dependencies placed i := by
  cases hready : (after dependencies placed).ready with
  | nil =>
    simp only [step?, hready, true_iff]
    intro i hi
    have := mem_after_ready.2 hi
    rw [hready] at this
    exact absurd this List.not_mem_nil
  | cons i rest =>
    simp only [step?, hready, reduceCtorEq, false_iff, not_forall, not_not]
    refine ⟨i, ?_⟩
    rw [← mem_after_ready, hready]
    exact List.mem_cons_self

/-! ## Whole runs -/

/-- The lists of placed resources, the last one first, that steps build from nothing. -/
inductive Reached (dependencies : List (List Nat)) : List Nat → Prop
  | start : Reached dependencies []
  | place {placed : List Nat} {i : Nat} (hplaced : Reached dependencies placed)
      (hnext : Next dependencies placed i) : Reached dependencies (i :: placed)

/-- Entries are placed after those that they depend on. -/
theorem Reached.closed (h : Reached dependencies placed) : Closed dependencies placed := by
  induction h with
  | start =>
    intro i hi
    exact absurd hi List.not_mem_nil
  | place _ hnext ih => exact ih.cons hnext.1

/-- No entry is placed twice. -/
theorem Reached.nodup (h : Reached dependencies placed) : placed.Nodup := by
  induction h with
  | start => exact List.nodup_nil
  | place _ hnext ih => exact List.nodup_cons.2 ⟨hnext.1.2.1, ih⟩

/-- Only entries that there are get placed. -/
theorem Reached.lt (h : Reached dependencies placed) : ∀ i ∈ placed, i < dependencies.length := by
  induction h with
  | start =>
    intro i hi
    exact absurd hi List.not_mem_nil
  | place _ hnext ih =>
    intro j hj
    rcases List.mem_cons.1 hj with rfl | hj
    · exact hnext.1.1
    · exact ih j hj

/-- When as many resources are placed as there are, every one of them is. -/
theorem Reached.perm_range (h : Reached dependencies placed)
    (hlen : dependencies.length ≤ placed.length) :
    placed.Perm (List.range dependencies.length) := by
  have hsub : placed ⊆ List.range dependencies.length := by
    intro i hi
    exact List.mem_range.2 (h.lt i hi)
  exact (List.subperm_of_subset h.nodup hsub).perm_of_length_le (by simpa using hlen)

/-- A run goes on until its fuel is spent or nothing can follow. -/
theorem run_after (fuel : Nat) (h : Reached dependencies placed) :
    ∃ final, run dependencies fuel (after dependencies placed) = after dependencies final ∧
      Reached dependencies final ∧
      (final.length = placed.length + fuel ∨ ∀ i, ¬ CanFollow dependencies final i) := by
  induction fuel generalizing placed with
  | zero => exact ⟨placed, rfl, h, Or.inl rfl⟩
  | succ fuel ih =>
    cases hstep : (after dependencies placed).step? dependencies with
    | none =>
      refine ⟨placed, ?_, h, Or.inr (step?_after_eq_none_iff.1 hstep)⟩
      simp only [run, hstep]
    | some p =>
      obtain ⟨i, hnext, rfl⟩ := (step?_after h.closed).1 hstep
      obtain ⟨final, hrun, hfinal, hend⟩ := ih (h.place hnext)
      refine ⟨final, ?_, hfinal, ?_⟩
      · simp only [run, hstep, hrun]
      · rw [List.length_cons] at hend
        exact hend.imp_left fun hlen => by omega

/-- With fuel for every resource, a run from the start ends where nothing can follow. -/
theorem run_start (dependencies : List (List Nat)) :
    ∃ final, run dependencies dependencies.length (start dependencies) =
        after dependencies final ∧
      Reached dependencies final ∧ ∀ i, ¬ CanFollow dependencies final i := by
  obtain ⟨final, hrun, hfinal, hend⟩ :=
    run_after dependencies.length (@Reached.start dependencies)
  refine ⟨final, by rw [start_eq_after, hrun], hfinal, ?_⟩
  rcases hend with hlen | hend
  · intro i hi
    have hperm := hfinal.perm_range (by simp [hlen])
    exact hi.2.1 (hperm.mem_iff.2 (List.mem_range.2 hi.1))
  · exact hend

end Progress
end Provisioning
end Groundwork
