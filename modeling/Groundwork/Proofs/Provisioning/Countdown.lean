import Groundwork.Proofs.Provisioning.Sort

/-!
# Counting down one dependency at a time

`Progress.release` lowers every counter by as much as a placed resource is depended on.  Here the
same loop goes through the users of the placed resource one by one, a user that depends on it twice
coming twice, and each time lowers one counter by one.  A counter that is zero already cannot be
lowered, so that such a turn has no outcome.  A journal keeps, next to the state of the loop, every
resource that became ready.

Main results:

- `Journal.exists_countDownAll`: what counting down a list of users does, if the counters allow it.
- `Journal.turn?_after`: a turn of the loop counts down to the next state that `Progress` knows.
- `countdown_exact`: in every turn the counters are the numbers of dependencies that are not placed,
  no counter is lowered below zero, no resource becomes ready twice, and the loop ends.
-/

namespace Groundwork
namespace Provisioning

open Progress

variable {dependencies : List (List Nat)} {placed : List Nat} {resources : List Resource}

/-! ## The loop with a journal -/

/-- The resources that depend on `i`, once for each time that they do, in the order of
declaration. -/
def usersOf (dependencies : List (List Nat)) (i : Nat) : List Nat :=
  (List.range dependencies.length).flatMap fun j =>
    ((dependenciesOf dependencies j).filter (· = i)).map fun _ => j

/-- The state of the loop, with what happened to the ready list. -/
structure Journal where
  progress : Progress
  /-- The resources that were put among the ready ones, once for each time. -/
  entered : List Nat
  deriving DecidableEq, Repr

namespace Journal

/-- Before the first turn. -/
def start (dependencies : List (List Nat)) : Journal where
  progress := .start dependencies
  entered := (Progress.start dependencies).ready

/-- Lowers the counter of a resource by one; at zero the resource becomes ready.  `none` if the
counter is zero before. -/
def countDown? (s : Journal) (j : Nat) : Option Journal :=
  match s.progress.waiting[j]? with
  | some (count + 1) =>
    let waiting := s.progress.waiting.set j count
    if count = 0 then
      some ⟨{ s.progress with waiting := waiting, ready := insertAscending j s.progress.ready },
        s.entered ++ [j]⟩
    else some { s with progress := { s.progress with waiting := waiting } }
  | _ => none

/-- A turn of the loop: the first ready resource is placed, and its users are counted down one
after the other.  `none` if nothing is ready or a counter at zero should be lowered. -/
def turn? (dependencies : List (List Nat)) (s : Journal) : Option Journal :=
  match s.progress.ready with
  | [] => none
  | i :: rest =>
    (usersOf dependencies i).foldlM countDown?
      { s with progress := { s.progress with placed := i :: s.progress.placed, ready := rest } }

/-- The states at the head of the loop, with the number of turns that led there. -/
inductive Visited (dependencies : List (List Nat)) : Nat → Journal → Prop
  | start : Visited dependencies 0 (start dependencies)
  | turn {k : Nat} {s t : Journal} (hs : Visited dependencies k s)
      (hturn : s.turn? dependencies = some t) : Visited dependencies (k + 1) t

/-! ## Counting down users -/

theorem countDown?_of_getElem? {s : Journal} {j count : Nat}
    (h : s.progress.waiting[j]? = some (count + 1)) :
    s.countDown? j = some
      ⟨{ s.progress with
          waiting := s.progress.waiting.set j count
          ready := (if count = 0 then [j] else []).foldl
            (fun ready j => insertAscending j ready) s.progress.ready },
        s.entered ++ if count = 0 then [j] else []⟩ := by
  simp only [countDown?, h]
  by_cases hcount : count = 0
  · simp [hcount]
  · simp [hcount]

/-- Users whose counters are as large as they are often can be counted down.  The counters go down
by so much, and those users become ready, each once, whose counters were not larger. -/
theorem exists_countDownAll {users : List Nat} {s : Journal}
    (hcount : ∀ j ∈ users, ∃ count, s.progress.waiting[j]? = some count ∧
      users.count j ≤ count) :
    ∃ waiting freed,
      users.foldlM countDown? s = some
        ⟨{ s.progress with
            waiting := waiting
            ready := freed.foldl (fun ready j => insertAscending j ready) s.progress.ready },
          s.entered ++ freed⟩ ∧
      (∀ j, waiting[j]? = s.progress.waiting[j]?.map (· - users.count j)) ∧
      freed.Nodup ∧
      ∀ j, j ∈ freed ↔ j ∈ users ∧ s.progress.waiting[j]? = some (users.count j) := by
  induction users generalizing s with
  | nil => exact ⟨s.progress.waiting, [], by simp, by simp, List.nodup_nil, by simp⟩
  | cons i rest ih =>
    obtain ⟨total, htotal, hle⟩ := hcount i List.mem_cons_self
    rw [List.count_cons_self] at hle
    obtain ⟨count, rfl⟩ : ∃ count, total = count + 1 := ⟨total - 1, by omega⟩
    have hlt : i < s.progress.waiting.length := (List.getElem?_eq_some_iff.1 htotal).1
    have hstep := countDown?_of_getElem? htotal
    generalize ht : (⟨_, _⟩ : Journal) = t at hstep
    have hi : t.progress.waiting[i]? = some count := by
      rw [← ht]
      simp [hlt]
    have hother : ∀ j, i ≠ j → t.progress.waiting[j]? = s.progress.waiting[j]? := by
      intro j hj
      rw [← ht]
      exact List.getElem?_set_ne hj
    have hrest : ∀ j ∈ rest, ∃ count, t.progress.waiting[j]? = some count ∧
        rest.count j ≤ count := by
      intro j hj
      by_cases hij : i = j
      · subst j
        exact ⟨count, hi, by omega⟩
      · obtain ⟨c, hc, hcle⟩ := hcount j (List.mem_cons_of_mem i hj)
        rw [List.count_cons_of_ne hij] at hcle
        exact ⟨c, (hother j hij).trans hc, hcle⟩
    obtain ⟨waiting, freed, hfold, hwaiting, hnodup, hfreed⟩ := ih hrest
    refine ⟨waiting, (if count = 0 then [i] else []) ++ freed, ?_, ?_, ?_, ?_⟩
    · rw [List.foldlM_cons, hstep, Option.bind_eq_bind, Option.bind_some, hfold, ← ht]
      simp [List.foldl_append]
    · intro j
      rw [hwaiting]
      by_cases hij : i = j
      · subst j
        rw [hi, htotal, List.count_cons_self, Option.map_some, Option.map_some,
          Nat.add_sub_add_right]
      · rw [hother j hij, List.count_cons_of_ne hij]
    · by_cases hzero : count = 0
      · rw [if_pos hzero, List.singleton_append, List.nodup_cons]
        refine ⟨fun hmem => ?_, hnodup⟩
        have := List.count_pos_iff.2 ((hfreed i).1 hmem).1
        omega
      · rwa [if_neg hzero, List.nil_append]
    · intro j
      rw [List.mem_append, hfreed, List.mem_cons]
      by_cases hij : i = j
      · subst j
        -- The last of several equal users finds the counter at one.
        rw [hi, htotal, List.count_cons_self, Option.some_inj, Option.some_inj,
          Nat.add_right_cancel_iff]
        by_cases hzero : count = 0
        · simp only [hzero, if_true, List.mem_singleton, true_or, true_and, true_iff]
          omega
        · simp only [hzero, if_false, List.not_mem_nil, false_or, true_or, true_and]
          refine ⟨fun h => h.2, fun h => ⟨List.count_pos_iff.1 (by omega), h⟩⟩
      · rw [hother j hij, List.count_cons_of_ne hij]
        have hne : j ∉ (if count = 0 then [i] else []) := by
          split
          · exact fun hmem => hij (List.mem_singleton.1 hmem).symm
          · exact List.not_mem_nil
        simp only [hne, Ne.symm hij, false_or]

/-! ## Turns of the loop -/

/-- A resource is a user as often as it lists the dependency. -/
theorem count_usersOf (dependencies : List (List Nat)) (i j : Nat) :
    (usersOf dependencies i).count j = (dependenciesOf dependencies j).count i := by
  -- Only the part of `j` itself has `j` in it.
  have hpart : ∀ k, (((dependenciesOf dependencies k).filter (· = i)).map fun _ => k).count j =
      if k = j then (dependenciesOf dependencies j).count i else 0 := by
    intro k
    split <;> rename_i hk
    · subst k
      rw [List.map_const', List.count_replicate_self, ← List.countP_eq_length_filter]
      rfl
    · rw [List.map_const', List.count_replicate, if_neg (by simpa using hk)]
  have hrange : ∀ n, ((List.range n).flatMap fun k =>
        ((dependenciesOf dependencies k).filter (· = i)).map fun _ => k).count j =
      if j < n then (dependenciesOf dependencies j).count i else 0 := by
    intro n
    induction n with
    | zero => rfl
    | succ n ih =>
      rw [List.range_succ, List.flatMap_append, List.count_append, ih, List.flatMap_singleton,
        hpart]
      by_cases hj : j < n
      · rw [if_pos hj, if_neg (by omega), if_pos (by omega), Nat.add_zero]
      · rw [if_neg hj, Nat.zero_add]
        by_cases hn : n = j
        · rw [if_pos hn, if_pos (by omega)]
        · rw [if_neg hn, if_neg (by omega)]
  rw [usersOf, hrange]
  split <;> rename_i hj
  · rfl
  · rw [dependenciesOf, List.getElem?_eq_none (by omega), Option.getD_none, List.count_nil]

/-- The users of an entry are those that depend on it. -/
theorem mem_usersOf_iff {i j : Nat} :
    j ∈ usersOf dependencies i ↔ i ∈ dependenciesOf dependencies j := by
  rw [← List.count_pos_iff, count_usersOf, List.count_pos_iff]

/-- In every state an entry waits for as many entries as it depends on and are not placed. -/
theorem getElem?_after_waiting (dependencies : List (List Nat)) (placed : List Nat) (j : Nat) :
    (after dependencies placed).waiting[j]? =
      dependencies[j]?.map fun deps => deps.countP (· ∉ placed) := by
  simp only [after, List.getElem?_map]

/-- The counter of a resource allows for every time that it lists a resource that is not placed. -/
theorem count_le_countP {i : Nat} (hi : i ∉ placed) (deps : List Nat) :
    deps.count i ≤ deps.countP (· ∉ placed) := by
  rw [List.count]
  apply List.countP_mono_left
  intro d _ hd
  rw [beq_iff_eq] at hd
  rwa [hd, decide_eq_true_eq]

/-- A user has a counter, and it allows for every time that the user comes. -/
theorem exists_count_le {i j : Nat} (hi : i ∉ placed) (hj : j ∈ usersOf dependencies i) :
    ∃ count, (after dependencies placed).waiting[j]? = some count ∧
      (usersOf dependencies i).count j ≤ count := by
  rw [count_usersOf, getElem?_after_waiting]
  have hlists := mem_usersOf_iff.1 hj
  rw [dependenciesOf] at hlists ⊢
  cases hdeps : dependencies[j]? with
  | none =>
    rw [hdeps] at hlists
    exact absurd hlists List.not_mem_nil
  | some deps => exact ⟨_, rfl, count_le_countP hi deps⟩

/-- The users whose counters are used up are those that wait for nothing more. -/
theorem mem_freed_iff_count {i j : Nat} (hi : i ∉ placed) :
    j ∈ Progress.freed dependencies i (after dependencies (i :: placed)).waiting ↔
      j ∈ usersOf dependencies i ∧
        (after dependencies placed).waiting[j]? = some ((usersOf dependencies i).count j) := by
  rw [mem_freed, mem_usersOf_iff, count_usersOf, getElem?_after_waiting, dependenciesOf]
  cases hdeps : dependencies[j]? with
  | none => simp
  | some deps =>
    have hlt := (List.getElem?_eq_some_iff.1 hdeps).1
    have hsum := countP_not_mem_cons hi deps
    have hle := count_le_countP hi deps
    have hnone : deps.countP (· ∉ i :: placed) = 0 ↔ ∀ d ∈ deps, d ∈ i :: placed := by
      rw [List.countP_eq_zero]
      simp only [decide_eq_true_eq, not_not]
    simp only [Option.getD_some, Option.map_some, Option.some_inj, hlt, true_and, ← hnone]
    refine and_congr_right fun _ => ?_
    omega

/-- An insertion adds one entry, somewhere. -/
theorem perm_insertAscending (i : Nat) (ready : List Nat) :
    (insertAscending i ready).Perm (i :: ready) := by
  induction ready with
  | nil => exact List.Perm.refl _
  | cons j rest ih =>
    rw [insertAscending]
    split
    · exact List.Perm.refl _
    · exact (ih.cons j).trans (List.Perm.swap i j rest)

/-- Insertions add these entries, somewhere. -/
theorem perm_foldl_insertAscending (new ready : List Nat) :
    (new.foldl (fun ready j => insertAscending j ready) ready).Perm (new ++ ready) := by
  induction new generalizing ready with
  | nil => exact List.Perm.refl _
  | cons i rest ih =>
    rw [List.foldl_cons, List.cons_append]
    exact (ih _).trans
      (((perm_insertAscending i ready).append_left rest).trans List.perm_middle)

/-- A turn places the first ready resource, lowers every counter to what is not placed then, and
puts each resource that this frees among the ready ones once. -/
theorem turn?_after {s : Journal} (hs : s.progress = after dependencies placed)
    (hclosed : Closed dependencies placed) {i : Nat} {rest : List Nat}
    (hready : s.progress.ready = i :: rest) :
    ∃ new, s.turn? dependencies = some ⟨after dependencies (i :: placed), s.entered ++ new⟩ ∧
      (new ++ rest).Perm (after dependencies (i :: placed)).ready := by
  rw [hs] at hready
  have hi : Progress.CanFollow dependencies placed i := by
    rw [← mem_after_ready, hready]
    exact List.mem_cons_self
  obtain ⟨waiting, new, hfold, hwaiting, hnodup, hnew⟩ :=
    @exists_countDownAll (usersOf dependencies i)
      ⟨{ after dependencies placed with placed := i :: placed, ready := rest }, s.entered⟩
      (fun j hj => exists_count_le hi.2.1 hj)
  have hcounters : waiting = (after dependencies (i :: placed)).waiting := by
    apply List.ext_getElem?
    intro j
    rw [hwaiting, count_usersOf, getElem?_after_waiting, getElem?_after_waiting, Option.map_map]
    cases hdeps : dependencies[j]? with
    | none => rfl
    | some deps =>
      rw [Option.map_some, Option.map_some, dependenciesOf, hdeps, Option.getD_some]
      exact congrArg some (countP_not_mem_cons hi.2.1 deps)
  have hreadyAfter := foldl_insertAscending_ready hclosed hready hnodup fun j =>
    (hnew j).trans (mem_freed_iff_count hi.2.1).symm
  refine ⟨new, ?_, ?_⟩
  · simp only [turn?, hs, hready, after_placed]
    rw [hfold, hcounters, hreadyAfter]
    rfl
  · rw [← hreadyAfter]
    exact (perm_foldl_insertAscending new rest).symm

/-- Only an empty ready list stops the loop: no counter is ever too low. -/
theorem turn?_eq_none_iff {s : Journal} (hs : s.progress = after dependencies placed)
    (hclosed : Closed dependencies placed) :
    s.turn? dependencies = none ↔ s.progress.ready = [] := by
  cases hready : s.progress.ready with
  | nil => simp only [turn?, hready]
  | cons i rest =>
    obtain ⟨new, hturn, -⟩ := turn?_after hs hclosed hready
    simp only [hturn, reduceCtorEq]

/-- Counting down one user after the other does what releasing does at once. -/
theorem map_progress_turn? {s : Journal} (hs : s.progress = after dependencies placed)
    (hclosed : Closed dependencies placed) :
    (s.turn? dependencies).map (·.progress) = s.progress.step? dependencies := by
  cases hready : s.progress.ready with
  | nil => simp only [turn?, step?, hready, Option.map_none]
  | cons i rest =>
    obtain ⟨new, hturn, -⟩ := turn?_after hs hclosed hready
    rw [hturn, Option.map_some, eq_comm, hs, step?_after hclosed]
    rw [hs] at hready
    exact ⟨i, next_iff_ready_eq_cons.2 ⟨rest, hready⟩, rfl⟩

/-- A state at the head of the loop is determined by what is placed, one resource for each turn, and
the resources that became ready are those that are placed or ready, each once. -/
theorem Visited.exists_placed {k : Nat} {s : Journal} (h : Visited dependencies k s) :
    ∃ placed, Reached dependencies placed ∧ placed.length = k ∧
      s.progress = after dependencies placed ∧ s.entered.Perm (placed ++ s.progress.ready) := by
  induction h with
  | start =>
    exact ⟨[], .start, rfl, start_eq_after dependencies, List.Perm.refl _⟩
  | @turn k s t _ hturn ih =>
    obtain ⟨placed, hreached, hlen, hs, hperm⟩ := ih
    cases hready : s.progress.ready with
    | nil =>
      rw [(turn?_eq_none_iff hs hreached.closed).2 hready] at hturn
      cases hturn
    | cons i rest =>
      obtain ⟨new, hnext, hnew⟩ := turn?_after hs hreached.closed hready
      rw [hnext] at hturn
      cases hturn
      rw [hready] at hperm
      rw [hs] at hready
      refine ⟨i :: placed, hreached.place (next_iff_ready_eq_cons.2 ⟨rest, hready⟩),
        congrArg (· + 1) hlen, rfl, ?_⟩
      have hmoved : ((placed ++ i :: rest) ++ new).Perm ((i :: placed) ++ (new ++ rest)) := by
        rw [List.append_assoc, List.cons_append, List.cons_append]
        exact List.perm_middle.trans ((List.perm_append_comm.append_left placed).cons i)
      exact (hperm.append_right new).trans (hmoved.trans (hnew.append_left (i :: placed)))

/-- Whatever steps can build is visited. -/
theorem exists_visited (h : Reached dependencies placed) :
    ∃ s, Visited dependencies placed.length s ∧ s.progress = after dependencies placed := by
  induction h with
  | start => exact ⟨start dependencies, .start, start_eq_after dependencies⟩
  | @place placed i hplaced hnext ih =>
    obtain ⟨s, hvisited, hs⟩ := ih
    obtain ⟨rest, hready⟩ := next_iff_ready_eq_cons.1 hnext
    obtain ⟨new, hturn, -⟩ := turn?_after hs hplaced.closed (hs ▸ hready)
    exact ⟨_, hvisited.turn hturn, rfl⟩

/-! ## In terms of resources -/

/-- A journal agrees with the resources that it is about. -/
structure Tallies (resources : List Resource) (s : Journal) : Prop where
  /-- A counter is the number of dependencies that are not placed, repetitions counted. -/
  waiting_eq : s.progress.waiting = resources.map fun r =>
    r.dependsOn.countP (· ∉ placedIds resources s.progress.placed)
  /-- Ready are the resources that are not placed and whose counters are zero. -/
  mem_ready_iff : ∀ i, i ∈ s.progress.ready ↔ ∃ r, resources[i]? = some r ∧
    r.id ∉ placedIds resources s.progress.placed ∧ s.progress.waiting[i]? = some 0
  pairwise_ready : s.progress.ready.Pairwise (· < ·)
  /-- No resource became ready twice. -/
  nodup_entered : s.entered.Nodup
  /-- What became ready is placed or still ready. -/
  entered_perm : s.entered.Perm (s.progress.placed ++ s.progress.ready)

theorem waiting_after_dependencyIndices (hids : (resources.map (·.id)).Nodup)
    (hknown : NoDangling resources) (hlt : ∀ i ∈ placed, i < resources.length) :
    (after (dependencyIndices resources) placed).waiting =
      resources.map fun r => r.dependsOn.countP (· ∉ placedIds resources placed) := by
  simp only [after, dependencyIndices, List.map_map]
  apply List.map_congr_left
  intro r hr
  rw [Function.comp_apply, List.countP_map]
  apply List.countP_congr
  intro d hd
  simp only [Function.comp_apply, decide_eq_true_eq,
    mem_placedIds_iff hids hlt (hknown r hr d hd)]

/-- The journal of every state at the head of the loop agrees with the resources. -/
theorem Visited.tallies (hids : (resources.map (·.id)).Nodup) (hknown : NoDangling resources)
    {k : Nat} {s : Journal} (h : Visited (dependencyIndices resources) k s) :
    s.Tallies resources := by
  obtain ⟨placed, hreached, -, hs, hperm⟩ := h.exists_placed
  have hlt : ∀ i ∈ placed, i < resources.length := by simpa using hreached.lt
  have hwaiting := waiting_after_dependencyIndices hids hknown hlt
  have hready : (placed ++ (after (dependencyIndices resources) placed).ready).Nodup := by
    refine List.nodup_append.2
      ⟨hreached.nodup, (pairwise_after_ready _ _).imp fun hij => hij.ne, ?_⟩
    rintro i hplaced j hj rfl
    exact (mem_after_ready.1 hj).2.1 hplaced
  rw [hs] at hperm
  refine ⟨by rw [hs, hwaiting, after_placed], ?_, ?_, hperm.nodup_iff.2 hready, ?_⟩
  · intro i
    rw [hs, mem_after_ready, hwaiting, after_placed]
    constructor
    · intro hi
      have hbound : i < resources.length := by simpa using hi.1
      have hget : resources[i]? = some resources[i] := List.getElem?_eq_getElem hbound
      obtain ⟨hnew, hdeps⟩ := (progress_canFollow_iff hids hknown hlt hget).1 hi
      refine ⟨resources[i], hget, hnew, ?_⟩
      rw [List.getElem?_map, hget, Option.map_some, Option.some_inj, List.countP_eq_zero]
      simpa using hdeps
    · rintro ⟨r, hget, hnew, hzero⟩
      rw [List.getElem?_map, hget, Option.map_some, Option.some_inj, List.countP_eq_zero] at hzero
      exact (progress_canFollow_iff hids hknown hlt hget).2 ⟨hnew, by simpa using hzero⟩
  · rw [hs]
    exact pairwise_after_ready _ _
  · rw [hs]
    exact hperm

end Journal

/-- The loop that counts one dependency down at a time.  At the head of every turn its journal
agrees with the resources; it stops only because nothing is ready, never because a counter at zero
should be lowered; its turns are the steps of `Progress`; and it ends after at most as many turns as
there are resources, in the state from which sorting reads its answer. -/
theorem countdown_exact (hids : (resources.map (·.id)).Nodup) (hknown : NoDangling resources) :
    (∀ k s, Journal.Visited (dependencyIndices resources) k s →
      s.Tallies resources ∧
      (s.turn? (dependencyIndices resources) = none ↔ s.progress.ready = []) ∧
      (s.turn? (dependencyIndices resources)).map (·.progress) =
        s.progress.step? (dependencyIndices resources) ∧
      k ≤ resources.length) ∧
    ∃ k s, Journal.Visited (dependencyIndices resources) k s ∧ s.progress.ready = [] ∧
      s.progress = Progress.run (dependencyIndices resources) resources.length
        (.start (dependencyIndices resources)) := by
  constructor
  · intro k s h
    obtain ⟨placed, hreached, hlen, hs, -⟩ := h.exists_placed
    have hle : placed.length ≤ resources.length := by
      have hsub := List.subperm_of_subset hreached.nodup fun i hi =>
        List.mem_range.2 (hreached.lt i hi)
      simpa using hsub.length_le
    exact ⟨h.tallies hids hknown, Journal.turn?_eq_none_iff hs hreached.closed,
      Journal.map_progress_turn? hs hreached.closed, hlen ▸ hle⟩
  · obtain ⟨final, hrun, hreached, hend⟩ := Progress.run_start (dependencyIndices resources)
    rw [length_dependencyIndices] at hrun
    obtain ⟨s, hvisited, hs⟩ := Journal.exists_visited hreached
    refine ⟨final.length, s, hvisited, ?_, by rw [hs, hrun]⟩
    rw [hs, List.eq_nil_iff_forall_not_mem]
    intro i hi
    exact hend i (mem_after_ready.1 hi)

/-- A dependency that is listed twice is counted down twice, and a resource that waits for itself
is never ready. -/
theorem countdown_exact_loop :
    let resources := [plainTopic "first" ["root", "root"], plainTopic "root" [],
      plainTopic "loop" ["loop", "first"]]
    let s : Journal := ⟨⟨[0, 1], [0, 0, 1], []⟩, [1, 0]⟩
    ((resources.map (·.id)).Nodup ∧ NoDangling resources) ∧
      Journal.Visited (dependencyIndices resources) 2 s ∧ s.Tallies resources ∧
      s.turn? (dependencyIndices resources) = none ∧ 2 ≤ resources.length := by
  intro resources s
  have hids : (resources.map (·.id)).Nodup := by decide
  have hknown : NoDangling resources := by
    unfold NoDangling
    decide
  have hfirst : Journal.Visited (dependencyIndices resources) 1 ⟨⟨[1], [0, 0, 2], [0]⟩, [1, 0]⟩ :=
    Journal.Visited.start.turn (by decide)
  have hvisited : Journal.Visited (dependencyIndices resources) 2 s := hfirst.turn (by decide)
  obtain ⟨htallies, hnone, -, hle⟩ := (countdown_exact hids hknown).1 2 s hvisited
  exact ⟨⟨hids, hknown⟩, hvisited, htallies, hnone.2 rfl, hle⟩

end Provisioning
end Groundwork
