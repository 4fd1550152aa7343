import Groundwork.Registry.Basic
import Mathlib.Data.List.Basic

/-!
# Registries in the making

A registry is made by calls that register one plugin or a list of plugins, and any call may be
refused.  Whatever the calls are, the table holds the generators of the plugins that were admitted,
each under its own tag and in the order in which they were, and a call only ever adds entries at
the end.

Main results:

- `Plugin.Fits`: a plugin's type tag begins as the tags of its backend do.
- `Registry.register_cases`: what becomes of a registry to which a plugin is given; from it follow
  when a plugin is admitted and which of the two errors refuses it.
- `Registry.exists_refused`: a refused list leaves the entries of the plugins before the refused
  one.
- `Registry.entries_performAll`: the table after any calls.
- `Registry.performAll_table`: all that holds of a registry that calls have made.
-/

namespace Groundwork

/-! ## Plugins that fit their backend -/

/-- No tag begins as the tags of two backends do. -/
theorem Backend.eq_of_tagPrefix_prefix {b b' : Backend} {tag : List Char}
    (h : b.tagPrefix.toList <+: tag) (h' : b'.tagPrefix.toList <+: tag) : b = b' := by
  have hshort : ∀ b b' : Backend, b.tagPrefix.toList <+: b'.tagPrefix.toList → b = b' := by
    intro b b'
    cases b <;> cases b' <;> decide +kernel
  rcases List.prefix_or_prefix_of_prefix h h' with hprefix | hprefix
  · exact hshort b b' hprefix
  · exact (hshort b' b hprefix).symm

/-- The plugin's type tag begins as the tags of its backend do. -/
def Plugin.Fits (p : Plugin) : Prop :=
  p.backend.tagPrefix.toList <+: p.definition.id.toList

/-- A tag fits at most one backend. -/
theorem Plugin.Fits.backend_eq {p q : Plugin} (hp : p.Fits) (hq : q.Fits)
    (hid : q.definition.id = p.definition.id) : q.backend = p.backend := by
  rw [Plugin.Fits, hid] at hq
  exact Backend.eq_of_tagPrefix_prefix hq hp

namespace Registry

variable {r : Registry} {p : Plugin}

/-! ## One plugin -/

/-- A plugin whose tag does not fit is refused for that, whatever the table holds. -/
theorem register_of_not_fits (h : ¬p.Fits) :
    r.register p = (r, some (.prefixMismatch p.definition.id p.backend)) := by
  rw [Plugin.Fits, ← List.isPrefixOf_iff_prefix] at h
  simp only [register, h, Bool.not_false, if_true]

/-- A plugin whose tag fits is refused if the tag is taken. -/
theorem register_of_mem (hfits : p.Fits) (hmem : p.definition.id ∈ r.types) :
    r.register p = (r, some (.duplicate p.definition.id)) := by
  rw [Plugin.Fits, ← List.isPrefixOf_iff_prefix] at hfits
  have hcontains : r.contains p.definition.id = true := List.contains_iff_mem.2 hmem
  simp only [register, hfits, Bool.not_true, Bool.false_eq_true, if_false, hcontains, if_true]

/-- A plugin whose tag fits and is free is put into the table. -/
theorem register_of_not_mem (hfits : p.Fits) (hnew : p.definition.id ∉ r.types) :
    r.register p = (⟨r.table.insert p.definition.id p.definition⟩, none) := by
  rw [Plugin.Fits, ← List.isPrefixOf_iff_prefix] at hfits
  have hcontains : ¬r.contains p.definition.id = true := mt List.contains_iff_mem.1 hnew
  simp only [register, hfits, Bool.not_true, Bool.false_eq_true, if_false, hcontains]

/-- A registry refuses a plugin and stays as it is, or puts the plugin's entry at the end. -/
theorem register_cases (r : Registry) (p : Plugin) :
    (¬p.Fits ∧ r.register p = (r, some (.prefixMismatch p.definition.id p.backend))) ∨
    (p.Fits ∧ p.definition.id ∈ r.types ∧
      r.register p = (r, some (.duplicate p.definition.id))) ∨
    (p.Fits ∧ p.definition.id ∉ r.types ∧ (r.register p).2 = none ∧
      (r.register p).1.table.entries = r.table.entries ++ [p.entry]) := by
  by_cases hfits : p.Fits
  · by_cases hmem : p.definition.id ∈ r.types
    · exact .inr (.inl ⟨hfits, hmem, register_of_mem hfits hmem⟩)
    · rw [register_of_not_mem hfits hmem]
      exact .inr (.inr ⟨hfits, hmem, rfl,
        OrderedMap.entries_insert_of_not_mem p.definition hmem⟩)
  · exact .inl ⟨hfits, register_of_not_fits hfits⟩

/-- The first thing that refuses a plugin is a tag that does not fit. -/
theorem register_eq_prefixMismatch_iff :
    (r.register p).2 = some (.prefixMismatch p.definition.id p.backend) ↔ ¬p.Fits := by
  rcases r.register_cases p with ⟨hfits, h⟩ | ⟨hfits, -, h⟩ | ⟨hfits, -, h, -⟩
  all_goals simp [h, hfits]

/-- The only other thing that refuses a plugin is a tag that is taken. -/
theorem register_eq_duplicate_iff :
    (r.register p).2 = some (.duplicate p.definition.id) ↔
      p.Fits ∧ p.definition.id ∈ r.types := by
  rcases r.register_cases p with ⟨hfits, h⟩ | ⟨hfits, hmem, h⟩ | ⟨hfits, hmem, h, -⟩
  all_goals simp_all

/-- A plugin is admitted exactly if its tag fits and is free. -/
theorem register_eq_none_iff :
    (r.register p).2 = none ↔ p.Fits ∧ p.definition.id ∉ r.types := by
  rcases r.register_cases p with ⟨hfits, h⟩ | ⟨hfits, hmem, h⟩ | ⟨hfits, hmem, h, -⟩
  all_goals simp_all

/-- A refused plugin leaves the registry as it was. -/
theorem register_of_refused {e : RegistryError} (h : (r.register p).2 = some e) :
    (r.register p).1 = r := by
  rcases r.register_cases p with ⟨-, hr⟩ | ⟨-, -, hr⟩ | ⟨-, -, hr, -⟩
  · rw [hr]
  · rw [hr]
  · rw [hr] at h
    cases h

/-- The tag of a plugin that is admitted fits. -/
theorem fits_of_register (h : (r.register p).2 = none) : p.Fits :=
  (register_eq_none_iff.1 h).1

/-- An admitted plugin's entry is put at the end. -/
theorem entries_of_register (h : (r.register p).2 = none) :
    (r.register p).1.table.entries = r.table.entries ++ [p.entry] := by
  rcases r.register_cases p with ⟨-, hr⟩ | ⟨-, -, hr⟩ | ⟨-, -, -, hr⟩
  · rw [hr] at h
    cases h
  · rw [hr] at h
    cases h
  · exact hr

/-! ## A list of plugins -/

/-- What is left of a list after a plugin that is admitted is registered in its turn. -/
theorem registerAll_of_admitted (h : (r.register p).2 = none) (rest : List Plugin) :
    r.registerAll (p :: rest) = (r.register p).1.registerAll rest := by
  have hr : r.register p = ((r.register p).1, none) := Prod.ext rfl h
  rw [registerAll, hr]

/-- A list ends at a plugin that is refused, with the registry as it is there. -/
theorem registerAll_of_refused {e : RegistryError} (h : (r.register p).2 = some e)
    (rest : List Plugin) : r.registerAll (p :: rest) = (r, some e) := by
  have hr : r.register p = (r, some e) := Prod.ext (register_of_refused h) h
  rw [registerAll, hr]

/-- The plugins of a list that a registry admits: those before the first that it refuses. -/
def admitted (r : Registry) : List Plugin → List Plugin
  | [] => []
  | p :: rest =>
    if (r.register p).2 = none then p :: (r.register p).1.admitted rest else []

/-- Registering a list adds the entries of the admitted plugins at the end. -/
theorem entries_registerAll (r : Registry) (plugins : List Plugin) :
    (r.registerAll plugins).1.table.entries =
      r.table.entries ++ (r.admitted plugins).map Plugin.entry := by
  induction plugins generalizing r with
  | nil => simp [registerAll, admitted]
  | cons p rest ih =>
    cases hr : (r.register p).2 with
    | some e => simp [registerAll_of_refused hr, admitted, hr]
    | none =>
      rw [registerAll_of_admitted hr, ih, entries_of_register hr, admitted, if_pos hr,
        List.map_cons, List.append_assoc, List.singleton_append]

/-- The tags of the plugins that are admitted fit. -/
theorem fits_of_mem_admitted {r : Registry} {plugins : List Plugin} (h : p ∈ r.admitted plugins) :
    p.Fits := by
  induction plugins generalizing r with
  | nil => cases h
  | cons q rest ih =>
    by_cases hr : (r.register q).2 = none
    · rw [admitted, if_pos hr, List.mem_cons] at h
      rcases h with rfl | h
      · exact fits_of_register hr
      · exact ih h
    · rw [admitted, if_neg hr] at h
      cases h

/-- The admitted plugins are the first ones of the list. -/
theorem admitted_prefix (r : Registry) (plugins : List Plugin) :
    r.admitted plugins <+: plugins := by
  induction plugins generalizing r with
  | nil => exact List.prefix_rfl
  | cons p rest ih =>
    by_cases hr : (r.register p).2 = none
    · simpa [admitted, hr] using ih (r.register p).1
    · simp [admitted, hr]

/-- A list that is not refused is admitted as a whole. -/
theorem admitted_eq_self {r : Registry} {plugins : List Plugin}
    (h : (r.registerAll plugins).2 = none) : r.admitted plugins = plugins := by
  induction plugins generalizing r with
  | nil => rfl
  | cons p rest ih =>
    cases hr : (r.register p).2 with
    | some e =>
      rw [registerAll_of_refused hr] at h
      cases h
    | none =>
      rw [registerAll_of_admitted hr] at h
      rw [admitted, if_pos hr, ih h]

/-- A refused list leaves exactly the entries of the plugins before the refused one, all of which
were admitted. -/
theorem exists_refused {r : Registry} {plugins : List Plugin} {e : RegistryError}
    (h : (r.registerAll plugins).2 = some e) :
    ∃ before p after, plugins = before ++ p :: after ∧
      (r.registerAll plugins).1.table.entries = r.table.entries ++ before.map Plugin.entry ∧
      ((r.registerAll plugins).1.register p).2 = some e := by
  induction plugins generalizing r with
  | nil => cases h
  | cons p rest ih =>
    cases hr : (r.register p).2 with
    | some e' =>
      rw [registerAll_of_refused hr] at h ⊢
      cases h
      exact ⟨[], p, rest, rfl, by simp, hr⟩
    | none =>
      rw [registerAll_of_admitted hr] at h ⊢
      obtain ⟨before, q, after, hrest, hentries, hq⟩ := ih h
      refine ⟨p :: before, q, after, by rw [hrest, List.cons_append], ?_, hq⟩
      rw [hentries, entries_of_register hr, List.map_cons, List.append_assoc,
        List.singleton_append]

/-- Plugins with fitting tags, none of them taken and none claimed twice, are all registered, and
none is refused. -/
theorem registerAll_eq_of_nodup {r : Registry} {plugins : List Plugin}
    (hfits : ∀ p ∈ plugins, p.Fits)
    (hnodup : (r.types ++ plugins.map (·.definition.id)).Nodup) :
    (r.registerAll plugins).1.table.entries = r.table.entries ++ plugins.map Plugin.entry ∧
      (r.registerAll plugins).2 = none := by
  induction plugins generalizing r with
  | nil => simp [registerAll]
  | cons p rest ih =>
    have hfresh : p.definition.id ∉ r.types := by
      intro hmem
      exact (List.nodup_append.1 hnodup).2.2 _ hmem _ List.mem_cons_self rfl
    have hr : (r.register p).2 = none :=
      register_eq_none_iff.2 ⟨hfits p List.mem_cons_self, hfresh⟩
    have hentries := entries_of_register hr
    have hrest : ((r.register p).1.types ++ rest.map (·.definition.id)).Nodup := by
      rw [types, OrderedMap.keys, hentries, List.map_append, List.append_assoc]
      exact hnodup
    obtain ⟨hall, hnone⟩ := ih (fun q hq => hfits q (List.mem_cons_of_mem p hq)) hrest
    rw [registerAll_of_admitted hr]
    refine ⟨?_, hnone⟩
    rw [hall, hentries, List.map_cons, List.append_assoc, List.singleton_append]

/-! ## Calls -/

/-- A call on a registry in the making. -/
inductive Call where
  | register (p : Plugin)
  | registerAll (plugins : List Plugin)

/-- The plugins that a call offers. -/
def Call.plugins : Call → List Plugin
  | register p => [p]
  | registerAll plugins => plugins

/-- The registry after a call, and why the call was refused if it was. -/
def perform (r : Registry) : Call → Registry × Option RegistryError
  | .register p => r.register p
  | .registerAll plugins => r.registerAll plugins

/-- The registry after calls one after the other, refused or not. -/
def performAll (r : Registry) : List Call → Registry
  | [] => r
  | call :: rest => (r.perform call).1.performAll rest

/-- The plugins that calls register with success, in order. -/
def admittedBy (r : Registry) : List Call → List Plugin
  | [] => []
  | call :: rest => r.admitted call.plugins ++ (r.perform call).1.admittedBy rest

/-- Registering one plugin is registering a list of one. -/
theorem perform_eq_registerAll (r : Registry) (call : Call) :
    r.perform call = r.registerAll call.plugins := by
  cases call with
  | registerAll plugins => rfl
  | register p =>
    cases hr : (r.register p).2 with
    | none =>
      rw [Call.plugins, registerAll_of_admitted hr, registerAll]
      exact Prod.ext rfl hr
    | some e =>
      rw [Call.plugins, registerAll_of_refused hr]
      exact Prod.ext (register_of_refused hr) hr

/-- Performing calls in two parts. -/
theorem performAll_append (r : Registry) (calls later : List Call) :
    r.performAll (calls ++ later) = (r.performAll calls).performAll later := by
  induction calls generalizing r with
  | nil => rfl
  | cons call rest ih => exact ih _

/-- What calls add to a registry: the entries of the admitted plugins, at the end. -/
theorem entries_performAll (r : Registry) (calls : List Call) :
    (r.performAll calls).table.entries =
      r.table.entries ++ (r.admittedBy calls).map Plugin.entry := by
  induction calls generalizing r with
  | nil => simp [performAll, admittedBy]
  | cons call rest ih =>
    rw [performAll, ih, perform_eq_registerAll, entries_registerAll, admittedBy,
      perform_eq_registerAll, List.map_append, List.append_assoc]

/-- The tags of the plugins that calls register fit. -/
theorem fits_of_mem_admittedBy {r : Registry} {calls : List Call} (h : p ∈ r.admittedBy calls) :
    p.Fits := by
  induction calls generalizing r with
  | nil => cases h
  | cons call rest ih =>
    rw [admittedBy, List.mem_append] at h
    rcases h with h | h
    · exact fits_of_mem_admitted h
    · exact ih h

/-- Every admitted plugin was offered by a call, in the order of the calls. -/
theorem admittedBy_sublist (r : Registry) (calls : List Call) :
    (r.admittedBy calls).Sublist (calls.flatMap Call.plugins) := by
  induction calls generalizing r with
  | nil => exact List.Sublist.refl _
  | cons call rest ih =>
    rw [admittedBy, List.flatMap_cons]
    exact (r.admitted_prefix call.plugins).sublist.append (ih _)

/-- Later calls leave every entry at its place. -/
theorem entries_prefix_performAll (r : Registry) (calls : List Call) :
    r.table.entries <+: (r.performAll calls).table.entries := by
  rw [entries_performAll]
  exact List.prefix_append _ _

/-- The table that any calls have made holds the generators of the admitted plugins in order, each
under its own tag, which fits the backend that it was registered for; later calls leave them where
they are.  A refused plugin changes nothing; a list is added as a whole or, if it is refused, up to
the refused plugin.  A plugin is refused for a tag that does not fit its backend, else for a tag
that is taken, and for nothing else; so a tag that one backend's plugins have is refused for every
other backend. -/
theorem performAll_table (calls later : List Call) :
    let r := empty.performAll calls
    let admitted := empty.admittedBy calls
    (r.table.entries = admitted.map (fun p => (p.definition.id, p.definition)) ∧
        admitted.Sublist (calls.flatMap Call.plugins) ∧
        (∀ p ∈ admitted, p.backend.tagPrefix.toList <+: p.definition.id.toList) ∧
        (∀ entry ∈ r.table.entries, entry.1 = entry.2.id) ∧
        r.definitions = admitted.map (·.definition) ∧
        r.types = admitted.map (·.definition.id) ∧ r.types.Nodup ∧
        ∀ tag d, r.get? tag = some d ↔ d ∈ r.definitions ∧ d.id = tag) ∧
      r.table.entries <+: (empty.performAll (calls ++ later)).table.entries ∧
      (∀ p e, (r.perform (.register p)).2 = some e → (r.perform (.register p)).1 = r) ∧
      (∀ p, (r.perform (.register p)).2 = none →
        (r.perform (.register p)).1.table.entries =
          r.table.entries ++ [(p.definition.id, p.definition)]) ∧
      (∀ plugins, (r.perform (.registerAll plugins)).2 = none →
        (r.perform (.registerAll plugins)).1.table.entries =
          r.table.entries ++ plugins.map (fun p => (p.definition.id, p.definition))) ∧
      (∀ plugins e, (r.perform (.registerAll plugins)).2 = some e →
        ∃ before p after, plugins = before ++ p :: after ∧
          (r.perform (.registerAll plugins)).1.table.entries =
            r.table.entries ++ before.map (fun p => (p.definition.id, p.definition)) ∧
          ((r.perform (.registerAll plugins)).1.register p).2 = some e) ∧
      (∀ p : Plugin,
        ((r.register p).2 = some (.prefixMismatch p.definition.id p.backend) ↔
          ¬p.backend.tagPrefix.toList <+: p.definition.id.toList) ∧
        ((r.register p).2 = some (.duplicate p.definition.id) ↔
          p.backend.tagPrefix.toList <+: p.definition.id.toList ∧ p.definition.id ∈ r.types) ∧
        ((r.register p).2 = none ↔
          p.backend.tagPrefix.toList <+: p.definition.id.toList ∧ p.definition.id ∉ r.types)) ∧
      ∀ p : Plugin, (r.register p).2 = none →
        ∀ q : Plugin, q.definition.id = p.definition.id → q.backend ≠ p.backend →
          ∀ s : Registry,
            (s.register q).2 = some (.prefixMismatch q.definition.id q.backend) := by
  intro r admitted
  have hentries : r.table.entries = admitted.map Plugin.entry := entries_performAll empty calls
  have hdefs : r.definitions = admitted.map (·.definition) := by
    rw [definitions, OrderedMap.values, hentries, List.map_map]
    rfl
  refine ⟨⟨hentries, admittedBy_sublist empty calls, fun p hp => fits_of_mem_admittedBy hp, ?_,
    hdefs, ?_, r.table.nodup, fun tag d => ?_⟩, ?_, fun p e => register_of_refused,
    fun p => entries_of_register, ?_, fun plugins e h => exists_refused h, ?_, ?_⟩
  · intro entry hentry
    rw [hentries] at hentry
    obtain ⟨p, -, rfl⟩ := List.mem_map.1 hentry
    rfl
  · rw [types, OrderedMap.keys, hentries, List.map_map]
    rfl
  · rw [get?, OrderedMap.get?_eq_some_iff, hentries, hdefs]
    simp only [List.mem_map, Plugin.entry, Prod.mk.injEq]
    constructor
    · rintro ⟨p, hp, rfl, rfl⟩
      exact ⟨⟨p, hp, rfl⟩, rfl⟩
    · rintro ⟨⟨p, hp, rfl⟩, rfl⟩
      exact ⟨p, hp, rfl, rfl⟩
  · rw [performAll_append]
    exact entries_prefix_performAll r later
  · intro plugins h
    rw [perform, entries_registerAll, admitted_eq_self h]
    rfl
  · exact fun p =>
      ⟨register_eq_prefixMismatch_iff, register_eq_duplicate_iff, register_eq_none_iff⟩
  · intro p hp q hid hne s
    have hfits : ¬q.Fits := fun hq => hne ((fits_of_register hp).backend_eq hq hid)
    rw [register_of_not_fits hfits]

end Registry

end Groundwork
