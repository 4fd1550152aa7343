import Groundwork.Proofs.Description.Validation
import Groundwork.Proofs.Naming.Resolution
import Groundwork.Proofs.Resolution.Steps

/-!
# The environment of a workload

A workload has variables and secrets, and a secret takes the place of a variable of its name.  The
two maps are put over each other first, so of a variable that a secret replaces nothing is left but
the place: not its value, not the node that it refers to, and not its failure to resolve.

Main definition:

- `Project.effectiveText?`: the text that a name stands for.

Main results:

- `OrderedMap.keys_insertAll`, `OrderedMap.get?_insertAll`: the places and the values when maps are
  put over each other.
- `Project.environment_eq_ok_iff`: values and nodes of an environment, each on its own.
- `Project.resolveEnvironment_exact`: what an environment becomes, and when it does not.
-/

namespace Groundwork

/-! ## One map over another -/

namespace OrderedMap

variable {α : Type}

/-- After an insertion there is the new entry, and every old one under another key. -/
theorem mem_entries_insert_iff {m : OrderedMap α} {key : String} {value : α}
    {entry : String × α} :
    entry ∈ (m.insert key value).entries ↔
      entry = (key, value) ∨ (entry ∈ m.entries ∧ entry.1 ≠ key) := by
  by_cases hkey : key ∈ m.keys
  · rw [entries_insert_of_mem value hkey, replaceValue, List.mem_map]
    constructor
    · rintro ⟨old, hold, rfl⟩
      by_cases hsame : old.1 = key
      · rw [if_pos hsame]
        exact Or.inl rfl
      · rw [if_neg hsame]
        exact Or.inr ⟨hold, hsame⟩
    · rintro (rfl | ⟨hold, hother⟩)
      · obtain ⟨old, hold, hsame⟩ := List.mem_map.1 hkey
        exact ⟨old, hold, if_pos hsame⟩
      · exact ⟨entry, hold, if_neg hother⟩
  · have hother : ∀ old ∈ m.entries, old.1 ≠ key := by
      rintro old hold rfl
      exact hkey (List.mem_map_of_mem hold)
    rw [entries_insert_of_not_mem value hkey, List.mem_append, List.mem_singleton, or_comm]
    exact or_congr_right ⟨fun h => ⟨h, hother entry h⟩, And.left⟩

/-- Inserting under another key changes nothing. -/
theorem get?_insert_of_ne {m : OrderedMap α} {key other : String} {value : α}
    (h : other ≠ key) : (m.insert key value).get? other = m.get? other := by
  refine Option.ext fun v => ?_
  rw [get?_eq_some_iff, get?_eq_some_iff, mem_entries_insert_iff]
  simp [h]

/-- After entries under distinct keys are inserted there are these, and every old one under another
key. -/
theorem mem_entries_insertAll_iff {m : OrderedMap α} {entries : List (String × α)}
    (hkeys : (entries.map (·.1)).Nodup) {entry : String × α} :
    entry ∈ (m.insertAll entries).entries ↔
      entry ∈ entries ∨ (entry ∈ m.entries ∧ entry.1 ∉ entries.map (·.1)) := by
  induction entries generalizing m with
  | nil => simp [insertAll]
  | cons new rest ih =>
    rw [List.map_cons, List.nodup_cons] at hkeys
    have hrest := ih hkeys.2 (m := m.insert new.1 new.2)
    rw [mem_entries_insert_iff] at hrest
    rw [insertAll, List.foldl_cons, ← insertAll, hrest, List.mem_cons, List.map_cons,
      List.mem_cons]
    have hnew : entry = new → entry.1 ∉ rest.map (·.1) := fun heq => heq ▸ hkeys.1
    tauto

/-- After insertions a key has the value inserted under it, else the one that it had. -/
theorem get?_insertAll {m : OrderedMap α} {entries : List (String × α)}
    (hkeys : (entries.map (·.1)).Nodup) (key : String) :
    (m.insertAll entries).get? key = (entries.lookup key).or (m.get? key) := by
  refine Option.ext fun value => ?_
  rw [get?_eq_some_iff, mem_entries_insertAll_iff hkeys, Option.or_eq_some_iff,
    lookup_eq_some_iff hkeys, get?_eq_some_iff, lookup_eq_none_iff]
  tauto

/-- New keys come after those that are there, which stay in their places. -/
theorem keys_insertAll {m : OrderedMap α} {entries : List (String × α)}
    (hkeys : (entries.map (·.1)).Nodup) :
    (m.insertAll entries).keys = m.keys ++ (entries.map (·.1)).filter (· ∉ m.keys) := by
  induction entries generalizing m with
  | nil => simp [insertAll]
  | cons new rest ih =>
    rw [List.map_cons, List.nodup_cons] at hkeys
    rw [insertAll, List.foldl_cons, ← insertAll, ih hkeys.2, keys_insert, List.map_cons]
    by_cases hnew : new.1 ∈ m.keys
    · rw [if_pos hnew, List.filter_cons_of_neg (by simpa using hnew)]
    · rw [if_neg hnew, List.filter_cons_of_pos (by simpa using hnew), List.append_assoc,
        List.singleton_append]
      congr 2
      refine List.filter_congr fun key hkey => ?_
      have hother : key ≠ new.1 := fun heq => hkeys.1 (heq ▸ hkey)
      simp [hother]

/-- Values stand under the keys, in their order. -/
theorem values_eq_filterMap (m : OrderedMap α) : m.values = m.keys.filterMap m.get? := by
  rw [values, keys, List.filterMap_map, ← List.filterMap_eq_map]
  exact List.filterMap_congr fun entry hentry => (get?_eq_some_iff.2 hentry).symm

/-- Maps with the same keys in the same order and the same values are equal. -/
theorem eq_of_get? {m n : OrderedMap α} (hkeys : m.keys = n.keys)
    (hget : ∀ key, m.get? key = n.get? key) : m = n := by
  have hvalues : m.values = n.values := by
    rw [values_eq_filterMap, values_eq_filterMap, hkeys]
    exact List.filterMap_congr fun key _ => hget key
  exact ext ((List.zip_of_prod hkeys hvalues).trans (List.zip_of_prod rfl rfl).symm)

end OrderedMap

namespace Project

/-! ## Repetitions -/

section Repetitions

variable {α : Type} [BEq α] [LawfulBEq α]

/-- It does not matter whether repeats or other entries are left out first. -/
theorem eraseDups_filter (keep : α → Bool) (l : List α) :
    (l.filter keep).eraseDups = l.eraseDups.filter keep := by
  induction h : l.length using Nat.strongRecOn generalizing l with
  | ind length ih =>
    cases l with
    | nil => rfl
    | cons a rest =>
      have hshorter : (rest.filter fun b => !b == a).length < length := by
        rw [← h]
        exact Nat.lt_succ_of_le (List.length_filter_le _ _)
      have hrest := ih _ hshorter _ rfl
      rw [List.eraseDups_cons]
      by_cases ha : keep a = true
      · rw [List.filter_cons_of_pos ha, List.filter_cons_of_pos ha, List.eraseDups_cons, ← hrest,
          List.filter_comm]
      · rw [List.filter_cons_of_neg ha, List.filter_cons_of_neg ha, ← hrest, List.filter_filter]
        congr 1
        refine List.filter_congr fun b _ => ?_
        by_cases hb : b = a
        · simp [hb, ha]
        · simp [hb]

/-- Erasing repetitions entry by entry. -/
theorem eraseDups_cons_filter (a : α) (l : List α) :
    (a :: l).eraseDups = a :: l.eraseDups.filter fun b => !b == a := by
  rw [List.eraseDups_cons, eraseDups_filter]

/-- Without repeats nothing comes twice. -/
theorem nodup_eraseDups (l : List α) : l.eraseDups.Nodup := by
  induction l with
  | nil => exact List.nodup_nil
  | cons a rest ih =>
    rw [eraseDups_cons_filter, List.nodup_cons]
    exact ⟨by simp, ih.filter _⟩

/-- Repeats are left out all at once. -/
theorem eraseDups_eraseDups (l : List α) : l.eraseDups.eraseDups = l.eraseDups := by
  induction l with
  | nil => rfl
  | cons a rest ih =>
    simp only [eraseDups_cons_filter, eraseDups_filter, ih, List.filter_filter, Bool.and_self]

/-- Repetitions that were erased before change nothing. -/
theorem eraseDups_append_eraseDups (before l after : List α) :
    (before ++ l.eraseDups ++ after).eraseDups = (before ++ l ++ after).eraseDups := by
  have hafter : after.removeAll l.eraseDups = after.removeAll l :=
    List.filter_congr fun b _ => by simp
  have hrest : (l.eraseDups ++ after).eraseDups = (l ++ after).eraseDups := by
    rw [List.eraseDups_append, List.eraseDups_append, eraseDups_eraseDups, hafter]
  rw [List.append_assoc, List.append_assoc, List.eraseDups_append, List.eraseDups_append,
    List.removeAll, List.removeAll, eraseDups_filter, eraseDups_filter, hrest]

end Repetitions

variable {p : Project} {env secrets : OrderedMap String}

/-! ## Values and nodes -/

/-- In one go, an environment is resolved as it is value by value, and its nodes are collected. -/
theorem resolveEnvironment_eq_ok_iff {resolved : ResolvedEnvironment} :
    p.resolveEnvironment env secrets = .ok resolved ↔
      p.resolveEnv env secrets = .ok resolved.values ∧
        resolved.nodes = (p.referencedNodes env secrets).eraseDups := by
  obtain ⟨values, nodes⟩ := resolved
  rw [resolveEnvironment, bind_eq_ok_iff]
  constructor
  · rintro ⟨res, hres, hresolved⟩
    obtain ⟨hvalues, hreferences⟩ := Reference.resolveAll_eq_ok_iff.1 hres
    cases hresolved
    exact ⟨hvalues, by rw [hreferences, referencedNodes]⟩
  · rintro ⟨hvalues, hnodes⟩
    refine ⟨⟨_, values⟩, Reference.resolveAll_eq_ok_iff.2 ⟨hvalues, rfl⟩, ?_⟩
    dsimp only at hnodes ⊢
    rw [hnodes, referencedNodes]
    rfl

/-- An environment is resolved if its values are, and its nodes are those referred to, each once. -/
theorem environment_eq_ok_iff {resolved : ResolvedEnvironment} :
    p.environment env secrets = .ok resolved ↔
      p.resolveEnv env secrets = .ok resolved.values ∧
        resolved.nodes = (p.referencedNodes env secrets).eraseDups := by
  rw [environment, mapError_eq_ok_iff, resolveEnvironment_eq_ok_iff]

/-! ## Secrets over variables -/

/-- A value under a key of the one map, or of the other where the first has nothing. -/
theorem mem_entries_effectiveValues_iff {env secrets : OrderedMap String}
    {entry : String × String} :
    entry ∈ (effectiveValues env secrets).entries ↔
      entry ∈ secrets.entries ∨ (entry ∈ env.entries ∧ entry.1 ∉ secrets.keys) :=
  OrderedMap.mem_entries_insertAll_iff secrets.nodup

/-- The text that a name stands for: that of the secret, or else that of the variable. -/
def effectiveText? (env secrets : OrderedMap String) (key : String) : Option String :=
  (secrets.get? key).or (env.get? key)

/-- A key has its effective text: a secret before a plain value. -/
theorem get?_effectiveValues (key : String) :
    (effectiveValues env secrets).get? key = effectiveText? env secrets key :=
  OrderedMap.get?_insertAll secrets.nodup key

/-- Variables come first, whether secrets replace them or not, and then all other secrets. -/
theorem keys_effectiveValues :
    (effectiveValues env secrets).keys = env.keys ++ secrets.keys.filter (· ∉ env.keys) :=
  OrderedMap.keys_insertAll secrets.nodup

/-- Of a variable that a secret replaces only the name matters. -/
theorem effectiveValues_congr {env' : OrderedMap String} (hkeys : env'.keys = env.keys)
    (hget : ∀ key ∉ secrets.keys, env'.get? key = env.get? key) :
    effectiveValues env' secrets = effectiveValues env secrets := by
  refine OrderedMap.eq_of_get? (by rw [keys_effectiveValues, keys_effectiveValues, hkeys]) ?_
  intro key
  rw [get?_effectiveValues, get?_effectiveValues, effectiveText?, effectiveText?]
  by_cases hkey : key ∈ secrets.keys
  · obtain ⟨⟨_, text⟩, hentry, rfl⟩ := List.mem_map.1 hkey
    rw [OrderedMap.get?_eq_some_iff.2 hentry, Option.some_or, Option.some_or]
  · rw [hget key hkey]

/-- The references of an environment are those among the texts that its names stand for. -/
theorem extract_effectiveValues :
    Reference.extract (effectiveValues env secrets) =
      (env.keys ++ secrets.keys.filter (· ∉ env.keys)).filterMap
        fun key => (effectiveText? env secrets key).bind Reference.parse? := by
  rw [Reference.extract, OrderedMap.values_eq_filterMap, List.filterMap_filterMap,
    keys_effectiveValues]
  simp only [get?_effectiveValues]

/-- A name gets the value of the text that it stands for. -/
theorem get?_of_resolveEnv {values : Environment} (h : p.resolveEnv env secrets = .ok values)
    {key text : String} (htext : effectiveText? env secrets key = some text) :
    ∃ v, values.get? key = some v ∧ (Reference.parse? text = none → v = .literal text) ∧
      ∀ r, Reference.parse? text = some r → p.renderReference r = .ok v := by
  rw [← get?_effectiveValues, OrderedMap.get?_eq_some_iff] at htext
  obtain ⟨v, hv, hmem⟩ := OrderedMap.exists_mem_traverse h htext
  refine ⟨v, OrderedMap.get?_eq_some_iff.2 hmem, ?_, ?_⟩
  · intro hparse
    rw [Reference.resolveValue, hparse] at hv
    exact (Except.ok.inj hv).symm
  · intro r hparse
    rwa [Reference.resolveValue, hparse] at hv

/-- Only a reference that no secret replaces can fail to resolve. -/
theorem exists_resolveEnv_ok_iff :
    (∃ values, p.resolveEnv env secrets = .ok values) ↔
      ∀ key text r, effectiveText? env secrets key = some text →
        Reference.parse? text = some r → ∃ v, p.renderReference r = .ok v := by
  simp only [← get?_effectiveValues, OrderedMap.get?_eq_some_iff]
  rw [resolveEnv, Reference.resolveMap, OrderedMap.exists_traverse_ok_iff]
  constructor
  · intro h key text r hentry hparse
    obtain ⟨v, hv⟩ := h _ hentry
    rw [Reference.resolveValue, hparse] at hv
    exact ⟨v, hv⟩
  · rintro h ⟨key, text⟩ hentry
    rw [Reference.resolveValue]
    cases hparse : Reference.parse? text with
    | none => exact ⟨_, rfl⟩
    | some r => exact h key text r hentry hparse

/-- Where an environment is resolved, its names are those of the variables in their order, and then
those that only secrets have in theirs.  Each name gets the value of the secret, or else of the
variable: a text that is no reference stays as it is, and a reference becomes what it is in the
project.  The nodes are those of the references among these texts, each once and where it first
comes.  It fails only where one of these references does, so whatever a variable was that a secret
replaces, nothing of it is left but its place. -/
theorem resolveEnvironment_exact (p : Project) (env secrets : OrderedMap String) :
    (∀ resolved, p.resolveEnvironment env secrets = .ok resolved →
      resolved.values.keys = env.keys ++ secrets.keys.filter (· ∉ env.keys) ∧
      (∀ key text, effectiveText? env secrets key = some text →
        ∃ v, resolved.values.get? key = some v ∧
          (Reference.parse? text = none → v = .literal text) ∧
          ∀ r, Reference.parse? text = some r → p.renderReference r = .ok v) ∧
      resolved.nodes = (((env.keys ++ secrets.keys.filter (· ∉ env.keys)).filterMap
        fun key => (effectiveText? env secrets key).bind Reference.parse?).map
          p.referenceNode).eraseDups ∧
      resolved.nodes.Nodup) ∧
    ((∃ resolved, p.resolveEnvironment env secrets = .ok resolved) ↔
      ∀ key text r, effectiveText? env secrets key = some text →
        Reference.parse? text = some r → ∃ v, p.renderReference r = .ok v) ∧
    ∀ env', env'.keys = env.keys → (∀ key ∉ secrets.keys, env'.get? key = env.get? key) →
      p.resolveEnvironment env' secrets = p.resolveEnvironment env secrets := by
  refine ⟨?_, ?_, ?_⟩
  · intro resolved hresolved
    obtain ⟨hvalues, hnodes⟩ := resolveEnvironment_eq_ok_iff.1 hresolved
    refine ⟨(OrderedMap.keys_traverse hvalues).trans keys_effectiveValues,
      fun _ _ => get?_of_resolveEnv hvalues, ?_, hnodes ▸ nodup_eraseDups _⟩
    rw [hnodes, referencedNodes, extract_effectiveValues]
  · rw [← exists_resolveEnv_ok_iff]
    constructor
    · rintro ⟨resolved, hresolved⟩
      exact ⟨_, (resolveEnvironment_eq_ok_iff.1 hresolved).1⟩
    · rintro ⟨values, hvalues⟩
      exact ⟨⟨values, _⟩, resolveEnvironment_eq_ok_iff.2 ⟨hvalues, rfl⟩⟩
  · intro env' hkeys hget
    rw [resolveEnvironment, resolveEnvironment, effectiveValues_congr hkeys hget]

/-- The variables of a shop: a token that cannot be resolved, a text and a session cache. -/
def shopVariables : OrderedMap String :=
  .ofList [("TOKEN", "@secret/old.value"), ("MODE", "prod"), ("SESSIONS", "@cache/sessions")]

/-- The secrets of a shop: another token, and the same again under its own name. -/
def shopSecrets : OrderedMap String :=
  .ofList [("KEY", "@secret/new"), ("TOKEN", "@secret/new.id")]

/-- The secret takes the place of the token, whatever the token is. -/
theorem resolveEnvironment_exact_shop :
    (∃ resolved,
      (Project.of (.inCluster [])).resolveEnvironment shopVariables shopSecrets = .ok resolved ∧
        resolved.values.keys = ["TOKEN", "MODE", "SESSIONS", "KEY"] ∧
        resolved.values.get? "MODE" = some (.literal "prod") ∧
        (∃ v, (Project.of (.inCluster [])).renderReference ⟨.secret, "new", some "id"⟩ = .ok v ∧
          resolved.values.get? "TOKEN" = some v) ∧
        resolved.nodes = ["secret-new", "cache-sessions"]) ∧
      (Project.of (.inCluster [])).resolveEnvironment (shopVariables.insert "TOKEN" "none")
          shopSecrets =
        (Project.of (.inCluster [])).resolveEnvironment shopVariables shopSecrets := by
  obtain ⟨hok, -, hcongr⟩ :=
    resolveEnvironment_exact (Project.of (.inCluster [])) shopVariables shopSecrets
  have hsome : ((Project.of (.inCluster [])).resolveEnvironment shopVariables
      shopSecrets).toOption.isSome := by decide +kernel
  obtain ⟨resolved, hresolved⟩ := exists_eq_ok_of_isSome hsome
  obtain ⟨hkeys, hvalues, hnodes, -⟩ := hok resolved hresolved
  obtain ⟨token, htoken, -, hrender⟩ := hvalues "TOKEN" "@secret/new.id" (by decide +kernel)
  obtain ⟨mode, hmode, hliteral, -⟩ := hvalues "MODE" "prod" (by decide +kernel)
  refine ⟨⟨resolved, hresolved, ?_, ?_, ?_, ?_⟩, hcongr _ (by decide +kernel) ?_⟩
  · exact hkeys.trans (by decide +kernel)
  · exact hliteral (by decide +kernel) ▸ hmode
  · exact ⟨token, hrender ⟨.secret, "new", some "id"⟩ (by decide +kernel), htoken⟩
  · exact hnodes.trans (by decide +kernel)
  · intro key hkey
    have hother : key ≠ "TOKEN" := fun heq => hkey (heq ▸ by decide +kernel)
    exact OrderedMap.get?_insert_of_ne hother

end Project

end Groundwork
