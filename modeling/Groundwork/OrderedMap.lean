/-!
# Maps in insertion order

Text keys with values, in the order in which the keys first came.  Inserting under a present key
keeps the key's place and replaces its value.

Main statements: `OrderedMap.keys_insert`, `OrderedMap.get?_eq_some_iff`,
`OrderedMap.ofList_entries`.
-/

namespace Groundwork

/-- A map from texts that remembers the order in which its keys first came. -/
structure OrderedMap (α : Type) where
  entries : List (String × α)
  nodup : (entries.map (·.1)).Nodup

namespace OrderedMap

variable {α β : Type}

/-- The map without entries. -/
def empty : OrderedMap α := ⟨[], by simp⟩

instance : EmptyCollection (OrderedMap α) := ⟨empty⟩

instance : Inhabited (OrderedMap α) := ⟨empty⟩

/-- The keys, in order of first insertion. -/
def keys (m : OrderedMap α) : List String := m.entries.map (·.1)

/-- The values, in the order of their keys. -/
def values (m : OrderedMap α) : List α := m.entries.map (·.2)

/-- Whether there are no entries. -/
def isEmpty (m : OrderedMap α) : Bool := m.entries.isEmpty

/-- The value under a key. -/
def get? (m : OrderedMap α) (key : String) : Option α := m.entries.lookup key

/-- Whether a key has a value. -/
def contains (m : OrderedMap α) (key : String) : Bool := m.keys.contains key

/-- Sets the value of every entry under `key`. -/
def replaceValue (key : String) (value : α) (entries : List (String × α)) : List (String × α) :=
  entries.map fun entry => if entry.1 = key then (key, value) else entry

@[simp]
theorem map_fst_replaceValue (key : String) (value : α) (entries : List (String × α)) :
    (replaceValue key value entries).map (·.1) = entries.map (·.1) := by
  simp only [replaceValue, List.map_map]
  apply List.map_congr_left
  intro entry _
  by_cases h : entry.1 = key <;> simp [h]

/-- Puts a value under a key: in place if the key is present, else at the end. -/
def insert (m : OrderedMap α) (key : String) (value : α) : OrderedMap α :=
  if h : key ∈ m.entries.map (·.1) then
    ⟨replaceValue key value m.entries, by simpa using m.nodup⟩
  else
    ⟨m.entries ++ [(key, value)], by
      simp only [List.map_append, List.map_cons, List.map_nil, List.nodup_append]
      refine ⟨m.nodup, by simp, ?_⟩
      rintro a ha b hb rfl
      rw [List.mem_singleton.1 hb] at ha
      exact h ha⟩

/-- Inserts entries one after the other. -/
def insertAll (m : OrderedMap α) (entries : List (String × α)) : OrderedMap α :=
  entries.foldl (fun m entry => m.insert entry.1 entry.2) m

/-- The map that inserting entries one after the other builds. -/
def ofList (entries : List (String × α)) : OrderedMap α := empty.insertAll entries

/-- Rewrites every value. -/
def map (f : α → β) (m : OrderedMap α) : OrderedMap β :=
  ⟨m.entries.map fun entry => (entry.1, f entry.2), by
    have h : (m.entries.map fun entry => (entry.1, f entry.2)).map (·.1)
        = m.entries.map (·.1) := by simp [List.map_map, Function.comp_def]
    rw [h]; exact m.nodup⟩

/-- Leaves out the entries whose keys `keep` does not hold of. -/
def filterKeys (keep : String → Bool) (m : OrderedMap α) : OrderedMap α where
  entries := m.entries.filter fun entry => keep entry.1
  nodup := m.nodup.sublist (List.filter_sublist.map _)

/-- Rewrites every entry in order; the first failure is the result. -/
def traverseEntries {ε : Type} (f : α → Except ε β) :
    List (String × α) → Except ε (List (String × β))
  | [] => .ok []
  | (key, value) :: rest => do
    let value ← f value
    let rest ← traverseEntries f rest
    return (key, value) :: rest

/-- Rewritten entries keep their keys. -/
theorem map_fst_traverseEntries {ε : Type} {f : α → Except ε β} {entries : List (String × α)}
    {result : List (String × β)} (h : traverseEntries f entries = .ok result) :
    result.map (·.1) = entries.map (·.1) := by
  induction entries generalizing result with
  | nil =>
    simp only [traverseEntries, Except.ok.injEq] at h
    subst h; rfl
  | cons entry rest ih =>
    obtain ⟨key, value⟩ := entry
    cases hv : f value with
    | error e => simp [traverseEntries, hv, bind, Except.bind] at h
    | ok v =>
      cases hr : traverseEntries f rest with
      | error e => simp [traverseEntries, hv, hr, bind, Except.bind] at h
      | ok r =>
        simp only [traverseEntries, hv, hr, bind, Except.bind, pure, Except.pure,
          Except.ok.injEq] at h
        subst h
        simp [ih hr]

/-- Rewrites every value with a function that can fail. -/
def traverse {ε : Type} (f : α → Except ε β) (m : OrderedMap α) : Except ε (OrderedMap β) :=
  match h : traverseEntries f m.entries with
  | .ok entries => .ok ⟨entries, by rw [map_fst_traverseEntries h]; exact m.nodup⟩
  | .error e => .error e

@[ext]
theorem ext {m n : OrderedMap α} (h : m.entries = n.entries) : m = n := by
  cases m; cases n; cases h; rfl

@[simp]
theorem entries_empty : (∅ : OrderedMap α).entries = [] := rfl

/-- With keys that are all distinct, looking up is membership. -/
theorem lookup_eq_some_iff {entries : List (String × α)} (h : (entries.map (·.1)).Nodup)
    {key : String} {value : α} : entries.lookup key = some value ↔ (key, value) ∈ entries := by
  induction entries with
  | nil => simp
  | cons entry rest ih =>
    obtain ⟨other, v⟩ := entry
    rw [List.map_cons, List.nodup_cons] at h
    rw [List.lookup_cons, List.mem_cons]
    by_cases hkey : key = other
    · subst hkey
      have hnot : (key, value) ∉ rest := fun hmem => h.1 (List.mem_map.2 ⟨_, hmem, rfl⟩)
      simp [hnot, eq_comm]
    · rw [beq_eq_false_iff_ne.2 hkey, ih h.2]
      simp [hkey]

/-- Looking up fails exactly for keys that no entry has. -/
theorem lookup_eq_none_iff {entries : List (String × α)} {key : String} :
    entries.lookup key = none ↔ key ∉ entries.map (·.1) := by
  rw [List.lookup_eq_none_iff, List.mem_map]
  constructor
  · rintro hne ⟨entry, hentry, rfl⟩
    simpa using hne entry hentry
  · intro hkey entry hentry
    simpa using fun heq => hkey ⟨entry, hentry, heq.symm⟩

/-- A key has the value that stands beside it in an entry. -/
theorem get?_eq_some_iff {m : OrderedMap α} {key : String} {value : α} :
    m.get? key = some value ↔ (key, value) ∈ m.entries :=
  lookup_eq_some_iff m.nodup

/-- A key without a value is not among the keys. -/
theorem get?_eq_none_iff {m : OrderedMap α} {key : String} : m.get? key = none ↔ key ∉ m.keys :=
  lookup_eq_none_iff

/-- Keys that are kept have their values, and no others do. -/
theorem get?_filterKeys (keep : String → Bool) (m : OrderedMap α) (key : String) :
    (m.filterKeys keep).get? key = if keep key then m.get? key else none := by
  refine Option.ext fun value => ?_
  by_cases h : keep key <;>
    simp [get?_eq_some_iff, filterKeys, List.mem_filter, h]

/-- A key that is present keeps its place and gets the new value. -/
theorem entries_insert_of_mem {m : OrderedMap α} {key : String} (value : α) (h : key ∈ m.keys) :
    (m.insert key value).entries = replaceValue key value m.entries := by
  have h' : key ∈ m.entries.map (·.1) := h
  rw [insert, dif_pos h']

/-- A new key is put at the end. -/
theorem entries_insert_of_not_mem {m : OrderedMap α} {key : String} (value : α)
    (h : key ∉ m.keys) : (m.insert key value).entries = m.entries ++ [(key, value)] := by
  have h' : key ∉ m.entries.map (·.1) := h
  rw [insert, dif_neg h']

/-- Inserting adds the key at the end unless it is there already. -/
theorem keys_insert (m : OrderedMap α) (key : String) (value : α) :
    (m.insert key value).keys = if key ∈ m.keys then m.keys else m.keys ++ [key] := by
  by_cases h : key ∈ m.keys
  · rw [if_pos h, keys, entries_insert_of_mem value h, map_fst_replaceValue, ← keys]
  · rw [if_neg h, keys, entries_insert_of_not_mem value h, List.map_append, ← keys]
    rfl

/-- New keys, none of them twice, are put at the end in order. -/
theorem entries_insertAll {m : OrderedMap α} {entries : List (String × α)}
    (h : ((m.entries ++ entries).map (·.1)).Nodup) :
    (m.insertAll entries).entries = m.entries ++ entries := by
  induction entries generalizing m with
  | nil => simp [insertAll]
  | cons entry rest ih =>
    have hnot : entry.1 ∉ m.keys := by
      intro hm
      rw [List.map_append, List.nodup_append] at h
      exact h.2.2 entry.1 hm entry.1 (by simp) rfl
    have hins := entries_insert_of_not_mem entry.2 hnot
    have hrest : (((m.insert entry.1 entry.2).entries ++ rest).map (·.1)).Nodup := by
      rw [hins]; simpa using h
    have := ih hrest
    simp only [insertAll, List.foldl_cons] at this ⊢
    rw [this, hins]; simp

/-- A map is built again from its entries. -/
@[simp]
theorem ofList_entries (m : OrderedMap α) : ofList m.entries = m := by
  apply ext
  have h : ((empty (α := α)).entries ++ m.entries |>.map (·.1)).Nodup := by
    simpa [empty] using m.nodup
  simpa [ofList, empty] using entries_insertAll h

end OrderedMap

end Groundwork
