import Groundwork.Reference
import Mathlib.Data.List.Forall2
import Mathlib.Data.List.Nodup

/-!
# Resolving the references of a map

A map is resolved entry by entry, and the references are collected on the way.  So the result has
the keys of the map in their places, the references that are collected are those of the map, and the
first entry that cannot be resolved is the one that is reported.  With placeholders this happens
exactly to a reference whose property is not among those that its type accepts: what a property
means is looked up in one table, what is accepted is listed from another, and the two agree.

Main definitions:

- `ReferenceType.Means`: what a property of a type means.
- `Reference.NamesUnknown`: texts that are references to a property that their type does not have.

Main results:

- `OrderedMap.traverse_eq_ok_iff`, `OrderedMap.traverse_eq_error_iff`: when rewriting succeeds, and
  which failure it reports.
- `Reference.resolveAll_eq_ok_iff`, `Reference.resolveAll_eq_error_iff`: resolving and collecting in
  one go is the same as doing one after the other.
- `Reference.resolvePlaceholders_exact`: what placeholders make of a map, and when they do not.
-/

namespace Groundwork

/-- A computation with a result ends without an error. -/
theorem exists_eq_ok_of_isSome {ε α : Type} {x : Except ε α} (h : x.toOption.isSome) :
    ∃ a, x = .ok a := by
  cases x with
  | error e => cases h
  | ok a => exact ⟨a, rfl⟩

namespace OrderedMap

variable {ε α β : Type} {f : α → Except ε β}

/-! ## Rewriting with a function that can fail -/

/-- An entry is rewritten if its value is, under its own key. -/
def Rewrites (f : α → Except ε β) (entry : String × α) (entry' : String × β) : Prop :=
  entry'.1 = entry.1 ∧ f entry.2 = .ok entry'.2

/-- Rewriting entries succeeds exactly if each of them is rewritten, in its place. -/
theorem traverseEntries_eq_ok_iff {entries : List (String × α)} {result : List (String × β)} :
    traverseEntries f entries = .ok result ↔ List.Forall₂ (Rewrites f) entries result := by
  induction entries generalizing result with
  | nil => simp [traverseEntries, eq_comm]
  | cons entry rest ih =>
    obtain ⟨key, value⟩ := entry
    rw [List.forall₂_cons_left_iff]
    constructor
    · intro h
      cases hvalue : f value with
      | error e =>
        rw [traverseEntries, hvalue] at h
        cases h
      | ok v =>
        cases hrest : traverseEntries f rest with
        | error e =>
          rw [traverseEntries, hvalue, hrest] at h
          cases h
        | ok values =>
          rw [traverseEntries, hvalue, hrest] at h
          cases h
          exact ⟨(key, v), values, ⟨rfl, hvalue⟩, ih.1 hrest, rfl⟩
    · rintro ⟨⟨key', v⟩, values, ⟨rfl, hvalue⟩, hrest, rfl⟩
      rw [traverseEntries, hvalue, ih.2 hrest]
      rfl

/-- Rewriting entries fails exactly as the first entry does that cannot be rewritten. -/
theorem traverseEntries_eq_error_iff {entries : List (String × α)} {e : ε} :
    traverseEntries f entries = .error e ↔
      ∃ before entry after, entries = before ++ entry :: after ∧
        (∀ earlier ∈ before, ∃ v, f earlier.2 = .ok v) ∧ f entry.2 = .error e := by
  induction entries with
  | nil => simp [traverseEntries]
  | cons entry rest ih =>
    obtain ⟨key, value⟩ := entry
    constructor
    · intro h
      cases hvalue : f value with
      | error e' =>
        rw [traverseEntries, hvalue] at h
        cases h
        exact ⟨[], (key, value), rest, rfl, by simp, hvalue⟩
      | ok v =>
        cases hrest : traverseEntries f rest with
        | ok values =>
          rw [traverseEntries, hvalue, hrest] at h
          cases h
        | error e' =>
          rw [traverseEntries, hvalue, hrest] at h
          cases h
          obtain ⟨before, failing, after, rfl, hbefore, hfailing⟩ := ih.1 hrest
          exact ⟨(key, value) :: before, failing, after, rfl,
            List.forall_mem_cons.2 ⟨⟨v, hvalue⟩, hbefore⟩, hfailing⟩
    · rintro ⟨before, failing, after, heq, hbefore, hfailing⟩
      cases before with
      | nil =>
        obtain ⟨rfl, rfl⟩ := List.cons.inj heq
        rw [traverseEntries, hfailing]
        rfl
      | cons first more =>
        obtain ⟨rfl, rfl⟩ := List.cons.inj heq
        obtain ⟨⟨v, hvalue⟩, hmore⟩ := List.forall_mem_cons.1 hbefore
        rw [traverseEntries, hvalue, ih.2 ⟨more, failing, after, rfl, hmore, hfailing⟩]
        rfl

/-- A map is traversed entry by entry. -/
theorem traverse_eq_ok_iff_traverseEntries {m : OrderedMap α} {result : OrderedMap β} :
    m.traverse f = .ok result ↔ traverseEntries f m.entries = .ok result.entries := by
  unfold traverse
  split
  · rename_i entries hentries
    simp [hentries, OrderedMap.ext_iff]
  · rename_i e hentries
    simp [hentries]

/-- Rewriting a map succeeds exactly if each entry is rewritten, in its place. -/
theorem traverse_eq_ok_iff {m : OrderedMap α} {result : OrderedMap β} :
    m.traverse f = .ok result ↔ List.Forall₂ (Rewrites f) m.entries result.entries :=
  traverse_eq_ok_iff_traverseEntries.trans traverseEntries_eq_ok_iff

/-- Rewriting a map fails exactly as the first entry does that cannot be rewritten. -/
theorem traverse_eq_error_iff {m : OrderedMap α} {e : ε} :
    m.traverse f = .error e ↔
      ∃ before entry after, m.entries = before ++ entry :: after ∧
        (∀ earlier ∈ before, ∃ v, f earlier.2 = .ok v) ∧ f entry.2 = .error e := by
  rw [← traverseEntries_eq_error_iff]
  unfold traverse
  split
  · rename_i entries hentries
    simp [hentries]
  · rename_i e' hentries
    simp [hentries]

/-- Traversing keeps the keys and their order. -/
theorem keys_traverse {m : OrderedMap α} {result : OrderedMap β} (h : m.traverse f = .ok result) :
    result.keys = m.keys :=
  map_fst_traverseEntries (traverse_eq_ok_iff_traverseEntries.1 h)

/-- Every value of a map is rewritten under its key. -/
theorem exists_mem_traverse {m : OrderedMap α} {result : OrderedMap β}
    (h : m.traverse f = .ok result) {key : String} {x : α} (hx : (key, x) ∈ m.entries) :
    ∃ v, f x = .ok v ∧ (key, v) ∈ result.entries := by
  have hrewrites := traverse_eq_ok_iff.1 h
  generalize m.entries = entries, result.entries = entries' at hx hrewrites ⊢
  induction hrewrites with
  | nil => cases hx
  | @cons entry entry' rest rest' hentry _ ih =>
    rcases List.mem_cons.1 hx with rfl | hx
    · exact ⟨entry'.2, hentry.2, List.mem_cons.2 (Or.inl (Prod.ext hentry.1.symm rfl))⟩
    · obtain ⟨v, hv, hmem⟩ := ih hx
      exact ⟨v, hv, List.mem_cons_of_mem _ hmem⟩

/-- Every value of a rewritten map is made of the value under its key. -/
theorem mem_entries_traverse {m : OrderedMap α} {result : OrderedMap β}
    (h : m.traverse f = .ok result) {key : String} {v : β} (hv : (key, v) ∈ result.entries) :
    ∃ x, (key, x) ∈ m.entries ∧ f x = .ok v := by
  have hkey : key ∈ m.entries.map (·.1) := by
    rw [← keys, ← keys_traverse h]
    exact List.mem_map_of_mem hv
  obtain ⟨⟨_, x⟩, hx, rfl⟩ := List.mem_map.1 hkey
  obtain ⟨v', hv', hmem⟩ := exists_mem_traverse h hx
  -- Both values stand under the same key, so they are one.
  have heq : v' = v :=
    Option.some.inj ((get?_eq_some_iff.2 hmem).symm.trans (get?_eq_some_iff.2 hv))
  exact ⟨x, hx, heq ▸ hv'⟩

/-- Rewriting a map succeeds exactly if every value can be rewritten. -/
theorem exists_traverse_ok_iff {m : OrderedMap α} :
    (∃ result, m.traverse f = .ok result) ↔ ∀ entry ∈ m.entries, ∃ v, f entry.2 = .ok v := by
  constructor
  · rintro ⟨result, h⟩ entry hentry
    obtain ⟨v, hv, -⟩ := exists_mem_traverse h hentry
    exact ⟨v, hv⟩
  · intro h
    cases hm : m.traverse f with
    | ok result => exact ⟨result, rfl⟩
    | error e =>
      obtain ⟨before, failing, after, hentries, -, hfailing⟩ := traverse_eq_error_iff.1 hm
      obtain ⟨v, hv⟩ := h failing (by rw [hentries]; simp)
      rw [hfailing] at hv
      cases hv

end OrderedMap

/-! ## Resolving and collecting in one go -/

namespace Reference

variable {ε α : Type} {resolve : Reference → Except ε α} {literal : String → α}

/-- What entries add to what there is: their references, and their values if all can be resolved. -/
theorem resolveEntries_eq (done : Resolution α) (entries : List (String × String)) :
    resolveEntries resolve literal done entries =
      (OrderedMap.traverseEntries (resolveValue resolve literal) entries).map fun resolved =>
        ⟨done.references ++ (entries.map (·.2)).filterMap parse?,
          done.values.insertAll resolved⟩ := by
  induction entries generalizing done with
  | nil =>
    rw [resolveEntries, List.map_nil, List.filterMap_nil, List.append_nil]
    rfl
  | cons entry rest ih =>
    obtain ⟨key, value⟩ := entry
    rw [resolveEntries, OrderedMap.traverseEntries, resolveValue, List.map_cons]
    cases hvalue : parse? value with
    | none =>
      simp only [ih, List.filterMap_cons_none hvalue]
      cases OrderedMap.traverseEntries (resolveValue resolve literal) rest <;> rfl
    | some r =>
      simp only [ih, List.filterMap_cons_some hvalue]
      cases resolve r with
      | error e => rfl
      | ok v =>
        cases OrderedMap.traverseEntries (resolveValue resolve literal) rest with
        | error e => rfl
        | ok resolved =>
          simp [Except.map, bind, Except.bind, pure, Except.pure, OrderedMap.insertAll]

/-- In one go a map is resolved as it is value by value, and its references are collected. -/
theorem resolveAll_eq_ok_iff {values : OrderedMap String} {res : Resolution α} :
    resolveAll resolve literal values = .ok res ↔
      resolveMap resolve literal values = .ok res.values ∧ res.references = extract values := by
  obtain ⟨references, resolved⟩ := res
  rw [resolveAll, resolveEntries_eq, resolveMap, OrderedMap.traverse_eq_ok_iff_traverseEntries]
  cases hentries : OrderedMap.traverseEntries (resolveValue resolve literal) values.entries with
  | error e => simp [Except.map]
  | ok entries =>
    -- Distinct keys are inserted one after the other into a map that has none.
    have hinsert : ((∅ : OrderedMap α).insertAll entries).entries = entries := by
      refine OrderedMap.entries_insertAll ?_
      rw [OrderedMap.entries_empty, List.nil_append,
        OrderedMap.map_fst_traverseEntries hentries]
      exact values.nodup
    simp only [Except.map, List.nil_append, Except.ok.injEq, Resolution.mk.injEq,
      OrderedMap.ext_iff, hinsert]
    rw [and_comm, eq_comm (b := references)]
    rfl

/-- In one go a map fails as it does value by value. -/
theorem resolveAll_eq_error_iff {values : OrderedMap String} {e : ε} :
    resolveAll resolve literal values = .error e ↔
      resolveMap resolve literal values = .error e := by
  rw [resolveAll, resolveEntries_eq, resolveMap, OrderedMap.traverse_eq_error_iff,
    ← OrderedMap.traverseEntries_eq_error_iff]
  cases OrderedMap.traverseEntries (resolveValue resolve literal) values.entries <;>
    simp [Except.map]

end Reference

/-! ## What properties mean -/

namespace ReferenceType

variable {t : ReferenceType}

/-- What a property of a type means: its default output if none is named or the default output is,
else what the table of the type says. -/
inductive Means (t : ReferenceType) : Option String → String → Prop
  | unnamed : t.Means none t.defaultOutput
  | default : t.Means (some t.defaultOutput) t.defaultOutput
  | listed {property output : String} (hne : property ≠ t.defaultOutput)
      (hlisted : (property, output) ∈ t.properties) : t.Means (some property) output

/-- No property of a type is listed twice. -/
theorem nodup_properties (t : ReferenceType) : (t.properties.map (·.1)).Nodup := by
  cases t <;> decide

/-- The output that a property stands for, if there is one. -/
theorem output?_eq_some_iff {property : Option String} {output : String} :
    t.output? property = some output ↔ t.Means property output := by
  constructor
  · intro h
    cases property with
    | none =>
      cases h
      exact .unnamed
    | some property =>
      rw [output?] at h
      split at h
      · rename_i hdefault
        cases h
        rw [hdefault]
        exact .default
      · rename_i hne
        exact .listed hne ((OrderedMap.lookup_eq_some_iff t.nodup_properties).1 h)
  · intro h
    cases h with
    | unnamed => rfl
    | default => exact if_pos rfl
    | listed hne hlisted =>
      rw [output?, if_neg hne]
      exact (OrderedMap.lookup_eq_some_iff t.nodup_properties).2 hlisted

/-- The properties that mean something are those that are listed as accepted. -/
theorem exists_means_iff {property : String} :
    (∃ output, t.Means (some property) output) ↔ property ∈ t.acceptedProperties := by
  rw [acceptedProperties, List.mem_cons, List.mem_filter, List.mem_map, decide_eq_true_eq]
  constructor
  · rintro ⟨output, h⟩
    cases h with
    | default => exact Or.inl rfl
    | listed hne hlisted => exact Or.inr ⟨⟨_, hlisted, rfl⟩, hne⟩
  · rintro (rfl | ⟨⟨⟨name, output⟩, hlisted, rfl⟩, hne⟩)
    · exact ⟨_, .default⟩
    · exact ⟨output, .listed hne hlisted⟩

/-- The output of a reference is the one that its property means; the default is meant without one. -/
theorem output_eq_ok_iff {property : Option String} {output : String} :
    t.output property = .ok output ↔ t.Means property output := by
  rw [← output?_eq_some_iff, ReferenceType.output]
  cases t.output? property <;> simp

/-- A property without a meaning is reported with the properties that the type accepts. -/
theorem output_eq_error_iff {property : Option String} {e : UnknownProperty} :
    t.output property = .error e ↔
      ∃ name, property = some name ∧ name ∉ t.acceptedProperties ∧
        e = ⟨t, name, t.acceptedProperties⟩ := by
  cases property with
  | none => simp [ReferenceType.output, output?]
  | some name =>
    simp only [Option.some.injEq, exists_eq_left', ← exists_means_iff, ← output?_eq_some_iff,
      ReferenceType.output]
    cases t.output? (some name) <;> simp [eq_comm]

end ReferenceType

/-! ## Placeholders -/

namespace Reference

/-- A text is a reference to a property that its type does not have. -/
def NamesUnknown (text : String) (r : Reference) (property : String) : Prop :=
  parse? text = some r ∧ r.property = some property ∧ property ∉ r.type.acceptedProperties

/-- A reference becomes a placeholder exactly if its property stands for an output. -/
theorem placeholder_eq_ok_iff {r : Reference} {text : String} :
    r.placeholder = .ok text ↔
      ∃ output, r.type.Means r.property output ∧
        text = "$\x7b" ++ (sanitizeIdentifier r.name ++ capitalize output) ++ "\x7d" := by
  simp only [← ReferenceType.output_eq_ok_iff, placeholder, output]
  cases r.type.output r.property with
  | error e => simp [bind, Except.bind]
  | ok output => simp [bind, Except.bind, pure, Except.pure, outputVariable, eq_comm]

/-- It fails exactly for a property that is not accepted, and the error lists those that are. -/
theorem placeholder_eq_error_iff {r : Reference} {e : UnknownProperty} :
    r.placeholder = .error e ↔
      ∃ property, r.property = some property ∧ property ∉ r.type.acceptedProperties ∧
        e = ⟨r.type, property, r.type.acceptedProperties⟩ := by
  rw [← ReferenceType.output_eq_error_iff, placeholder, output]
  cases r.type.output r.property with
  | error e' => simp [bind, Except.bind]
  | ok output => simp [bind, Except.bind, pure, Except.pure]

/-- A value with a placeholder fails exactly if it is a reference to an unknown property. -/
theorem resolveValue_placeholder_eq_error_iff {text : String} {e : UnknownProperty} :
    resolveValue placeholder id text = .error e ↔
      ∃ r property, NamesUnknown text r property ∧
        e = ⟨r.type, property, r.type.acceptedProperties⟩ := by
  unfold NamesUnknown resolveValue
  cases hparse : parse? text with
  | none => simp
  | some r => simp [placeholder_eq_error_iff, and_assoc]

/-- A value can be resolved unless it names an unknown property. -/
theorem exists_resolveValue_placeholder_iff {text : String} :
    (∃ v, resolveValue placeholder id text = .ok v) ↔
      ∀ r property, ¬ NamesUnknown text r property := by
  cases hvalue : resolveValue placeholder id text with
  | ok v =>
    simp only [Except.ok.injEq, exists_eq', true_iff]
    intro r property hunknown
    rw [resolveValue_placeholder_eq_error_iff.2 ⟨r, property, hunknown, rfl⟩] at hvalue
    cases hvalue
  | error e =>
    obtain ⟨r, property, hunknown, -⟩ := resolveValue_placeholder_eq_error_iff.1 hvalue
    simp only [reduceCtorEq, exists_false, false_iff]
    exact fun h => h r property hunknown

/-- Placeholders fail with the first value that names an unknown property. -/
theorem resolvePlaceholders_eq_error_iff {values : OrderedMap String} {e : UnknownProperty} :
    resolvePlaceholders values = .error e ↔
      ∃ before key text after, values.entries = before ++ (key, text) :: after ∧
        (∀ earlier ∈ before, ∀ r property, ¬ NamesUnknown earlier.2 r property) ∧
        ∃ r property, NamesUnknown text r property ∧
          e = ⟨r.type, property, r.type.acceptedProperties⟩ := by
  rw [resolvePlaceholders, resolveAll_eq_error_iff, resolveMap, OrderedMap.traverse_eq_error_iff]
  simp only [Prod.exists, exists_resolveValue_placeholder_iff,
    resolveValue_placeholder_eq_error_iff]

/-- Placeholders fail exactly if some value is a reference to an unknown property. -/
theorem exists_resolvePlaceholders_error_iff {values : OrderedMap String} :
    (∃ e, resolvePlaceholders values = .error e) ↔
      ∃ text ∈ values.values, ∃ r property, NamesUnknown text r property := by
  constructor
  · rintro ⟨e, he⟩
    obtain ⟨before, key, text, after, hentries, -, r, property, hunknown, -⟩ :=
      resolvePlaceholders_eq_error_iff.1 he
    refine ⟨text, ?_, r, property, hunknown⟩
    rw [OrderedMap.values, hentries]
    simp
  · rintro ⟨text, htext, r, property, hunknown⟩
    obtain ⟨⟨key, _⟩, hentry, rfl⟩ := List.mem_map.1 htext
    cases hresolve : resolvePlaceholders values with
    | error e => exact ⟨e, rfl⟩
    | ok res =>
      obtain ⟨v, hv, -⟩ := OrderedMap.exists_mem_traverse (resolveAll_eq_ok_iff.1 hresolve).1 hentry
      exact absurd hunknown (exists_resolveValue_placeholder_iff.1 ⟨v, hv⟩ r property)

/-- A value is replaced in its place: a reference by the placeholder of the output that its property
means, and nothing else. -/
theorem mem_entries_of_resolvePlaceholders {values : OrderedMap String} {res : Resolution String}
    (h : resolvePlaceholders values = .ok res) {key text : String}
    (hentry : (key, text) ∈ values.entries) :
    (parse? text = none → (key, text) ∈ res.values.entries) ∧
      ∀ r, parse? text = some r → ∃ output, r.type.Means r.property output ∧
        (key, "$\x7b" ++ (sanitizeIdentifier r.name ++ capitalize output) ++ "\x7d") ∈
          res.values.entries := by
  obtain ⟨v, hv, hmem⟩ := OrderedMap.exists_mem_traverse (resolveAll_eq_ok_iff.1 h).1 hentry
  constructor
  · intro hparse
    rw [resolveValue, hparse] at hv
    cases hv
    exact hmem
  · intro r hparse
    rw [resolveValue, hparse] at hv
    obtain ⟨output, hmeans, rfl⟩ := placeholder_eq_ok_iff.1 hv
    exact ⟨output, hmeans, hmem⟩

/-- Where placeholders replace the references of a map, the references that are met are those of the
map, every key stays in its place, every other value stays as it is, and a reference becomes the
placeholder of the output that its property means.  They fail exactly if some value is a reference
to a property that is not among those that its type accepts; the first such value is reported, with
these properties. -/
theorem resolvePlaceholders_exact (values : OrderedMap String) :
    (∀ res, resolvePlaceholders values = .ok res →
      res.references = extract values ∧ res.values.keys = values.keys ∧
        ∀ key text, (key, text) ∈ values.entries →
          (parse? text = none → (key, text) ∈ res.values.entries) ∧
          ∀ r, parse? text = some r → ∃ output, r.type.Means r.property output ∧
            (key, "$\x7b" ++ (sanitizeIdentifier r.name ++ capitalize output) ++ "\x7d") ∈
              res.values.entries) ∧
    ((∃ e, resolvePlaceholders values = .error e) ↔
      ∃ text ∈ values.values, ∃ r property, NamesUnknown text r property) ∧
    ∀ e, resolvePlaceholders values = .error e ↔
      ∃ before key text after, values.entries = before ++ (key, text) :: after ∧
        (∀ earlier ∈ before, ∀ r property, ¬ NamesUnknown earlier.2 r property) ∧
        ∃ r property, NamesUnknown text r property ∧
          e = ⟨r.type, property, r.type.acceptedProperties⟩ := by
  refine ⟨?_, exists_resolvePlaceholders_error_iff, fun _ => resolvePlaceholders_eq_error_iff⟩
  intro res hres
  obtain ⟨hvalues, hreferences⟩ := resolveAll_eq_ok_iff.1 hres
  exact ⟨hreferences, OrderedMap.keys_traverse hvalues,
    fun _ _ => mem_entries_of_resolvePlaceholders hres⟩

/-- The variables of a picture gallery: a text, a property of a bucket, and the default of a
cache. -/
def galleryVariables : OrderedMap String :=
  .ofList [("MODE", "prod"), ("UPLOADS", "@bucket/up-loads.url"), ("THUMBS", "@cache/thumbs")]

/-- They become placeholders, and no longer do with a property that a queue has not. -/
theorem resolvePlaceholders_exact_gallery :
    (∃ res, resolvePlaceholders galleryVariables = .ok res ∧
      res.references = extract galleryVariables ∧ res.values.keys = ["MODE", "UPLOADS", "THUMBS"] ∧
      ("MODE", "prod") ∈ res.values.entries ∧
      ∃ output, ReferenceType.bucket.Means (some "url") output ∧
        ("UPLOADS", "$\x7b" ++ (sanitizeIdentifier "up-loads" ++ capitalize output) ++ "\x7d") ∈
          res.values.entries) ∧
    resolvePlaceholders (galleryVariables.insert "JOBS" "@queue/jobs.size") =
      .error ⟨.queue, "size", ["name", "id"]⟩ := by
  obtain ⟨hok, -, -⟩ := resolvePlaceholders_exact galleryVariables
  obtain ⟨-, -, herror⟩ :=
    resolvePlaceholders_exact (galleryVariables.insert "JOBS" "@queue/jobs.size")
  obtain ⟨hreferences, hkeys, hvalues⟩ := hok _ rfl
  refine ⟨⟨_, rfl, hreferences, hkeys, ?_, ?_⟩, (herror _).2 ?_⟩
  · exact (hvalues "MODE" "prod" (by decide)).1 (by decide)
  · exact (hvalues "UPLOADS" "@bucket/up-loads.url" (by decide)).2 ⟨.bucket, "up-loads", some "url"⟩
      (by decide)
  · refine ⟨galleryVariables.entries, "JOBS", "@queue/jobs.size", [], by decide, ?_,
      ⟨.queue, "jobs", some "size"⟩, "size", ⟨by decide, rfl, by decide⟩, by decide⟩
    intro earlier hearlier
    rw [← exists_resolveValue_placeholder_iff]
    have hall : ∀ entry ∈ galleryVariables.entries,
        (resolveValue placeholder id entry.2).toOption.isSome := by decide
    exact exists_eq_ok_of_isSome (hall earlier hearlier)

/-- Placeholders hold the names that code binds outputs to. -/
example :
    (resolvePlaceholders
      (.ofList [("UPLOADS", "@bucket/up-loads.url"), ("AT", "@home")])).toOption.map
      (·.values.entries) = some [("UPLOADS", "$\x7bup_loadsUrl\x7d"), ("AT", "@home")] := by
  decide

end Reference

end Groundwork
