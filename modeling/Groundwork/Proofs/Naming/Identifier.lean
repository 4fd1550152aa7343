import Groundwork.Proofs.Naming.Label

/-!
# Identifiers that code binds

A name that code binds is the identifier of the name of a node with an ending: a suffix after an
underscore, or a field with its first letter in upper case.  Identifiers may have underscores of
their own, so that two bound names are told apart is not clear from how they are made; it holds
because no ending in use ends in another one, but for fields that names in lower case cannot
complete.

Main results:

- `isUpper_sanitizeIdentifier`: the identifier of an allowed name has no letter in upper case.
- `Ending.eq_or_isUpper`: what it takes for one ending to end in another.
- `Binding.name_eq_iff`: bound names are the same exactly if identifiers and endings are.
-/

namespace Groundwork

/-! ## The characters of identifiers -/

/-- A word of letters, digits and underscores. -/
def IsIdentifier (name : String) : Prop :=
  ∀ c ∈ name.toList, c.isAlphanum = true ∨ c = '_'

theorem IsIdentifier.not_mem {name : String} (h : IsIdentifier name) {c : Char}
    (hc : c.isAlphanum = false) (hunderscore : c ≠ '_') : c ∉ name.toList := by
  intro hmem
  rcases h c hmem with halnum | rfl
  · rw [hc] at halnum
    cases halnum
  · exact hunderscore rfl

/-- Identifiers may be put together. -/
theorem IsIdentifier.append {first second : String} (h : IsIdentifier first)
    (h' : IsIdentifier second) : IsIdentifier (first ++ second) := by
  intro c hc
  rw [String.toList_append] at hc
  rcases List.mem_append.1 hc with hc | hc
  · exact h c hc
  · exact h' c hc

/-- The characters of an identifier come from the name, except for an underscore at the start. -/
theorem mem_identifierOf {cs : List Char} {c : Char} (h : c ∈ identifierOf cs) :
    c = '_' ∨ ∃ d ∈ cs, identifierChar d = c := by
  rw [← List.mem_map]
  unfold identifierOf at h
  split at h
  · rename_i first rest hmap
    rw [hmap]
    split at h
    · exact List.mem_cons.1 h
    · exact Or.inr h
  · cases h

/-- Sanitizing makes identifiers. -/
theorem isIdentifier_sanitizeIdentifier (name : String) :
    IsIdentifier (sanitizeIdentifier name) := by
  intro c hc
  rw [sanitizeIdentifier, String.toList_ofList] at hc
  rcases mem_identifierOf hc with rfl | ⟨d, -, rfl⟩
  · exact Or.inr rfl
  · unfold identifierChar
    split
    · exact Or.inl (by assumption)
    · exact Or.inr rfl

/-- The identifier of an allowed name has no letter in upper case. -/
theorem isUpper_sanitizeIdentifier {name : String} (h : isValidName name = true) :
    ∀ c ∈ (sanitizeIdentifier name).toList, c.isUpper = false := by
  intro c hc
  rw [sanitizeIdentifier, String.toList_ofList] at hc
  rcases mem_identifierOf hc with rfl | ⟨d, hd, rfl⟩
  · decide
  · refine forall_isLabelChar (P := fun d => (identifierChar d).isUpper = false) ?_
      (isLabelChar_of_isValidName h d hd)
    decide +kernel

/-! ## Endings -/

/-- How a bound name ends. -/
inductive Ending where
  /-- In a suffix, which says what is declared. -/
  | suffix (word : String)
  /-- In a field of the node, which is bound for other nodes. -/
  | field (name : String)
  deriving DecidableEq, Repr

namespace Ending

/-- The text of an ending. -/
def text : Ending → String
  | suffix word => "_" ++ word
  | field name => capitalize name

/-- The endings that generators use. -/
def all : List Ending :=
  ["account", "bucket", "secret", "topic", "queue", "network", "subnet", "firewall", "registry",
    "connector", "service", "asset", "source", "archive", "function", "instance", "database",
    "cache", "kernel", "ui", "neg", "backend", "url_map", "address", "cert", "proxy",
    "job"].map suffix
  ++ ["email", "name", "url", "secretId", "secretName", "secretVersion", "topicId", "queueId",
    "serviceName", "functionName", "connectionString", "host", "port", "instanceName",
    "databaseName", "address", "ipAddress"].map field

/-- The endings in which others end. -/
def shared : List Ending := [field "name", field "address"]

theorem isIdentifier_text {e : Ending} (h : e ∈ all) : IsIdentifier e.text := by
  have hall : ∀ e ∈ all, (e.text.toList.all fun c => c.isAlphanum || c == '_') = true := by
    decide +kernel
  intro c hc
  have hchar := List.all_eq_true.1 (hall e h) c hc
  rwa [Bool.or_eq_true, beq_iff_eq] at hchar

/-- What stands in a text before an ending of it. -/
theorem take_of_append_eq {α : Type} {rest ending text : List α} (h : rest ++ ending = text) :
    text.take (text.length - ending.length) = rest := by
  rw [← h, List.length_append, Nat.add_sub_cancel]
  exact List.take_left

/-- No ending ends in another one, unless that is one of two fields, and a letter in upper case
comes before it. -/
theorem eq_or_isUpper {e f : Ending} (he : e ∈ all) (hf : f ∈ all) {rest : List Char}
    (h : rest ++ e.text.toList = f.text.toList) :
    e = f ∧ rest = [] ∨ e ∈ shared ∧ ∃ c ∈ rest, c.isUpper = true := by
  have hall : ∀ e ∈ all, ∀ f ∈ all, e.text.toList.isSuffixOf f.text.toList = true →
      e = f ∨ e ∈ shared ∧ (f.text.toList.take
        (f.text.toList.length - e.text.toList.length)).any Char.isUpper = true := by
    decide +kernel
  have hsuffix : e.text.toList <:+ f.text.toList := ⟨rest, h⟩
  rcases hall e he f hf (List.isSuffixOf_iff_suffix.2 hsuffix) with rfl | ⟨hshared, hupper⟩
  · exact Or.inl ⟨rfl, List.append_left_eq_self.1 h⟩
  · rw [take_of_append_eq h, List.any_eq_true] at hupper
    exact Or.inr ⟨hshared, hupper⟩

end Ending

/-! ## Bound names -/

/-- A name to be bound: the node that it belongs to, and its ending. -/
structure Binding where
  owner : String
  ending : Ending
  deriving DecidableEq, Repr

namespace Binding

/-- The name that code binds. -/
def name : Binding → String
  | ⟨owner, .suffix word⟩ => codeIdentifier owner word
  | ⟨owner, .field field⟩ => outputVariable owner field

theorem name_eq (b : Binding) : b.name = sanitizeIdentifier b.owner ++ b.ending.text := by
  obtain ⟨owner, word | field⟩ := b
  · exact String.append_assoc
  · rfl

/-- A bound name is an identifier. -/
theorem isIdentifier_name {b : Binding} (h : b.ending ∈ Ending.all) : IsIdentifier b.name := by
  rw [name_eq]
  exact (isIdentifier_sanitizeIdentifier b.owner).append (Ending.isIdentifier_text h)

/-- A binding whose ending is in use, and whose owner could not complete it to another one. -/
structure Regular (b : Binding) : Prop where
  ending_mem : b.ending ∈ Ending.all
  owner_lower : b.ending ∈ Ending.shared →
    ∀ c ∈ (sanitizeIdentifier b.owner).toList, c.isUpper = false

/-- If one owner goes on where the other stops and ends with the other, they are the same: a regular
owner does not complete its ending to another one. -/
theorem eq_of_append {a b : Binding} (ha : a.Regular) (hb : b.Regular) {rest : List Char}
    (howner : (sanitizeIdentifier a.owner).toList = (sanitizeIdentifier b.owner).toList ++ rest)
    (hending : rest ++ a.ending.text.toList = b.ending.text.toList) :
    sanitizeIdentifier a.owner = sanitizeIdentifier b.owner ∧ a.ending = b.ending := by
  rcases Ending.eq_or_isUpper ha.ending_mem hb.ending_mem hending with
    ⟨heq, rfl⟩ | ⟨hshared, c, hc, hupper⟩
  · rw [List.append_nil] at howner
    exact ⟨String.toList_inj.1 howner, heq⟩
  · have hlower := ha.owner_lower hshared c (by rw [howner]; exact List.mem_append_right _ hc)
    rw [hupper] at hlower
    cases hlower

/-- Bound names are the same exactly if they are made of the same identifier and the same ending. -/
theorem name_eq_iff {a b : Binding} (ha : a.Regular) (hb : b.Regular) :
    a.name = b.name ↔
      sanitizeIdentifier a.owner = sanitizeIdentifier b.owner ∧ a.ending = b.ending := by
  rw [name_eq, name_eq]
  constructor
  · intro h
    have htexts := congrArg String.toList h
    rw [String.toList_append, String.toList_append] at htexts
    -- One of the two identifiers is longer, and the rest of it belongs to the other ending.
    rcases List.append_eq_append_iff.1 htexts with ⟨rest, howner, hending⟩ | ⟨rest, howner, hending⟩
    · have hsame := eq_of_append hb ha howner hending.symm
      exact ⟨hsame.1.symm, hsame.2.symm⟩
    · exact eq_of_append ha hb howner hending.symm
  · rintro ⟨howner, hending⟩
    rw [howner, hending]

end Binding

end Groundwork
