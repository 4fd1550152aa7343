import Groundwork.Proofs.Json.Number
import Groundwork.Reference

/-!
# The grammar of references

A reference is written as `@`, a type, a slash and a name, and perhaps a point and a property.  The
reader takes each word as far as it goes; as no word may have the character that comes after it,
the reader finds exactly the texts that are written so, and in each of them the only reference that
can be meant.

Main definitions:

- `Reference.Written`: the texts that write a reference.
- `Reference.InCharsets`: references that can be written.

Main results:

- `Reference.readName?_eq_some_iff`, `Reference.ofChars?_eq_some_iff`: what each part of the reader
  accepts.
- `Reference.parse?_eq_some_iff`: the reader accepts the grammar, and reads back what is displayed.
-/

namespace Groundwork

/-! ## The grammar -/

/-- A text that names can be: small letters, digits and hyphens. -/
def IsNameText (s : String) : Prop :=
  s ≠ "" ∧ ∀ c ∈ s.toList, ('a' ≤ c ∧ c ≤ 'z') ∨ ('0' ≤ c ∧ c ≤ '9') ∨ c = '-'

/-- A text that properties can be: letters. -/
def IsPropertyText (s : String) : Prop :=
  s ≠ "" ∧ ∀ c ∈ s.toList, ('a' ≤ c ∧ c ≤ 'z') ∨ ('A' ≤ c ∧ c ≤ 'Z')

namespace Reference

/-- The texts that write a reference. -/
inductive Written : String → Reference → Prop
  | whole (type : ReferenceType) {name : String} (hname : IsNameText name) :
      Written ("@" ++ type.token ++ "/" ++ name) ⟨type, name, none⟩
  | property (type : ReferenceType) {name property : String} (hname : IsNameText name)
      (hproperty : IsPropertyText property) :
      Written ("@" ++ type.token ++ "/" ++ name ++ "." ++ property) ⟨type, name, some property⟩

/-- A reference whose parts can be written. -/
structure InCharsets (r : Reference) : Prop where
  name : IsNameText r.name
  property : ∀ property ∈ r.property, IsPropertyText property

end Reference

theorem isLower_iff {c : Char} : c.isLower = true ↔ 'a' ≤ c ∧ c ≤ 'z' :=
  Bool.and_eq_true_iff.trans (and_congr decide_eq_true_iff decide_eq_true_iff)

theorem isUpper_iff {c : Char} : c.isUpper = true ↔ 'A' ≤ c ∧ c ≤ 'Z' := decide_eq_true_iff

theorem isDigit_iff {c : Char} : c.isDigit = true ↔ '0' ≤ c ∧ c ≤ '9' :=
  Bool.and_eq_true_iff.trans (and_congr decide_eq_true_iff decide_eq_true_iff)

theorem isAlpha_iff {c : Char} : c.isAlpha = true ↔ c.isUpper = true ∨ c.isLower = true :=
  Bool.or_eq_true_iff

/-- What the reader of names accepts. -/
theorem isNameText_ofList_iff {cs : List Char} :
    IsNameText (String.ofList cs) ↔ cs ≠ [] ∧ ∀ c ∈ cs, Reference.isNameChar c = true := by
  have hchar : ∀ c, Reference.isNameChar c = true ↔
      ('a' ≤ c ∧ c ≤ 'z') ∨ ('0' ≤ c ∧ c ≤ '9') ∨ c = '-' := by
    intro c
    rw [Reference.isNameChar, Bool.or_eq_true, Bool.or_eq_true, isLower_iff, isDigit_iff,
      decide_eq_true_eq, or_assoc]
  simp only [IsNameText, String.toList_ofList, ne_eq, String.ofList_eq_empty_iff, hchar]

/-- What the reader of properties accepts. -/
theorem isPropertyText_ofList_iff {cs : List Char} :
    IsPropertyText (String.ofList cs) ↔ cs ≠ [] ∧ ∀ c ∈ cs, c.isAlpha = true := by
  have hchar : ∀ c : Char, c.isAlpha = true ↔
      ('a' ≤ c ∧ c ≤ 'z') ∨ ('A' ≤ c ∧ c ≤ 'Z') := by
    intro c
    rw [isAlpha_iff, isUpper_iff, isLower_iff, or_comm]
  simp only [IsPropertyText, String.toList_ofList, ne_eq, String.ofList_eq_empty_iff, hchar]

/-- A token names the type that it is the token of. -/
theorem ReferenceType.ofToken?_eq_some_iff {s : String} {type : ReferenceType} :
    ofToken? s = some type ↔ type.token = s := by
  constructor
  · intro h
    unfold ofToken? at h
    simpa using List.find?_some h
  · rintro rfl
    cases type <;> decide

/-! ## Reading words -/

section Words

variable {p : Char → Bool} {word rest : List Char}

/-- A word is read up to a character that it may not have. -/
theorem takeWhile_word_append (hword : ∀ c ∈ word, p c = true)
    (hrest : ∀ c ∈ rest.head?, p c = false) : (word ++ rest).takeWhile p = word := by
  rw [Json.takeWhile_append_of_head hrest, List.takeWhile_eq_self_iff.2 hword]

theorem dropWhile_word_append (hword : ∀ c ∈ word, p c = true)
    (hrest : ∀ c ∈ rest.head?, p c = false) : (word ++ rest).dropWhile p = rest := by
  rw [Json.dropWhile_append_of_head hrest, List.dropWhile_eq_nil_iff.2 hword, List.nil_append]

end Words

namespace Reference

/-- A name is read alone, or with a point and a property after it. -/
theorem readName?_eq_some_iff {type : ReferenceType} {cs : List Char} {r : Reference} :
    readName? type cs = some r ↔
      ∃ name, (name ≠ [] ∧ ∀ c ∈ name, isNameChar c = true) ∧
        ((cs = name ∧ r = ⟨type, String.ofList name, none⟩) ∨
          ∃ property, (property ≠ [] ∧ ∀ c ∈ property, c.isAlpha = true) ∧
            cs = name ++ '.' :: property ∧
            r = ⟨type, String.ofList name, some (String.ofList property)⟩) := by
  constructor
  · intro h
    have hsplit := List.takeWhile_append_dropWhile (p := isNameChar) (l := cs)
    have hname : ∀ c ∈ cs.takeWhile isNameChar, isNameChar c = true :=
      fun _ => List.mem_takeWhile_imp
    simp only [readName?] at h
    split at h
    · cases h
    · rename_i hempty
      refine ⟨cs.takeWhile isNameChar, ⟨by simpa using hempty, hname⟩, ?_⟩
      split at h
      · rename_i hrest
        rw [hrest, List.append_nil] at hsplit
        exact Or.inl ⟨hsplit.symm, (Option.some.inj h).symm⟩
      · rename_i property hrest
        split at h
        · rename_i hproperty
          simp only [Bool.and_eq_true, Bool.not_eq_true', List.isEmpty_eq_false_iff,
            List.all_eq_true] at hproperty
          rw [hrest] at hsplit
          exact Or.inr ⟨property, hproperty, hsplit.symm, (Option.some.inj h).symm⟩
        · cases h
      · cases h
  · rintro ⟨name, ⟨hne, hname⟩, ⟨rfl, rfl⟩ | ⟨property, ⟨hne', hproperty⟩, rfl, rfl⟩⟩
    · have htake : cs.takeWhile isNameChar = cs := List.takeWhile_eq_self_iff.2 hname
      have hdrop : cs.dropWhile isNameChar = [] := List.dropWhile_eq_nil_iff.2 hname
      simp [readName?, htake, hdrop, hne]
    · have hpoint : ∀ c ∈ ('.' :: property).head?, isNameChar c = false := by
        rintro c ⟨⟩
        decide
      have hall : property.all Char.isAlpha = true := List.all_eq_true.2 hproperty
      simp [readName?, takeWhile_word_append hname hpoint, dropWhile_word_append hname hpoint,
        hne, hne', hall]

/-- A reference is read as an at sign, the token of a type, a slash, and what the reader of names
accepts. -/
theorem ofChars?_eq_some_iff {cs : List Char} {r : Reference} :
    ofChars? cs = some r ↔
      ∃ type rest, cs = '@' :: (type.token.toList ++ '/' :: rest) ∧
        readName? type rest = some r := by
  constructor
  · intro h
    unfold ofChars? at h
    split at h
    · rename_i more
      split at h
      · rename_i rest hrest
        rw [Option.bind_eq_bind, Option.bind_eq_some_iff] at h
        obtain ⟨type, htype, hread⟩ := h
        have htoken := ReferenceType.ofToken?_eq_some_iff.1 htype
        refine ⟨type, rest, ?_, hread⟩
        rw [htoken, String.toList_ofList, ← hrest, List.takeWhile_append_dropWhile]
      · cases h
    · cases h
  · rintro ⟨type, rest, rfl, hread⟩
    have hlower : ∀ c ∈ type.token.toList, c.isLower = true := by
      rw [← List.all_eq_true]
      cases type <;> decide
    have hslash : ∀ c ∈ ('/' :: rest).head?, c.isLower = false := by
      rintro c ⟨⟩
      decide
    simp only [ofChars?, takeWhile_word_append hlower hslash, dropWhile_word_append hlower hslash,
      String.ofList_toList, ReferenceType.ofToken?_eq_some_iff.2 rfl]
    exact hread

/-- The texts of the grammar are those that a reference with writable parts is displayed as. -/
theorem written_iff {value : String} {r : Reference} :
    Written value r ↔ r.InCharsets ∧ r.display = value := by
  constructor
  · intro h
    cases h with
    | whole type hname => exact ⟨⟨hname, fun _ h => by cases h⟩, String.append_empty⟩
    | property type hname hproperty =>
      refine ⟨⟨hname, fun _ h => Option.some.inj h ▸ hproperty⟩, ?_⟩
      simp only [display, String.append_assoc]
  · rintro ⟨⟨hname, hproperty⟩, rfl⟩
    obtain ⟨type, name, property⟩ := r
    cases property with
    | none =>
      have h := Written.whole type hname
      rwa [← String.append_empty (s := "@" ++ type.token ++ "/" ++ name)] at h
    | some property =>
      have h := Written.property type hname (hproperty property rfl)
      simp only [String.append_assoc] at h
      simpa only [display, String.append_assoc] using h

/-- The reader accepts exactly the texts of the grammar. -/
theorem parse?_eq_some_iff_written {value : String} {r : Reference} :
    parse? value = some r ↔ Written value r := by
  rw [parse?, ofChars?_eq_some_iff]
  constructor
  · rintro ⟨type, rest, hvalue, hread⟩
    obtain ⟨name, hname, hcases⟩ := readName?_eq_some_iff.1 hread
    have hname := isNameText_ofList_iff.2 hname
    obtain ⟨rfl, rfl⟩ | ⟨property, hproperty, rfl, rfl⟩ := hcases
    · have h := Written.whole type hname
      rwa [show "@" ++ type.token ++ "/" ++ String.ofList rest = value by
        rw [← String.toList_inj]; simp [hvalue]] at h
    · have h := Written.property type hname (isPropertyText_ofList_iff.2 hproperty)
      rwa [show "@" ++ type.token ++ "/" ++ String.ofList name ++ "." ++ String.ofList property
        = value by rw [← String.toList_inj]; simp [hvalue]] at h
  · intro h
    cases h with
    | @whole type name hname =>
      rw [← String.ofList_toList (s := name), isNameText_ofList_iff] at hname
      refine ⟨type, name.toList, by simp, readName?_eq_some_iff.2 ⟨name.toList, hname, Or.inl ?_⟩⟩
      rw [String.ofList_toList]
      exact ⟨rfl, rfl⟩
    | @property type name property hname hproperty =>
      rw [← String.ofList_toList (s := name), isNameText_ofList_iff] at hname
      rw [← String.ofList_toList (s := property), isPropertyText_ofList_iff] at hproperty
      refine ⟨type, name.toList ++ '.' :: property.toList, by simp,
        readName?_eq_some_iff.2 ⟨name.toList, hname, Or.inr ⟨property.toList, hproperty, rfl, ?_⟩⟩⟩
      rw [String.ofList_toList, String.ofList_toList]

/-- A text is read as a reference exactly if it is an at sign, the token of one of the types, a
slash and a name, perhaps with a point and a property after it; the reference then has these parts
and is displayed as the text.  So a reference is read back from its display exactly if it can be
written. -/
theorem parse?_eq_some_iff (value : String) (r : Reference) :
    (parse? value = some r ↔ Written value r) ∧
      (Written value r ↔ r.InCharsets ∧ r.display = value) ∧
      (parse? r.display = some r ↔ r.InCharsets) := by
  refine ⟨parse?_eq_some_iff_written, written_iff, ?_⟩
  rw [parse?_eq_some_iff_written, written_iff]
  exact and_iff_left rfl

/-- The point belongs to no name, so that a second one makes a text no reference. -/
example : parse? "@bucket/uploads.url" = some ⟨.bucket, "uploads", some "url"⟩ ∧
    parse? "@bucket/uploads.url.x" = none ∧ parse? "@bucket/uploads." = none := by
  decide

end Reference

end Groundwork
