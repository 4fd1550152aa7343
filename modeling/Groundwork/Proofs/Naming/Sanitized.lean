import Groundwork.Proofs.Naming.Identifier
import Groundwork.Proofs.Naming.Reference

/-!
# What sanitizing gives

Any text at all becomes a label, and any text that is not empty becomes an identifier.  A lowercased
character may be several characters, and none of them need be one that labels have; but each is
replaced by one that labels have, so that what is cut is cut between characters of one octet each.
The texts that sanitizing leaves alone are exactly the labels and the identifiers, and so sanitizing
twice is sanitizing once.

Main definitions:

- `IsLabel`, `IsCodeIdentifier`: the shapes, said without the functions that make them.
- `uncutLabel`: a label before it is cut.

Main results:

- `isLabel_sanitizeLabel`, `sanitizeLabel_eq_self_iff`: labels.
- `exists_cut`: the label is made of the first octets of the uncut one, as many as there may be.
- `isCodeIdentifier_sanitizeIdentifier`, `sanitizeIdentifier_eq_self_iff`: identifiers.
-/

namespace Groundwork

/-! ## Shapes -/

/-- A text that labels can be: a small letter, and then small letters, digits, hyphens and
underscores, in no more than 63 octets. -/
structure IsLabel (s : String) : Prop where
  letter : ∃ c rest, s.toList = c :: rest ∧ 'a' ≤ c ∧ c ≤ 'z'
  chars : ∀ c ∈ s.toList, ('a' ≤ c ∧ c ≤ 'z') ∨ ('0' ≤ c ∧ c ≤ '9') ∨ c = '-' ∨ c = '_'
  size_le : s.utf8ByteSize ≤ 63

/-- A text that identifiers can be: letters, digits and underscores without a digit at the front.
The empty text is one. -/
structure IsCodeIdentifier (s : String) : Prop where
  chars : ∀ c ∈ s.toList,
    ('a' ≤ c ∧ c ≤ 'z') ∨ ('A' ≤ c ∧ c ≤ 'Z') ∨ ('0' ≤ c ∧ c ≤ '9') ∨ c = '_'
  front : ∀ c ∈ s.toList.head?, ¬('0' ≤ c ∧ c ≤ '9')

theorem isLabelChar_iff {c : Char} :
    isLabelChar c = true ↔
      ('a' ≤ c ∧ c ≤ 'z') ∨ ('0' ≤ c ∧ c ≤ '9') ∨ c = '-' ∨ c = '_' := by
  rw [isLabelChar, Bool.or_eq_true, Bool.or_eq_true, Bool.or_eq_true, isLower_iff, isDigit_iff,
    decide_eq_true_eq, decide_eq_true_eq, or_assoc, or_assoc]

theorem isAlphanum_or_iff {c : Char} :
    c.isAlphanum = true ∨ c = '_' ↔
      ('a' ≤ c ∧ c ≤ 'z') ∨ ('A' ≤ c ∧ c ≤ 'Z') ∨ ('0' ≤ c ∧ c ≤ '9') ∨ c = '_' := by
  rw [Char.isAlphanum, Bool.or_eq_true, isAlpha_iff, isUpper_iff, isLower_iff, isDigit_iff]
  tauto

/-! ## Labels -/

/-- The label of a value before it is cut. -/
def uncutLabel (value : String) : String :=
  String.ofList (startWithLetter ((value.toList.flatMap lowercaseChar).map labelChar))

/-- A text of label characters has as many octets as characters. -/
theorem utf8ByteSize_ofList {cs : List Char} (h : ∀ c ∈ cs, isLabelChar c = true) :
    (String.ofList cs).utf8ByteSize = cs.length := by
  induction cs with
  | nil => rfl
  | cons c rest ih =>
    rw [List.forall_mem_cons] at h
    have hlt := toNat_lt_of_isLabelChar h.1
    have hone : c.utf8Size = 1 := by
      rw [Char.utf8Size_eq_one_iff, UInt32.le_iff_toNat_le]
      exact Nat.le_of_lt_succ hlt
    have hsplit : String.ofList (c :: rest) = String.singleton c ++ String.ofList rest := by
      rw [String.singleton_eq_ofList, ← String.ofList_append, List.singleton_append]
    rw [hsplit, String.utf8ByteSize_append, String.utf8ByteSize_singleton, ih h.2, hone,
      List.length_cons, Nat.add_comm]

/-- What starts with a letter is not empty, and its first character is a small letter. -/
theorem exists_startWithLetter (cs : List Char) :
    ∃ c rest, startWithLetter cs = c :: rest ∧ c.isLower = true := by
  cases cs with
  | nil => exact ⟨'x', [], rfl, by decide⟩
  | cons c rest =>
    by_cases hc : c.isLower = true
    · exact ⟨c, rest, by rw [startWithLetter, if_pos hc], hc⟩
    · exact ⟨'x', c :: rest, by rw [startWithLetter, if_neg hc], by decide⟩

/-- Every text becomes a label. -/
theorem isLabel_sanitizeLabel (value : String) : IsLabel (sanitizeLabel value) := by
  have hchars : ∀ c ∈ labelOf value.toList, isLabelChar c = true := fun c hc =>
    isLabelChar_of_mem_labelOf hc
  refine ⟨?_, ?_, ?_⟩
  · obtain ⟨c, rest, hstart, hc⟩ := exists_startWithLetter
      ((value.toList.flatMap lowercaseChar).map labelChar)
    refine ⟨c, rest.take 62, ?_, isLower_iff.1 hc⟩
    rw [sanitizeLabel, String.toList_ofList, labelOf, hstart]
    rfl
  · intro c hc
    rw [sanitizeLabel, String.toList_ofList] at hc
    exact isLabelChar_iff.1 (hchars c hc)
  · rw [sanitizeLabel, utf8ByteSize_ofList hchars]
    exact length_labelOf_le value.toList

/-- Sanitizing leaves alone exactly the labels. -/
theorem sanitizeLabel_eq_self_iff {s : String} : sanitizeLabel s = s ↔ IsLabel s := by
  constructor
  · intro h
    rw [← h]
    exact isLabel_sanitizeLabel s
  · intro h
    have hchars : ∀ c ∈ s.toList, isLabelChar c = true := fun c hc =>
      isLabelChar_iff.2 (h.chars c hc)
    obtain ⟨c, rest, hs, hc⟩ := h.letter
    have hstart : startWithLetter s.toList = s.toList := by
      rw [hs, startWithLetter, if_pos (isLower_iff.2 hc)]
    have hlen : s.toList.length ≤ labelMaxLength := by
      rw [← utf8ByteSize_ofList hchars, String.ofList_toList]
      exact h.size_le
    rw [sanitizeLabel, labelOf_eq hchars, hstart, List.take_of_length_le hlen,
      String.ofList_toList]

/-- Cutting splits no character: the label and what is cut away are texts, and the label has as
many octets as it may. -/
theorem exists_cut (value : String) :
    ∃ cut, uncutLabel value = sanitizeLabel value ++ cut ∧
      (sanitizeLabel value).utf8ByteSize = min 63 (uncutLabel value).utf8ByteSize := by
  have hchars : ∀ c ∈ (value.toList.flatMap lowercaseChar).map labelChar,
      isLabelChar c = true := by
    intro c hc
    obtain ⟨d, -, rfl⟩ := List.mem_map.1 hc
    exact isLabelChar_labelChar d
  have hall := isLabelChar_of_mem_startWithLetter hchars
  rw [uncutLabel, sanitizeLabel, labelOf]
  generalize startWithLetter ((value.toList.flatMap lowercaseChar).map labelChar) = cs at hall ⊢
  refine ⟨String.ofList (cs.drop labelMaxLength), ?_, ?_⟩
  · rw [← String.ofList_append, List.take_append_drop]
  · rw [utf8ByteSize_ofList hall, utf8ByteSize_ofList fun c hc => hall c (List.mem_of_mem_take hc),
      List.length_take]
    rfl

/-! ## Identifiers -/

theorem identifierOf_eq_nil_iff {cs : List Char} : identifierOf cs = [] ↔ cs = [] := by
  cases cs with
  | nil => exact iff_of_true rfl rfl
  | cons c rest =>
    simp only [identifierOf, List.map_cons, reduceCtorEq, iff_false]
    split <;> exact List.cons_ne_nil _ _

/-- No identifier starts with a digit. -/
theorem isDigit_of_head?_identifierOf (cs : List Char) :
    ∀ c ∈ (identifierOf cs).head?, ¬c.isDigit = true := by
  cases cs with
  | nil => simp [identifierOf]
  | cons c rest =>
    simp only [identifierOf, List.map_cons]
    split <;> rename_i hc
    · rintro d ⟨⟩
      decide
    · rintro d ⟨⟩
      exact hc

/-- Letters, digits and underscores without a digit at the front stay as they are. -/
theorem identifierOf_eq_self {cs : List Char} (hchars : ∀ c ∈ cs, c.isAlphanum = true ∨ c = '_')
    (hfront : ∀ c ∈ cs.head?, ¬c.isDigit = true) : identifierOf cs = cs := by
  have hkept : cs.map identifierChar = cs := by
    refine (List.map_congr_left fun c hc => ?_).trans (List.map_id cs)
    rcases hchars c hc with halnum | rfl
    · rw [identifierChar, if_pos halnum, id]
    · rfl
  rw [identifierOf, hkept]
  cases cs with
  | nil => rfl
  | cons c rest => exact if_neg (hfront c rfl)

/-- Every text becomes an identifier. -/
theorem isCodeIdentifier_sanitizeIdentifier (name : String) :
    IsCodeIdentifier (sanitizeIdentifier name) := by
  refine ⟨fun c hc => isAlphanum_or_iff.1 (isIdentifier_sanitizeIdentifier name c hc), ?_⟩
  intro c hc
  rw [sanitizeIdentifier, String.toList_ofList] at hc
  rw [← isDigit_iff]
  exact isDigit_of_head?_identifierOf name.toList c hc

/-- Sanitizing leaves alone exactly the identifiers. -/
theorem sanitizeIdentifier_eq_self_iff {s : String} :
    sanitizeIdentifier s = s ↔ IsCodeIdentifier s := by
  constructor
  · intro h
    rw [← h]
    exact isCodeIdentifier_sanitizeIdentifier s
  · intro h
    have hchars : ∀ c ∈ s.toList, c.isAlphanum = true ∨ c = '_' := fun c hc =>
      isAlphanum_or_iff.2 (h.chars c hc)
    have hfront : ∀ c ∈ s.toList.head?, ¬c.isDigit = true := fun c hc =>
      isDigit_iff.not.2 (h.front c hc)
    rw [sanitizeIdentifier, identifierOf_eq_self hchars hfront, String.ofList_toList]

/-- Only the empty text has the empty identifier. -/
theorem sanitizeIdentifier_eq_empty_iff {s : String} : sanitizeIdentifier s = "" ↔ s = "" := by
  rw [sanitizeIdentifier, String.ofList_eq_empty_iff, identifierOf_eq_nil_iff,
    String.toList_eq_nil_iff]

/-- What every text becomes: as a label, a text of the shape of labels, which is the uncut label up
to a border between characters; as an identifier, a text of the shape of identifiers, which is empty
only if the text was.  Sanitizing once more changes neither. -/
theorem sanitized_exact (s : String) :
    (sanitizeLabel s ≠ "" ∧ IsLabel (sanitizeLabel s) ∧
      sanitizeLabel (sanitizeLabel s) = sanitizeLabel s ∧
      ∃ cut, uncutLabel s = sanitizeLabel s ++ cut ∧
        (sanitizeLabel s).utf8ByteSize = min 63 (uncutLabel s).utf8ByteSize) ∧
    (IsCodeIdentifier (sanitizeIdentifier s) ∧
      sanitizeIdentifier (sanitizeIdentifier s) = sanitizeIdentifier s ∧
      (sanitizeIdentifier s = "" → s = "")) := by
  have hlabel := isLabel_sanitizeLabel s
  have hidentifier := isCodeIdentifier_sanitizeIdentifier s
  have hne : sanitizeLabel s ≠ "" := by
    intro hempty
    obtain ⟨c, rest, hs, -⟩ := hlabel.letter
    rw [hempty] at hs
    cases hs
  exact ⟨⟨hne, hlabel, sanitizeLabel_eq_self_iff.2 hlabel, exists_cut s⟩,
    hidentifier, sanitizeIdentifier_eq_self_iff.2 hidentifier, sanitizeIdentifier_eq_empty_iff.1⟩

/-- A character whose small form is two characters, and a name that starts with a digit. -/
example : sanitizeLabel "İ9" = "i-9" ∧ sanitizeIdentifier "1st" = "_1st" := by decide +kernel

end Groundwork
