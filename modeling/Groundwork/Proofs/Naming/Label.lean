import Groundwork.Description.Validation
import Groundwork.Naming
import Mathlib.Data.List.Basic

/-!
# Labels of allowed names

A name of the allowed characters loses nothing but its end when it becomes a label: no character is
replaced, one that does not begin with a letter gets an `x` before it, and what is too long is cut.
So two names meet in one label if they differ only in what is cut, or in an `x` at the start.

Main results:

- `sanitizeLabel_eq_iff`: when two names become one label.
-/

namespace Groundwork

/-- The characters of a name that is allowed. -/
theorem isNameChar_of_isValidName {name : String} (h : isValidName name = true) :
    ∀ c ∈ name.toList, Reference.isNameChar c = true := by
  have h := (Bool.and_eq_true_iff.1 h).2
  exact List.all_eq_true.1 h

theorem ne_nil_of_isValidName {name : String} (h : isValidName name = true) :
    name.toList ≠ [] := by
  have h := (Bool.and_eq_true_iff.1 h).1
  simpa using h

theorem isLabelChar_of_isNameChar {c : Char} (h : Reference.isNameChar c = true) :
    isLabelChar c = true := by
  rw [isLabelChar, Bool.or_eq_true]
  exact Or.inl h

theorem toNat_lt_of_isLabelChar {c : Char} (h : isLabelChar c = true) : c.toNat < 0x80 := by
  simp only [isLabelChar, Bool.or_eq_true, decide_eq_true_eq] at h
  rcases h with ((hlower | hdigit) | rfl) | rfl
  · have hle : c.val ≤ 'z'.val := of_decide_eq_true (Bool.and_eq_true_iff.1 hlower).2
    exact Nat.lt_of_le_of_lt (UInt32.le_iff_toNat_le.1 hle) (by decide)
  · have hle : c.val ≤ '9'.val := of_decide_eq_true (Bool.and_eq_true_iff.1 hdigit).2
    exact Nat.lt_of_le_of_lt (UInt32.le_iff_toNat_le.1 hle) (by decide)
  · decide
  · decide

/-- A property of the characters of labels is one of their codes. -/
theorem forall_isLabelChar {P : Char → Prop}
    (h : ∀ n < 0x80, isLabelChar (Char.ofNat n) = true → P (Char.ofNat n)) {c : Char}
    (hc : isLabelChar c = true) : P c := by
  have hcode := h c.toNat (toNat_lt_of_isLabelChar hc)
  rw [Char.ofNat_toNat] at hcode
  exact hcode hc

/-- A character that labels may have stands for itself in a label. -/
theorem map_labelChar_lowercaseChar {c : Char} (h : isLabelChar c = true) :
    (lowercaseChar c).map labelChar = [c] := by
  rw [lowercaseChar_of_ascii (toNat_lt_of_isLabelChar h), List.map_singleton]
  refine forall_isLabelChar (P := fun c => [labelChar c.toLower] = [c]) ?_ h
  decide +kernel

/-- The label of allowed characters, before it is a text. -/
theorem labelOf_eq {cs : List Char} (h : ∀ c ∈ cs, isLabelChar c = true) :
    labelOf cs = (startWithLetter cs).take labelMaxLength := by
  have hkept : (cs.flatMap lowercaseChar).map labelChar = cs := by
    rw [List.map_flatMap, List.flatMap_congr fun c hc => map_labelChar_lowercaseChar (h c hc),
      List.flatMap_singleton']
  rw [labelOf, hkept]

/-- The characters of an allowed name are allowed in a label. -/
theorem isLabelChar_of_isValidName {name : String} (h : isValidName name = true) :
    ∀ c ∈ name.toList, isLabelChar c = true :=
  fun c hc => isLabelChar_of_isNameChar (isNameChar_of_isValidName h c hc)

/-- Allowed names become one label exactly if they agree up to the length of labels, each with an
`x` at its start if no letter stands there. -/
theorem sanitizeLabel_eq_iff {first second : String} (hfirst : isValidName first = true)
    (hsecond : isValidName second = true) :
    sanitizeLabel first = sanitizeLabel second ↔
      (startWithLetter first.toList).take labelMaxLength =
        (startWithLetter second.toList).take labelMaxLength := by
  rw [sanitizeLabel, sanitizeLabel, labelOf_eq (isLabelChar_of_isValidName hfirst),
    labelOf_eq (isLabelChar_of_isValidName hsecond), String.ofList_inj]

/-- No slash is trimmed from what ends in an allowed name. -/
theorem trimSlashes_append {name : String} (h : isValidName name = true) (start : String) :
    trimSlashes (start ++ name) = start ++ name := by
  obtain ⟨init, c, hname⟩ := List.eq_nil_or_concat name.toList |>.resolve_left
    (ne_nil_of_isValidName h)
  have hc : Reference.isNameChar c = true :=
    isNameChar_of_isValidName h c (by rw [hname]; simp)
  have hslash : c ≠ '/' := by
    rintro rfl
    exact absurd hc (by decide)
  have hkept : ((start ++ name).toList.reverse.dropWhile fun x => decide (x = '/')) =
      (start ++ name).toList.reverse := by
    rw [String.toList_append, hname, List.concat_eq_append, ← List.append_assoc,
      List.reverse_concat, List.dropWhile_cons_of_neg (by simpa using hslash)]
  rw [trimSlashes, hkept, List.reverse_reverse, String.ofList_toList]

end Groundwork
