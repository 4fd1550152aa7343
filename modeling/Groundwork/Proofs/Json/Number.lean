import Groundwork.Json.Number
import Groundwork.Text.Digit
import Mathlib.Data.List.Basic
import Mathlib.Data.List.TakeWhile

/-!
# Numbers are read back from JSON text

The reader takes a number as far as it goes.  So what it reads at the front of a text does not
depend on what follows, as long as the number could not go on there.

Main results:

- `NumberText.read?_append`: a number is read in the same way if something follows that ends it.
- `NumberText.read?_toString`: whole numbers that fit a word, with or without a sign, are read back
  from their numerals.
-/

namespace Groundwork.Json

/-! ## Where a number ends -/

/-- Whether a number could go on with a character. -/
def continuesNumber (c : Char) : Bool := c.isDigit || c = '.' || c = 'e' || c = 'E'

/-- No number goes on with the first character of a text. -/
def EndsNumber (rest : List Char) : Prop := ∀ c ∈ rest.head?, continuesNumber c = false

/-- A number ends where the text ends. -/
theorem endsNumber_nil : EndsNumber [] := by simp [EndsNumber]

/-- A number ends before a character that is no part of one. -/
theorem endsNumber_cons {c : Char} (h : continuesNumber c = false) (rest : List Char) :
    EndsNumber (c :: rest) := by
  intro c' hc'
  rwa [← Option.some.inj hc']

/-- What ends a number ends its digits. -/
theorem EndsNumber.noDigit {rest : List Char} (h : EndsNumber rest) :
    ∀ c ∈ rest.head?, c.isDigit = false := by
  intro c hc
  have hstop := h c hc
  simp only [continuesNumber, Bool.or_eq_false_iff] at hstop
  exact hstop.1.1.1

section Words

variable {p : Char → Bool} {rest : List Char}

/-- What is taken from a text does not depend on what follows, if that starts otherwise. -/
theorem takeWhile_append_of_head (h : ∀ c ∈ rest.head?, p c = false) (cs : List Char) :
    (cs ++ rest).takeWhile p = cs.takeWhile p := by
  induction cs with
  | nil =>
    cases rest with
    | nil => rfl
    | cons c rest => simp [h c rfl]
  | cons c cs ih =>
    rw [List.cons_append, List.takeWhile_cons, List.takeWhile_cons, ih]

/-- What is dropped from a text does not depend on what follows, if that starts otherwise. -/
theorem dropWhile_append_of_head (h : ∀ c ∈ rest.head?, p c = false) (cs : List Char) :
    (cs ++ rest).dropWhile p = cs.dropWhile p ++ rest := by
  induction cs with
  | nil =>
    cases rest with
    | nil => rfl
    | cons c rest => simp [h c rfl]
  | cons c cs ih =>
    rw [List.cons_append, List.dropWhile_cons, List.dropWhile_cons, ih]
    split <;> rfl

end Words

namespace NumberText

/-- What is read from a text of its own is read where something follows that ends it. -/
theorem digitRun?_append {cs ds left rest : List Char} (h : digitRun? cs = some (ds, left))
    (hrest : EndsNumber rest) : digitRun? (cs ++ rest) = some (ds, left ++ rest) := by
  simp only [digitRun?, takeWhile_append_of_head hrest.noDigit,
    dropWhile_append_of_head hrest.noDigit] at h ⊢
  split at h
  · cases h
  · rename_i hds
    cases h
    rw [if_neg hds]

/-- The whole part of a number is read the same, whatever follows the number. -/
theorem whole?_append {cs ds left rest : List Char} (h : whole? cs = some (ds, left))
    (hrest : EndsNumber rest) : whole? (cs ++ rest) = some (ds, left ++ rest) := by
  simp only [whole?, Option.bind_eq_bind, Option.bind_eq_some_iff] at h
  obtain ⟨⟨ds', left'⟩, hread, h⟩ := h
  simp only [whole?, digitRun?_append hread hrest, Option.bind_eq_bind, Option.bind_some]
  split at h
  · cases h
  · rename_i hds
    cases h
    rw [if_neg hds]

/-- The sign of a number is read the same, whatever follows. -/
theorem sign_append {cs : List Char} (h : cs ≠ []) (rest : List Char) :
    sign (cs ++ rest) = ((sign cs).1, (sign cs).2 ++ rest) := by
  obtain ⟨c, cs, rfl⟩ := List.exists_cons_of_ne_nil h
  by_cases hc : c = '-'
  · subst hc
    rfl
  · simp [sign, hc]

/-- The sign of an exponent is read the same, whatever follows. -/
theorem powerSign_append {cs : List Char} (h : cs ≠ []) (rest : List Char) :
    powerSign (cs ++ rest) = ((powerSign cs).1, (powerSign cs).2 ++ rest) := by
  obtain ⟨c, cs, rfl⟩ := List.exists_cons_of_ne_nil h
  by_cases hminus : c = '-'
  · subst hminus
    rfl
  by_cases hplus : c = '+'
  · subst hplus
    rfl
  · simp [powerSign, hminus, hplus]

/-- The digits of an exponent are read the same, whatever follows the number. -/
theorem power?_append {cs left rest : List Char} {e : Option (Bool × List Char)}
    (h : power? cs = some (e, left)) (hrest : EndsNumber rest) :
    power? (cs ++ rest) = some (e, left ++ rest) := by
  have hne : cs ≠ [] := by
    rintro rfl
    cases h
  simp only [power?, Option.map_eq_some_iff] at h
  obtain ⟨⟨ds, left'⟩, hread, heq⟩ := h
  cases heq
  simp only [power?, powerSign_append hne, digitRun?_append hread hrest, Option.map_some]

/-- A text that does not start with a mark of numbers does not start with it either once something
stands after it that ends numbers. -/
theorem append_ne_cons {cs rest : List Char} {c : Char} (hcs : ∀ more, cs ≠ c :: more)
    (hrest : EndsNumber rest) (hc : continuesNumber c = true) (more : List Char) :
    cs ++ rest ≠ c :: more := by
  intro heq
  cases cs with
  | nil =>
    have hstop := hrest c (by rw [← List.nil_append rest, heq]; rfl)
    rw [hc] at hstop
    cases hstop
  | cons c' cs => exact hcs cs (by rw [(List.cons.inj heq).1])

/-- The fraction of a number is read the same, whatever follows the number. -/
theorem fraction?_append {cs left rest : List Char} {f : Option (List Char)}
    (h : fraction? cs = some (f, left)) (hrest : EndsNumber rest) :
    fraction? (cs ++ rest) = some (f, left ++ rest) := by
  unfold fraction? at h
  split at h
  · obtain ⟨⟨ds, left'⟩, hread, heq⟩ := Option.map_eq_some_iff.1 h
    cases heq
    simp only [List.cons_append, fraction?, digitRun?_append hread hrest, Option.map_some]
  · rename_i hpoint
    cases h
    unfold fraction?
    split
    · exact absurd ‹cs ++ rest = _› (append_ne_cons hpoint hrest (by decide) _)
    · rfl

/-- The exponent of a number is read the same, whatever follows the number. -/
theorem exponent?_append {cs left rest : List Char} {e : Option (Bool × List Char)}
    (h : exponent? cs = some (e, left)) (hrest : EndsNumber rest) :
    exponent? (cs ++ rest) = some (e, left ++ rest) := by
  unfold exponent? at h
  split at h
  · exact power?_append h hrest
  · exact power?_append h hrest
  · rename_i hlower hupper
    cases h
    unfold exponent?
    split
    · exact absurd ‹cs ++ rest = _› (append_ne_cons hlower hrest (by decide) _)
    · exact absurd ‹cs ++ rest = _› (append_ne_cons hupper hrest (by decide) _)
    · rfl

/-- A number that is read at the front of a text is read there also if something follows that ends
it. -/
theorem read?_append {cs left rest : List Char} {t : NumberText} (h : read? cs = some (t, left))
    (hrest : EndsNumber rest) : read? (cs ++ rest) = some (t, left ++ rest) := by
  have hne : cs ≠ [] := by
    rintro rfl
    cases h
  simp only [read?, Option.bind_eq_bind, Option.bind_eq_some_iff] at h
  obtain ⟨⟨whole, more⟩, hwhole, ⟨fraction, more'⟩, hfraction, ⟨exponent, last⟩, hexponent, heq⟩ :=
    h
  cases heq
  simp only [read?, sign_append hne, whole?_append hwhole hrest, fraction?_append hfraction hrest,
    exponent?_append hexponent hrest, Option.bind_eq_bind, Option.bind_some]
  rfl

/-- A number starts with a digit or with a minus sign. -/
theorem exists_head_of_read? {cs left : List Char} {t : NumberText}
    (h : read? cs = some (t, left)) : ∃ c more, cs = c :: more ∧ (c = '-' ∨ c.isDigit = true) := by
  cases cs with
  | nil => cases h
  | cons c more =>
    refine ⟨c, more, rfl, ?_⟩
    by_contra hc
    rw [not_or, Bool.not_eq_true] at hc
    have hrun : digitRun? (c :: more) = none := by simp [digitRun?, hc.2]
    simp [read?, sign, hc.1, whole?, hrun] at h

/-! ## Whole numbers -/

/-- The numeral of a number is read as that number. -/
theorem digitsValue_toDigits (n : Nat) : digitsValue (Nat.toDigits 10 n) = n := by
  have hread := Nat.ofDigitChars_ten_toDigits (n := n)
  rwa [Nat.ofDigitChars_eq_foldl] at hread

/-- Only the numeral of zero starts with a zero. -/
theorem eq_zero_of_head_toDigits {n : Nat} (h : (Nat.toDigits 10 n).head? = some '0') : n = 0 := by
  induction n using Nat.strongRecOn with
  | _ n ih =>
    by_cases hn : n < 10
    · rw [Nat.toDigits_of_lt_base hn, List.head?_cons, Option.some_inj] at h
      exact Nat.digitChar_eq_zero.1 h
    · have hge : 10 ≤ n := Nat.le_of_not_lt hn
      rw [Nat.toDigits_of_base_le (by decide) hge,
        List.head?_append_of_ne_nil _ Nat.toDigits_ne_nil] at h
      have hzero := ih (n / 10) (Nat.div_lt_self (by omega) (by decide)) h
      omega

/-- A numeral is read as the whole part of a number. -/
theorem whole?_toDigits (n : Nat) :
    whole? (Nat.toDigits 10 n) = some (Nat.toDigits 10 n, []) := by
  have hdigits : ∀ c ∈ Nat.toDigits 10 n, c.isDigit = true := fun c hc =>
    Nat.isDigit_of_mem_toDigits (by decide) (by decide) hc
  have hrun : digitRun? (Nat.toDigits 10 n) = some (Nat.toDigits 10 n, []) := by
    have hne : (Nat.toDigits 10 n).isEmpty = false :=
      List.isEmpty_eq_false_iff.2 Nat.toDigits_ne_nil
    simp only [digitRun?, List.takeWhile_eq_self_iff.2 hdigits, List.dropWhile_eq_nil_iff.2 hdigits,
      hne, Bool.false_eq_true, if_false]
  have hzero : (decide ((Nat.toDigits 10 n).head? = some '0') &&
      decide ((Nat.toDigits 10 n).length ≠ 1)) = false := by
    rw [Bool.and_eq_false_iff, decide_eq_false_iff_not, decide_eq_false_iff_not]
    by_cases hhead : (Nat.toDigits 10 n).head? = some '0'
    · rw [eq_zero_of_head_toDigits hhead]
      exact .inr (by decide)
    · exact .inl hhead
  simp only [whole?, hrun, hzero, Option.bind_eq_bind, Option.bind_some, Bool.false_eq_true,
    if_false]

/-- Digits are read as a number without a sign, a fraction or an exponent. -/
theorem read?_toDigits (n : Nat) :
    read? (Nat.toDigits 10 n) = some (⟨false, Nat.toDigits 10 n, none, none⟩, []) := by
  have hsign : sign (Nat.toDigits 10 n) = (false, Nat.toDigits 10 n) := by
    unfold sign
    split
    · rename_i rest heq
      have hdigit := Nat.isDigit_of_mem_toDigits (c := '-') (b := 10) (n := n) (by decide)
        (by decide) (by rw [heq]; exact List.mem_cons_self)
      cases hdigit
    · rfl
  simp only [read?, hsign, whole?_toDigits, Option.bind_eq_bind, Option.bind_some]
  rfl

/-- Digits behind a minus are read as a negative number. -/
theorem read?_minus_toDigits (n : Nat) :
    read? ('-' :: Nat.toDigits 10 n) = some (⟨true, Nat.toDigits 10 n, none, none⟩, []) := by
  simp only [read?, sign, whole?_toDigits, Option.bind_eq_bind, Option.bind_some]
  rfl

/-- A whole number fits a word with a sign or a word without one. -/
def FitsWord (n : Int) : Prop := -Int.ofNat (Nat.pow 2 63) ≤ n ∧ n < Int.ofNat UInt64.size

/-- A whole number that fits a word is read back from its numeral. -/
theorem read?_toString {n : Int} (h : FitsWord n) :
    ∃ t, read? (toString n).toList = some (t, []) ∧ t.toNode = .integer n := by
  cases n with
  | ofNat n =>
    have hword : n < UInt64.size := Int.ofNat_lt.1 h.2
    refine ⟨_, by rw [toList_toString_ofNat, read?_toDigits], ?_⟩
    simp only [toNode, digitsValue_toDigits, Option.isSome_none, Bool.or_self, Bool.false_eq_true,
      if_false, if_pos hword]
    rfl
  | negSucc n =>
    have hword : Int.ofNat (n + 1) ≤ Int.ofNat (Nat.pow 2 63) := Int.neg_le_neg_iff.1 h.1
    have hfits : n + 1 ≠ 0 ∧ n + 1 ≤ Nat.pow 2 63 := ⟨Nat.succ_ne_zero n, Int.ofNat_le.1 hword⟩
    refine ⟨_, by rw [toList_toString_negSucc, read?_minus_toDigits], ?_⟩
    simp only [toNode, digitsValue_toDigits, Option.isSome_none, Bool.or_self, Bool.false_eq_true,
      if_false, if_true, if_pos hfits]
    rfl

end NumberText

end Groundwork.Json
