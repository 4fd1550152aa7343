import Groundwork.Text.Blank
import Groundwork.Text.Digit
import Groundwork.Yaml.Printer
import Mathlib.Data.List.Basic
import Mathlib.Tactic.SplitIfs

/-!
# How documents end

A printed document ends in the line of the scalar that stands last in it, however deep.  Taking the
blanks from its end takes the line feed of that line, which is what the printer puts there, but also
the blanks that a text ends in where it is written plain or as a literal block.  A text between
quotes keeps its end.

Main definitions:

- `Json.closing`: what stands last in a value.
- `Yaml.KeepsEnd`: a text loses nothing if it stands last.

Main results:

- `Yaml.print_endsIn`: a document ends in the line of what stands last in it.
- `Yaml.trimEnd_print_iff`: trimming takes away the last line feed and nothing else exactly if what
  stands last keeps its end.
-/

namespace Groundwork

/-! ## Texts without blanks -/

/-- A text without blanks. -/
def HasNoBlank (cs : List Char) : Prop := ∀ c ∈ cs, isBlank c = false

instance (cs : List Char) : Decidable (HasNoBlank cs) := List.decidableBAll _ cs

namespace HasNoBlank

/-- Texts without blanks may be put together. -/
theorem append {cs ds : List Char} (hcs : HasNoBlank cs) (hds : HasNoBlank ds) :
    HasNoBlank (cs ++ ds) := by
  intro c hc
  rcases List.mem_append.1 hc with hc | hc
  · exact hcs c hc
  · exact hds c hc

/-- A character that is not blank may stand before text without blanks. -/
theorem cons {c : Char} {cs : List Char} (hc : isBlank c = false) (hcs : HasNoBlank cs) :
    HasNoBlank (c :: cs) :=
  append (List.forall_mem_singleton.2 hc) hcs

end HasNoBlank

/-- No digit is a blank. -/
theorem isBlank_of_isDigit {c : Char} (h : c.isDigit = true) : isBlank c = false := by
  simp only [Char.isDigit, Bool.and_eq_true, decide_eq_true_eq] at h
  have hfirst : 48 ≤ c.toNat := h.1
  have hlast : c.toNat ≤ 57 := h.2
  simp only [isBlank, Bool.or_eq_false_iff, Bool.and_eq_false_iff, decide_eq_false_iff_not,
    beq_eq_false_iff_ne]
  omega

/-- Digits have no blanks between them. -/
theorem hasNoBlank_toDigits (n : Nat) : HasNoBlank (Nat.toDigits 10 n) :=
  fun _ hc => isBlank_of_isDigit (Nat.isDigit_of_mem_toDigits (by decide) (by decide) hc)

/-- A whole number is written without blanks. -/
theorem hasNoBlank_toString (n : Int) : HasNoBlank (toString n).toList := by
  cases n with
  | ofNat n =>
    rw [toList_toString_ofNat]
    exact hasNoBlank_toDigits n
  | negSucc n =>
    rw [toList_toString_negSucc]
    exact .cons (by decide) (hasNoBlank_toDigits (n + 1))

/-- A whole number is not written as nothing. -/
theorem toString_ne_nil (n : Int) : (toString n).toList ≠ [] := by
  cases n with
  | ofNat n =>
    rw [toList_toString_ofNat]
    exact Nat.toDigits_ne_nil
  | negSucc n =>
    rw [toList_toString_negSucc]
    exact List.cons_ne_nil _ _

/-- Zeros have no blanks between them. -/
theorem hasNoBlank_zeros (count : Int) : HasNoBlank (Decimal.zeros count) := by
  intro c hc
  rw [(List.mem_replicate.1 hc).2]
  decide

/-- A decimal in a manifest has no blanks. -/
theorem Decimal.hasNoBlank_write (d : Decimal) : HasNoBlank (d.write .yaml) := by
  have hds := hasNoBlank_toDigits d.digits
  have hsuffix : HasNoBlank FloatStyle.yaml.wholeSuffix.toList := by decide
  have hsign : FloatStyle.yaml.exponentSign = [] := rfl
  unfold write
  generalize Nat.toDigits 10 d.digits = ds at hds
  simp only [hsign, ite_self]
  split_ifs
  · exact .cons (by decide) hsuffix
  · exact (hds.append (hasNoBlank_zeros _)).append hsuffix
  · exact .append (fun c hc => hds c (List.mem_of_mem_take hc))
      (.cons (by decide) fun c hc => hds c (List.mem_of_mem_drop hc))
  · exact .append (.cons (by decide) (.cons (by decide) (hasNoBlank_zeros _))) hds
  · have hexponent (n : Int) : HasNoBlank (['e'] ++ (toString n).toList) :=
      .append (by decide) (hasNoBlank_toString n)
    match ds with
    | [] => exact hexponent _
    | [d₀] => exact hds.append (hexponent _)
    | d₀ :: d₁ :: rest =>
      have hfirst : isBlank d₀ = false := hds d₀ List.mem_cons_self
      have hrest : HasNoBlank (d₁ :: rest) := fun c hc => hds c (List.mem_cons_of_mem d₀ hc)
      exact .cons hfirst (.append (.cons (by decide) hrest) (hexponent _))

/-- A decimal is not written as nothing. -/
theorem Decimal.write_ne_nil (d : Decimal) : d.write .yaml ≠ [] := by
  unfold write
  generalize Nat.toDigits 10 d.digits = ds
  simp only
  split_ifs
  · simp
  · simp [FloatStyle.yaml, FloatStyle.json]
  · simp
  · simp
  all_goals rcases ds with _ | ⟨d₀, _ | ⟨d₁, rest⟩⟩ <;> simp

/-- A float in a manifest has no blanks. -/
theorem hasNoBlank_write (x : Float) : HasNoBlank (FloatStyle.yaml.write x).toList := by
  unfold FloatStyle.write
  simp only
  split_ifs
  · decide
  · decide
  · decide
  · rw [String.toList_ofList]
    exact .cons (by decide) (Decimal.hasNoBlank_write _)
  · rw [String.toList_ofList]
    exact Decimal.hasNoBlank_write _

/-- A float is not written as nothing. -/
theorem write_ne_nil (x : Float) : (FloatStyle.yaml.write x).toList ≠ [] := by
  unfold FloatStyle.write
  simp only
  split_ifs
  · decide
  · decide
  · decide
  · simp
  · rw [String.toList_ofList]
    exact Decimal.write_ne_nil _

/-! ## What stands last -/

namespace Json

mutual

/-- What stands last in a value: a scalar, or an empty list or object. -/
def closing : Json → Json
  | .object (field :: rest) => closingField (field :: rest)
  | .list (item :: rest) => closingItem (item :: rest)
  | value => value

/-- What stands last in some fields. -/
def closingField : List (String × Json) → Json
  | [] => .null
  | [(_, value)] => value.closing
  | _ :: next :: rest => closingField (next :: rest)

/-- What stands last in some items. -/
def closingItem : List Json → Json
  | [] => .null
  | [item] => item.closing
  | _ :: next :: rest => closingItem (next :: rest)

end

@[simp] theorem closing_null : null.closing = null := rfl

@[simp] theorem closing_bool (b : Bool) : (bool b).closing = bool b := rfl

@[simp] theorem closing_int (n : Int) : (int n).closing = int n := rfl

@[simp] theorem closing_float (x : Float) : (float x).closing = float x := rfl

@[simp] theorem closing_text (s : String) : (text s).closing = text s := rfl

@[simp] theorem closing_list_nil : (list []).closing = list [] := rfl

@[simp] theorem closing_object_nil : (object []).closing = object [] := rfl

/-- A list of one item ends in what the item ends in. -/
@[simp]
theorem closing_list_singleton (item : Json) : (list [item]).closing = item.closing := rfl

/-- An object of one field ends in what the field ends in. -/
@[simp]
theorem closing_object_singleton (name : String) (value : Json) :
    (object [(name, value)]).closing = value.closing := rfl

/-- A list ends as its later items do. -/
@[simp]
theorem closing_list_cons_cons (item next : Json) (rest : List Json) :
    (list (item :: next :: rest)).closing = (list (next :: rest)).closing := rfl

/-- An object ends as its later fields do. -/
@[simp]
theorem closing_object_cons_cons (field next : String × Json) (rest : List (String × Json)) :
    (object (field :: next :: rest)).closing = (object (next :: rest)).closing := rfl

/-- A list ends in what its last item ends in. -/
theorem closing_list_concat (items : List Json) (item : Json) :
    (list (items ++ [item])).closing = item.closing := by
  induction items with
  | nil => exact closing_list_singleton item
  | cons first rest ih =>
    cases rest with
    | nil => simp
    | cons next rest => exact (closing_list_cons_cons first next (rest ++ [item])).trans ih

/-- An object ends in what its last field ends in. -/
theorem closing_object_concat (fields : List (String × Json)) (name : String) (value : Json) :
    (object (fields ++ [(name, value)])).closing = value.closing := by
  induction fields with
  | nil => exact closing_object_singleton name value
  | cons first rest ih =>
    cases rest with
    | nil => simp
    | cons next rest =>
      exact (closing_object_cons_cons first next (rest ++ [(name, value)])).trans ih

end Json

namespace Yaml

/-- A text ends in the line of a value. -/
def EndsIn (text : List Char) (value : Json) : Prop :=
  ∃ indent, endLine (inlineValue indent value) <:+ text

/-- What stands before a text does not change its end. -/
theorem EndsIn.append {text : List Char} {value : Json} (h : EndsIn text value)
    (before : List Char) : EndsIn (before ++ text) value := by
  obtain ⟨indent, h⟩ := h
  exact ⟨indent, h.trans (List.suffix_append before text)⟩

/-- One character before a text does not change its end. -/
theorem EndsIn.cons {text : List Char} {value : Json} (h : EndsIn text value) (c : Char) :
    EndsIn (c :: text) value :=
  h.append [c]

/-- Lines in a column end as the last of them do. -/
theorem EndsIn.inColumn {rest : List (List Char)} {value : Json} {indent : Nat}
    (h : EndsIn (inColumn indent rest) value) (hrest : rest ≠ []) (text : List Char) :
    EndsIn (Yaml.inColumn indent (text :: rest)) value := by
  obtain ⟨next, rest, rfl⟩ := List.exists_cons_of_ne_nil hrest
  rw [Yaml.inColumn]
  · exact h.append _
  · simp

/-! The next four results go through a value as the printer does. -/

mutual

/-- After a name, the text of a value ends in what the value ends in. -/
theorem valueText_endsIn (indent : Nat) :
    ∀ value : Json, EndsIn (valueText indent value) value.closing
  | .object (field :: rest) => by
    rw [valueText, Json.closing]
    exact (fieldTexts_endsIn (indent + 2) (field :: rest) (by simp)).append _
  | .list (item :: rest) => by
    rw [valueText, Json.closing]
    exact (itemTexts_endsIn indent (item :: rest) (by simp)).append _
  | .null | .bool _ | .int _ | .float _ | .text _ | .list [] | .object [] => by
    simp only [valueText, Json.closing]
    exact ⟨indent + 2, List.suffix_cons ' ' _⟩

/-- After a dash, the text of an item ends in what the item ends in. -/
theorem itemText_endsIn (indent : Nat) :
    ∀ value : Json, EndsIn (itemText indent value) value.closing
  | .object (field :: rest) => by
    rw [itemText, Json.closing]
    exact fieldTexts_endsIn (indent + 2) (field :: rest) (by simp)
  | .list (item :: rest) => by
    rw [itemText, Json.closing]
    exact itemTexts_endsIn (indent + 2) (item :: rest) (by simp)
  | .null | .bool _ | .int _ | .float _ | .text _ | .list [] | .object [] => by
    simp only [itemText, Json.closing]
    exact ⟨indent + 2, List.suffix_rfl⟩

/-- Fields in a column end in what the last of them ends in. -/
theorem fieldTexts_endsIn (indent : Nat) :
    ∀ fields : List (String × Json), fields ≠ [] →
      EndsIn (inColumn indent (fieldTexts indent fields)) (Json.closingField fields)
  | [], h => absurd rfl h
  | [(key, value)], _ => by
    rw [fieldTexts, fieldTexts, inColumn, Json.closingField]
    refine EndsIn.append ?_ (keyText indent key)
    split
    · exact valueText_endsIn indent value
    · exact (itemText_endsIn indent value).cons ' '
  | field :: next :: rest, _ => by
    rw [fieldTexts, Json.closingField]
    exact (fieldTexts_endsIn indent (next :: rest) (by simp)).inColumn (by simp [fieldTexts]) _

/-- Items in a column end in what the last of them ends in. -/
theorem itemTexts_endsIn (indent : Nat) :
    ∀ items : List Json, items ≠ [] →
      EndsIn (inColumn indent (itemTexts indent items)) (Json.closingItem items)
  | [], h => absurd rfl h
  | [item], _ => by
    rw [itemTexts, itemTexts, inColumn, Json.closingItem]
    exact (itemText_endsIn indent item).append ['-', ' ']
  | item :: next :: rest, _ => by
    rw [itemTexts, Json.closingItem]
    exact (itemTexts_endsIn indent (next :: rest) (by simp)).inColumn (by simp [itemTexts]) _

end

/-- A document ends in the line of what stands last in it. -/
theorem print_endsIn (doc : Json) : EndsIn (print doc).toList doc.closing := by
  cases doc with
  | object fields =>
    cases fields with
    | nil => exact ⟨2, by simp [print, Json.closing]⟩
    | cons field rest =>
      rw [print, String.toList_ofList, Json.closing]
      exact fieldTexts_endsIn 0 (field :: rest) (by simp)
  | list items =>
    cases items with
    | nil => exact ⟨2, by simp [print, Json.closing]⟩
    | cons item rest =>
      rw [print, String.toList_ofList, Json.closing]
      exact itemTexts_endsIn 0 (item :: rest) (by simp)
  | null | bool | int | float | text => exact ⟨2, by simp [print, Json.closing]⟩

/-! ## Texts that keep their end -/

/-- Forms without a mark behind the text. -/
def TextStyle.isOpen : TextStyle → Bool
  | plain => true
  | literal => true
  | single => false
  | double => false

/-- The characters without a line feed at their end. -/
def dropLineFeed (cs : List Char) : List Char :=
  if cs.getLast? = some '\n' then cs.dropLast else cs

/-- A text that loses nothing where it stands last in a document that is trimmed: it stands between
quotes, or it ends in no blank, apart from a single line feed. -/
def KeepsEnd (s : String) : Prop :=
  (TextStyle.of s).isOpen = true →
    ((dropLineFeed s.toList).getLast?.any fun c => !isBlank c) = true

instance : DecidablePred KeepsEnd :=
  fun s => inferInstanceAs (Decidable ((TextStyle.of s).isOpen = true → _ = true))

end Yaml

/-- A value that loses nothing where it stands last; only texts may lose something. -/
def Json.KeepsEnd : Json → Prop
  | .text s => Yaml.KeepsEnd s
  | _ => True

namespace Yaml

/-! ## The last two characters -/

/-- A text that ends in a line feed behind a character that is no blank exactly under a
condition. -/
def EndsBareIff (text : List Char) (condition : Prop) : Prop :=
  ∃ before c d, text = before ++ [c, d] ∧ ((isBlank c = false ∧ d = '\n') ↔ condition)

/-- The end of a line is blank. -/
theorem isBlank_of_isBreak {c : Char} (h : isBreak c = true) : isBlank c = true := by
  simp only [isBreak, Bool.or_eq_true, decide_eq_true_eq] at h
  rcases h with (((rfl | rfl) | h) | h) | h
  · decide
  · decide
  · simp [isBlank, h]
  · simp [isBlank, h]
  · simp [isBlank, h]

/-- A line whose last character ends no line is ended by a line feed. -/
theorem endLine_concat_of_not (cs : List Char) {c : Char} (h : isBreak c = false) :
    endLine (cs ++ [c]) = cs ++ [c, '\n'] := by
  simp [endLine, h]

/-- Text that ends a line gets no further line end. -/
theorem endLine_concat_of (cs : List Char) {c : Char} (h : isBreak c = true) :
    endLine (cs ++ [c]) = cs ++ [c] := by
  simp [endLine, h]

/-- A line feed is put behind text that ends no line, bare exactly if the text ends in no blank. -/
theorem endsBareIff_of_not_isBreak (cs : List Char) {c : Char} (h : isBreak c = false) :
    EndsBareIff (endLine (cs ++ [c])) (isBlank c = false) :=
  ⟨cs, c, '\n', endLine_concat_of_not cs h, by simp⟩

/-- A line that ends in no blank. -/
theorem endsBareIff_of_not_isBlank (cs : List Char) {c : Char} (h : isBlank c = false) :
    EndsBareIff (endLine (cs ++ [c])) True := by
  have hbreak : isBreak c = false := by
    by_contra hc
    rw [isBlank_of_isBreak (Bool.of_not_eq_false hc)] at h
    cases h
  simpa [h] using endsBareIff_of_not_isBreak cs hbreak

/-- Behind text without blanks the line feed is bare. -/
theorem endsBareIff_of_hasNoBlank {cs : List Char} (h : HasNoBlank cs) (hne : cs ≠ []) :
    EndsBareIff (endLine cs) True := by
  rw [← List.dropLast_concat_getLast hne]
  exact endsBareIff_of_not_isBlank _ (h _ (List.getLast_mem hne))

/-! ## Texts -/

/-- Nothing is dropped from text that ends in something else than a line feed. -/
theorem dropLineFeed_concat_of_ne (cs : List Char) {c : Char} (h : c ≠ '\n') :
    dropLineFeed (cs ++ [c]) = cs ++ [c] := by
  simp [dropLineFeed, h]

/-- One line feed is dropped from the end. -/
@[simp]
theorem dropLineFeed_concat_lineFeed (cs : List Char) :
    dropLineFeed (cs ++ ['\n']) = cs := by
  simp [dropLineFeed]

/-- Text without a mark behind it keeps its end if, a line feed apart, no blank stands there. -/
theorem keepsEnd_iff {s : String} (h : (TextStyle.of s).isOpen = true) :
    KeepsEnd s ↔ ((dropLineFeed s.toList).getLast?.any fun c => !isBlank c) = true :=
  ⟨fun hs => hs h, fun hs _ => hs⟩

/-- Text between quotes keeps its end. -/
theorem keepsEnd_of_not_isOpen {s : String} (h : (TextStyle.of s).isOpen = false) :
    KeepsEnd s := by
  intro hopen
  rw [h] at hopen
  cases hopen

/-- A break at the end of an indented text stands where the text before it ends. -/
theorem indented_concat_of_isBreak {spell : Char → List Char} {indent : Nat} {c : Char}
    (h : isBreak c = true) (atStart : Bool) (cs : List Char) :
    indented spell indent atStart (cs ++ [c]) = indented spell indent atStart cs ++ [c] := by
  induction cs generalizing atStart with
  | nil => simp [indented, h]
  | cons c' cs ih =>
    rw [List.cons_append, indented, indented, ih, ih]
    split <;> simp

/-- The last character of an indented text that spells all characters as they are. -/
theorem exists_indented_concat (indent : Nat) (c : Char) (atStart : Bool) (cs : List Char) :
    ∃ before, indented (fun c => [c]) indent atStart (cs ++ [c]) = before ++ [c] := by
  induction cs generalizing atStart with
  | nil =>
    simp only [List.nil_append, indented, List.append_nil]
    split
    · exact ⟨[], rfl⟩
    · exact ⟨_, rfl⟩
  | cons c' cs ih =>
    rw [List.cons_append, indented]
    split
    · obtain ⟨before, hbefore⟩ := ih true
      exact ⟨c' :: before, by rw [hbefore, List.cons_append]⟩
    · obtain ⟨before, hbefore⟩ := ih false
      exact ⟨_, by rw [hbefore, ← List.append_assoc]⟩

/-- A literal block ends as its text does; only a text that is a single break stands right behind
the line of the header. -/
theorem endsBareIff_literalBlock (indent : Nat) {s : String} (hs : '\n' ∈ s.toList)
    (hopen : (TextStyle.of s).isOpen = true) :
    EndsBareIff (endLine (literalBlock indent s.toList)) (KeepsEnd s) := by
  rw [keepsEnd_iff hopen]
  generalize s.toList = cs at hs
  obtain ⟨init, last, rfl⟩ := List.eq_nil_or_concat' cs |>.resolve_left (List.ne_nil_of_mem hs)
  by_cases hbreak : isBreak last = true
  · have hblock : endLine (literalBlock indent (init ++ [last])) =
        literalHeader (init ++ [last]) ++ '\n' ::
          indented (fun c => [c]) indent true init ++ [last] := by
      rw [literalBlock, indented_concat_of_isBreak hbreak, ← List.cons_append, ← List.append_assoc,
        endLine_concat_of _ hbreak]
    rw [hblock]
    rcases List.eq_nil_or_concat' init with rfl | ⟨init, before, rfl⟩
    · -- nothing but the header stands before the break
      obtain rfl : '\n' = last := by simpa using hs
      refine ⟨literalHeader ['\n'], '\n', '\n', by simp [indented], ?_⟩
      simp [dropLineFeed, isBlank]
    · obtain ⟨text, htext⟩ := exists_indented_concat indent before true init
      rw [htext]
      refine ⟨literalHeader (init ++ [before] ++ [last]) ++ '\n' :: text, before, last, by simp, ?_⟩
      by_cases hlast : last = '\n'
      · subst hlast
        rw [dropLineFeed_concat_lineFeed]
        simp
      · rw [dropLineFeed_concat_of_ne _ hlast]
        simp [hlast, isBlank_of_isBreak hbreak]
  · obtain ⟨text, htext⟩ := exists_indented_concat indent last true init
    have hlast : last ≠ '\n' := by
      rintro rfl
      exact hbreak rfl
    have hblock : literalBlock indent (init ++ [last]) =
        (literalHeader (init ++ [last]) ++ '\n' :: text) ++ [last] := by
      simp [literalBlock, htext]
    rw [hblock, dropLineFeed_concat_of_ne _ hlast, List.getLast?_concat, Option.any_some,
      Bool.not_eq_true']
    exact endsBareIff_of_not_isBreak _ (Bool.eq_false_iff.2 hbreak)

/-! ## Scalars -/

/-- A text is written plain only if it has characters, none of which ends a line. -/
theorem of_eq_plain {s : String} (h : TextStyle.of s = .plain) :
    s.toList ≠ [] ∧ ∀ c ∈ s.toList, isBreak c = false := by
  unfold TextStyle.of at h
  simp only at h
  split_ifs at h with _ _ hplain
  rw [Bool.and_eq_true] at hplain
  obtain ⟨hclear, hallows⟩ := hplain
  constructor
  · intro hnil
    obtain rfl : s = "" := String.toList_eq_nil_iff.1 hnil
    cases hclear
  · intro c hc
    simp only [allowsPlain, Bool.and_eq_true, List.all_eq_true, Bool.not_eq_true'] at hallows
    exact (hallows.1.1.1 c hc).2

/-- A text is written as a literal block only if it has a line feed. -/
theorem of_eq_literal {s : String} (h : TextStyle.of s = .literal) : '\n' ∈ s.toList := by
  unfold TextStyle.of at h
  simp only at h
  split_ifs at h with hfeed
  simpa using hfeed

/-- The line of a text ends bare exactly if the text keeps its end. -/
theorem endsBareIff_textScalar (indent : Nat) (s : String) :
    EndsBareIff (endLine (textScalar indent s)) (KeepsEnd s) := by
  unfold textScalar
  cases hstyle : TextStyle.of s with
  | plain =>
    have hopen : (TextStyle.of s).isOpen = true := by rw [hstyle]; rfl
    rw [keepsEnd_iff hopen]
    obtain ⟨hne, hbreak⟩ := of_eq_plain hstyle
    generalize s.toList = cs at hne hbreak
    obtain ⟨init, last, rfl⟩ := List.eq_nil_or_concat' cs |>.resolve_left hne
    have hlast : isBreak last = false := hbreak last (by simp)
    have hfeed : last ≠ '\n' := by
      rintro rfl
      cases hlast
    rw [dropLineFeed_concat_of_ne _ hfeed]
    simpa using endsBareIff_of_not_isBreak init hlast
  | single =>
    have hkeeps : KeepsEnd s := keepsEnd_of_not_isOpen (by rw [hstyle]; rfl)
    simp only [hkeeps, singleQuoted]
    exact endsBareIff_of_not_isBlank _ (by decide)
  | double =>
    have hkeeps : KeepsEnd s := keepsEnd_of_not_isOpen (by rw [hstyle]; rfl)
    simp only [hkeeps, doubleQuoted]
    exact endsBareIff_of_not_isBlank _ (by decide)
  | literal =>
    exact endsBareIff_literalBlock indent (of_eq_literal hstyle) (by rw [hstyle]; rfl)

/-- The line of a value ends bare exactly if the value keeps its end. -/
theorem endsBareIff_inlineValue (indent : Nat) (value : Json) :
    EndsBareIff (endLine (inlineValue indent value)) value.KeepsEnd := by
  have hnull : HasNoBlank "null".toList := by decide
  have hbool (b : Bool) : HasNoBlank (if b then "true" else "false").toList := by
    cases b <;> decide
  have hlist : HasNoBlank ['[', ']'] := by decide
  have hobject : HasNoBlank ['\x7b', '\x7d'] := by decide
  cases value with
  | null => exact endsBareIff_of_hasNoBlank hnull (by simp [inlineValue])
  | bool b => exact endsBareIff_of_hasNoBlank (hbool b) (by cases b <;> simp [inlineValue])
  | int n => exact endsBareIff_of_hasNoBlank (hasNoBlank_toString n) (toString_ne_nil n)
  | float x => exact endsBareIff_of_hasNoBlank (hasNoBlank_write x) (write_ne_nil x)
  | text s => exact endsBareIff_textScalar indent s
  | list => exact endsBareIff_of_hasNoBlank hlist (List.cons_ne_nil _ _)
  | object => exact endsBareIff_of_hasNoBlank hobject (List.cons_ne_nil _ _)

/-! ## Trimming -/

/-- Trimming takes away just the last character exactly if the one before it stays. -/
theorem dropLastWhile_concat_concat {p : Char → Bool} {last : Char} (hlast : p last = true)
    (cs : List Char) (c d : Char) :
    dropLastWhile p (cs ++ [c, d]) ++ [last] = cs ++ [c, d] ↔ p c = false ∧ d = last := by
  rw [List.append_cons cs c [d]]
  constructor
  · intro h
    obtain ⟨hinit, hd⟩ := List.append_inj' h rfl
    obtain rfl : last = d := List.singleton_inj.1 hd
    refine ⟨Bool.eq_false_iff.2 fun hc => ?_, rfl⟩
    -- both characters would go, so too little would be left
    rw [dropLastWhile_concat_of _ hlast, dropLastWhile_concat_of _ hc] at hinit
    have hlength := congrArg List.length hinit
    have hle := length_dropLastWhile_le p cs
    rw [List.length_append, List.length_singleton] at hlength
    omega
  · rintro ⟨hc, rfl⟩
    rw [dropLastWhile_concat_of _ hlast, dropLastWhile_concat_of_not _ hc]

/-- Trimming takes away the last line feed and nothing else exactly if what stands last keeps its
end. -/
theorem trimEnd_print_iff (doc : Json) :
    trimEnd (print doc) ++ "\n" = print doc ↔ doc.closing.KeepsEnd := by
  obtain ⟨indent, before, hline⟩ := print_endsIn doc
  obtain ⟨text, c, d, hpair, hiff⟩ := endsBareIff_inlineValue indent doc.closing
  rw [hpair, ← List.append_assoc] at hline
  rw [← String.toList_inj, String.toList_append, trimEnd, String.toList_ofList, ← hline, ← hiff]
  exact dropLastWhile_concat_concat (by decide) (before ++ text) c d

end Yaml

end Groundwork
