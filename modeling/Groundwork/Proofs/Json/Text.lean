import Groundwork.Json.Document
import Groundwork.Json.Printer
import Groundwork.Json.Reader
import Groundwork.Proofs.Json.Number
import Mathlib.Data.List.DropRight

/-!
# JSON text is read back

The text of a value without blanks is read as the value, whatever characters its texts hold and
however deep it is.  Only numbers can be lost: whole numbers that fit no word become floats, and the
reader rounds the digits of a float and their scale one after the other, which is not always the
float that was written.

The proof follows the reader: with one step fewer for what is inside of a list or an object, and one
character fewer there, the steps never run out.

Main results:

- `Json.toList_compact`: the text as a list of characters.
- `Json.readQuoted_quote`: a quoted text is read back, whatever follows.
- `Json.reads`: with enough steps, values, items and fields are read back.
- `Json.read?_compact`: the text of a value is read back if every number in it is.
- `Json.read?_compact_of_fitsWords`: where whole numbers fit a word, only floats matter.
-/

namespace Groundwork.Json

/-! ## Quoted texts -/

/-- The code of a control character is read back from its four digits. -/
theorem hexFour?_control {n : Nat} (h : n < 32) (rest : List Char) :
    hexFour? ('0' :: '0' :: hexDigit (n / 16) :: hexDigit (n % 16) :: rest) = some (n, rest) := by
  have hdigits : ∀ n < 32,
      digits? 16 ['0', '0', hexDigit (n / 16), hexDigit (n % 16)] = some n := by decide
  simp only [hexFour?, hdigits n h, Option.bind_eq_bind, Option.bind_some]
  rfl

/-- A character inside a quoted text is read back from the way it is written. -/
theorem readQuoted_quoteChar (fuel : Nat) (acc : List Char) (c : Char) (rest : List Char) :
    readQuoted (fuel + 1) (some acc) (quoteChar c ++ rest) =
      readQuoted fuel (some (c :: acc)) rest := by
  unfold quoteChar
  split
  case h_6 _ hquote hslash hfeed hreturn htab =>
    have hcode : c = Char.ofNat c.toNat := (Char.ofNat_toNat c).symm
    split_ifs with hback hpage hcontrol
    · rw [hcode, hback]
      rfl
    · rw [hcode, hpage]
      rfl
    · have hhigh : isHighUnit c.toNat = false := by simp [isHighUnit]; omega
      have hlow : isLowUnit c.toNat = false := by simp [isLowUnit]; omega
      simp [readQuoted, hexFour?_control hcontrol, hhigh, hlow]
    · rw [List.singleton_append, readQuoted]
      · rw [if_neg (by simp [hcontrol, show ¬c = _ from hslash]), Option.map_some]
      · exact hquote
      · exact fun _ h _ => hslash h
      · exact fun _ _ h _ => hslash h
  all_goals rfl

/-- Characters up to the closing quote are read back. -/
theorem readQuoted_quoted {fuel : Nat} {cs : List Char} (hfuel : cs.length < fuel)
    (acc rest : List Char) :
    readQuoted fuel (some acc) (cs.flatMap quoteChar ++ '"' :: rest) =
      some (some (String.ofList (acc.reverse ++ cs)), rest) := by
  induction cs generalizing fuel acc with
  | nil =>
    obtain ⟨fuel, rfl⟩ := Nat.exists_eq_add_of_lt hfuel
    simp [readQuoted]
  | cons c cs ih =>
    obtain ⟨fuel, rfl⟩ : ∃ k, fuel = k + 1 := ⟨fuel - 1, by rw [List.length_cons] at hfuel; omega⟩
    rw [List.flatMap_cons, List.append_assoc, readQuoted_quoteChar,
      ih (by rw [List.length_cons] at hfuel; omega), List.reverse_cons, List.append_assoc,
      List.singleton_append]

/-- No character is quoted as nothing. -/
theorem quoteChar_ne_nil (c : Char) : quoteChar c ≠ [] := by
  unfold quoteChar
  split
  case h_6 => split_ifs <;> simp
  all_goals simp

/-- Quoting makes no text shorter. -/
theorem length_le_flatMap_quoteChar (cs : List Char) :
    cs.length ≤ (cs.flatMap quoteChar).length := by
  induction cs with
  | nil => exact Nat.zero_le _
  | cons c cs ih =>
    have hpos := List.length_pos_of_ne_nil (quoteChar_ne_nil c)
    rw [List.flatMap_cons, List.length_append, List.length_cons]
    omega

/-- What stands after the opening quote of a text is read as the text. -/
theorem readQuoted_quote (s : String) (rest : List Char) :
    readQuoted ((s.toList.flatMap quoteChar ++ '"' :: rest).length + 1) (some [])
      (s.toList.flatMap quoteChar ++ '"' :: rest) = some (some s, rest) := by
  have hlength := length_le_flatMap_quoteChar s.toList
  rw [readQuoted_quoted (by rw [List.length_append]; omega), List.reverse_nil, List.nil_append,
    String.ofList_toList]

/-- A quoted text stands between two quotes, whatever follows. -/
theorem toList_quote_append (s : String) (rest : List Char) :
    (quote s).toList ++ rest = '"' :: (s.toList.flatMap quoteChar ++ '"' :: rest) := by
  simp [quote]

/-! ## The characters of a text -/

mutual

/-- The characters of the text of a value without blanks. -/
def chars : Json → List Char
  | null => "null".toList
  | bool b => (if b then "true" else "false").toList
  | int n => (toString n).toList
  | float x => (FloatStyle.json.write x).toList
  | text s => (quote s).toList
  | list [] => ['[', ']']
  | list (item :: rest) => '[' :: (item.chars ++ itemsChars rest)
  | object [] => ['\x7b', '\x7d']
  | object ((name, value) :: rest) =>
    '\x7b' :: ((quote name).toList ++ ':' :: (value.chars ++ fieldsChars rest))

/-- Further items, each after a comma, and the closing bracket. -/
def itemsChars : List Json → List Char
  | [] => [']']
  | item :: rest => ',' :: (item.chars ++ itemsChars rest)

/-- Further fields, each after a comma, and the closing brace. -/
def fieldsChars : List (String × Json) → List Char
  | [] => ['\x7d']
  | (name, value) :: rest =>
    ',' :: ((quote name).toList ++ ':' :: (value.chars ++ fieldsChars rest))

end

mutual

/-- Appending the text of a value appends its characters. -/
theorem toList_addCompact (acc : String) : ∀ v : Json,
    (addCompact acc v).toList = acc.toList ++ v.chars
  | null => by simp [addCompact, chars]
  | bool b => by simp [addCompact, chars]
  | int n => by simp [addCompact, chars]
  | float x => by simp [addCompact, chars]
  | text s => by simp [addCompact, chars]
  | list [] => by simp [addCompact, addCompactItems, chars]
  | list (item :: rest) => by
    simp [addCompact, addCompactItems, chars, toList_addCompactItems, toList_addCompact _ item]
  | object [] => by simp [addCompact, addCompactFields, chars]
  | object ((name, value) :: rest) => by
    simp [addCompact, addCompactFields, chars, toList_addCompactFields, toList_addCompact _ value]

/-- Appending further items appends their characters and the closing bracket. -/
theorem toList_addCompactItems (acc : String) : ∀ items : List Json,
    (addCompactItems acc false items ++ "]").toList = acc.toList ++ itemsChars items
  | [] => by simp [addCompactItems, itemsChars]
  | item :: rest => by
    simp [addCompactItems, itemsChars, toList_addCompactItems, toList_addCompact _ item]

/-- Appending further fields appends their characters and the closing brace. -/
theorem toList_addCompactFields (acc : String) : ∀ fields : List (String × Json),
    (addCompactFields acc false fields ++ "\x7d").toList = acc.toList ++ fieldsChars fields
  | [] => by simp [addCompactFields, fieldsChars]
  | (name, value) :: rest => by
    simp [addCompactFields, fieldsChars, toList_addCompactFields, toList_addCompact _ value]

end

/-- The text of a value without blanks is made of its characters. -/
theorem toList_compact (v : Json) : v.compact.toList = v.chars := by
  rw [compact, toList_addCompact]
  rfl

/-! ## Numbers in a value -/

mutual

/-- The numbers that stand in a value; what is written `null` is none. -/
def numbers : Json → List Json
  | int n => [int n]
  | float x => if x.isFinite then [float x] else []
  | list items => numbersOfItems items
  | object fields => numbersOfFields fields
  | _ => []

/-- The numbers that stand in items. -/
def numbersOfItems : List Json → List Json
  | [] => []
  | item :: rest => item.numbers ++ numbersOfItems rest

/-- The numbers that stand in fields. -/
def numbersOfFields : List (String × Json) → List Json
  | [] => []
  | (_, value) :: rest => value.numbers ++ numbersOfFields rest

end

/-- The numbers in items are those in each of them. -/
theorem numbersOfItems_eq_flatMap (items : List Json) :
    numbersOfItems items = items.flatMap numbers := by
  induction items with
  | nil => rfl
  | cons item rest ih => rw [numbersOfItems, ih, List.flatMap_cons]

/-- The numbers in fields are those in the value of each. -/
theorem numbersOfFields_eq_flatMap (fields : List (String × Json)) :
    numbersOfFields fields = fields.flatMap (·.2.numbers) := by
  induction fields with
  | nil => rfl
  | cons field rest ih => rw [numbersOfFields, ih, List.flatMap_cons]

mutual

/-- The numbers in a value are whole numbers and floats. -/
theorem int_or_float_of_mem_numbers {n : Json} : ∀ v : Json, n ∈ v.numbers →
    (∃ i, n = int i) ∨ ∃ x, n = float x
  | null, h => by simp [numbers] at h
  | bool _, h => by simp [numbers] at h
  | int i, h => .inl ⟨i, List.mem_singleton.1 h⟩
  | float x, h => by
    rw [numbers] at h
    split at h
    · exact .inr ⟨x, List.mem_singleton.1 h⟩
    · cases h
  | text _, h => by simp [numbers] at h
  | list items, h => int_or_float_of_mem_numbersOfItems items h
  | object fields, h => int_or_float_of_mem_numbersOfFields fields h

/-- A number in items is a whole number or a float. -/
theorem int_or_float_of_mem_numbersOfItems {n : Json} : ∀ items : List Json,
    n ∈ numbersOfItems items → (∃ i, n = int i) ∨ ∃ x, n = float x
  | [], h => by simp [numbersOfItems] at h
  | item :: rest, h =>
    (List.mem_append.1 h).elim (int_or_float_of_mem_numbers item)
      (int_or_float_of_mem_numbersOfItems rest)

/-- A number in fields is a whole number or a float. -/
theorem int_or_float_of_mem_numbersOfFields {n : Json} : ∀ fields : List (String × Json),
    n ∈ numbersOfFields fields → (∃ i, n = int i) ∨ ∃ x, n = float x
  | [], h => by simp [numbersOfFields] at h
  | (_, value) :: rest, h =>
    (List.mem_append.1 h).elim (int_or_float_of_mem_numbers value)
      (int_or_float_of_mem_numbersOfFields rest)

end

/-- Every whole number in a value fits a word. -/
def FitsWords (v : Json) : Prop := ∀ n, int n ∈ v.numbers → NumberText.FitsWord n

/-- The whole numbers in a list fit words if those in every item do. -/
theorem fitsWords_list {items : List Json} :
    (list items).FitsWords ↔ ∀ item ∈ items, item.FitsWords := by
  simp only [FitsWords, numbers, numbersOfItems_eq_flatMap, List.mem_flatMap]
  exact ⟨fun h item hitem n hn => h n ⟨item, hitem, hn⟩,
    fun h n ⟨item, hitem, hn⟩ => h item hitem n hn⟩

/-- The whole numbers in an object fit words if those in every field do. -/
theorem fitsWords_object {fields : List (String × Json)} :
    (object fields).FitsWords ↔ ∀ field ∈ fields, field.2.FitsWords := by
  simp only [FitsWords, numbers, numbersOfFields_eq_flatMap, List.mem_flatMap]
  exact ⟨fun h field hfield n hn => h n ⟨field, hfield, hn⟩,
    fun h n ⟨field, hfield, hn⟩ => h field hfield n hn⟩

/-- A natural number below the size of a word fits one. -/
theorem fitsWords_natural {n : Nat} (h : n < UInt64.size) : (int n).FitsWords := by
  intro m hm
  rw [numbers, List.mem_singleton, int.injEq] at hm
  rw [hm]
  have hlow : -Int.ofNat (Nat.pow 2 63) ≤ 0 := Int.neg_nonpos_of_nonneg (Int.natCast_nonneg _)
  exact ⟨Int.le_trans hlow (Int.natCast_nonneg n), Int.ofNat_lt.2 h⟩

/-- Where there are no numbers, all fit. -/
theorem fitsWords_of_numbers_eq_nil {v : Json} (h : v.numbers = []) : v.FitsWords := by
  intro n hn
  rw [h] at hn
  cases hn

/-- The text of a number is read as the number. -/
def ReadsBack (n : Json) : Prop :=
  ∃ t, NumberText.read? n.chars = some (t, []) ∧ t.toNode = n.toNode

/-- Whole numbers that fit a word are read back. -/
theorem readsBack_int {n : Int} (h : NumberText.FitsWord n) : (int n).ReadsBack := by
  obtain ⟨t, hread, hnode⟩ := NumberText.read?_toString h
  exact ⟨t, by rw [chars, hread], by rw [hnode, toNode]⟩

/-- Whether every float in a value is `x`. -/
def onlyFloat (x : Float) (v : Json) : Bool :=
  v.numbers.all fun
    | float y => y = x
    | _ => true

/-- Where only one float stands, every float is that one. -/
theorem eq_of_onlyFloat {x y : Float} {v : Json} (h : onlyFloat x v = true)
    (hy : float y ∈ v.numbers) : y = x :=
  of_decide_eq_true (List.all_eq_true.1 h (float y) hy)

/-- Floats are read back in particular where one digit stands after the point. -/
theorem readsBack_two_point_five : (float 2.5).ReadsBack := by
  have hchars : (float 2.5).chars = ['2', '.', '5'] := by decide +kernel
  have hsize : NumberText.size? ⟨false, ['2'], some ['5'], none⟩ = some 2.5 := by decide +kernel
  have hfinite : (2.5 : Float).isFinite = true := by decide +kernel
  refine ⟨⟨false, ['2'], some ['5'], none⟩, by rw [hchars]; rfl, ?_⟩
  simp [NumberText.toNode, hsize, toNode, hfinite]

/-! ## Reading values -/

/-- No blank stands before a character that is none. -/
theorem skipBlanks_cons {c : Char} (h : c ≠ ' ' ∧ c ≠ '\n' ∧ c ≠ '\t' ∧ c ≠ '\r')
    (rest : List Char) : skipBlanks (c :: rest) = c :: rest := by
  simp [skipBlanks, h]

/-- A value that starts as a number does is read as a number. -/
theorem readValue_number {cs : List Char} {t : NumberText}
    (h : NumberText.read? cs = some (t, [])) {rest : List Char} (hrest : EndsNumber rest)
    (fuel : Nat) : readValue (fuel + 1) (cs ++ rest) = some (t.toNode, rest) := by
  obtain ⟨c, more, rfl, hc⟩ := NumberText.exists_head_of_read? h
  have hne : ∀ d : Char, d ≠ '-' → d.isDigit = false → c ≠ d := by
    rintro d hminus hdigit rfl
    rcases hc with hc | hc
    · exact hminus hc
    · rw [hdigit] at hc
      cases hc
  have hblank := skipBlanks_cons (c := c) ⟨hne _ (by decide) (by decide),
    hne _ (by decide) (by decide), hne _ (by decide) (by decide), hne _ (by decide) (by decide)⟩
  have happend := NumberText.read?_append h hrest
  rw [List.cons_append, List.nil_append] at happend
  rw [readValue, List.cons_append, hblank]
  split
  case h_7 => simp [happend]
  all_goals
    rename_i heq
    exact absurd (List.cons.inj heq).1 (hne _ (by decide) (by decide))

/-- At least the closing bracket follows an item. -/
theorem itemsChars_length_pos (items : List Json) : 0 < (itemsChars items).length := by
  cases items <;> simp [itemsChars]

/-- At least the closing brace follows a field. -/
theorem fieldsChars_length_pos (fields : List (String × Json)) :
    0 < (fieldsChars fields).length := by
  cases fields <;> simp [fieldsChars]

/-- What follows an item ends a number. -/
theorem endsNumber_itemsChars (items : List Json) (rest : List Char) :
    EndsNumber (itemsChars items ++ rest) := by
  cases items with
  | nil => exact endsNumber_cons (by decide) _
  | cons item items =>
    rw [itemsChars, List.cons_append]
    exact endsNumber_cons (by decide) _

/-- What follows a field ends a number. -/
theorem endsNumber_fieldsChars (fields : List (String × Json)) (rest : List Char) :
    EndsNumber (fieldsChars fields ++ rest) := by
  cases fields with
  | nil => exact endsNumber_cons (by decide) _
  | cons field fields =>
    rw [fieldsChars, List.cons_append]
    exact endsNumber_cons (by decide) _

/-- Blanks are skipped all at once. -/
theorem skipBlanks_skipBlanks (cs : List Char) : skipBlanks (skipBlanks cs) = skipBlanks cs :=
  List.dropWhile_idempotent _ _

/-- Blanks before an item do not matter. -/
theorem readItems_skipBlanks (fuel : Nat) (acc : List Node) (cs : List Char) :
    readItems fuel acc (skipBlanks cs) = readItems fuel acc cs := by
  match fuel with
  | 0 => rfl
  | 1 => simp [readItems, readValue]
  | fuel + 2 => simp only [readItems, readValue, skipBlanks_skipBlanks]

/-- No item starts with a closing bracket. -/
theorem readItems_closing (fuel : Nat) (acc : List Node) (rest : List Char) :
    readItems fuel acc (']' :: rest) = none := by
  match fuel with
  | 0 => rfl
  | 1 => rfl
  | fuel + 2 => rfl

/-- A float that is not finite is written as nothing. -/
theorem chars_of_not_finite {x : Float} (h : ¬x.isFinite = true) :
    (float x).chars = null.chars := by
  have hkind : x.isNaN = true ∨ x.isInf = true := by
    unfold Float.isFinite Float.Model.isFinite at h
    unfold Float.isNaN Float.isInf Float.Model.isNaN Float.Model.isInf
    cases hx : x.toModel.unpack with
    | notANumber => exact .inl rfl
    | infinity => exact .inr rfl
    | zero => exact absurd (by rw [hx]; rfl) h
    | finite => exact absurd (by rw [hx]; rfl) h
  rw [chars, chars, FloatStyle.write]
  rcases hkind with hnan | hinf
  · rw [if_pos hnan]
    rfl
  · by_cases hnan : x.isNaN = true
    · rw [if_pos hnan]
      rfl
    · rw [if_neg hnan, if_pos hinf]
      split <;> rfl

/-- With so many steps every value is read back whose text has fewer characters. -/
def ReadsValues (fuel : Nat) : Prop :=
  ∀ (v : Json) (rest : List Char), (∀ n ∈ v.numbers, n.ReadsBack) → v.chars.length < fuel →
    EndsNumber rest → readValue fuel (v.chars ++ rest) = some (v.toNode, rest)

/-- With so many steps all items up to the closing bracket are read back. -/
def ReadsItems (fuel : Nat) : Prop :=
  ∀ (item : Json) (items : List Json) (acc : List Node) (rest : List Char),
    (∀ n ∈ numbersOfItems (item :: items), n.ReadsBack) →
      item.chars.length + (itemsChars items).length < fuel →
        readItems fuel acc (item.chars ++ (itemsChars items ++ rest)) =
          some (.list (acc.reverse ++ toNodes (item :: items)), rest)

/-- With so many steps all fields up to the closing brace are read back. -/
def ReadsFields (fuel : Nat) : Prop :=
  ∀ (name : String) (value : Json) (fields : List (String × Json)) (acc : List (Node × Node))
    (rest : List Char), (∀ n ∈ numbersOfFields ((name, value) :: fields), n.ReadsBack) →
      value.chars.length + (fieldsChars fields).length < fuel →
        readFields fuel acc
            ((quote name).toList ++ ':' :: (value.chars ++ (fieldsChars fields ++ rest))) =
          some (.table (acc.reverse ++ toEntries ((name, value) :: fields)), rest)

/-- With one step more, items are read if values and items are with the steps that are left. -/
theorem readsItems_succ {fuel : Nat} (hvalues : ReadsValues fuel) (hitems : ReadsItems fuel) :
    ReadsItems (fuel + 1) := by
  intro item items acc rest hnumbers hfuel
  have hpos := itemsChars_length_pos items
  have hitem := hvalues item (itemsChars items ++ rest)
    (fun n hn => hnumbers n (List.mem_append_left _ hn)) (by omega)
    (endsNumber_itemsChars items rest)
  simp only [readItems, hitem, Option.bind_eq_bind, Option.bind_some]
  cases items with
  | nil => simp [itemsChars, skipBlanks_cons, toNodes]
  | cons next items =>
    have hrest := hitems next items (item.toNode :: acc) rest
      (fun n hn => hnumbers n (List.mem_append_right _ hn))
      (by simp only [itemsChars, List.length_cons, List.length_append] at hfuel; omega)
    simp [itemsChars, skipBlanks_cons, hrest, toNodes]

/-- With one step more, fields are read if values and fields are with the steps that are left. -/
theorem readsFields_succ {fuel : Nat} (hvalues : ReadsValues fuel) (hfields : ReadsFields fuel) :
    ReadsFields (fuel + 1) := by
  intro name value fields acc rest hnumbers hfuel
  have hpos := fieldsChars_length_pos fields
  have hvalue := hvalues value (fieldsChars fields ++ rest)
    (fun n hn => hnumbers n (List.mem_append_left _ hn)) (by omega)
    (endsNumber_fieldsChars fields rest)
  rw [toList_quote_append, readFields, skipBlanks_cons (by decide)]
  simp only [readQuoted_quote, Option.bind_eq_bind, Option.bind_some]
  rw [skipBlanks_cons (by decide)]
  simp only [hvalue, Option.bind_some]
  cases fields with
  | nil => simp [fieldsChars, skipBlanks_cons, toEntries, textNode]
  | cons next fields =>
    have hrest := hfields next.1 next.2 fields ((.text name, value.toNode) :: acc) rest
      (fun n hn => hnumbers n (List.mem_append_right _ hn))
      (by simp only [fieldsChars, List.length_cons, List.length_append] at hfuel; omega)
    simp [fieldsChars, skipBlanks_cons, hrest, toEntries, textNode]

/-- With one step more, values are read if what is inside of them is with the steps that are
left. -/
theorem readsValues_succ {fuel : Nat} (hitems : ReadsItems fuel) (hfields : ReadsFields fuel) :
    ReadsValues (fuel + 1) := by
  intro v rest hnumbers hfuel hrest
  match v with
  | null => rfl
  | bool b => cases b <;> rfl
  | int n =>
    obtain ⟨t, hread, hnode⟩ := hnumbers (int n) (by rw [numbers]; exact List.mem_singleton_self _)
    rw [readValue_number hread hrest, hnode]
  | float x =>
    by_cases hx : x.isFinite = true
    · obtain ⟨t, hread, hnode⟩ := hnumbers (float x)
        (by rw [numbers, if_pos hx]; exact List.mem_singleton_self _)
      rw [readValue_number hread hrest, hnode]
    · rw [chars_of_not_finite hx, toNode, if_neg hx]
      rfl
  | text s =>
    rw [chars, toList_quote_append, readValue, skipBlanks_cons (by decide)]
    simp only [readQuoted_quote, Option.bind_eq_bind, Option.bind_some]
    rfl
  | list [] => rfl
  | list (item :: items) =>
    have hread := hitems item items [] rest hnumbers
      (by simp only [chars, List.length_cons, List.length_append] at hfuel; omega)
    rw [← readItems_skipBlanks] at hread
    rw [chars, List.cons_append, List.append_assoc, readValue, skipBlanks_cons (by decide)]
    simp only
    split
    · rename_i more hmore
      rw [hmore, readItems_closing] at hread
      cases hread
    · exact hread
  | object [] => rfl
  | object ((name, value) :: fields) =>
    have hread := hfields name value fields [] rest hnumbers
      (by simp only [chars, List.length_cons, List.length_append] at hfuel; omega)
    rw [toList_quote_append] at hread
    simp only [chars, List.cons_append, List.append_assoc, toList_quote_append]
    rw [readValue, skipBlanks_cons (by decide)]
    simp only
    rw [skipBlanks_cons (by decide)]
    exact hread

/-- Each step of the reader has one step fewer for what is inside, and that is enough. -/
theorem reads (fuel : Nat) : ReadsValues fuel ∧ ReadsItems fuel ∧ ReadsFields fuel := by
  induction fuel with
  | zero =>
    exact ⟨fun _ _ _ h => absurd h (Nat.not_lt_zero _),
      fun _ _ _ _ _ h => absurd h (Nat.not_lt_zero _),
      fun _ _ _ _ _ _ h => absurd h (Nat.not_lt_zero _)⟩
  | succ fuel ih =>
    obtain ⟨hvalues, hitems, hfields⟩ := ih
    exact ⟨readsValues_succ hitems hfields, readsItems_succ hvalues hitems,
      readsFields_succ hvalues hfields⟩

/-- The text of a value is read back if every number in it is. -/
theorem read?_compact {v : Json} (h : ∀ n ∈ v.numbers, n.ReadsBack) :
    read? v.compact = some v.toNode := by
  have hread := (reads (2 * v.chars.length + 2)).1 v [] h (by omega) endsNumber_nil
  rw [List.append_nil] at hread
  simp only [read?, toList_compact, hread, Option.bind_eq_bind, Option.bind_some]
  rfl

/-- Where whole numbers fit a word, the text is read back if every float is. -/
theorem read?_compact_of_fitsWords {v : Json} (hfits : v.FitsWords)
    (hfloats : ∀ x, float x ∈ v.numbers → (float x).ReadsBack) :
    read? v.compact = some v.toNode := by
  refine read?_compact fun n hn => ?_
  obtain ⟨i, rfl⟩ | ⟨x, rfl⟩ := int_or_float_of_mem_numbers v hn
  · exact readsBack_int (hfits i hn)
  · exact hfloats x hn

end Groundwork.Json
