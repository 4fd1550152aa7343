import Groundwork.Proofs.Code.Lines
import Groundwork.Proofs.Code.Literals

/-!
# Literals stay as they are

Objects and lists shift what they hold to the right, and a stack shifts the code of every node once
more, all of it line by line.  A quoted literal is on one line, so it comes out of any such nesting
as it was put in: the text around it does not depend on the literal, and nothing of the text that a
user gave is ever altered.

Main definitions:

- `Code.Context`: an expression with a literal left open.
- `Code.Carries`: a text in which a literal stands as it is.

Main results:

- `Code.Context.carries_render`: whatever a literal is nested in carries it.
- `Code.Carries.indent`: a text that carries a literal still does where it is shifted.
- `Code.quote_unaltered`: literals can be read back, and stand as they are in all code around them.
-/

namespace Groundwork

/-! ## Shifted texts -/

/-- Two texts are moved to the right one after the other. -/
theorem hang_append (pad first second : List Char) :
    hang pad (first ++ second) = hang pad first ++ hang pad second := List.flatMap_append

/-- Where a text without an end of a line is put between others, it stands in a line with the end of
the one and the beginning of the other. -/
theorem splitWhere_append_append (p : Char → Bool) (first second : List Char) :
    ∃ above left right below, ∀ middle : List Char, (∀ c ∈ middle, p c = false) →
      splitWhere p (first ++ middle ++ second) = above ++ (left ++ middle ++ right) :: below := by
  induction first with
  | nil =>
    obtain ⟨below, hsecond⟩ := Code.splitWhere_eq_cons p second
    refine ⟨[], [], second.takeWhile fun c => !p c, below, fun middle hmiddle => ?_⟩
    induction middle with
    | nil => exact hsecond
    | cons c middle ih =>
      obtain ⟨hc, hrest⟩ := List.forall_mem_cons.1 hmiddle
      have htail := ih hrest
      simp only [List.nil_append] at htail ⊢
      rw [List.cons_append, splitWhere, hc, htail]
      rfl
  | cons d first ih =>
    obtain ⟨above, left, right, below, ih⟩ := ih
    cases hd : p d with
    | true =>
      refine ⟨[] :: above, left, right, below, fun middle hmiddle => ?_⟩
      rw [List.cons_append, List.cons_append, splitWhere, hd, ih middle hmiddle]
      rfl
    | false =>
      cases above with
      | nil =>
        refine ⟨[], d :: left, right, below, fun middle hmiddle => ?_⟩
        rw [List.cons_append, List.cons_append, splitWhere, hd, ih middle hmiddle]
        rfl
      | cons line above =>
        refine ⟨(d :: line) :: above, left, right, below, fun middle hmiddle => ?_⟩
        rw [List.cons_append, List.cons_append, splitWhere, hd, ih middle hmiddle]
        rfl

/-- Only the end of a line is what a carriage return is taken from. -/
theorem dropReturn_append_append {left middle : List Char} (hmiddle : middle ≠ [])
    (hreturn : '\r' ∉ middle) (right : List Char) :
    dropReturn (left ++ middle ++ right) = left ++ middle ++ dropReturn right := by
  cases right with
  | nil =>
    have hlast : (left ++ middle).getLast? ≠ some '\r' := by
      rw [List.getLast?_append_of_ne_nil _ hmiddle]
      exact fun h => hreturn (List.mem_of_getLast? h)
    rw [List.append_nil, dropReturn, if_neg hlast]
    simp [dropReturn]
  | cons c right =>
    unfold dropReturn
    rw [List.getLast?_append_of_ne_nil _ (List.cons_ne_nil c right),
      List.dropLast_append_of_ne_nil (List.cons_ne_nil c right)]
    split <;> rfl

/-- The lines of a text, given the pieces between its line feeds. -/
def linesOf (pieces : List (List Char)) : List (List Char) :=
  let ended := pieces.dropLast.map dropReturn
  let last := pieces.getLast?.getD []
  if last.isEmpty then ended else ended ++ [last]

/-- The lines of a text are cut at its line feeds. -/
theorem lines_eq_map (s : String) :
    lines s = (linesOf (splitWhere (· = '\n') s.toList)).map String.ofList := rfl

/-- The lines of a text around a line that is not empty. -/
theorem linesOf_append_cons {line : List Char} (hline : line ≠ []) (above below) :
    linesOf (above ++ line :: below) =
      above.map dropReturn ++
        if below = [] then [line] else dropReturn line :: linesOf below := by
  split
  · rename_i hbelow
    subst hbelow
    rw [linesOf, List.dropLast_concat, List.getLast?_concat, Option.getD_some]
    exact if_neg (by simpa using hline)
  · rename_i hbelow
    obtain ⟨next, below, rfl⟩ := List.exists_cons_of_ne_nil hbelow
    have hlast : (above ++ line :: next :: below).getLast? = (next :: below).getLast? := by
      rw [List.append_cons, List.getLast?_append_of_ne_nil _ hbelow]
    have hended : (above ++ line :: next :: below).dropLast =
        above ++ line :: (next :: below).dropLast := by
      rw [List.append_cons, List.dropLast_append_of_ne_nil hbelow, List.append_assoc]
      rfl
    rw [linesOf, hlast, hended, linesOf]
    split <;> simp

/-- A line after some blanks, unless it is empty. -/
def shifted (width : Nat) (line : List Char) : List Char :=
  if line.isEmpty then [] else List.replicate width ' ' ++ line

/-- An indented text is made of its lines, each moved to the right. -/
theorem toList_indent (width : Nat) (s : String) :
    (indent width s).toList =
      ['\n'].intercalate ((linesOf (splitWhere (· = '\n') s.toList)).map (shifted width)) := by
  have hline : (String.toList ∘ fun line : String => if line.isEmpty then "" else
      String.ofList (List.replicate width ' ') ++ line) ∘ String.ofList = shifted width := by
    funext line
    cases line with
    | nil => rfl
    | cons c line => simp [shifted]
  rw [indent, String.toList_intercalate, lines_eq_map, List.map_map, List.map_map, hline]
  rfl

/-- What stands among others stands between the joined ones. -/
theorem exists_intercalate_append_cons {α : Type} (sep : List α) (above below : List (List α)) :
    ∃ before after, ∀ part, sep.intercalate (above ++ part :: below) = before ++ part ++ after := by
  induction above with
  | nil =>
    by_cases hbelow : below = []
    · exact ⟨[], [], fun part => by simp [hbelow]⟩
    · refine ⟨[], sep ++ sep.intercalate below, fun part => ?_⟩
      rw [List.nil_append, List.intercalate_cons_of_ne_nil hbelow, List.append_assoc]
      rfl
  | cons first above ih =>
    obtain ⟨before, after, ih⟩ := ih
    refine ⟨first ++ sep ++ before, after, fun part => ?_⟩
    rw [List.cons_append, List.intercalate_cons_of_ne_nil (by simp), ih]
    simp only [List.append_assoc]

namespace Code

/-! ## Literals -/

/-- Whether every quote is escaped by a backslash, and every backslash escapes something. -/
def quotesEscaped : List Char → Bool
  | [] => true
  | '\\' :: _ :: rest => quotesEscaped rest
  | c :: rest => c ≠ '"' && c ≠ '\\' && quotesEscaped rest

/-- A quoted character leaves no quote unescaped. -/
theorem quotesEscaped_quoteChar_append (c : Char) (rest : List Char) :
    quotesEscaped (quoteChar c ++ rest) = quotesEscaped rest := by
  unfold quoteChar
  split
  iterate 5 rfl
  rename_i hquote hslash _ _ _
  rw [List.singleton_append, quotesEscaped.eq_3 c rest fun d ds h _ => hslash h]
  have hc : c ≠ '"' ∧ c ≠ '\\' := ⟨hquote, hslash⟩
  simp [hc]

/-- Between the quotes of a literal every quote is escaped. -/
theorem quotesEscaped_quoteBody (cs : List Char) : quotesEscaped (quoteBody cs) = true := by
  induction cs with
  | nil => rfl
  | cons c cs ih =>
    rw [quoteBody, List.flatMap_cons, quotesEscaped_quoteChar_append]
    exact ih

/-- No character of a literal is a carriage return. -/
theorem return_not_mem_quoteChar (c : Char) : '\r' ∉ quoteChar c := by
  unfold quoteChar
  split
  all_goals simp
  rename_i h _
  exact fun e => h e.symm

/-- A literal has no carriage return. -/
theorem return_not_mem_quote (cs : List Char) : '\r' ∉ quote cs := by
  suffices h : '\r' ∉ quoteBody cs by simp [quote, h]
  intro h
  obtain ⟨c, _, hc⟩ := List.mem_flatMap.1 h
  exact return_not_mem_quoteChar c hc

/-! ## Texts that carry a literal -/

/-- A literal stands in a text as it is, with the same text around it whatever the literal is. -/
def Carries (text : String → List Char) : Prop :=
  ∃ before after, ∀ s, text s = before ++ quote s.toList ++ after

namespace Carries

variable {text : String → List Char}

/-- A literal carries itself. -/
theorem quoted : Carries fun s => quote s.toList :=
  ⟨[], [], fun s => by simp⟩

/-- A literal is carried between other texts. -/
theorem append (h : Carries text) (first second : List Char) :
    Carries fun s => first ++ text s ++ second := by
  obtain ⟨before, after, h⟩ := h
  exact ⟨first ++ before, after ++ second, fun s => by simp [h]⟩

/-- Nesting leaves a literal as it is, which has no line feed. -/
theorem hang (h : Carries text) (pad : List Char) : Carries fun s => hang pad (text s) := by
  obtain ⟨before, after, h⟩ := h
  refine ⟨Groundwork.hang pad before, Groundwork.hang pad after, fun s => ?_⟩
  dsimp only
  rw [h, hang_append, hang_append, hang_eq_self (lineFeed_not_mem_quote _)]

/-- A literal is carried on a line of its own. -/
theorem ownLine (h : Carries text) : Carries fun s => Expression.ownLine (text s) := by
  have hcomma : Carries fun s => text s ++ [','] := by simpa using h.append [] [',']
  simpa [Expression.ownLine] using (hcomma.hang Expression.pad).append ('\n' :: Expression.pad) []

/-- A literal is carried as the value of a field. -/
theorem fieldText (h : Carries text) (key : String) :
    Carries fun s => Expression.fieldText key (text s) := by
  simpa [Expression.fieldText] using h.append (key.toList ++ [':', ' ']) []

/-- A text that carries a literal still does where all its lines are shifted. -/
theorem indent (h : Carries text) (width : Nat) :
    Carries fun s => (indent width (String.ofList (text s))).toList := by
  obtain ⟨before, after, h⟩ := h
  obtain ⟨above, left, right, below, hpieces⟩ :=
    splitWhere_append_append (· = '\n') before after
  obtain ⟨right, below, hlines⟩ : ∃ right' below', ∀ s : String,
      linesOf (splitWhere (· = '\n') (text s)) =
        above.map dropReturn ++ (left ++ quote s.toList ++ right') :: below' := by
    have hquote : ∀ s : String, ∀ c ∈ quote s.toList, decide (c = '\n') = false := by
      intro s c hc
      rw [decide_eq_false_iff_not]
      rintro rfl
      exact lineFeed_not_mem_quote _ hc
    have hne : ∀ s : String, left ++ quote s.toList ++ right ≠ [] := by simp [quote]
    by_cases hbelow : below = []
    · refine ⟨right, [], fun s => ?_⟩
      rw [h, hpieces _ (hquote s), linesOf_append_cons (hne s), if_pos hbelow]
    · refine ⟨dropReturn right, linesOf below, fun s => ?_⟩
      rw [h, hpieces _ (hquote s), linesOf_append_cons (hne s), if_neg hbelow,
        dropReturn_append_append (by simp [quote]) (return_not_mem_quote _)]
  obtain ⟨first, last, hjoined⟩ := exists_intercalate_append_cons ['\n']
    ((above.map dropReturn).map (shifted width)) (below.map (shifted width))
  refine ⟨first ++ List.replicate width ' ' ++ left, right ++ last, fun s => ?_⟩
  have hshifted : shifted width (left ++ quote s.toList ++ right) =
      List.replicate width ' ' ++ (left ++ quote s.toList ++ right) := by
    rw [shifted, if_neg (by simp [quote])]
  dsimp only
  rw [toList_indent, String.toList_ofList, hlines, List.map_append, List.map_cons, hjoined,
    hshifted]
  simp only [List.append_assoc]

/-- A text among others with commas between them. -/
theorem commaSeparated (h : Carries text) (above below : List (List Char)) :
    Carries fun s => Expression.commaSeparated (above ++ text s :: below) := by
  induction above with
  | nil =>
    cases below with
    | nil => exact h
    | cons next below =>
      simpa [Expression.commaSeparated] using
        h.append [] (',' :: ' ' :: Expression.commaSeparated (next :: below))
  | cons first above ih =>
    have hcons : ∀ part, Expression.commaSeparated (first :: (above ++ part :: below)) =
        first ++ ',' :: ' ' :: Expression.commaSeparated (above ++ part :: below) := by
      intro part
      cases above <;> rfl
    simpa [hcons] using ih.append (first ++ [',', ' ']) []

end Carries

/-! ## Nesting -/

/-- An expression with a literal left open: one that stands somewhere in it, or the key of one of
its fields. -/
inductive Context where
  | hole
  /-- A literal as the key of a field. -/
  | asKey (above : FieldList) (value : Expression) (below : FieldList)
  | field (above : FieldList) (key : String) (inner : Context) (below : FieldList)
  | inlineField (above : FieldList) (key : String) (inner : Context) (below : FieldList)
  | item (above : List Expression) (inner : Context) (below : List Expression)
  | rowItem (above : List Expression) (inner : Context) (below : List Expression)
  | enclosed (before : String) (inner : Context) (after : String)

namespace Expression

variable (tag : List Char)

/-- The lines of fields stand one below the other. -/
theorem renderFieldLines_append (above below : FieldList) :
    renderFieldLines tag (above ++ below) =
      renderFieldLines tag above ++ renderFieldLines tag below := by
  induction above with
  | nil => rfl
  | cons field above ih =>
    rw [List.cons_append, renderFieldLines, renderFieldLines, ih, List.append_assoc]

/-- The lines of items stand one below the other. -/
theorem renderItemLines_append (above below : List Expression) :
    renderItemLines tag (above ++ below) =
      renderItemLines tag above ++ renderItemLines tag below := by
  induction above with
  | nil => rfl
  | cons item above ih =>
    rw [List.cons_append, renderItemLines, renderItemLines, ih, List.append_assoc]

/-- Fields are written one by one. -/
theorem renderFields_eq_map (fields : FieldList) :
    renderFields tag fields = fields.map fun field => fieldText field.1 (field.2.render tag) := by
  induction fields with
  | nil => rfl
  | cons field fields ih => rw [renderFields, ih, List.map_cons]

/-- Items are written one by one. -/
theorem renderItems_eq_map (items : List Expression) :
    renderItems tag items = items.map (·.render tag) := by
  induction items with
  | nil => rfl
  | cons item items ih => rw [renderItems, ih, List.map_cons]

/-- An object of a field among others. -/
theorem render_object_append_cons (above below : FieldList) (field : String × Expression) :
    (object (above ++ field :: below)).render tag =
      '\x7b' :: renderFieldLines tag above ++ ownLine (fieldText field.1 (field.2.render tag)) ++
        (renderFieldLines tag below ++ ['\n', '\x7d']) := by
  have hlines := renderFieldLines_append tag above (field :: below)
  rw [renderFieldLines] at hlines
  cases above with
  | nil => simp [render, renderFieldLines]
  | cons first above =>
    rw [List.cons_append] at hlines
    simp [render, hlines]

/-- A list of an item among others. -/
theorem render_list_append_cons (above below : List Expression) (item : Expression) :
    (list (above ++ item :: below)).render tag =
      '[' :: renderItemLines tag above ++ ownLine (item.render tag) ++
        (renderItemLines tag below ++ ['\n', ']']) := by
  have hlines := renderItemLines_append tag above (item :: below)
  rw [renderItemLines] at hlines
  cases above with
  | nil => simp [render, renderItemLines]
  | cons first above =>
    rw [List.cons_append] at hlines
    simp [render, hlines]

end Expression

namespace Context

/-- Puts the literal for a text in. -/
def fill : Context → String → Expression
  | hole, s => .quoted s
  | asKey above value below, s =>
    .object (above ++ (String.ofList (quote s.toList), value) :: below)
  | field above key inner below, s => .object (above ++ (key, inner.fill s) :: below)
  | inlineField above key inner below, s => .inlineObject (above ++ (key, inner.fill s) :: below)
  | item above inner below, s => .list (above ++ inner.fill s :: below)
  | rowItem above inner below, s => .row (above ++ inner.fill s :: below)
  | enclosed before inner after, s => .enclosed before (inner.fill s) after

/-- Whatever a literal is nested in carries it. -/
theorem carries_render (context : Context) (tag : List Char) :
    Carries fun s => (context.fill s).render tag := by
  induction context with
  | hole => exact .quoted
  | asKey above value below =>
    have hkey : Carries fun s => Expression.fieldText (String.ofList (quote s.toList))
        (value.render tag) := by
      simpa [Expression.fieldText] using Carries.quoted.append [] (':' :: ' ' :: value.render tag)
    simpa only [fill, Expression.render_object_append_cons] using hkey.ownLine.append _ _
  | field above key inner below ih =>
    simpa only [fill, Expression.render_object_append_cons] using
      (ih.fieldText key).ownLine.append _ _
  | inlineField above key inner below ih =>
    have hfields := ((ih.fieldText key).commaSeparated
      (Expression.renderFields tag above) (Expression.renderFields tag below)).append
        ['\x7b', ' '] [' ', '\x7d']
    simpa only [fill, Expression.render, Expression.renderFields_eq_map, List.map_append,
      List.map_cons] using hfields
  | item above inner below ih =>
    simpa only [fill, Expression.render_list_append_cons] using ih.ownLine.append _ _
  | rowItem above inner below ih =>
    have hitems := (ih.commaSeparated (Expression.renderItems tag above)
      (Expression.renderItems tag below)).append ['['] [']']
    simpa only [fill, Expression.render, Expression.renderItems_eq_map, List.map_append,
      List.map_cons, List.cons_append, List.nil_append] using hitems
  | enclosed before inner after ih =>
    simpa only [fill, Expression.render] using ih.append before.toList after.toList

end Context

/-- Every quoted literal has its quotes escaped, stands for the text that it was made of, and is on
one line; so it stands as it is wherever it is nested, also where the code around it is shifted as a
whole.  The text around it does not depend on it. -/
theorem quote_unaltered :
    (∀ cs, (∃ body, quote cs = '"' :: (body ++ ['"']) ∧ quotesEscaped body = true) ∧
      unquote? (quote cs) = some cs ∧ quotedValue? (quote cs) = some cs ∧
      '\n' ∉ quote cs ∧ '\r' ∉ quote cs) ∧
    ∀ (context : Context) (tag : List Char),
      Carries (fun s => (context.fill s).render tag) ∧
      ∀ (above below : List Char) (width : Nat),
        Carries fun s => (indent width
          (String.ofList (above ++ (context.fill s).render tag ++ below))).toList := by
  constructor
  · intro cs
    exact ⟨⟨quoteBody cs, rfl, quotesEscaped_quoteBody cs⟩, unquote_quote cs,
      quotedValue?_quote cs, lineFeed_not_mem_quote cs, return_not_mem_quote cs⟩
  · intro context tag
    have hrender := context.carries_render tag
    exact ⟨hrender, fun above below width => (hrender.append above below).indent width⟩

end Code

end Groundwork
