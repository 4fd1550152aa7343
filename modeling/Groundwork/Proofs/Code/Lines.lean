import Groundwork.Code.Script
import Groundwork.Proofs.Naming.Identifier

/-!
# What lines of code bind

A line of code binds a name if it begins with `const`, or with `export const`; which names some code
binds can be read off its text.  Whatever a statement says about a resource is shifted to the right,
so of all lines that it takes only the first can bind something, and the text of a script binds what
its statements do.

Main results:

- `boundNames_of_continues`: text that is not continued by bindings binds what its first line does.
- `Statement.boundNames_render`: the text of a statement binds what the statement does.
- `Script.boundNames_code`: the text of a script binds what its statements do, in order.
-/

namespace Groundwork.Code

/-! ## Names that lines bind -/

/-- What comes after the beginning of a text, if it begins so. -/
def after? (beginning text : List Char) : Option (List Char) :=
  if beginning <+: text then some (text.drop beginning.length) else none

/-- The name that a line binds: the word after `const`, where `export` may come first. -/
def boundName? (line : List Char) : Option String :=
  let declaration := (after? "export ".toList line).getD line
  (after? "const ".toList declaration).map fun rest => String.ofList (rest.takeWhile (· ≠ ' '))

/-- The names that the lines of a text bind, in order. -/
def boundNames (text : List Char) : List String :=
  (splitWhere (· = '\n') text).filterMap boundName?

/-- What comes after a beginning is found. -/
theorem after?_append (beginning rest : List Char) :
    after? beginning (beginning ++ rest) = some rest := by
  rw [after?, if_pos (List.prefix_append beginning rest), List.drop_left]

/-- A line that starts with another character does not have the beginning. -/
theorem after?_eq_none {beginning line : List Char} {c : Char} (hc : beginning.head? = some c)
    (h : line.head? ≠ some c) : after? beginning line = none := by
  refine if_neg fun hbegin => h ?_
  obtain ⟨rest, rfl⟩ := hbegin
  cases beginning with
  | nil => cases hc
  | cons d more => exact hc

/-- A line that begins with neither word binds nothing. -/
theorem boundName?_eq_none {line : List Char}
    (h : ∀ c ∈ line.head?, c ≠ 'c' ∧ c ≠ 'e') : boundName? line = none := by
  have hexport : line.head? ≠ some 'e' := fun he => (h 'e' he).2 rfl
  have hconst : line.head? ≠ some 'c' := fun hc => (h 'c' hc).1 rfl
  rw [boundName?, after?_eq_none (c := 'e') (by decide) hexport, Option.getD_none,
    after?_eq_none (c := 'c') (by decide) hconst]
  rfl

/-- The word at the start of a text in which a blank comes next. -/
theorem takeWhile_word {word rest : List Char} (hword : ' ' ∉ word)
    (hrest : rest.head? = some ' ') : (word ++ rest).takeWhile (· ≠ ' ') = word := by
  have hkept : ∀ c ∈ word, (decide (c ≠ ' ')) = true := by
    intro c hc
    rw [decide_eq_true_eq]
    rintro rfl
    exact hword hc
  obtain ⟨more, rfl⟩ := List.head?_eq_some_iff.1 hrest
  rw [List.takeWhile_append_of_pos hkept]
  simp

/-- The name is read back from a line that binds it. -/
theorem boundName?_const {name rest : List Char} (hname : ' ' ∉ name)
    (hrest : rest.head? = some ' ') :
    boundName? ("const ".toList ++ (name ++ rest)) = some (String.ofList name) := by
  have hexport : after? "export ".toList ("const ".toList ++ (name ++ rest)) = none :=
    after?_eq_none (c := 'e') (by decide) (by simp)
  rw [boundName?, hexport, Option.getD_none, after?_append, Option.map_some,
    takeWhile_word hname hrest]

/-- The name is read back from a line that exports it. -/
theorem boundName?_export {name rest : List Char} (hname : ' ' ∉ name)
    (hrest : rest.head? = some ' ') :
    boundName? ("export ".toList ++ ("const ".toList ++ (name ++ rest))) =
      some (String.ofList name) := by
  rw [boundName?, after?_append, Option.getD_some, after?_append, Option.map_some,
    takeWhile_word hname hrest]

/-! ## Lines after the first -/

/-- No line but the first begins with a letter, as a statement would. -/
def Continues : List Char → Prop
  | [] => True
  | c :: rest => (c = '\n' → ∃ d ∈ rest.head?, d.isAlpha = false) ∧ Continues rest

/-- Text on one line has no line that could be misread. -/
theorem continues_of_not_mem {text : List Char} (h : '\n' ∉ text) : Continues text := by
  induction text with
  | nil => trivial
  | cons c rest ih =>
    refine ⟨?_, ih fun hmem => h (List.mem_cons_of_mem c hmem)⟩
    rintro rfl
    exact absurd List.mem_cons_self h

/-- Texts whose later lines bind nothing may be put together. -/
theorem Continues.append {first second : List Char} (h : Continues first)
    (h' : Continues second) : Continues (first ++ second) := by
  induction first with
  | nil => exact h'
  | cons c rest ih =>
    refine ⟨?_, ih h.2⟩
    intro hc
    obtain ⟨d, hd, hne⟩ := h.1 hc
    refine ⟨d, ?_, hne⟩
    rw [Option.mem_def] at hd
    show (rest ++ second).head? = some d
    rw [List.head?_append, hd]
    rfl

/-- A line feed may come before anything that does not begin with a letter. -/
theorem Continues.lineFeed {c : Char} {rest : List Char} (h : Continues (c :: rest))
    (hc : c.isAlpha = false) : Continues ('\n' :: c :: rest) :=
  ⟨fun _ => ⟨c, rfl, hc⟩, h⟩

/-- Room at the start of a line binds nothing. -/
theorem continues_pad : Continues Expression.pad :=
  continues_of_not_mem (by decide)

/-- Whatever is shifted to the right begins none of its further lines with a word. -/
theorem continues_hang (text : List Char) : Continues (hang Expression.pad text) := by
  induction text with
  | nil => trivial
  | cons c rest ih =>
    rw [hang, List.flatMap_cons]
    refine Continues.append ?_ ih
    by_cases hc : c = '\n'
    · rw [if_pos hc, hc]
      exact Continues.lineFeed continues_pad (by decide)
    · rw [if_neg hc]
      exact continues_of_not_mem fun hmem => hc (List.mem_singleton.1 hmem).symm

/-- A line of an object starts with a blank. -/
theorem continues_ownLine (text : List Char) : Continues (Expression.ownLine text) :=
  Continues.append (Continues.lineFeed continues_pad (by decide)) (continues_hang _)

/-- No line of an object binds a name. -/
theorem continues_renderFieldLines (tag : List Char) (fields : FieldList) :
    Continues (Expression.renderFieldLines tag fields) := by
  induction fields with
  | nil => trivial
  | cons field rest ih => exact Continues.append (continues_ownLine _) ih

/-- The lines of an object are indented, apart from the brace that closes it. -/
theorem continues_object (tag : List Char) (fields : FieldList) :
    Continues ((Expression.object fields).render tag) := by
  cases fields with
  | nil => exact continues_of_not_mem (by simp [Expression.render])
  | cons field rest =>
    have hopen : Continues ['\x7b'] := continues_of_not_mem (by decide)
    have hclose : Continues ['\n', '\x7d'] :=
      Continues.lineFeed (continues_of_not_mem (by decide)) (by decide)
    exact (hopen.append (continues_renderFieldLines tag (field :: rest))).append hclose

/-! ## Reading lines -/

/-- The first line of a text, and the lines after it. -/
theorem splitWhere_eq_cons (p : Char → Bool) (text : List Char) :
    ∃ more, splitWhere p text = text.takeWhile (fun c => !p c) :: more := by
  induction text with
  | nil => exact ⟨[], rfl⟩
  | cons c rest ih =>
    obtain ⟨more, hmore⟩ := ih
    cases hc : p c with
    | true => exact ⟨splitWhere p rest, by simp [splitWhere, hc]⟩
    | false => exact ⟨more, by simp [splitWhere, hc, hmore]⟩

/-- Two texts on lines of their own have the lines of each of them. -/
theorem splitWhere_append_cons {p : Char → Bool} {c : Char} (hc : p c = true)
    (first second : List Char) :
    splitWhere p (first ++ c :: second) = splitWhere p first ++ splitWhere p second := by
  induction first with
  | nil => simp [splitWhere, hc]
  | cons d rest ih =>
    obtain ⟨more, hmore⟩ := splitWhere_eq_cons p rest
    cases hd : p d with
    | true => simp [splitWhere, hd, ih]
    | false => simp [splitWhere, hd, ih, hmore]

section ReadLines

variable {α : Type} {read : List Char → Option α}

/-- What is read off the lines of a text, in order. -/
def readLines (read : List Char → Option α) (text : List Char) : List α :=
  (splitWhere (· = '\n') text).filterMap read

/-- What is read off the lines of two texts is read off each of them. -/
theorem readLines_append_lineFeed (first second : List Char) :
    readLines read (first ++ '\n' :: second) = readLines read first ++ readLines read second := by
  rw [readLines, splitWhere_append_cons (by decide), List.filterMap_append]
  rfl

/-- Of texts on lines of their own is read what is read of each of them. -/
theorem readLines_intercalate (hnil : read [] = none) (texts : List (List Char)) :
    readLines read (['\n'].intercalate texts) = texts.flatMap (readLines read) := by
  induction texts with
  | nil => simp [readLines, splitWhere, hnil]
  | cons text rest ih =>
    by_cases hrest : rest = []
    · rw [hrest, List.intercalate_singleton, List.flatMap_singleton]
    · rw [List.intercalate_cons_of_ne_nil hrest, List.append_assoc, List.singleton_append,
        readLines_append_lineFeed, ih, List.flatMap_cons]

/-- If only lines that start with a letter are read, nothing is read off the later lines of such a
text. -/
theorem filterMap_tail_splitWhere
    (hread : ∀ line : List Char, (∀ c ∈ line.head?, c.isAlpha = false) → read line = none)
    {text : List Char} (h : Continues text) :
    (splitWhere (· = '\n') text).tail.filterMap read = [] := by
  induction text with
  | nil => rfl
  | cons c rest ih =>
    have hrest := ih h.2
    obtain ⟨more, hmore⟩ := splitWhere_eq_cons (· = '\n') rest
    rw [hmore, List.tail_cons] at hrest
    by_cases hc : c = '\n'
    · obtain ⟨d, hd, halpha⟩ := h.1 hc
      have hfirst : read (rest.takeWhile fun c => !decide (c = '\n')) = none := by
        apply hread
        intro e he
        rw [List.head?_takeWhile, Option.mem_filter_iff] at he
        rw [Option.mem_unique he.1 hd]
        exact halpha
      rw [splitWhere]
      simp [hc, hmore, hrest, hfirst]
    · rw [splitWhere]
      simp [hc, hmore, hrest]

/-- Where a line is read only if it begins with a letter, only the first line is read of text that
is not continued by such lines. -/
theorem readLines_of_continues
    (hread : ∀ line : List Char, (∀ c ∈ line.head?, c.isAlpha = false) → read line = none)
    {text : List Char} (h : Continues text) :
    readLines read text = (read (text.takeWhile fun c => !decide (c = '\n'))).toList := by
  obtain ⟨more, hmore⟩ := splitWhere_eq_cons (· = '\n') text
  have htail := filterMap_tail_splitWhere hread h
  rw [hmore, List.tail_cons] at htail
  rw [readLines, hmore, List.filterMap_cons, htail]
  cases read (text.takeWhile fun c => !decide (c = '\n')) <;> rfl

/-- Only the first line is read of text whose first line begins with what has no line feed. -/
theorem readLines_append
    (hread : ∀ line : List Char, (∀ c ∈ line.head?, c.isAlpha = false) → read line = none)
    {beginning rest : List Char} (hbegin : '\n' ∉ beginning) (h : Continues rest) :
    readLines read (beginning ++ rest) =
      (read (beginning ++ rest.takeWhile fun c => !decide (c = '\n'))).toList := by
  rw [readLines_of_continues hread (Continues.append (continues_of_not_mem hbegin) h),
    List.takeWhile_append_of_pos]
  intro c hc
  rw [Bool.not_eq_true', decide_eq_false_iff_not]
  rintro rfl
  exact hbegin hc

end ReadLines

/-! ## Texts that bind -/

/-- Two texts on lines of their own bind the names that each of them binds. -/
theorem boundNames_append_lineFeed (first second : List Char) :
    boundNames (first ++ '\n' :: second) = boundNames first ++ boundNames second :=
  readLines_append_lineFeed first second

/-- A line that does not start with a letter binds no name. -/
theorem boundName?_of_not_isAlpha {line : List Char}
    (h : ∀ c ∈ line.head?, c.isAlpha = false) : boundName? line = none := by
  apply boundName?_eq_none
  intro c hc
  have halpha := h c hc
  constructor
  · rintro rfl
    cases halpha
  · rintro rfl
    cases halpha

/-- Text that is not continued by bindings binds what its first line does. -/
theorem boundNames_of_continues {text : List Char} (h : Continues text) :
    boundNames text = (boundName? (text.takeWhile fun c => !decide (c = '\n'))).toList :=
  readLines_of_continues (fun _ => boundName?_of_not_isAlpha) h

/-- Text that begins as something new does binds nothing. -/
theorem boundNames_eq_nil {text : List Char} (h : Continues text)
    (hfirst : text.head? = some 'n') : boundNames text = [] := by
  rw [boundNames_of_continues h, boundName?_eq_none]
  · rfl
  · intro c hc
    rw [List.head?_takeWhile, Option.mem_filter_iff] at hc
    rw [Option.mem_unique hc.1 hfirst]
    decide

/-- A text whose first line begins with what has no line feed. -/
theorem boundNames_append {beginning rest : List Char} (hbegin : '\n' ∉ beginning)
    (h : Continues rest) :
    boundNames (beginning ++ rest) =
      (boundName? (beginning ++ rest.takeWhile fun c => !decide (c = '\n'))).toList :=
  readLines_append (fun _ => boundName?_of_not_isAlpha) hbegin h

/-! ## Statements and scripts -/

/-- A line that declares a name binds it. -/
theorem boundNames_const {name : String} {rest : List Char} (hname : IsIdentifier name)
    (hspace : rest.head? = some ' ') (h : Continues rest) :
    boundNames ("const ".toList ++ (name.toList ++ rest)) = [name] := by
  have hline : '\n' ∉ name.toList := hname.not_mem (by decide) (by decide)
  have hbegin : '\n' ∉ "const ".toList ++ name.toList := by simp [hline]
  have hbound := boundNames_append hbegin h
  rw [List.append_assoc, List.append_assoc] at hbound
  rw [hbound, boundName?_const (hname.not_mem (by decide) (by decide)), String.ofList_toList]
  · rfl
  · rw [List.head?_takeWhile, hspace]
    rfl

/-- A line that declares and exports a name binds it. -/
theorem boundNames_export {name : String} {rest : List Char} (hname : IsIdentifier name)
    (hspace : rest.head? = some ' ') (h : Continues rest) :
    boundNames ("export ".toList ++ ("const ".toList ++ (name.toList ++ rest))) = [name] := by
  have hline : '\n' ∉ name.toList := hname.not_mem (by decide) (by decide)
  have hbegin : '\n' ∉ "export ".toList ++ ("const ".toList ++ name.toList) := by simp [hline]
  have hbound := boundNames_append hbegin h
  simp only [List.append_assoc] at hbound
  rw [hbound, boundName?_export (hname.not_mem (by decide) (by decide)), String.ofList_toList]
  · rfl
  · rw [List.head?_takeWhile, hspace]
    rfl

/-- The names that a script binds, in order. -/
def Script.bound (s : Script) : List String := s.statements.filterMap Statement.bound?

/-- The outputs of a script are among the names that it binds. -/
theorem Script.outputs_sublist_bound (s : Script) : s.outputs.Sublist s.bound := by
  unfold outputs bound
  induction s.statements with
  | nil => exact List.Sublist.slnil
  | cons st rest ih =>
    cases st with
    | declare identifier cls label fields => exact ih.cons identifier
    | attach cls label fields => exact ih
    | output variableName value => exact ih.cons_cons variableName

namespace Statement

/-- A statement whose text takes further lines for the fields of a resource only. -/
def Fits (d : Dialect) : Statement → Prop
  | declare _ cls _ _ => '\n' ∉ cls.name.toList
  | attach cls _ _ => '\n' ∉ cls.name.toList
  | output _ value => '\n' ∉ value.render d.templateTag

/-- The fields of a new resource bind no name. -/
theorem continues_newResource {cls : ResourceClass} (h : '\n' ∉ cls.name.toList) (d : Dialect)
    (label : String) (fields : FieldList) : Continues (newResource d cls label fields) := by
  have hscope : '\n' ∉ '(' :: d.scopeArgument := by cases d <;> decide
  have hbegin : Continues ("new ".toList ++ cls.name.toList ++ '(' :: d.scopeArgument
      ++ quote label.toList) :=
    (((continues_of_not_mem (by decide)).append (continues_of_not_mem h)).append
      (continues_of_not_mem hscope)).append
      (continues_of_not_mem (lineFeed_not_mem_quote label.toList))
  have hcomma : Continues [',', ' '] := continues_of_not_mem (by decide)
  exact (hbegin.append (hcomma.append (continues_object d.templateTag fields))).append
    (continues_of_not_mem (by decide))

/-- A resource without a name is made and not bound. -/
theorem render_attach (d : Dialect) (cls : ResourceClass) (label : String) (fields : FieldList) :
    (attach cls label fields).render d = newResource d cls label fields ++ [';'] :=
  rfl

/-- Outside a stack, an output exports its value. -/
theorem render_output_flat (variableName : String) (value : Expression) :
    (output variableName value).render .flat =
      "export ".toList ++ ("const ".toList ++ variableName.toList ++ " = ".toList
        ++ value.render Dialect.flat.templateTag ++ [';']) :=
  rfl

/-- The line that makes an output of a stack. -/
def newOutput (variableName : String) : List Char :=
  "new TerraformOutput(this, ".toList ++ quote variableName.toList
    ++ (", \x7b value: ".toList ++ variableName.toList ++ " \x7d);".toList)

/-- In a stack, an output binds its value and hands it to the stack on a line of its own. -/
theorem render_output_construct (variableName : String) (value : Expression) :
    (output variableName value).render .construct =
      "const ".toList ++ variableName.toList ++ " = ".toList
        ++ value.render Dialect.construct.templateTag ++ [';']
        ++ '\n' :: newOutput variableName := by
  have hline : "\nnew TerraformOutput(this, ".toList =
      '\n' :: "new TerraformOutput(this, ".toList :=
    rfl
  unfold newOutput render
  rw [hline]
  simp only [List.append_assoc]
  rfl

/-- The line that hands out an identifier stays one line. -/
theorem lineFeed_not_mem_newOutput {variableName : String} (h : IsIdentifier variableName) :
    '\n' ∉ newOutput variableName := by
  have hname : '\n' ∉ variableName.toList := h.not_mem (by decide) (by decide)
  have hbefore : '\n' ∉ "new TerraformOutput(this, ".toList := by decide
  have hbetween : '\n' ∉ ", \x7b value: ".toList := by decide
  have hafter : '\n' ∉ " \x7d);".toList := by decide
  exact List.not_mem_append (List.not_mem_append hbefore (lineFeed_not_mem_quote _))
    (List.not_mem_append (List.not_mem_append hbetween hname) hafter)

/-- What a name is bound to may go on over lines that bind nothing. -/
theorem continues_equals {rest : List Char} (h : Continues rest) :
    Continues (" = ".toList ++ (rest ++ [';'])) :=
  Continues.append (continues_of_not_mem (by decide))
    (Continues.append h (continues_of_not_mem (by decide)))

/-- The text of a statement binds what the statement does. -/
theorem boundNames_render {d : Dialect} {st : Statement} (hfits : st.Fits d)
    (hname : ∀ name ∈ st.bound?, IsIdentifier name) :
    boundNames (st.render d) = st.bound?.toList := by
  cases st with
  | declare identifier cls label fields =>
    have hnew := continues_equals (continues_newResource hfits d label fields)
    have hbound := boundNames_const (hname identifier rfl) rfl hnew
    simp only [← List.append_assoc] at hbound
    exact hbound
  | attach cls label fields =>
    have hnew := Continues.append (continues_newResource hfits d label fields)
      (continues_of_not_mem (by decide : '\n' ∉ [';']))
    rw [render_attach, boundNames_eq_nil hnew rfl]
    rfl
  | output variableName value =>
    have hvalue := continues_equals (continues_of_not_mem hfits)
    have hidentifier := hname variableName rfl
    cases d with
    | flat =>
      have hbound := boundNames_export hidentifier rfl hvalue
      simp only [← List.append_assoc] at hbound
      simp only [render_output_flat, ← List.append_assoc]
      exact hbound
    | construct =>
      have hbound := boundNames_const hidentifier rfl hvalue
      have hnew : boundNames (newOutput variableName) = [] :=
        boundNames_eq_nil (continues_of_not_mem (lineFeed_not_mem_newOutput hidentifier)) rfl
      simp only [← List.append_assoc] at hbound
      rw [render_output_construct, boundNames_append_lineFeed, hbound, hnew]
      rfl

end Statement

/-- Of a script is read what is read of each of its statements. -/
theorem Script.readLines_code {α : Type} {read : List Char → Option α} (hnil : read [] = none)
    (s : Script) :
    readLines read s.code.toList =
      s.statements.flatMap fun st => readLines read (st.render s.dialect) := by
  have hlineFeed : "\n".toList = ['\n'] := by decide
  rw [code, String.toList_intercalate, hlineFeed, readLines_intercalate hnil, List.flatMap_map,
    List.flatMap_map]
  exact List.flatMap_congr fun st _ => by rw [String.toList_ofList]

/-- The text of a script binds what its statements do, in order. -/
theorem Script.boundNames_code {s : Script} (hfits : ∀ st ∈ s.statements, st.Fits s.dialect)
    (hnames : ∀ name ∈ s.bound, IsIdentifier name) : boundNames s.code.toList = s.bound := by
  rw [bound, List.filterMap_eq_flatMap_toList]
  refine (s.readLines_code rfl).trans (List.flatMap_congr fun st hst => ?_)
  refine Statement.boundNames_render (hfits st hst) fun name hname => hnames name ?_
  exact List.mem_filterMap.2 ⟨st, hst, hname⟩

end Groundwork.Code
