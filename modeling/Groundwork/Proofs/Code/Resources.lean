import Groundwork.Proofs.Code.Constructs
import Groundwork.Proofs.Code.Nesting
import Mathlib.Data.List.Infix

/-!
# Resources in the text of a script

What a script makes can be read off its text: a line that makes a resource says of which class it
is, after the name that it binds if there is one.  And a field that fits on a line is on a line of
the text, however deep it is nested.

Main definitions:

- `Code.makings`: the names and classes of what a text makes.
- `Code.made`: what statements make of a class.
- `Code.Script.Legible`: a script whose text can be read line by line.

Main results:

- `Code.Script.makings_code`: the text of a script makes what its statements do, in order.
- `Code.Script.madeNames_code`: the names that the text gives to what it makes of one class.
- `Code.Script.isInfix_code`: a line of a field is a line of the text.
-/

namespace Groundwork.Code

/-! ## Fields on a line -/

namespace Expression

variable {tag part : List Char}

/-- What stands on one line of a text stays on a line where the text is nested. -/
theorem isInfix_ownLine {text : List Char} (hline : '\n' ∉ part) (h : part <:+: text) :
    part <:+: ownLine text := by
  have hcomma : part <:+: text ++ [','] := h.trans (List.prefix_append text [',']).isInfix
  exact (isInfixOf_hang_of_not_mem hline hcomma).trans
    (List.suffix_append ('\n' :: pad) _).isInfix

/-- What stands on a line of a field stands on a line of an object that has the field. -/
theorem isInfix_object {fields : FieldList} {field : String × Expression} (hfield : field ∈ fields)
    (hline : '\n' ∉ part) (h : part <:+: fieldText field.1 (field.2.render tag)) :
    part <:+: (object fields).render tag := by
  obtain ⟨above, below, rfl⟩ := List.append_of_mem hfield
  rw [render_object_append_cons]
  exact (isInfix_ownLine hline h).trans ⟨_, _, rfl⟩

/-- What stands on a line of a field stands on a line of the object that has this field alone. -/
theorem isInfix_nested {key : String} {value : Expression} (hline : '\n' ∉ part)
    (h : part <:+: fieldText key (value.render tag)) : part <:+: (nested key value).render tag :=
  isInfix_object (List.mem_singleton_self (key, value)) hline h

/-- What stands on a line of an item stands on a line of a list that has the item. -/
theorem isInfix_list {items : List Expression} {item : Expression} (hitem : item ∈ items)
    (hline : '\n' ∉ part) (h : part <:+: item.render tag) : part <:+: (list items).render tag := by
  obtain ⟨above, below, rfl⟩ := List.append_of_mem hitem
  rw [render_list_append_cons]
  exact (isInfix_ownLine hline h).trans ⟨_, _, rfl⟩

/-- A list of one item holds the text of the item. -/
theorem isInfix_only (d : Dialect) {item : Expression} (hline : '\n' ∉ part)
    (h : part <:+: item.render tag) : part <:+: (d.only item).render tag := by
  cases d with
  | flat => exact h.trans ⟨['['], [']'], rfl⟩
  | construct => exact isInfix_list (List.mem_singleton_self item) hline h

/-- The value of a field stands in the text of the field. -/
theorem isInfix_fieldText (key : String) {value : List Char} (h : part <:+: value) :
    part <:+: fieldText key value := by
  refine h.trans ⟨key.toList ++ [':', ' '], [], ?_⟩
  rw [fieldText, List.append_nil, List.append_assoc]
  rfl

/-- A field that holds a member of what an identifier is bound to. -/
theorem fieldText_member (key identifier field : String) :
    fieldText key ((member identifier field).render tag) =
      key.toList ++ (": ".toList ++ (identifier.toList ++ (".".toList ++ field.toList))) := by
  have hcolon : ": ".toList = [':', ' '] := rfl
  rw [fieldText, member, render, String.toList_append, String.toList_append, hcolon,
    List.append_assoc]
  rfl

end Expression

/-- The fields of what a statement makes. -/
def Statement.fields : Statement → FieldList
  | declare _ _ _ fields => fields
  | attach _ _ fields => fields
  | output _ _ => []

/-- The text of what is made holds the text of its fields. -/
theorem Statement.object_isInfix_newResource (d : Dialect) (cls : ResourceClass) (label : String)
    (fields : FieldList) :
    (Expression.object fields).render d.templateTag <:+: newResource d cls label fields := by
  refine ⟨"new ".toList ++ cls.name.toList ++ '(' :: d.scopeArgument ++ quote label.toList
    ++ [',', ' '], [')'], ?_⟩
  unfold newResource
  simp only [List.append_assoc, List.cons_append, List.nil_append]

/-- What stands on a line of a field stands on a line of the code. -/
theorem Script.isInfix_code {s : Script} {st : Statement} (hst : st ∈ s.statements)
    {field : String × Expression} (hfield : field ∈ st.fields) {part : List Char}
    (hline : '\n' ∉ part)
    (h : part <:+: Expression.fieldText field.1 (field.2.render s.dialect.templateTag)) :
    part <:+: s.code.toList := by
  have hstatement : part <:+: st.render s.dialect := by
    cases st with
    | declare identifier cls label fields =>
      exact ((Expression.isInfix_object hfield hline h).trans
        (Statement.object_isInfix_newResource s.dialect cls label fields)).trans
        ⟨"const ".toList ++ identifier.toList ++ " = ".toList, [';'], rfl⟩
    | attach cls label fields =>
      exact ((Expression.isInfix_object hfield hline h).trans
        (Statement.object_isInfix_newResource s.dialect cls label fields)).trans ⟨[], [';'], rfl⟩
    | output variableName value => cases hfield
  exact hstatement.trans (Script.render_isInfix_code hst)

/-! ## What lines make -/

/-- What a line makes: the name that it binds, if any, and the class. -/
def making? (line : List Char) : Option (Option String × String) :=
  (after? "new ".toList (assigned line)).map fun made =>
    (boundName? line, String.ofList (made.takeWhile (· ≠ '(')))

/-- What the lines of a text make, in order. -/
def makings (text : List Char) : List (Option String × String) := readLines making? text

/-- The names under which the lines of a text make something of a class, in order. -/
def madeNames (cls : String) (text : List Char) : List (Option String) :=
  (makings text).filterMap fun making => if making.2 = cls then some making.1 else none

/-- A line that begins with no letter makes nothing. -/
theorem making?_of_not_isAlpha {line : List Char}
    (h : ∀ c ∈ line.head?, c.isAlpha = false) : making? line = none := by
  have hletter : ∀ c : Char, c.isAlpha = true → line.head? ≠ some c := by
    intro c hc hhead
    have hnot := h c hhead
    rw [hc] at hnot
    cases hnot
  rw [making?, assigned_eq_self (hletter 'c' (by decide)),
    after?_eq_none (c := 'n') (by decide) (hletter 'n' (by decide))]
  rfl

/-- A line that gives a name to something new. -/
theorem making?_const {name cls : List Char} (hname : ' ' ∉ name) (hcls : '(' ∉ cls)
    (rest : List Char) :
    making? ("const ".toList ++ (name ++ (" = ".toList ++ ("new ".toList ++ (cls ++ '(' :: rest)))))
      = some (some (String.ofList name), String.ofList cls) := by
  rw [making?, assigned_const hname, after?_append, boundName?_const hname rfl, Option.map_some,
    takeWhile_append_cons hcls]

/-- A line that makes something and gives it no name. -/
theorem making?_new {cls : List Char} (hcls : '(' ∉ cls) (rest : List Char) :
    making? ("new ".toList ++ (cls ++ '(' :: rest)) = some (none, String.ofList cls) := by
  have hfirst : ("new ".toList ++ (cls ++ '(' :: rest)).head? = some 'n' := rfl
  have hbound : boundName? ("new ".toList ++ (cls ++ '(' :: rest)) = none := by
    refine boundName?_eq_none fun c hc => ?_
    rw [Option.mem_unique hc hfirst]
    decide
  rw [making?, assigned_eq_self (by rw [hfirst]; decide), after?_append, hbound, Option.map_some,
    takeWhile_append_cons hcls]

/-- The first line of a text makes that with which it begins. -/
theorem makings_append {beginning rest : List Char} {m : Option String × String}
    (hbegin : '\n' ∉ beginning) (h : Continues rest)
    (hmaking : ∀ more, making? (beginning ++ more) = some m) :
    makings (beginning ++ rest) = [m] := by
  rw [makings, readLines_append (fun _ => making?_of_not_isAlpha) hbegin h, hmaking]
  rfl

/-- One line of text makes nothing unless it is read so. -/
theorem makings_eq_nil {line : List Char} (hline : '\n' ∉ line) (h : making? line = none) :
    makings line = [] := by
  have hread := readLines_append (fun _ => making?_of_not_isAlpha) hline
    (show Continues [] from trivial)
  rw [List.takeWhile_nil, List.append_nil, h] at hread
  exact hread

namespace Statement

/-- The names and classes of what a statement makes. -/
def makings (d : Dialect) : Statement → List (Option String × String)
  | declare identifier cls _ _ => [(some identifier, cls.name)]
  | attach cls _ _ => [(none, cls.name)]
  | output _ _ =>
    match d with
    | .flat => []
    | .construct => [(none, "TerraformOutput")]

/-- What stands between the parentheses after a class, and the second of them. -/
def arguments (d : Dialect) (label : String) (fields : FieldList) : List Char :=
  d.scopeArgument ++ (quote label.toList
    ++ (',' :: ' ' :: ((Expression.object fields).render d.templateTag ++ [')', ';'])))

/-- The class of what is made comes first. -/
theorem newResource_append (d : Dialect) (cls : ResourceClass) (label : String)
    (fields : FieldList) :
    newResource d cls label fields ++ [';'] =
      "new ".toList ++ (cls.name.toList ++ '(' :: arguments d label fields) := by
  unfold newResource arguments
  simp only [List.append_assoc, List.cons_append, List.nil_append]

/-- The lines after the class are those of the fields. -/
theorem continues_arguments (d : Dialect) (label : String) (fields : FieldList) :
    Continues (arguments d label fields) := by
  have hscope : '\n' ∉ d.scopeArgument := by cases d <;> decide
  have hfields : Continues ((Expression.object fields).render d.templateTag ++ [')', ';']) :=
    (continues_object _ fields).append (continues_of_not_mem (by decide))
  have hcomma : Continues [',', ' '] := continues_of_not_mem (by decide)
  exact (continues_of_not_mem hscope).append
    ((continues_of_not_mem (lineFeed_not_mem_quote _)).append (hcomma.append hfields))

/-- The text of a statement makes what the statement does. -/
theorem makings_render {d : Dialect} {st : Statement} (hfits : st.Fits d) (hmakes : st.MakesOne)
    (hname : ∀ name ∈ st.bound?, IsIdentifier name) :
    Code.makings (st.render d) = st.makings d := by
  cases st with
  | declare identifier cls label fields =>
    have hidentifier := hname identifier rfl
    have hblank : ' ' ∉ identifier.toList := hidentifier.not_mem (by decide) (by decide)
    have hline : '\n' ∉ "const ".toList ++ (identifier.toList ++ (" = ".toList
        ++ ("new ".toList ++ (cls.name.toList ++ ['('])))) :=
      List.not_mem_append (by decide) (List.not_mem_append
        (hidentifier.not_mem (by decide) (by decide))
        (List.not_mem_append (by decide) (List.not_mem_append (by decide)
          (List.not_mem_append hfits (by decide)))))
    have hmade := makings_append (m := (some identifier, cls.name)) hline
      (continues_arguments d label fields) fun more => by
        simp only [List.append_assoc, List.singleton_append]
        rw [making?_const hblank hmakes, String.ofList_toList, String.ofList_toList]
    simp only [List.append_assoc, List.singleton_append] at hmade
    rw [render_declare, List.append_assoc, newResource_append]
    simp only [List.append_assoc]
    exact hmade
  | attach cls label fields =>
    have hline : '\n' ∉ "new ".toList ++ (cls.name.toList ++ ['(']) :=
      List.not_mem_append (by decide) (List.not_mem_append hfits (by decide))
    have hmade := makings_append (m := (none, cls.name)) hline
      (continues_arguments d label fields) fun more => by
        simp only [List.append_assoc, List.singleton_append]
        rw [making?_new hmakes, String.ofList_toList]
    simp only [List.append_assoc, List.singleton_append] at hmade
    rw [render_attach, newResource_append]
    exact hmade
  | output variableName value =>
    have hidentifier := hname variableName rfl
    have hblank : ' ' ∉ variableName.toList := hidentifier.not_mem (by decide) (by decide)
    have hbinding : '\n' ∉ "const ".toList ++ (variableName.toList ++ (" = ".toList
        ++ (value.render d.templateTag ++ [';']))) :=
      List.not_mem_append (by decide) (List.not_mem_append
        (hidentifier.not_mem (by decide) (by decide))
        (List.not_mem_append (by decide) (List.not_mem_append hfits (by decide))))
    cases d with
    | flat =>
      rw [render_output_flat]
      simp only [List.append_assoc]
      refine makings_eq_nil (List.not_mem_append (by decide) hbinding) ?_
      have hfirst : ∀ more : List Char, ("export ".toList ++ more).head? = some 'e' :=
        fun _ => rfl
      rw [making?, assigned_eq_self (by rw [hfirst]; decide),
        after?_eq_none (c := 'n') (by decide) (by rw [hfirst]; decide)]
      rfl
    | construct =>
      have hnothing : making? ("const ".toList ++ (variableName.toList ++ (" = ".toList
          ++ (value.render Dialect.construct.templateTag ++ [';'])))) = none := by
        rw [making?, assigned_const hblank, hmakes]
        rfl
      have hclass : '(' ∉ "TerraformOutput".toList := by decide
      have hline := lineFeed_not_mem_newOutput hidentifier
      rw [newOutput_eq] at hline
      rw [render_output_construct, Code.makings, readLines_append_lineFeed, ← Code.makings,
        ← Code.makings]
      simp only [List.append_assoc]
      rw [makings_eq_nil hbinding hnothing, List.nil_append, newOutput_eq]
      exact makings_append (fun hmem => hline (List.mem_append_left _ hmem))
        (continues_of_not_mem fun hmem => hline (List.mem_append_right _ hmem)) fun more =>
        making?_new hclass _

end Statement

/-- The class of what a statement makes. -/
def Statement.class? : Statement → Option ResourceClass
  | declare _ cls _ _ => some cls
  | attach cls _ _ => some cls
  | output _ _ => none

/-- What a statement makes of a class: its fields, and the identifier if it binds one. -/
def Statement.made? (cls : ResourceClass) : Statement → Option (Option String × FieldList)
  | declare identifier other _ fields =>
    if other = cls then some (some identifier, fields) else none
  | attach other _ fields => if other = cls then some (none, fields) else none
  | output _ _ => none

/-- What statements make of a class, in order. -/
def made (cls : ResourceClass) (statements : List Statement) :
    List (Option String × FieldList) :=
  statements.filterMap (·.made? cls)

/-- What two lists of statements make, one after the other. -/
theorem made_append (cls : ResourceClass) (first second : List Statement) :
    made cls (first ++ second) = made cls first ++ made cls second :=
  List.filterMap_append

/-- What the statements for each entry of a list make. -/
theorem made_flatMap {α : Type} (cls : ResourceClass) (l : List α) (f : α → List Statement) :
    made cls (l.flatMap f) = l.flatMap fun a => made cls (f a) :=
  List.filterMap_flatMap

/-- What is made of a class is made by a statement that has its fields. -/
theorem exists_of_mem_made {cls : ResourceClass} {statements : List Statement}
    {name : Option String} {fields : FieldList} (h : (name, fields) ∈ made cls statements) :
    ∃ st ∈ statements, st.fields = fields := by
  obtain ⟨st, hst, hmade⟩ := List.mem_filterMap.1 h
  refine ⟨st, hst, ?_⟩
  cases st with
  | declare identifier other label fields' =>
    rw [Statement.made?, Option.ite_none_right_eq_some] at hmade
    exact (Prod.mk.inj (Option.some.inj hmade.2)).2
  | attach other label fields' =>
    rw [Statement.made?, Option.ite_none_right_eq_some] at hmade
    exact (Prod.mk.inj (Option.some.inj hmade.2)).2
  | output variableName value => cases hmade

namespace Script

variable {s : Script}

/-- What is looked up among the fields of what is made is one of them. -/
theorem fieldLine_isInfix_code {cls : ResourceClass} {name : Option String} {fields : FieldList}
    (hmade : (name, fields) ∈ made cls s.statements) {key : String} {value : Expression}
    (hvalue : fields.lookup key = some value) {line : List Char} (hline : '\n' ∉ line)
    (h : line <:+: Expression.fieldText key (value.render s.dialect.templateTag)) :
    line <:+: s.code.toList := by
  obtain ⟨st, hst, rfl⟩ := exists_of_mem_made hmade
  obtain ⟨before, after, hfields, -⟩ := List.lookup_eq_some_iff.1 hvalue
  have hfield : (key, value) ∈ st.fields := by
    rw [hfields]
    exact List.mem_append_right before List.mem_cons_self
  exact isInfix_code hst hfield hline h

/-- A script whose text can be read line by line. -/
structure Legible (s : Script) : Prop where
  fits : ∀ st ∈ s.statements, st.Fits s.dialect
  makesOne : ∀ st ∈ s.statements, st.MakesOne
  isIdentifier : ∀ name ∈ s.bound, IsIdentifier name

/-- The text of a script makes what its statements do, in order. -/
theorem makings_code (h : s.Legible) :
    makings s.code.toList = s.statements.flatMap (·.makings s.dialect) := by
  refine (s.readLines_code rfl).trans (List.flatMap_congr fun st hst => ?_)
  refine Statement.makings_render (h.fits st hst) (h.makesOne st hst) fun name hname => ?_
  exact h.isIdentifier name (List.mem_filterMap.2 ⟨st, hst, hname⟩)

/-- The text makes of a class what the statements do, where the class is told from others by its
name. -/
theorem madeNames_code (h : s.Legible) {cls : ResourceClass} (houtput : cls.name ≠ "TerraformOutput")
    (hnames : ∀ st ∈ s.statements, ∀ other ∈ st.class?, other.name = cls.name → other = cls) :
    madeNames cls.name s.code.toList = (made cls s.statements).map (·.1) := by
  rw [madeNames, makings_code h, List.filterMap_flatMap, made, List.map_filterMap,
    List.filterMap_eq_flatMap_toList]
  refine List.flatMap_congr fun st hst => ?_
  have hsame : ∀ other ∈ st.class?, other.name = cls.name ↔ other = cls :=
    fun other hother => ⟨hnames st hst other hother, fun heq => heq ▸ rfl⟩
  cases st with
  | declare identifier other label fields =>
    by_cases hother : other = cls <;>
      simp [Statement.makings, Statement.made?, hsame other rfl, hother]
  | attach other label fields =>
    by_cases hother : other = cls <;>
      simp [Statement.makings, Statement.made?, hsame other rfl, hother]
  | output variableName value =>
    cases s.dialect <;> simp [Statement.makings, Statement.made?, houtput.symm]

end Script

end Groundwork.Code
