import Groundwork.Proofs.Code.Constructs

/-!
# What lines of flat code export

Flat code hands its outputs on by exporting them: a line that begins with `export const` binds the
name after it for other modules.  Declarations are not exported, and what they take further lines
for is shifted to the right, so the exporting lines of a script are its outputs, in order.

Main results:

- `Script.exportedNames_code`: the lines of a flat script export its outputs.
- `Binds.outputs_eq`: the outputs of a script are the fields among what it binds.
- `Binds.nodup_outputs`: no output is bound twice.
-/

namespace Groundwork

open Code (Dialect)

namespace Code

/-- The name that a line exports: the word after `export const`. -/
def exportedName? (line : List Char) : Option String :=
  (after? "export const ".toList line).map fun rest => String.ofList (rest.takeWhile (· ≠ ' '))

/-- The names that the lines of a text export, in order. -/
def exportedNames (text : List Char) : List String :=
  readLines exportedName? text

/-- A line that does not begin as exports do exports nothing. -/
theorem exportedName?_eq_none {line : List Char} (h : line.head? ≠ some 'e') :
    exportedName? line = none := by
  rw [exportedName?, after?_eq_none (c := 'e') (by decide) h]
  rfl

/-- A line that does not start with a letter exports nothing. -/
theorem exportedName?_of_not_isAlpha {line : List Char}
    (h : ∀ c ∈ line.head?, c.isAlpha = false) : exportedName? line = none := by
  refine exportedName?_eq_none fun he => ?_
  cases h 'e' he

/-- Text that begins with another letter exports nothing. -/
theorem exportedNames_eq_nil {text : List Char} (h : Continues text)
    (hfirst : text.head? ≠ some 'e') : exportedNames text = [] := by
  rw [exportedNames, readLines_of_continues (fun _ => exportedName?_of_not_isAlpha) h,
    exportedName?_eq_none]
  · rfl
  · intro he
    rw [List.head?_takeWhile, Option.filter_eq_some_iff] at he
    exact hfirst he.1

/-- A line that exports a name. -/
theorem exportedNames_export {name : String} {rest : List Char} (hname : IsIdentifier name)
    (hspace : rest.head? = some ' ') (h : Continues rest) :
    exportedNames ("export const ".toList ++ (name.toList ++ rest)) = [name] := by
  have hline : '\n' ∉ name.toList := hname.not_mem (by decide) (by decide)
  have hbegin : '\n' ∉ "export const ".toList ++ name.toList := by simp [hline]
  rw [← List.append_assoc, exportedNames,
    readLines_append (fun _ => exportedName?_of_not_isAlpha) hbegin h, List.append_assoc,
    exportedName?, after?_append, Option.map_some,
    takeWhile_word (hname.not_mem (by decide) (by decide)), String.ofList_toList]
  · rfl
  · rw [List.head?_takeWhile, hspace]
    rfl

/-- A statement of flat code exports its output, if it has one. -/
theorem Statement.exportedNames_render {st : Statement} (hfits : st.Fits .flat)
    (hname : ∀ name ∈ st.bound?, IsIdentifier name) :
    exportedNames (st.render .flat) = st.output?.toList := by
  cases st with
  | declare identifier cls label fields =>
    have hidentifier : '\n' ∉ identifier.toList :=
      (hname identifier rfl).not_mem (by decide) (by decide)
    have hbegin : Continues ("const ".toList ++ identifier.toList) :=
      (continues_of_not_mem (by decide)).append (continues_of_not_mem hidentifier)
    have hnew := hbegin.append (continues_equals (continues_newResource hfits .flat label fields))
    simp only [← List.append_assoc] at hnew
    rw [render_declare, exportedNames_eq_nil hnew]
    · rfl
    · intro he
      cases he
  | attach cls label fields =>
    have hnew := Continues.append (continues_newResource hfits .flat label fields)
      (continues_of_not_mem (by decide : '\n' ∉ [';']))
    rw [render_attach, exportedNames_eq_nil hnew]
    · rfl
    · intro he
      cases he
  | output variableName value =>
    have hvalue := continues_equals (continues_of_not_mem hfits)
    have hexport := exportedNames_export (hname variableName rfl) rfl hvalue
    simp only [render_output_flat, ← List.append_assoc] at hexport ⊢
    exact hexport

/-- The lines of a flat script export its outputs, in order. -/
theorem Script.exportedNames_code {s : Script} (hdialect : s.dialect = .flat)
    (hfits : ∀ st ∈ s.statements, st.Fits .flat)
    (hnames : ∀ name ∈ s.bound, IsIdentifier name) :
    exportedNames s.code.toList = s.outputs := by
  rw [outputs, List.filterMap_eq_flatMap_toList]
  refine (s.readLines_code rfl).trans (List.flatMap_congr fun st hst => ?_)
  rw [hdialect]
  refine Statement.exportedNames_render (hfits st hst) fun name hname => hnames name ?_
  exact List.mem_filterMap.2 ⟨st, hst, hname⟩

namespace Binds

variable {d : Dialect} {statements : List Statement} {bindings : List Binding}

/-- The outputs of statements are the fields among what they bind, in order. -/
theorem outputs_eq (h : Binds d statements bindings) :
    statements.filterMap Statement.output? =
      bindings.filterMap fun b => b.ending.field?.map (outputVariable b.owner) := by
  induction h with
  | nil => rfl
  | declare _ _ ih => exact ih
  | attach _ _ ih => exact ih
  | output _ _ ih => exact congrArg (_ :: ·) ih

end Binds

end Code

namespace ResourceConfig

variable {d : Dialect} {config : ResourceConfig}

/-- The fields of a node that code in a dialect hands on, in order. -/
def outputFields (d : Dialect) (config : ResourceConfig) : List String :=
  (config.endings d).filterMap Ending.field?

/-- Of what a node binds, its own fields are handed on. -/
theorem filterMap_bindings (d : Dialect) (name : String) (config : ResourceConfig) :
    (config.bindings d name).filterMap
        (fun b => b.ending.field?.map (outputVariable b.owner)) =
      (config.outputFields d).map (outputVariable name) := by
  have hrouted : (config.routed.flatMap fun workload =>
        routedEndings.map (Binding.mk workload)).filterMap
      (fun b => b.ending.field?.map (outputVariable b.owner)) = [] := by
    rw [List.filterMap_eq_nil_iff]
    intro b hb
    obtain ⟨workload, -, hb⟩ := List.mem_flatMap.1 hb
    obtain ⟨e, he, rfl⟩ := List.mem_map.1 hb
    have hsuffix : ∀ e ∈ routedEndings, e.field? = none := by decide
    rw [hsuffix e he]
    rfl
  rw [bindings, List.filterMap_append, hrouted, List.nil_append, List.filterMap_map, outputFields,
    List.map_filterMap]
  rfl

/-- A field is given out if a name that ends in it is bound. -/
theorem mem_outputFields_iff {field : String} :
    field ∈ config.outputFields d ↔ .field field ∈ config.endings d := by
  rw [outputFields, List.mem_filterMap]
  constructor
  · rintro ⟨word | name, he, hfield⟩
    · cases hfield
    · cases hfield
      exact he
  · intro h
    exact ⟨.field field, h, rfl⟩

/-- No node gives out a field twice. -/
theorem nodup_outputFields (d : Dialect) (config : ResourceConfig) :
    (config.outputFields d).Nodup := by
  refine (suits_endings d config).nodup.filterMap ?_
  rintro (word | name) (word' | name') field h h'
  · cases h
  · cases h
  · cases h'
  · cases h
    rw [Option.some.inj h']

/-- No two fields of a node become the same output. -/
theorem nodup_outputs (d : Dialect) (name : String) (config : ResourceConfig) :
    ((config.outputFields d).map (outputVariable name)).Nodup := by
  refine (config.nodup_outputFields d).map_on fun field hfield field' hfield' heq => ?_
  have hmem : ∀ field ∈ config.outputFields d, Ending.field field ∈ Ending.all :=
    fun field hfield => (suits_endings d config).mem_all _ (mem_outputFields_iff.1 hfield)
  -- Both outputs begin with the identifier of the node.
  have htext : [] ++ (Ending.field field).text.toList = (Ending.field field').text.toList := by
    have hlists := congrArg String.toList heq
    simpa [outputVariable, Ending.text] using hlists
  rcases Ending.eq_or_isUpper (hmem field hfield) (hmem field' hfield') htext with
    ⟨hsame, -⟩ | ⟨-, c, hc, -⟩
  · exact Ending.field.inj hsame
  · cases hc

end ResourceConfig

end Groundwork
