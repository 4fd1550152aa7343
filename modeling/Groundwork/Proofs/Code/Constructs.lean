import Groundwork.Proofs.Code.Names
import Groundwork.Proofs.Code.Outputs
import Groundwork.Proofs.Naming.Part

/-!
# The constructs that the code of a node makes

A line of the code of a stack makes a construct if `new` comes first on it, or after the name that
it binds; the id of the construct is the literal after the scope.  `ResourceConfig.constructIds`
says which ids the code of a node gives out, read off the settings of the node alone: the label of
every part of the node, and the name of every output.  Every generator gives out exactly these.

Main definitions:

- `Code.constructIds`: the ids of the constructs that a text makes.
- `ResourceConfig.parts`, `ResourceConfig.routeParts`, `ResourceConfig.boundFields`: what has an id.
- `Code.Makes`: statements that make constructs for given parts and outputs.

Main results:

- `Code.literal?_quote_append`: a literal is read up to the quote that closes it.
- `Code.Statement.constructIds_render`: the text of a statement makes one construct.
- `Code.makes_serviceAccount` and its siblings: each generator makes what it should.
- `Code.Makes.constructIds_code`: which constructs the text of such statements makes.
-/

namespace Groundwork

open Code (Dialect Script Statement Expression FieldList ResourceClass)

namespace Code

/-! ## Literals in a line -/

/-- Reads the characters of a literal up to the quote that closes it. -/
def literalBody? : List Char → Option (List Char)
  | [] => none
  | '"' :: _ => some []
  | '\\' :: c :: rest => do
    let c ← escaped? c
    let rest ← literalBody? rest
    return c :: rest
  | c :: rest => (literalBody? rest).map (c :: ·)

/-- The text that the literal at the beginning of a text stands for. -/
def literal? : List Char → Option (List Char)
  | '"' :: rest => literalBody? rest
  | _ => none

/-- Reading a character's escape gives the character back. -/
theorem literalBody?_quoteChar_append (c : Char) (rest : List Char) :
    literalBody? (quoteChar c ++ rest) = (literalBody? rest).map (c :: ·) := by
  unfold quoteChar
  split
  iterate 5
    · simp only [List.cons_append, List.nil_append, literalBody?, escaped?]
      cases literalBody? rest <;> rfl
  rename_i hquote hslash _ _ _
  simp only [List.cons_append, List.nil_append]
  rw [literalBody?.eq_4 c rest hquote (fun d ds h _ => hslash h)]

/-- A literal is read up to the quote that closes it, whatever comes after it. -/
theorem literal?_quote_append (cs rest : List Char) :
    literal? (quote cs ++ rest) = some cs := by
  suffices h : literalBody? (quoteBody cs ++ '"' :: rest) = some cs by
    simpa [quote, literal?] using h
  induction cs with
  | nil => rfl
  | cons c cs ih =>
    rw [quoteBody, List.flatMap_cons, ← quoteBody, List.append_assoc,
      literalBody?_quoteChar_append, ih, Option.map_some]

/-! ## Constructs that lines make -/

/-- What a line gives a name to, or the line itself if it gives no name. -/
def assigned (line : List Char) : List Char :=
  ((after? "const ".toList line).bind fun rest =>
    after? " = ".toList (rest.dropWhile (· ≠ ' '))).getD line

/-- The id of what a text makes first: the literal after the class and the scope. -/
def newId? (text : List Char) : Option String := do
  let made ← after? "new ".toList text
  let arguments ← after? "(this, ".toList (made.dropWhile (· ≠ '('))
  let id ← literal? arguments
  return String.ofList id

/-- The id of the construct that a line makes. -/
def constructId? (line : List Char) : Option String := newId? (assigned line)

/-- The ids of the constructs that the lines of a text make, in order. -/
def constructIds (text : List Char) : List String := readLines constructId? text

/-- A text without some character is skipped up to where the character comes. -/
theorem dropWhile_append_cons {word : List Char} {c : Char} (h : c ∉ word) (rest : List Char) :
    (word ++ c :: rest).dropWhile (· ≠ c) = c :: rest := by
  rw [List.dropWhile_append_of_pos]
  · simp
  · intro d hd
    rw [decide_eq_true_eq]
    rintro rfl
    exact h hd

/-- A line that binds no name stands for itself. -/
theorem assigned_eq_self {line : List Char} (h : line.head? ≠ some 'c') : assigned line = line := by
  rw [assigned, after?_eq_none (c := 'c') (by decide) h]
  rfl

/-- Of a line that binds a name, what is bound is the rest after the equals sign. -/
theorem assigned_const {name value : List Char} (hname : ' ' ∉ name) :
    assigned ("const ".toList ++ (name ++ (" = ".toList ++ value))) = value := by
  have hspace : (name ++ (" = ".toList ++ value)).dropWhile (· ≠ ' ') = " = ".toList ++ value :=
    dropWhile_append_cons hname _
  rw [assigned, after?_append, Option.bind_some, hspace, after?_append]
  rfl

/-- The id of a construct is read back from the text that makes it, whatever follows. -/
theorem newId?_append {cls : List Char} (hcls : '(' ∉ cls) (id : String) (rest : List Char) :
    newId? ("new ".toList ++ (cls ++ ("(this, ".toList ++ (quote id.toList ++ rest)))) =
      some id := by
  have harguments : ∀ text : List Char,
      (cls ++ ("(this, ".toList ++ text)).dropWhile (· ≠ '(') = "(this, ".toList ++ text :=
    fun _ => dropWhile_append_cons hcls _
  simp only [newId?, after?_append, harguments, literal?_quote_append, Option.bind_eq_bind,
    Option.bind_some, String.ofList_toList]
  rfl

/-- Text without the word for making a construct gives out no id. -/
theorem newId?_eq_none {text : List Char} (h : after? "new ".toList text = none) :
    newId? text = none := by
  rw [newId?, h]
  rfl

/-- A line that begins with no letter makes nothing. -/
theorem constructId?_of_not_isAlpha {line : List Char}
    (h : ∀ c ∈ line.head?, c.isAlpha = false) : constructId? line = none := by
  have hletter : ∀ c : Char, c.isAlpha = true → line.head? ≠ some c := by
    intro c hc hhead
    have hnot := h c hhead
    rw [hc] at hnot
    cases hnot
  rw [constructId?, assigned_eq_self (hletter 'c' (by decide)),
    newId?_eq_none (after?_eq_none (c := 'n') (by decide) (hletter 'n' (by decide)))]

/-- The first line of a text makes the construct with which it begins. -/
theorem constructIds_append (id : String) {beginning rest : List Char}
    (hbegin : '\n' ∉ beginning) (h : Continues rest)
    (hid : ∀ more, constructId? (beginning ++ more) = some id) :
    constructIds (beginning ++ rest) = [id] := by
  rw [constructIds, readLines_append (fun _ => constructId?_of_not_isAlpha) hbegin h, hid]
  rfl

/-! ## Values that make nothing -/

/-- An expression that makes nothing where it stands first, whatever comes after it. -/
def Expression.MakesNothing (e : Expression) : Prop :=
  ∀ rest, after? "new ".toList (e.render Dialect.construct.templateTag ++ rest) = none

namespace Expression

/-- A literal makes no construct. -/
theorem makesNothing_quoted (s : String) : (quoted s).MakesNothing := by
  intro rest
  refine after?_eq_none (c := 'n') (by decide) ?_
  rw [render, quote]
  simp

/-- A template makes no construct. -/
theorem makesNothing_template (s : String) : (template s).MakesNothing := by
  intro rest
  refine after?_eq_none (c := 'n') (by decide) ?_
  rw [render]
  show some (Char.ofNat 96) ≠ some 'n'
  decide

/-- No text in which an underscore comes before the first blank begins with `new` and a blank. -/
theorem not_new_isPrefix {word rest : List Char} (h : ' ' ∉ word) :
    ¬ "new ".toList <+: word ++ '_' :: rest := by
  rintro ⟨more, hmore⟩
  rcases List.append_eq_append_iff.1 hmore with ⟨between, hword, -⟩ | ⟨between, hnew, hbetween⟩
  · apply h
    rw [hword]
    exact List.mem_append_left _ (by decide)
  · cases between with
    | nil =>
      apply h
      rw [List.append_nil] at hnew
      rw [← hnew]
      decide
    | cons c between =>
      have hunderscore : '_' ∈ "new ".toList := by
        rw [hnew, ← (List.cons.inj hbetween).1]
        simp
      exact absurd hunderscore (by decide)

/-- A member of what an identifier is bound to is nothing new. -/
theorem makesNothing_member (name suffix field : String) :
    (member (codeIdentifier name suffix) field).MakesNothing := by
  intro rest
  have hword : ' ' ∉ (sanitizeIdentifier name).toList :=
    (isIdentifier_sanitizeIdentifier name).not_mem (by decide) (by decide)
  have htext : (member (codeIdentifier name suffix) field).render Dialect.construct.templateTag
      ++ rest = (sanitizeIdentifier name).toList ++ '_' ::
        (suffix.toList ++ ('.' :: (field.toList ++ rest))) := by
    rw [member, render]
    simp [codeIdentifier]
  rw [htext]
  exact if_neg (not_new_isPrefix hword)

end Expression

/-! ## Constructs of statements -/

namespace Statement

/-- The id of the construct that a statement of a stack makes. -/
def constructId : Statement → String
  | declare _ _ label _ => label
  | attach _ label _ => label
  | output variableName _ => variableName

/-- A statement whose text makes the construct of the statement and nothing else. -/
def MakesOne : Statement → Prop
  | declare _ cls _ _ => '(' ∉ cls.name.toList
  | attach cls _ _ => '(' ∉ cls.name.toList
  | output _ value => value.MakesNothing

/-- The text up to the label of what is made. -/
def newBeginning (cls label : String) : List Char :=
  "new ".toList ++ (cls.toList ++ ("(this, ".toList ++ quote label.toList))

/-- Up to the label, what makes a construct stands on one line. -/
theorem lineFeed_not_mem_newBeginning {cls : String} (h : '\n' ∉ cls.toList) (label : String) :
    '\n' ∉ newBeginning cls label :=
  List.not_mem_append (by decide) (List.not_mem_append h
    (List.not_mem_append (by decide) (lineFeed_not_mem_quote _)))

/-- The id of a construct is the label that it is made with. -/
theorem newId?_newBeginning {cls : String} (hcls : '(' ∉ cls.toList) (label : String)
    (rest : List Char) : newId? (newBeginning cls label ++ rest) = some label := by
  rw [newBeginning, List.append_assoc, List.append_assoc, List.append_assoc]
  exact newId?_append hcls label rest

/-- In a stack a resource is made by its class, its label and its fields, in that order. -/
theorem newResource_construct (cls : ResourceClass) (label : String) (fields : FieldList) :
    newResource .construct cls label fields =
      newBeginning cls.name label ++ ([',', ' '] ++
        ((Expression.object fields).render Dialect.construct.templateTag ++ [')'])) := by
  have hregroup : ∀ first second label rest : List Char,
      first ++ second ++ '(' :: Dialect.construct.scopeArgument ++ label ++ ',' :: ' ' :: rest
          ++ [')'] =
        first ++ (second ++ ('(' :: Dialect.construct.scopeArgument ++ label))
          ++ ([',', ' '] ++ (rest ++ [')'])) := by
    intros
    simp only [List.append_assoc, List.cons_append, List.nil_append]
  exact hregroup _ _ _ _

/-- What comes after the label makes nothing on lines of its own. -/
theorem continues_fields (fields : FieldList) :
    Continues ([',', ' '] ++
      ((Expression.object fields).render Dialect.construct.templateTag ++ [')']) ++ [';']) :=
  ((continues_of_not_mem (by decide)).append
    ((continues_object _ fields).append (continues_of_not_mem (by decide)))).append
    (continues_of_not_mem (by decide))

/-- An output of a stack is made like a resource, under the name of its variable. -/
theorem newOutput_eq (variableName : String) :
    newOutput variableName = newBeginning "TerraformOutput" variableName
      ++ (", \x7b value: ".toList ++ (variableName.toList ++ " \x7d);".toList)) := by
  -- Rewriting in place would compare the characters of the literals.
  have hregroup : ∀ first second third label rest : List Char,
      first ++ (second ++ third) ++ label ++ rest =
        first ++ (second ++ (third ++ label)) ++ rest := by
    intros
    simp only [List.append_assoc]
  exact hregroup "new ".toList "TerraformOutput".toList "(this, ".toList _ _

/-- Of the two lines of an output only the second makes something. -/
theorem constructIds_newOutput {variableName : String} (h : IsIdentifier variableName) :
    constructIds (newOutput variableName) = [variableName] := by
  have hline := lineFeed_not_mem_newOutput h
  rw [newOutput_eq] at hline ⊢
  refine constructIds_append _ (fun hmem => hline (List.mem_append_left _ hmem))
    (continues_of_not_mem fun hmem => hline (List.mem_append_right _ hmem)) ?_
  intro more
  rw [constructId?, assigned_eq_self (by simp [newBeginning]), newId?_newBeginning (by decide)]

/-- A line that binds a value gives out no id if the value makes nothing. -/
theorem constructIds_binding {variableName : String} {value : Expression}
    (hname : IsIdentifier variableName)
    (hvalue : '\n' ∉ value.render Dialect.construct.templateTag) (hnothing : value.MakesNothing) :
    constructIds ("const ".toList ++ (variableName.toList ++ (" = ".toList
      ++ (value.render Dialect.construct.templateTag ++ [';'])))) = [] := by
  have hline : '\n' ∉ "const ".toList ++ (variableName.toList ++ (" = ".toList
      ++ (value.render Dialect.construct.templateTag ++ [';']))) :=
    List.not_mem_append (by decide) (List.not_mem_append
      (hname.not_mem (by decide) (by decide))
      (List.not_mem_append (by decide) (List.not_mem_append hvalue (by decide))))
  have hread := readLines_append (fun _ => constructId?_of_not_isAlpha) hline
    (show Continues [] from trivial)
  rw [List.takeWhile_nil, List.append_nil, constructId?,
    assigned_const (hname.not_mem (by decide) (by decide)), newId?_eq_none (hnothing _)] at hread
  exact hread

/-- The text of a statement makes the construct of the statement. -/
theorem constructIds_render {st : Statement} (hfits : st.Fits .construct) (hmakes : st.MakesOne)
    (hname : ∀ name ∈ st.bound?, IsIdentifier name) :
    constructIds (st.render .construct) = [st.constructId] := by
  cases st with
  | declare identifier cls label fields =>
    have hidentifier := hname identifier rfl
    have hblank : ' ' ∉ identifier.toList := hidentifier.not_mem (by decide) (by decide)
    have hline : '\n' ∉ "const ".toList ++ (identifier.toList ++ (" = ".toList
        ++ newBeginning cls.name label)) :=
      List.not_mem_append (by decide) (List.not_mem_append
        (hidentifier.not_mem (by decide) (by decide))
        (List.not_mem_append (by decide) (lineFeed_not_mem_newBeginning hfits label)))
    have hids := constructIds_append label hline (continues_fields fields) (by
      intro more
      rw [List.append_assoc, List.append_assoc, List.append_assoc, constructId?,
        assigned_const hblank, newId?_newBeginning hmakes])
    simp only [List.append_assoc] at hids
    simp only [render_declare, newResource_construct, List.append_assoc]
    exact hids
  | attach cls label fields =>
    have hids := constructIds_append label (lineFeed_not_mem_newBeginning hfits label)
      (continues_fields fields) (by
      intro more
      rw [constructId?, assigned_eq_self (by simp [newBeginning]), newId?_newBeginning hmakes])
    rw [render_attach, newResource_construct, List.append_assoc]
    exact hids
  | output variableName value =>
    have hidentifier := hname variableName rfl
    have hbinding := constructIds_binding hidentifier hfits hmakes
    simp only [← List.append_assoc] at hbinding
    rw [render_output_construct, constructIds, readLines_append_lineFeed, ← constructIds,
      ← constructIds, hbinding, constructIds_newOutput hidentifier]
    rfl

example :
    constructIds "const a = b.c;\nnew TerraformOutput(this, \"a\", \x7b value: a \x7d);".toList =
      ["a"] := by
  decide +kernel

end Statement

end Code

/-! ## What has an id -/

/-- The field of a bound name that ends in one. -/
def Ending.field? : Ending → Option String
  | suffix _ => none
  | field name => some name

namespace ResourceConfig

/-- The parts that the code of a node in a stack has for the node itself, in order. -/
def parts : ResourceConfig → List Part
  | serviceAccount c => .whole :: c.roles.zipIdx.map fun entry => .numbered "-role-" entry.2
  | bucket c => .whole :: if c.isPublic then [.named "-public"] else []
  | secret _ | topic _ | queue _ | network _ | subnet _ | firewall _ | registry _ | connector _
  | kernel _ => [.whole]
  | container c => .whole :: if c.allowUnauthenticated then [.named "-invoker"] else []
  | function c =>
    .named "-asset" :: .named "-source" :: .named "-archive" :: .whole ::
      if c.allowUnauthenticated then [.named "-invoker"] else []
  | ui _ => [.whole, .named "-invoker"]
  | loadBalancer c =>
    [.named "-url-map", .named "-address"]
      ++ (if c.https && c.domain.isSome then [.named "-cert"] else [])
      ++ [.named "-proxy", .named "-rule"]
  | _ => []

/-- The parts that the code of a load balancer has for every workload that it leads to, in order. -/
def routeParts : ResourceConfig → List Part
  | loadBalancer c =>
    .named "-neg" :: .named "-backend" ::
      (c.iapMembers.getD []).zipIdx.map fun entry => .numbered "-iap-" entry.2
  | _ => []

/-- The fields of a node that code in a stack binds for other nodes, in order. -/
def boundFields (config : ResourceConfig) : List String :=
  (config.endings .construct).filterMap Ending.field?

/-- What the parts of a node with some id are labelled, in order. -/
def labels (id : String) (config : ResourceConfig) : List PartLabel :=
  config.routed.flatMap (fun workload =>
      config.routeParts.map (⟨id ++ "-" ++ workload, ·⟩))
    ++ config.parts.map (⟨id, ·⟩)

/-- The ids of the constructs of a node with some id and name. -/
def constructIds (id name : String) (config : ResourceConfig) : List String :=
  (config.labels id).map PartLabel.text ++ config.boundFields.map (outputVariable name)

variable {config : ResourceConfig}

/-- The parts of a node are the node and what the words for parts of nodes name. -/
theorem word_mem_of_mem_parts :
    ∀ part ∈ config.parts, part = .whole ∨ part.word ∈ Part.nodeWords := by
  cases config with
  | serviceAccount c =>
    have hword : "-role-" ∈ Part.nodeWords := by decide
    refine List.forall_mem_cons.2 ⟨Or.inl rfl, List.forall_mem_map.2 fun entry _ => ?_⟩
    exact Or.inr hword
  | bucket c => simp only [parts]; split <;> decide
  | container c => simp only [parts]; split <;> decide
  | function c => simp only [parts]; split <;> decide
  | loadBalancer c => simp only [parts]; split <;> decide
  | _ => simp only [parts]; decide

/-- What a load balancer has for a workload is named by the words for that. -/
theorem word_mem_of_mem_routeParts : ∀ part ∈ config.routeParts, part.word ∈ Part.routeWords := by
  cases config with
  | loadBalancer c =>
    have hword : "-iap-" ∈ Part.routeWords := by decide
    refine List.forall_mem_cons.2 ⟨by decide, List.forall_mem_cons.2 ⟨by decide, ?_⟩⟩
    exact List.forall_mem_map.2 fun entry _ => hword
  | _ => simp only [routeParts]; decide

/-- No part of a node comes twice. -/
theorem nodup_parts (config : ResourceConfig) : config.parts.Nodup := by
  cases config with
  | serviceAccount c =>
    exact List.nodup_cons.2 ⟨Part.not_mem_map_numbered rfl, Part.nodup_map_numbered _ _⟩
  | bucket c => simp only [parts]; split <;> decide
  | container c => simp only [parts]; split <;> decide
  | function c => simp only [parts]; split <;> decide
  | loadBalancer c => simp only [parts]; split <;> decide
  | _ => simp only [parts]; decide

/-- No part that a load balancer has for a workload comes twice. -/
theorem nodup_routeParts (config : ResourceConfig) : config.routeParts.Nodup := by
  cases config with
  | loadBalancer c =>
    refine List.nodup_cons.2 ⟨?_, List.nodup_cons.2
      ⟨Part.not_mem_map_numbered rfl, Part.nodup_map_numbered _ _⟩⟩
    exact List.not_mem_cons_of_ne_of_not_mem (by decide) (Part.not_mem_map_numbered rfl)
  | _ => exact List.nodup_nil

/-- Only load balancers lead to workloads, and for each they have an endpoint group. -/
theorem of_mem_routed {workload : String} (h : workload ∈ config.routed) :
    config.kind = .loadBalancer ∧ .named "-neg" ∈ config.routeParts := by
  cases config with
  | loadBalancer c => exact ⟨rfl, List.mem_cons_self⟩
  | _ => cases h

/-- No construct has the id of a load balancer. -/
theorem whole_not_mem_parts (h : config.kind = .loadBalancer) : .whole ∉ config.parts := by
  cases config with
  | loadBalancer c => simp only [parts]; split <;> decide
  | _ => cases h

end ResourceConfig

namespace Code

/-! ## Statements that make constructs -/

/-- Statements of a node that make constructs for some parts and some outputs, each in order. -/
inductive Makes (r : Resource) : List Statement → List PartLabel → List String → Prop where
  | nil : Makes r [] [] []
  | declare {identifier label : String} {cls : ResourceClass} {fields : FieldList} {l : PartLabel}
      {statements : List Statement} {labels : List PartLabel} {outputs : List String}
      (hlabel : label = l.text) (hcls : '(' ∉ cls.name.toList)
      (h : Makes r statements labels outputs) :
      Makes r (.declare identifier cls label fields :: statements) (l :: labels) outputs
  | attach {label : String} {cls : ResourceClass} {fields : FieldList} {l : PartLabel}
      {statements : List Statement} {labels : List PartLabel} {outputs : List String}
      (hlabel : label = l.text) (hcls : '(' ∉ cls.name.toList)
      (h : Makes r statements labels outputs) :
      Makes r (.attach cls label fields :: statements) (l :: labels) outputs
  | output {field : String} {value : Expression} {statements : List Statement}
      {labels : List PartLabel} {outputs : List String} (hvalue : value.MakesNothing)
      (h : Makes r statements labels outputs) :
      Makes r (r.output field value :: statements) labels (field :: outputs)

namespace Makes

variable {r : Resource} {statements statements' : List Statement} {labels labels' : List PartLabel}
  {outputs outputs' : List String}

/-- What follows makes its constructs after the others. -/
theorem append (h : Makes r statements labels outputs) (h' : Makes r statements' labels' outputs') :
    Makes r (statements ++ statements') (labels ++ labels') (outputs ++ outputs') := by
  induction h with
  | nil => exact h'
  | declare hlabel hcls _ ih => exact .declare hlabel hcls ih
  | attach hlabel hcls _ ih => exact .attach hlabel hcls ih
  | output hvalue _ ih => exact .output hvalue ih

/-- Outputs come after everything else. -/
theorem close (h : Makes r statements labels []) (h' : Makes r statements' [] outputs) :
    Makes r (statements ++ statements') labels outputs := by
  have hboth := h.append h'
  rwa [List.append_nil, List.nil_append] at hboth

/-- One resource for each entry of a list makes one construct for each. -/
theorem attach_map {α : Type} (l : List α) {cls : ResourceClass} {label : α → String}
    {fields : α → FieldList} {stem : String} {part : α → Part}
    (hlabel : ∀ x, label x = PartLabel.text ⟨stem, part x⟩) (hcls : '(' ∉ cls.name.toList) :
    Makes r (l.map fun x => .attach cls (label x) (fields x))
      ((l.map part).map (⟨stem, ·⟩)) [] := by
  induction l with
  | nil => exact .nil
  | cons x rest ih => exact .attach (hlabel x) hcls ih

/-- A resource that is there under a condition makes its construct under that condition. -/
theorem attach_ite (b : Bool) {cls : ResourceClass} {label stem : String} {fields : FieldList}
    {part : Part} (hlabel : label = PartLabel.text ⟨stem, part⟩) (hcls : '(' ∉ cls.name.toList) :
    Makes r (if b then [.attach cls label fields] else [])
      ((if b then [part] else []).map (⟨stem, ·⟩)) [] := by
  cases b with
  | false => exact .nil
  | true => exact .attach hlabel hcls .nil

/-- Statements for each entry of a list make the constructs for each, in the order of the list. -/
theorem flatMap {α : Type} (l : List α) {made : α → List Statement}
    {labelled : α → List PartLabel} (h : ∀ x, Makes r (made x) (labelled x) []) :
    Makes r (l.flatMap made) (l.flatMap labelled) [] := by
  induction l with
  | nil => exact .nil
  | cons x rest ih => exact (h x).append ih

/-- Every such statement makes one construct. -/
theorem makesOne (h : Makes r statements labels outputs) : ∀ st ∈ statements, st.MakesOne := by
  induction h with
  | nil => simp
  | declare _ hcls _ ih => exact List.forall_mem_cons.2 ⟨hcls, ih⟩
  | attach _ hcls _ ih => exact List.forall_mem_cons.2 ⟨hcls, ih⟩
  | output hvalue _ ih => exact List.forall_mem_cons.2 ⟨hvalue, ih⟩

/-- The ids that the statements give out are the labels and the variables of the outputs; they come
in another order only because outputs stand between the parts. -/
theorem map_constructId_perm (h : Makes r statements labels outputs) :
    (statements.map Statement.constructId).Perm
      (labels.map PartLabel.text ++ outputs.map (outputVariable r.name)) := by
  induction h with
  | nil => exact .nil
  | declare hlabel _ _ ih =>
    rw [List.map_cons, List.map_cons, ← hlabel]
    exact ih.cons _
  | attach hlabel _ _ ih =>
    rw [List.map_cons, List.map_cons, ← hlabel]
    exact ih.cons _
  | output _ _ ih => exact (ih.cons _).trans List.perm_middle.symm

/-- The text of a script gives out the ids that its statements do. -/
theorem constructIds_code {s : Script} {bindings : List Binding}
    (h : Makes r s.statements labels outputs) (hbinds : Binds .construct s.statements bindings)
    (hdialect : s.dialect = .construct) (hknown : ∀ b ∈ bindings, b.ending ∈ Ending.all) :
    (Code.constructIds s.code.toList).Perm
      (labels.map PartLabel.text ++ outputs.map (outputVariable r.name)) := by
  have hnames : ∀ name ∈ s.bound, IsIdentifier name := hbinds.isIdentifier hknown
  have hids : Code.constructIds s.code.toList = s.statements.map Statement.constructId := by
    rw [List.map_eq_flatMap]
    refine (s.readLines_code rfl).trans (List.flatMap_congr fun st hst => ?_)
    rw [hdialect]
    refine Statement.constructIds_render (hbinds.fits st hst) (h.makesOne st hst) ?_
    exact fun name hname => hnames name (List.mem_filterMap.2 ⟨st, hst, hname⟩)
  rw [hids]
  exact h.map_constructId_perm

end Makes

variable {r : Resource}

/-- A service account makes itself and one construct for each role. -/
theorem makes_serviceAccount (c : ServiceAccountConfig) :
    Makes r (serviceAccount .construct r c).statements
      ((ResourceConfig.serviceAccount c).labels r.id)
      (ResourceConfig.serviceAccount c).boundFields := by
  refine .declare rfl (by decide) (.close (.attach_map _ ?_ (by decide)) (.output ?_ .nil))
  · exact fun _ => rfl
  · exact Expression.makesNothing_member _ _ _

/-- A bucket makes itself and, if it is public, the construct that opens it. -/
theorem makes_storageBucket (c : BucketConfig) :
    Makes r (storageBucket .construct r c).statements
      ((ResourceConfig.bucket c).labels r.id) (ResourceConfig.bucket c).boundFields := by
  refine .declare rfl (by decide) (.close (.attach_ite _ rfl (by decide))
    (.output ?_ (.output ?_ .nil)))
  all_goals exact Expression.makesNothing_member _ _ _

/-- A secret makes itself alone. -/
theorem makes_secret (c : SecretConfig) :
    Makes r (secret .construct r c).statements
      ((ResourceConfig.secret c).labels r.id) (ResourceConfig.secret c).boundFields := by
  refine .declare rfl (by decide) (.output ?_ (.output ?_ (.output ?_ .nil)))
  · exact Expression.makesNothing_member _ _ _
  · exact Expression.makesNothing_member _ _ _
  · exact Expression.makesNothing_template _

/-- A topic makes itself alone. -/
theorem makes_pubsubTopic (c : TopicConfig) :
    Makes r (pubsubTopic .construct r c).statements
      ((ResourceConfig.topic c).labels r.id) (ResourceConfig.topic c).boundFields := by
  refine .declare rfl (by decide) (.output ?_ (.output ?_ .nil))
  all_goals exact Expression.makesNothing_member _ _ _

/-- A queue makes itself alone. -/
theorem makes_tasksQueue (c : QueueConfig) :
    Makes r (tasksQueue .construct r c).statements
      ((ResourceConfig.queue c).labels r.id) (ResourceConfig.queue c).boundFields := by
  refine .declare rfl (by decide) (.output ?_ (.output ?_ .nil))
  all_goals exact Expression.makesNothing_member _ _ _

/-- A network makes itself alone. -/
theorem makes_network (c : NetworkConfig) :
    Makes r (network .construct r c).statements
      ((ResourceConfig.network c).labels r.id) (ResourceConfig.network c).boundFields :=
  .declare rfl (by decide) .nil

/-- A subnet makes itself alone. -/
theorem makes_subnetwork (c : SubnetConfig) :
    Makes r (subnetwork .construct r c).statements
      ((ResourceConfig.subnet c).labels r.id) (ResourceConfig.subnet c).boundFields :=
  .declare rfl (by decide) .nil

/-- A firewall makes itself alone. -/
theorem makes_firewall (c : FirewallConfig) :
    Makes r (firewall .construct r c).statements
      ((ResourceConfig.firewall c).labels r.id) (ResourceConfig.firewall c).boundFields :=
  .declare rfl (by decide) .nil

/-- A registry makes itself alone. -/
theorem makes_artifactRegistry (c : RegistryConfig) :
    Makes r (artifactRegistry .construct r c).statements
      ((ResourceConfig.registry c).labels r.id) (ResourceConfig.registry c).boundFields :=
  .declare rfl (by decide) (.output (Expression.makesNothing_quoted _) .nil)

/-- A connector makes itself alone. -/
theorem makes_vpcConnector (c : ConnectorConfig) :
    Makes r (vpcConnector r c).statements
      ((ResourceConfig.connector c).labels r.id) (ResourceConfig.connector c).boundFields :=
  .declare rfl (by decide) .nil

/-- A container makes itself and, if anyone may call it, the construct that lets them. -/
theorem makes_container (c : ContainerConfig) :
    Makes r (container .construct r c).statements
      ((ResourceConfig.container c).labels r.id) (ResourceConfig.container c).boundFields := by
  simp only [container, List.append_assoc, List.singleton_append]
  refine .declare rfl (by decide) (.close (.attach_ite _ rfl (by decide)) (.output ?_ .nil))
  exact Expression.makesNothing_member _ _ _

/-- A user interface makes itself and the construct that lets everyone call it. -/
theorem makes_ui (c : UiConfig) :
    Makes r (ui r c).statements
      ((ResourceConfig.ui c).labels r.id) (ResourceConfig.ui c).boundFields := by
  refine .declare rfl (by decide) (.attach rfl (by decide) (.output ?_ .nil))
  exact Expression.makesNothing_member _ _ _

/-- A function makes its asset, source and archive before itself, and the construct that lets
everyone call it if that is allowed. -/
theorem makes_function (c : FunctionConfig) :
    Makes r (function .construct r c).statements
      ((ResourceConfig.function c).labels r.id) (ResourceConfig.function c).boundFields := by
  refine .declare rfl (by decide) (.declare rfl (by decide) (.declare rfl (by decide)
    (.declare rfl (by decide) (.close (.attach_ite _ rfl (by decide)) (.output ?_ .nil)))))
  exact Expression.makesNothing_member _ _ _

/-- A kernel makes itself alone, in either variant. -/
theorem makes_kernel (c : KernelConfig) :
    Makes r (kernel r c).statements
      ((ResourceConfig.kernel c).labels r.id) (ResourceConfig.kernel c).boundFields := by
  obtain ⟨kernelName, variant, image, region, machineType, port, env, connector⟩ := c
  cases variant with
  | native => exact .declare rfl (by decide) (.output (Expression.makesNothing_template _) .nil)
  | hybrid =>
    exact .declare rfl (by decide) (.output (Expression.makesNothing_member _ _ _) .nil)

/-- The label of a part that a load balancer has for a workload. -/
theorem label_routed (workload : String) (part : Part) :
    Dialect.construct.label r ("-" ++ workload ++ part.text) =
      PartLabel.text ⟨r.id ++ "-" ++ workload, part⟩ := by
  simp only [Dialect.label, PartLabel.text, String.append_assoc]

/-- For a workload that it leads to, a load balancer makes a group, a service and one construct for
each member that may pass. -/
theorem makes_backendStatements (c : LoadBalancerConfig) (t : RouteTarget) :
    Makes r (backendStatements .construct r c t)
      ((ResourceConfig.loadBalancer c).routeParts.map
        (⟨r.id ++ "-" ++ t.backend, ·⟩)) [] :=
  .declare (label_routed t.backend (.named "-neg")) (by decide)
    (.declare (label_routed t.backend (.named "-backend")) (by decide)
      (.attach_map _ (fun entry => label_routed t.backend (.numbered "-iap-" entry.2))
        (by decide)))

/-- A load balancer makes a proxy, and before it a certificate if there is a domain to certify. -/
theorem makes_proxyStatements (c : LoadBalancerConfig) :
    Makes r (proxyStatements .construct r c)
      (((if c.https && c.domain.isSome then [Part.named "-cert"] else [])
        ++ [Part.named "-proxy"]).map (⟨r.id, ·⟩)) [] := by
  unfold proxyStatements
  split
  · rename_i hhttps hdomain
    rw [hhttps, hdomain]
    exact .declare rfl (by decide) (.declare rfl (by decide) .nil)
  · rename_i hnone
    rw [certified_eq_false hnone]
    exact .declare rfl (by decide) .nil

/-- A load balancer makes what it has for each workload, each once, and then its own parts. -/
theorem makes_balancerStatements (c : LoadBalancerConfig) (first : RouteTarget) :
    Makes r (balancerStatements .construct r c first)
      ((ResourceConfig.loadBalancer c).labels r.id)
      (ResourceConfig.loadBalancer c).boundFields := by
  have hbackends := Makes.flatMap (firstRoutes [] c.routes) (makes_backendStatements (r := r) c)
  have hmap : Makes r
      [urlMapStatement .construct r c first,
        .declare (codeIdentifier r.name "address") (addressClass .construct)
          (Dialect.construct.label r "-address") [("name", .quoted (c.lbName ++ "-ip"))]]
      [⟨r.id, .named "-url-map"⟩, ⟨r.id, .named "-address"⟩] [] :=
    .declare rfl (by decide) (.declare rfl (by decide) .nil)
  have hlabels : (ResourceConfig.loadBalancer c).labels r.id =
      (firstRoutes [] c.routes).flatMap (fun t =>
          (ResourceConfig.loadBalancer c).routeParts.map (⟨r.id ++ "-" ++ t.backend, ·⟩))
        ++ [⟨r.id, .named "-url-map"⟩, ⟨r.id, .named "-address"⟩]
        ++ ((if c.https && c.domain.isSome then [Part.named "-cert"] else [])
          ++ [Part.named "-proxy"]).map (⟨r.id, ·⟩)
        ++ [⟨r.id, .named "-rule"⟩] := by
    simp [ResourceConfig.labels, ResourceConfig.routed, ResourceConfig.parts, List.flatMap_map]
  have hfields : (ResourceConfig.loadBalancer c).boundFields = ["ipAddress"] := by
    simp only [ResourceConfig.boundFields, ResourceConfig.endings]
    split <;> rfl
  rw [hlabels, hfields]
  refine ((hbackends.append hmap).append (makes_proxyStatements c)).append
    (.attach rfl (by decide) (.output ?_ .nil))
  exact Expression.makesNothing_member _ _ _

end Code

end Groundwork
