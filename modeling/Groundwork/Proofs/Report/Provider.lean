import Groundwork.Proofs.Code.Imports
import Groundwork.Proofs.Code.Literals
import Groundwork.Proofs.Naming.Reference
import Groundwork.Proofs.Report.Names
import Groundwork.Report.Program
import Mathlib.Data.List.TakeWhile

/-!
# The provider of a stack

The program of a stack configures its provider on one line, for the project and the region of the
plan.  Both come from the description as they are and are put between quotes as they are, so the
line means what it should only where nothing in them has to be escaped.

Main definitions:

- `providerLine?`: the line of a program that makes the provider.

Main results:

- `Report.providerLine?_render`: it is the line that the report makes for its project and region.
- `Plan.provider_configured_iff`: the line configures the project and the region of the plan exactly
  if nothing in them has to be escaped.
-/

namespace Groundwork

open Code (Imports IsImport IsPlain quotedValue? readLines splitWhere_eq_cons)

/-! ## Reading programs -/

/-- How a line begins that makes a provider. -/
def providerStart : List Char := "    new GoogleProvider(".toList

/-- The line that makes a provider, given the code for its project and its region. -/
def providerCall (project region : List Char) : List Char :=
  "    new GoogleProvider(this, \"google\", \x7b project: ".toList ++ project
    ++ ", region: ".toList ++ region ++ " \x7d);".toList

/-- A line that makes a provider. -/
def provider? (line : List Char) : Option (List Char) :=
  if providerStart <+: line then some line else none

/-- The first line of a program that makes a provider. -/
def providerLine? (program : List Char) : Option (List Char) :=
  (readLines provider? program).head?

/-- A text without places to split at is one piece. -/
theorem splitWhere_eq_singleton {p : Char → Bool} {text : List Char}
    (h : ∀ c ∈ text, p c = false) : splitWhere p text = [text] := by
  induction text with
  | nil => rfl
  | cons c text ih =>
    obtain ⟨hc, htext⟩ := List.forall_mem_cons.1 h
    rw [splitWhere, hc, ih htext]

/-- One line that makes no provider. -/
theorem readLines_provider?_eq_nil {text : List Char} (hline : '\n' ∉ text)
    (h : ¬ providerStart <+: text) : readLines provider? text = [] := by
  have hpieces : splitWhere (· = '\n') text = [text] := by
    refine splitWhere_eq_singleton fun c hc => ?_
    rw [decide_eq_false_iff_not]
    rintro rfl
    exact hline hc
  have hnone : provider? text = none := if_neg h
  rw [readLines, hpieces, List.filterMap_cons_none hnone, List.filterMap_nil]

/-- A line that does not start with a blank configures no provider. -/
theorem readLines_provider?_eq_nil_of_head? {text : List Char} {c : Char} (hline : '\n' ∉ text)
    (hhead : text.head? = some c) (hc : c ≠ ' ') : readLines provider? text = [] := by
  refine readLines_provider?_eq_nil hline ?_
  rintro ⟨rest, rfl⟩
  exact hc (Option.some.inj hhead).symm

/-- Of a text that begins like a provider, the first line makes one. -/
theorem head?_readLines_provider? {text : List Char} (h : providerStart <+: text) :
    (readLines provider? text).head? = some (text.takeWhile (· ≠ '\n')) := by
  obtain ⟨more, hmore⟩ := splitWhere_eq_cons (· = '\n') text
  have hfirst : providerStart <+: text.takeWhile fun c => !decide (c = '\n') := by
    obtain ⟨rest, rfl⟩ := h
    have hline : ∀ c ∈ providerStart, (!decide (c = '\n')) = true := by
      intro c hc
      rw [Bool.not_eq_true', decide_eq_false_iff_not]
      rintro rfl
      exact absurd hc (by decide)
    rw [List.takeWhile_append_of_pos hline]
    exact List.prefix_append _ _
  have hsome : provider? (text.takeWhile fun c => !decide (c = '\n')) =
      some (text.takeWhile fun c => !decide (c = '\n')) := if_pos hfirst
  rw [readLines, hmore, List.filterMap_cons_some hsome, List.head?_cons]
  simp

/-! ## The line for a project -/

/-- Text is split at every such place. -/
theorem forall_mem_splitWhere (p : Char → Bool) (text : List Char) :
    ∀ piece ∈ splitWhere p text, ∀ c ∈ piece, p c = false := by
  induction text with
  | nil => simp [splitWhere]
  | cons c text ih =>
    obtain ⟨more, hmore⟩ := splitWhere_eq_cons p text
    rw [hmore] at ih
    obtain ⟨hfirst, hrest⟩ := List.forall_mem_cons.1 ih
    cases hc : p c with
    | true =>
      rw [splitWhere, hc, hmore]
      exact List.forall_mem_cons.2 ⟨List.forall_mem_nil _, ih⟩
    | false =>
      rw [splitWhere, hc, hmore]
      exact List.forall_mem_cons.2 ⟨List.forall_mem_cons.2 ⟨hc, hfirst⟩, hrest⟩

/-- Letters and digits are ASCII. -/
theorem toNat_lt_of_isAlphanum {c : Char} (h : c.isAlphanum = true) : c.toNat < 0x80 := by
  have hbelow : ∀ {last : Char}, last.toNat < 0x80 → c ≤ last → c.toNat < 0x80 :=
    fun hlast hle => Nat.lt_of_le_of_lt (UInt32.le_iff_toNat_le.1 hle) hlast
  rcases Bool.or_eq_true_iff.1 h with halpha | hdigit
  · rcases isAlpha_iff.1 halpha with hupper | hlower
    · exact hbelow (by decide) (isUpper_iff.1 hupper).2
    · exact hbelow (by decide) (isLower_iff.1 hlower).2
  · exact hbelow (by decide) (isDigit_iff.1 hdigit).2

/-- No letter becomes a line feed in uppercase. -/
theorem lineFeed_not_mem_uppercaseChar {c : Char} (h : c.isAlphanum = true) :
    '\n' ∉ uppercaseChar c := by
  rw [uppercaseChar_of_ascii (toNat_lt_of_isAlphanum h), List.mem_singleton]
  intro hline
  unfold Char.toUpper at hline
  split at hline
  · rename_i hlower
    rw [UInt32.le_iff_toNat_le, UInt32.le_iff_toNat_le] at hlower
    have hcode := congrArg (fun d : Char => d.val.toNat) hline
    simp only [UInt32.toNat_add] at hcode
    have hfirst : 'a'.val.toNat = 97 := rfl
    have hlast : 'z'.val.toNat = 122 := rfl
    have hraised : ('A'.val - 'a'.val).toNat = 2 ^ 32 - 32 := rfl
    have hfeed : '\n'.val.toNat = 10 := rfl
    omega
  · subst hline
    exact absurd h (by decide)

/-- A word of letters and digits stays on its line when it is capitalized. -/
theorem lineFeed_not_mem_capitalize {word : String}
    (h : ∀ c ∈ word.toList, c.isAlphanum = true) : '\n' ∉ (capitalize word).toList := by
  unfold capitalize
  cases hword : word.toList with
  | nil => decide
  | cons c rest =>
    rw [hword] at h
    obtain ⟨hc, hrest⟩ := List.forall_mem_cons.1 h
    dsimp only
    rw [String.toList_ofList]
    exact List.not_mem_append (lineFeed_not_mem_uppercaseChar hc)
      fun hmem => absurd (hrest _ hmem) (by decide)

/-- The name of a stack's class is one word. -/
theorem lineFeed_not_mem_stackClass (project : String) : '\n' ∉ (stackClass project).toList := by
  have hwords : '\n' ∉ (String.join ((wordsOf project).map capitalize)).toList := by
    rw [String.toList_join, List.flatMap_map, wordsOf, List.flatMap_map]
    intro hmem
    obtain ⟨piece, hpiece, hmem⟩ := List.mem_flatMap.1 hmem
    refine lineFeed_not_mem_capitalize ?_ hmem
    rw [String.toList_ofList]
    intro c hc
    simpa using forall_mem_splitWhere _ _ piece (List.mem_of_mem_filter hpiece) c hc
  unfold stackClass
  dsimp only
  rw [String.toList_append]
  refine List.not_mem_append ?_ (by decide)
  split
  · exact hwords
  · rw [String.toList_append]
    exact List.not_mem_append (by decide) hwords

namespace Report

variable {r : Report}

/-- The line that makes the provider, with the project and the region between quotes. -/
theorem toList_providerLine (r : Report) :
    r.providerLine.toList = providerCall ('"' :: (r.project.cloudProjectId.toList ++ ['"']))
      ('"' :: (r.project.region.toList ++ ['"'])) := by
  -- Taken apart in place, the literals would be compared character by character.
  have hparts : ∀ a b c d e : String, (a ++ b ++ c ++ d ++ e).toList =
      a.toList ++ b.toList ++ c.toList ++ d.toList ++ e.toList := by
    intros
    simp only [String.toList_append]
  have hregroup : ∀ {quoted between closing first second third : List Char},
      quoted = first ++ ['"'] → between = '"' :: (second ++ ['"']) → closing = '"' :: third →
      ∀ project region : List Char, quoted ++ project ++ between ++ region ++ closing =
        first ++ '"' :: (project ++ ['"']) ++ second ++ '"' :: (region ++ ['"']) ++ third := by
    rintro _ _ _ first second third rfl rfl rfl project region
    simp
  have hfirst : "    new GoogleProvider(this, \"google\", \x7b project: \"".toList =
      "    new GoogleProvider(this, \"google\", \x7b project: ".toList ++ ['"'] :=
    String.toList_append (s := "    new GoogleProvider(this, \"google\", \x7b project: ")
      (t := "\"")
  have hsecond : "\", region: \"".toList = '"' :: (", region: ".toList ++ ['"']) := rfl
  have hthird : "\" \x7d);".toList = '"' :: " \x7d);".toList := rfl
  exact (hparts _ _ _ _ _).trans (hregroup hfirst hsecond hthird _ _)

/-- A provider's line has a beginning of its own. -/
theorem providerStart_isPrefix (project region : List Char) :
    providerStart <+: providerCall project region := by
  have hfirst : providerStart <+:
      "    new GoogleProvider(this, \"google\", \x7b project: ".toList := by decide
  have hbegins : ∀ first second third : List Char,
      first <+: first ++ project ++ second ++ region ++ third := by
    intros
    simp only [List.append_assoc]
    exact List.prefix_append _ _
  exact hfirst.trans (hbegins _ _ _)

/-- The provider's line is one line if the project and the region stay on theirs. -/
theorem lineFeed_not_mem_providerCall {project region : List Char} (hproject : '\n' ∉ project)
    (hregion : '\n' ∉ region) : '\n' ∉ providerCall project region :=
  List.not_mem_append (List.not_mem_append (List.not_mem_append
    (List.not_mem_append (by decide) hproject) (by decide)) hregion) (by decide)

/-- The project and the region are all that varies in the length of the provider's line. -/
theorem length_providerCall (project region : List Char) :
    (providerCall project region).length =
      (providerCall [] []).length + project.length + region.length := by
  have hlength : ∀ first second third : List Char,
      (first ++ project ++ second ++ region ++ third).length =
        (first ++ [] ++ second ++ [] ++ third).length + project.length + region.length := by
    intros
    simp only [List.length_append, List.length_nil]
    omega
  exact hlength _ _ _

/-- The lines of a stack before the one that makes the provider. -/
def linesAbove (r : Report) : List String :=
  ["import \x7b Construct \x7d from \"constructs\";",
   "import \x7b App, TerraformStack \x7d from \"cdktf\";",
   "import \x7b GoogleProvider \x7d from \"@cdktf/provider-google/lib/provider\";"]
  ++ r.imports
  ++ ["",
      "class " ++ stackClass r.project.name ++ " extends TerraformStack \x7b",
      "  constructor(scope: Construct, id: string) \x7b",
      "    super(scope, id);",
      ""]

/-- The provider's line stands in every stack, after what stands above it. -/
theorem exists_stackLines (r : Report) :
    ∃ below, r.stackLines = r.linesAbove ++ r.providerLine :: below := by
  refine ⟨r.bodies.flatMap (fun body => ["", indent 4 body]) ++
    ["  \x7d", "\x7d", "", "const app = new App();",
      "new " ++ stackClass r.project.name ++ "(app, \"" ++ r.project.name ++ "\");",
      "app.synth();"], ?_⟩
  rw [stackLines, linesAbove]
  simp only [List.append_assoc, List.cons_append, List.nil_append]

/-- Nothing above the provider's line reads like one. -/
theorem readLines_linesAbove (himports : ∀ line ∈ r.imports, IsImport line) :
    ∀ line ∈ r.linesAbove, readLines provider? line.toList = [] := by
  have hclass : readLines provider?
      ("class " ++ stackClass r.project.name ++ " extends TerraformStack \x7b").toList = [] := by
    have htext : ("class " ++ stackClass r.project.name ++ " extends TerraformStack \x7b").toList =
        "class ".toList ++ ((stackClass r.project.name).toList ++
          " extends TerraformStack \x7b".toList) := by
      simp only [String.toList_append, List.append_assoc]
    rw [htext]
    refine readLines_provider?_eq_nil_of_head? (c := 'c') ?_ rfl (by decide)
    exact List.not_mem_append (by decide) (List.not_mem_append
      (lineFeed_not_mem_stackClass _) (by decide))
  have himport : ∀ {line : String}, IsImport line → readLines provider? line.toList = [] :=
    fun h => readLines_provider?_eq_nil_of_head? h.2 h.1 (by decide)
  rw [linesAbove, List.forall_mem_append, List.forall_mem_append]
  refine ⟨⟨?_, fun line hline => himport (himports line hline)⟩, ?_⟩
  · simp only [List.forall_mem_cons]
    exact ⟨himport (.of_chars rfl rfl (by decide)), himport (.of_chars rfl rfl (by decide)),
      himport (.of_chars rfl rfl (by decide)), nofun⟩
  · have hblank : readLines provider? "".toList = [] :=
      readLines_provider?_eq_nil (by decide) (by decide)
    simp only [List.forall_mem_cons]
    exact ⟨hblank, hclass, readLines_provider?_eq_nil (by decide) (by decide),
      readLines_provider?_eq_nil (by decide) (by decide), hblank, nofun⟩

/-- The line of a stack's program that makes the provider is the one for the project and region. -/
theorem providerLine?_render (hb : r.project.backend = .construct)
    (himports : ∀ line ∈ r.imports, IsImport line) :
    providerLine? r.render.toList = some (r.providerLine.toList.takeWhile (· ≠ '\n')) := by
  obtain ⟨below, hlines⟩ := r.exists_stackLines
  have htext : r.render.toList =
      ['\n'].intercalate ((r.linesAbove ++ r.providerLine :: below).map String.toList) ++
        ['\n'] := by
    rw [render, hb, ← hlines, String.toList_append, String.toList_intercalate]
    rfl
  have habove : (r.linesAbove.map String.toList).flatMap (readLines provider?) = [] := by
    rw [List.flatMap_map, List.flatMap_eq_nil_iff]
    exact readLines_linesAbove himports
  have hstart : providerStart <+: r.providerLine.toList := by
    rw [toList_providerLine]
    exact providerStart_isPrefix _ _
  have hlast : (readLines provider? r.providerLine.toList).head? =
      some (r.providerLine.toList.takeWhile (· ≠ '\n')) := head?_readLines_provider? hstart
  rw [providerLine?, htext, Code.readLines_append_lineFeed, Code.readLines_intercalate rfl,
    List.map_append, List.map_cons, List.flatMap_append, habove, List.flatMap_cons, List.nil_append,
    List.append_assoc, List.head?_append, hlast]
  rfl

/-- The line of a program that makes the provider gives the project and the region as literals that
stand for them exactly if nothing in them has to be escaped. -/
theorem exists_literals_iff (r : Report) :
    (∃ project region,
      r.providerLine.toList.takeWhile (· ≠ '\n') = providerCall project region ∧
      quotedValue? project = some r.project.cloudProjectId.toList ∧
      quotedValue? region = some r.project.region.toList) ↔
    IsPlain r.project.cloudProjectId.toList ∧ IsPlain r.project.region.toList := by
  constructor
  · rintro ⟨project, region, hline, hproject, hregion⟩
    obtain ⟨hproject, hplain⟩ := Code.length_of_quotedValue? hproject
    obtain ⟨hregion, hplain'⟩ := Code.length_of_quotedValue? hregion
    -- The line is not longer than the values with their quotes allow.
    have hlength := (List.takeWhile_prefix (p := (· ≠ '\n')) (l := r.providerLine.toList)).length_le
    rw [hline, toList_providerLine, length_providerCall project region,
      length_providerCall ('"' :: _)] at hlength
    simp only [List.length_append, List.length_cons, List.length_nil] at hlength
    exact ⟨(hplain (by omega)).2, (hplain' (by omega)).2⟩
  · rintro ⟨hproject, hregion⟩
    have hquoted : ∀ {cs : List Char}, IsPlain cs → '\n' ∉ '"' :: (cs ++ ['"']) := by
      intro cs hplain
      refine List.not_mem_cons_of_ne_of_not_mem (by decide) (List.not_mem_append ?_ (by decide))
      exact fun hmem => (hplain _ hmem).2.2.1 rfl
    refine ⟨_, _, ?_, Code.quotedValue?_quotes_iff.2 hproject,
      Code.quotedValue?_quotes_iff.2 hregion⟩
    rw [toList_providerLine, List.takeWhile_eq_self_iff]
    intro c hc
    rw [decide_eq_true_eq]
    rintro rfl
    exact lineFeed_not_mem_providerCall (hquoted hproject) (hquoted hregion) hc

end Report

/-! ## The provider of a plan -/

/-- Every generator for stacks needs only lines that import something. -/
theorem Backend.imports_of_mem : ∀ g ∈ construct.definitions,
    g.Writes .construct fun _ _ statements => Imports statements :=
  writes_constructDefinitions
    { serviceAccount := fun _ => Code.imports_serviceAccount
      bucket := fun _ => Code.imports_storageBucket
      secret := fun _ => Code.imports_secret
      topic := fun _ => Code.imports_pubsubTopic
      queue := fun _ => Code.imports_tasksQueue
      network := fun _ => Code.imports_network
      subnet := fun _ => Code.imports_subnetwork
      firewall := fun _ => Code.imports_firewall
      registry := fun _ => Code.imports_artifactRegistry
      container := fun _ => Code.imports_container
      function := fun _ => Code.imports_function
      loadBalancer := fun _ => Code.imports_balancerStatements
      connector := fun _ => Code.imports_vpcConnector
      kernel := fun _ => Code.imports_kernel
      ui := fun _ => Code.imports_ui }

/-- The imports of a stack's program are lines that import something. -/
theorem Description.Compiles.isImport_of_mem {d : Description} {p : Plan} (h : d.Compiles p)
    (hb : d.project.backend = .construct) :
    ∀ line ∈ (p.generateAll .builtin).imports, IsImport line := by
  intro line hline
  rw [Plan.generateAll, List.mem_eraseDups] at hline
  obtain ⟨⟨r, a⟩, hmade, hline⟩ := List.mem_flatMap.1 hline
  obtain ⟨hr, ha⟩ := Report.mem_artifacts_iff.1 hmade
  obtain ⟨g, hg, a', ha', hmade'⟩ := h.exists_definition (Plan.mem_resources_of_mem_ordered hr)
  obtain rfl : a = a' := Except.ok.inj (ha.symm.trans hmade')
  rw [hb] at hg
  obtain ⟨s, rfl, hdialect, himports⟩ := Backend.imports_of_mem g hg r a ha'
  exact himports.of_mem_imports hdialect line hline

/-- The line of a compiled stack's program that makes the provider. -/
theorem Description.Compiles.providerLine?_render {d : Description} {p : Plan} (h : d.Compiles p)
    (hb : d.project.backend = .construct) :
    providerLine? (p.generateAll .builtin).render.toList =
      some ((p.generateAll .builtin).providerLine.toList.takeWhile (· ≠ '\n')) := by
  have hproject : (p.generateAll .builtin).project.backend = .construct := by
    show p.project.backend = .construct
    rw [h.project_eq]
    exact hb
  exact Report.providerLine?_render hproject (h.isImport_of_mem hb)

namespace Plan

/-- The program of a compiled stack has one line first that makes the provider, and this gives the
project and the region of the plan as literals that stand for them exactly if neither has a quote, a
backslash or the end of a line in it. -/
theorem provider_configured_iff {d : Description} {p : Plan} (h : d.compile = .ok p)
    (hb : d.project.backend = .construct) :
    ∃ line, providerLine? (p.generateAll .builtin).render.toList = some line ∧
      ((∃ project region, line = providerCall project region ∧
          quotedValue? project = some p.project.cloudProjectId.toList ∧
          quotedValue? region = some p.project.region.toList) ↔
        IsPlain p.project.cloudProjectId.toList ∧ IsPlain p.project.region.toList) := by
  have hcompiles := Description.compile_eq_ok_iff.1 h
  exact ⟨_, hcompiles.providerLine?_render hb, Report.exists_literals_iff _⟩

/-- The shop as constructs: its provider is configured for it. -/
theorem provider_configured_iff_storefront :
    ∃ p line, (Description.storefront .construct).compile = .ok p ∧
      providerLine? (p.generateAll .builtin).render.toList = some line ∧
      ∃ project region, line = providerCall project region ∧
        quotedValue? project = some "storefront".toList ∧
        quotedValue? region = some "us-central1".toList := by
  have hcompiles : (Description.storefront .construct).compile.toOption.isSome = true := by
    decide +kernel
  cases hcompile : (Description.storefront .construct).compile with
  | error e =>
    rw [hcompile] at hcompiles
    cases hcompiles
  | ok p =>
    obtain ⟨line, hline, hconfigured⟩ := provider_configured_iff hcompile rfl
    have hproject := (Description.compile_eq_ok_iff.1 hcompile).project_eq
    rw [hproject] at hconfigured
    exact ⟨p, line, rfl, hline, hconfigured.2 ⟨by decide, by decide⟩⟩

end Plan

/-- The shop as constructs, in a region with a quote in its name. -/
def Description.abroad : Description :=
  { storefront .construct with project := ⟨"storefront", "us\"1", none, .construct⟩ }

/-- The region stands between quotes as it is, and no literals for the project and the region make
up the line of its provider. -/
theorem Plan.not_provider_configured_abroad :
    ∃ p line, Description.abroad.compile = .ok p ∧ p.project.region = "us\"1" ∧
      providerLine? (p.generateAll .builtin).render.toList = some line ∧
      line = providerCall "\"storefront\"".toList "\"us\"1\"".toList ∧
      ¬ ∃ project region, line = providerCall project region ∧
        quotedValue? project = some p.project.cloudProjectId.toList ∧
        quotedValue? region = some p.project.region.toList := by
  have hcompiles : Description.abroad.compile.toOption.isSome = true := by
    decide +kernel
  cases hcompile : Description.abroad.compile with
  | error e =>
    rw [hcompile] at hcompiles
    cases hcompiles
  | ok p =>
    have hcompiled := Description.compile_eq_ok_iff.1 hcompile
    have hproject : (p.generateAll .builtin).project = (Project.of Description.abroad).info :=
      hcompiled.project_eq
    have hregion : p.project.region = "us\"1" := by
      rw [hcompiled.project_eq]
      rfl
    refine ⟨p, _, rfl, hregion, hcompiled.providerLine?_render rfl, ?_, ?_⟩
    · rw [Report.toList_providerLine, hproject]
      decide +kernel
    · intro hconfigured
      have hplain := ((p.generateAll .builtin).exists_literals_iff.1 hconfigured).2
      rw [hproject] at hplain
      exact absurd hplain (by decide)

end Groundwork
