import Groundwork.Proofs.Code.Templates
import Groundwork.Proofs.Report.Names
import Groundwork.Proofs.Resolution.Backward
import Groundwork.Proofs.Resolution.Origins
import Groundwork.Proofs.Resolution.References

/-!
# The addresses that scheduled jobs call

A scheduled job calls the address of its target with a path after it.  The address is not known
before the target is set up, so it is a placeholder in a template, and the path of the description
stands after it in the same template, where nothing of it is escaped but backquotes.

Main definitions:

- `CronConfig.uri`: what the code of a job gives as its address.

Main result:

- `kept_after_placeholder_iff`: texts after placeholders, and the paths of jobs among them, are what
  the code means exactly if they have nothing in them that templates know.
-/

namespace Groundwork

open Code (Dialect Expression FieldList FitsPlaceholder IsVerbatim placeholder)

namespace Project

variable {p : Project} {r : Resource}

/-- In flat code the address of a target is a placeholder for its output. -/
theorem targetUrl_eq (hb : p.backend = .flat) (hcluster : p.cluster = none)
    {kind : RouteBackendKind} {target : String} {url : EnvValue}
    (h : p.renderReference ⟨kind.referenceType, target, none⟩ = .ok url) :
    url = .interpolation (placeholder (outputVariable target "url")) := by
  obtain ⟨output, houtput, ⟨hconstruct, -⟩ | ⟨-, hurl⟩⟩ := renderReference_cases hcluster h
  · rw [hb] at hconstruct
    cases hconstruct
  · cases kind <;> cases houtput <;> exact hurl

end Project

/-- The settings of the job with an id. -/
def Plan.cron? (p : Plan) (id : String) : Option CronConfig :=
  (p.get? id).bind fun r => SettingsKind.cron.select? r.config

theorem Plan.exists_of_cron? {p : Plan} {id : String} {c : CronConfig} (h : p.cron? id = some c) :
    ∃ r ∈ p.resources, r.config = .cron c := by
  obtain ⟨r, hr, hc⟩ := Option.bind_eq_some_iff.1 h
  exact ⟨r, List.mem_of_find?_eq_some hr, SettingsKind.select?_cron_eq_some_iff.1 hc⟩

/-! ## The code of jobs -/

/-- What the code of a job gives as its address, which stands in an object in another one. -/
def CronConfig.uri (c : CronConfig) : List Char :=
  hang Expression.pad
    (hang Expression.pad ((c.targetUrl.withSuffix c.path).render Dialect.flat.templateTag))

namespace Code

theorem ownLine_fieldText {key : String} (hkey : '\n' ∉ key.toList) (value : List Char) :
    Expression.ownLine (Expression.fieldText key value) =
      "\n  ".toList ++ key.toList ++ ": ".toList ++ hang Expression.pad value ++ [','] := by
  have hcomma : hang Expression.pad [','] = [','] := rfl
  have hcolon : hang Expression.pad [':', ' '] = [':', ' '] := rfl
  have htext : Expression.fieldText key value ++ [','] =
      key.toList ++ ([':', ' '] ++ (value ++ [','])) := by
    simp [Expression.fieldText]
  rw [Expression.ownLine, htext, hang_append, hang_append, hang_append, hang_eq_self hkey, hcolon,
    hcomma]
  simp [Expression.pad]

/-- The fields of the request that a job makes, as the code of the job has them. -/
theorem exists_httpTarget (tag : List Char) (uri method : Expression) (below : FieldList) :
    ∃ after, Expression.ownLine (Expression.fieldText "httpTarget"
        ((Expression.object (("uri", uri) :: ("httpMethod", method) :: below)).render tag)) =
      "\n  httpTarget: \x7b\n    uri: ".toList ++
        hang Expression.pad (hang Expression.pad (uri.render tag)) ++
        ",\n    httpMethod: ".toList ++ after := by
  obtain ⟨after, hinner⟩ : ∃ after,
      (Expression.object (("uri", uri) :: ("httpMethod", method) :: below)).render tag =
        "\x7b\n  uri: ".toList ++ hang Expression.pad (uri.render tag) ++
          ",\n  httpMethod: ".toList ++ after := by
    refine ⟨hang Expression.pad (method.render tag) ++ ',' ::
      (Expression.renderFieldLines tag below ++ ['\n', '\x7d']), ?_⟩
    rw [Expression.render, Expression.renderFieldLines, Expression.renderFieldLines,
      ownLine_fieldText (by decide), ownLine_fieldText (by decide)]
    simp
  have hfirst : hang Expression.pad "\x7b\n  uri: ".toList = "\x7b\n    uri: ".toList := by decide
  have hsecond : hang Expression.pad ",\n  httpMethod: ".toList = ",\n    httpMethod: ".toList := by
    decide
  refine ⟨hang Expression.pad after ++ [','], ?_⟩
  rw [ownLine_fieldText (by decide), hinner, hang_append, hang_append, hang_append, hfirst, hsecond]
  simp

/-- The settings of a resource stand in the statement that declares it. -/
theorem Statement.object_isInfix_render (d : Dialect) (identifier : String) (cls : ResourceClass)
    (label : String) (fields : FieldList) :
    (Expression.object fields).render d.templateTag <:+:
      (declare identifier cls label fields).render d := by
  have hnew : (Expression.object fields).render d.templateTag <:+:
      newResource d cls label fields := by
    unfold newResource
    generalize "new ".toList = making
    exact ⟨making ++ cls.name.toList ++ '(' :: d.scopeArgument ++ quote label.toList ++ [',', ' '],
      [')'], by simp⟩
  rw [render_declare]
  exact hnew.trans ⟨"const ".toList ++ identifier.toList ++ " = ".toList, [';'], rfl⟩

/-- The address in the code of a job. -/
theorem uri_isInfix_schedulerJob (r : Resource) (c : CronConfig) :
    "\n  httpTarget: \x7b\n    uri: ".toList ++ c.uri ++ ",\n    httpMethod: ".toList <:+:
      (schedulerJob r c).code.toList := by
  let body : FieldList := c.body.toList.map fun body =>
    ("body", .enclosed "Buffer.from(" (.quoted body) ").toString(\"base64\")")
  let target : FieldList :=
    ("uri", c.targetUrl.withSuffix c.path) :: ("httpMethod", .quoted c.method) :: body
  let above : FieldList :=
    [("name", .quoted c.jobName), ("region", .quoted c.region), ("schedule", .quoted c.schedule),
      ("timeZone", .quoted c.timeZone)]
  have hstatement : Statement.declare (codeIdentifier r.name "job") jobClass
      (Dialect.flat.label r "") (above ++ [("httpTarget", .object target)]) ∈
      (schedulerJob r c).statements := List.mem_singleton_self _
  obtain ⟨after, hafter⟩ := exists_httpTarget Dialect.flat.templateTag
    (c.targetUrl.withSuffix c.path) (.quoted c.method) body
  have hfields : "\n  httpTarget: \x7b\n    uri: ".toList ++ c.uri ++
      ",\n    httpMethod: ".toList <:+:
        (Expression.object (above ++ [("httpTarget", .object target)])).render
          Dialect.flat.templateTag := by
    refine ⟨'\x7b' :: Expression.renderFieldLines Dialect.flat.templateTag above,
      after ++ ['\n', '\x7d'], ?_⟩
    rw [Expression.render_object_append_cons, hafter]
    simp only [CronConfig.uri, List.append_assoc]
    rfl
  exact (hfields.trans (Statement.object_isInfix_render ..)).trans
    (Script.render_isInfix_code hstatement)

end Code

/-- The code of a job. -/
theorem Registry.generate_cron {r : Resource} {c : CronConfig}
    (htag : r.typeTag = Backend.flat.typeTag .cron) (hc : r.config = .cron c) :
    Registry.builtin.generate r = .ok (.script (Code.schedulerJob r c)) := by
  have hg : Definition.ofScript (Backend.flat.typeTag .cron) .cron Code.schedulerJob ∈
      Backend.flat.definitions := by
    simp [Backend.definitions, Backend.flatDefinitions]
  rw [Registry.generate_of_mem (Registry.mem_definitions_builtin hg) htag]
  exact Definition.generate_of (by rw [hc]; rfl)

/-- In both dialects a text after a placeholder is what the code means exactly if it has nothing in
it that templates know.  The same holds of the paths of jobs, whose code is nested, if they have no
line feed either. -/
theorem kept_after_placeholder_iff (dialect : Dialect) {id : String} (hid : FitsPlaceholder id)
    (suffix : String) :
    ((∀ value, dialect.templateValue? value
        (((EnvValue.interpolation (placeholder id)).withSuffix suffix).render
          dialect.templateTag) = some (value id.toList ++ suffix.toList)) ↔
      IsVerbatim suffix.toList) ∧
    ∀ (d : Description) (p : Plan), d.compile = .ok p →
      ∀ r ∈ p.resources, ∀ c, r.config = .cron c →
        ∃ spec ∈ d.crons, r.id = ResourceKind.cron.nodeId spec.name ∧ c.path = spec.path ∧
          d.cronTarget spec.target = .ok (c.targetKind, c.target) ∧
          (∃ b ∈ (p.generateAll .builtin).blocks, b.resourceId = r.id ∧
            "\n  httpTarget: \x7b\n    uri: ".toList ++ c.uri ++
              ",\n    httpMethod: ".toList <:+: b.code.toList) ∧
          ((∀ value, Dialect.flat.templateValue? value c.uri =
              some (value (outputVariable c.target "url").toList ++ c.path.toList)) ↔
            IsVerbatim c.path.toList ∧ '\n' ∉ c.path.toList) := by
  constructor
  · rw [EnvValue.withSuffix, dialect.render_template, String.toList_append,
      dialect.templateValue?_placeholder_iff hid]
    simp
  · intro d p h r hr c hc
    have hcompiles := Description.compile_eq_ok_iff.1 h
    obtain ⟨spec, hspec, nodes, hnodes, hmem⟩ :=
      (hcompiles.origin hr).exists_cron (by rw [hc]; rfl)
    obtain ⟨hnode, htag, hpath, htarget, hurl⟩ := Project.config_of_mem_cronNodes hnodes hmem hc
    have hb : (Project.of d).backend = .flat := hcompiles.legal.backend_of_cron hspec
    have hcluster : (Project.of d).cluster = none := by
      refine hcompiles.cluster_eq_none_iff.2 ?_
      rw [show d.project.backend = .flat from hb]
      exact Backend.noConfusion
    rw [hb] at htag
    refine ⟨spec, hspec, hnode, hpath, htarget, ⟨⟨r.id, r.typeTag, _⟩, ?_, rfl,
      Code.uri_isInfix_schedulerJob r c⟩, ?_⟩
    · have hordered := (Plan.ordered_perm hcompiles.nodup_ids
        hcompiles.isGreedyOrder.perm).mem_iff.2 hr
      exact List.mem_map.2 ⟨(r, .script (Code.schedulerJob r c)),
        Report.mem_artifacts_iff.2 ⟨hordered, Registry.generate_cron htag hc⟩, rfl⟩
    · have hname : FitsPlaceholder (outputVariable c.target "url") :=
        Code.fitsPlaceholder_of_isIdentifier ((isIdentifier_sanitizeIdentifier c.target).append
          (Ending.isIdentifier_text (e := .field "url") (by decide)))
      have huri : c.uri = Dialect.flat.templateLiteral 4
          ((placeholder (outputVariable c.target "url")).toList ++ c.path.toList) := by
        rw [CronConfig.uri, Project.targetUrl_eq hb hcluster hurl, EnvValue.withSuffix,
          Dialect.render_template, Dialect.hang_templateLiteral, Dialect.hang_templateLiteral,
          String.toList_append]
      rw [huri, Dialect.flat.templateValue?_placeholder_iff hname]
      simp

/-- A longer path would be kept in a stack, and the job of the shop calls the root of its target. -/
theorem kept_after_placeholder_iff_nightly :
    (∀ value, Dialect.construct.templateValue? value
      (((EnvValue.interpolation (placeholder "apiUrl")).withSuffix "/orders").render
        Dialect.construct.templateTag) = some (value "apiUrl".toList ++ "/orders".toList)) ∧
    ∃ p r c, Description.nightly.compile = .ok p ∧ r ∈ p.resources ∧ r.config = .cron c ∧
      c.target = "api" ∧ c.path = "/" ∧
      (∃ b ∈ (p.generateAll .builtin).blocks, b.resourceId = r.id ∧
        "\n  httpTarget: \x7b\n    uri: ".toList ++ c.uri ++
          ",\n    httpMethod: ".toList <:+: b.code.toList) ∧
      ∀ value, Dialect.flat.templateValue? value c.uri =
        some (value (outputVariable c.target "url").toList ++ c.path.toList) := by
  have hfits : FitsPlaceholder "apiUrl" := ⟨by decide, by decide, by decide⟩
  constructor
  · have hverbatim : IsVerbatim "/orders".toList := by decide +kernel
    exact (kept_after_placeholder_iff .construct hfits "/orders").1.2 hverbatim
  · have hjob : (Description.nightly.compile.toOption.bind (·.cron? "cron-report")).map
        (fun c => (c.target, c.path)) = some ("api", "/") := by
      decide +kernel
    cases hcompile : Description.nightly.compile with
    | error e =>
      rw [hcompile] at hjob
      cases hjob
    | ok p =>
      rw [hcompile] at hjob
      obtain ⟨c, hc, heq⟩ := Option.map_eq_some_iff.1 hjob
      obtain ⟨htarget, hpath⟩ := Prod.mk.inj heq
      obtain ⟨r, hr, hconfig⟩ := Plan.exists_of_cron? hc
      obtain ⟨spec, -, -, -, -, hblock, hkept⟩ :=
        (kept_after_placeholder_iff .construct hfits "/orders").2 Description.nightly p hcompile
          r hr c hconfig
      refine ⟨p, r, c, rfl, hr, hconfig, htarget, hpath, hblock, hkept.2 ?_⟩
      rw [hpath]
      decide +kernel

/-- The same description with a backslash in the path of its job. -/
def Description.daily : Description :=
  { nightly with crons := [⟨"report", "0 3 * * *", "api", "UTC", "/jobs\\daily", "POST", none⟩] }

/-- The job calls another path, which is without the backslash. -/
theorem not_kept_after_placeholder_daily :
    ∃ p r c, Description.daily.compile = .ok p ∧ r ∈ p.resources ∧ r.config = .cron c ∧
      c.target = "api" ∧ c.path = "/jobs\\daily" ∧
      Dialect.flat.templateValue? (fun code => code) c.uri = some "apiUrl/jobsdaily".toList ∧
      ¬ ∀ value, Dialect.flat.templateValue? value c.uri =
        some (value (outputVariable c.target "url").toList ++ c.path.toList) := by
  have hjob : (Description.daily.compile.toOption.bind (·.cron? "cron-report")).map
      (fun c => (c.target, c.path, Dialect.flat.templateValue? (fun code => code) c.uri)) =
        some ("api", "/jobs\\daily", some "apiUrl/jobsdaily".toList) := by
    decide +kernel
  cases hcompile : Description.daily.compile with
  | error e =>
    rw [hcompile] at hjob
    cases hjob
  | ok p =>
    rw [hcompile] at hjob
    obtain ⟨c, hc, heq⟩ := Option.map_eq_some_iff.1 hjob
    simp only [Prod.mk.injEq] at heq
    obtain ⟨htarget, hpath, huri⟩ := heq
    obtain ⟨r, hr, hconfig⟩ := Plan.exists_of_cron? hc
    refine ⟨p, r, c, rfl, hr, hconfig, htarget, hpath, huri, fun hkept => ?_⟩
    have hother := hkept fun code => code
    rw [huri, htarget, hpath] at hother
    exact absurd hother (by decide +kernel)

end Groundwork
