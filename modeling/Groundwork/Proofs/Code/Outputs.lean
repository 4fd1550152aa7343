import Groundwork.Code.Database
import Groundwork.Code.Messaging
import Groundwork.Code.Service

/-!
# What scripts bind

The outputs of the resources that references point at, and the identifiers under which workloads are
declared.  Whatever a script declares stands in its text.

Main results:

- `Script.render_isInfix_code`: the text of a script holds the text of each statement.
- `Script.Declares.isInfix_code`: a declaration binds its identifier in the text.
- `outputs_secret` and its siblings: the outputs of each script, in order.
- `container_declares`, `function_declares`: workloads are declared under their own label.
-/

namespace Groundwork.Code

/-! ## Statements in code -/

/-- Each of the parts that are put together stands in the whole. -/
theorem isInfix_intercalate {α : Type} {sep part : List α} {parts : List (List α)}
    (h : part ∈ parts) : part <:+: sep.intercalate parts := by
  induction parts with
  | nil => cases h
  | cons first rest ih =>
    by_cases hrest : rest = []
    · subst hrest
      have hpart : part = first := List.mem_singleton.1 h
      exact ⟨[], [], by simp [hpart]⟩
    · rw [List.intercalate_cons_of_ne_nil hrest]
      rcases List.mem_cons.1 h with rfl | h
      · exact ⟨[], sep ++ sep.intercalate rest, by simp⟩
      · exact (ih h).trans ⟨first ++ sep, [], by simp⟩

/-- A declared resource is bound to its identifier where it is made. -/
@[simp]
theorem Statement.render_declare (d : Dialect) (identifier : String) (cls : ResourceClass)
    (label : String) (fields : FieldList) :
    (declare identifier cls label fields).render d =
      "const ".toList ++ identifier.toList ++ " = ".toList ++ newResource d cls label fields ++
        [';'] :=
  rfl

namespace Script

variable {s : Script}

/-- Every statement stands in the code of its script. -/
theorem render_isInfix_code {st : Statement} (h : st ∈ s.statements) :
    st.render s.dialect <:+: s.code.toList := by
  rw [code, String.toList_intercalate]
  apply isInfix_intercalate
  rw [List.map_map, List.mem_map]
  exact ⟨st, h, String.toList_ofList⟩

/-- A script makes a resource with a label and binds it to an identifier. -/
def Declares (s : Script) (identifier label : String) : Prop :=
  ∃ cls fields, Statement.declare identifier cls label fields ∈ s.statements

/-- What a script declares is bound to its identifier in the text. -/
theorem Declares.isInfix_code {identifier label : String} (h : s.Declares identifier label) :
    ("const " ++ identifier ++ " = new ").toList <:+: s.code.toList := by
  obtain ⟨cls, fields, hmem⟩ := h
  have hsplit : " = new ".toList = " = ".toList ++ "new ".toList := by decide
  refine List.IsInfix.trans (List.IsPrefix.isInfix ?_) (render_isInfix_code hmem)
  simp only [String.toList_append, hsplit, Statement.render_declare]
  unfold Statement.newResource
  generalize "const ".toList = binding
  generalize " = ".toList = equals
  generalize "new ".toList = making
  simp [List.append_assoc]

end Script

/-! ## The outputs of scripts -/

variable (d : Dialect) (r : Resource)

/-- A secret gives out its id, its name and its version. -/
theorem outputs_secret (c : SecretConfig) :
    (secret d r c).outputs =
      ["secretId", "secretName", "secretVersion"].map (outputVariable r.name) :=
  rfl

/-- A topic gives out its name and its id. -/
theorem outputs_pubsubTopic (c : TopicConfig) :
    (pubsubTopic d r c).outputs = ["name", "topicId"].map (outputVariable r.name) :=
  rfl

/-- A queue gives out its name and its id. -/
theorem outputs_tasksQueue (c : QueueConfig) :
    (tasksQueue d r c).outputs = ["name", "queueId"].map (outputVariable r.name) :=
  rfl

/-- A bucket gives out its name and where it is found. -/
theorem outputs_storageBucket (c : BucketConfig) :
    (storageBucket d r c).outputs = ["name", "url"].map (outputVariable r.name) := by
  simp only [storageBucket, Script.outputs]
  cases c.isPublic with
  | true => rfl
  | false => rfl

/-- A database gives out how it is reached and what it is called. -/
theorem outputs_sqlDatabase (c : DatabaseConfig) :
    (sqlDatabase r c).outputs =
      ["connectionString", "host", "port", "instanceName", "databaseName"].map
        (outputVariable r.name) :=
  rfl

/-- A cache gives out how it is reached. -/
theorem outputs_redisCache (c : CacheConfig) :
    (redisCache r c).outputs =
      ["host", "port", "connectionString"].map (outputVariable r.name) :=
  rfl

/-- Flat code gives the names of containers to others; constructs refer to them by code. -/
theorem outputs_container (c : ContainerConfig) :
    (container d r c).outputs =
      (match d with
        | .flat => ["url", "serviceName"]
        | .construct => ["url"]).map (outputVariable r.name) := by
  simp only [container, Script.outputs]
  cases d <;> cases c.allowUnauthenticated <;> rfl

/-- Flat code gives the names of functions to others; constructs refer to them by code. -/
theorem outputs_function (c : FunctionConfig) :
    (function d r c).outputs =
      (match d with
        | .flat => ["url", "functionName"]
        | .construct => ["url"]).map (outputVariable r.name) := by
  simp only [function, Script.outputs]
  cases d <;> cases c.allowUnauthenticated <;> rfl

/-! ## The identifiers of workloads -/

/-- The code of a container declares it under its identifier and its label. -/
theorem container_declares (c : ContainerConfig) :
    (container d r c).Declares (codeIdentifier r.name "service") (d.label r "") :=
  ⟨_, _, List.mem_append_left _ (List.mem_append_left _ (List.mem_append_left _
    (List.mem_singleton_self _)))⟩

/-- The code of a function declares it under its identifier and its label. -/
theorem function_declares (c : FunctionConfig) :
    (function d r c).Declares (codeIdentifier r.name "function") (d.label r "") :=
  ⟨_, _, List.mem_append_left _ (List.mem_append_left _ (List.mem_append_right _
    (List.mem_singleton_self _)))⟩

end Groundwork.Code
