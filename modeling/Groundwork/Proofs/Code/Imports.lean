import Groundwork.Proofs.Code.Constructs

/-!
# What the scripts of a stack import

Every import that a script of a stack needs is one line, and says so with its first word.

Main definitions:

- `Code.IsImport`: a line that imports something.
- `Code.Imports`: statements that need such lines only.

Main results: `imports_storageBucket` and its siblings, one for each script.
-/

namespace Groundwork.Code

/-- A line that imports something. -/
def IsImport (line : String) : Prop := line.toList.head? = some 'i' ∧ '\n' ∉ line.toList

/-- A literal is taken apart into its characters without being decoded. -/
theorem IsImport.of_chars {line : String} {cs : List Char} (h : line = String.ofList cs)
    (hhead : cs.head? = some 'i') (hcs : '\n' ∉ cs) : IsImport line := by
  rw [IsImport, h, String.toList_ofList]
  exact ⟨hhead, hcs⟩

/-- A class that needs no import, or a line that imports it. -/
def ResourceClass.Imported (cls : ResourceClass) : Prop := ∀ line ∈ cls.importLine, IsImport line

/-- A line that imports names from a source has the form of an import. -/
theorem isImport_importFrom {names source : String} {cs ds : List Char}
    (hnames : names = String.ofList cs) (hsource : source = String.ofList ds) (hcs : '\n' ∉ cs)
    (hds : '\n' ∉ ds) : IsImport (importFrom names source) := by
  have hparts : importFrom names source = String.ofList
      ("import \x7b ".toList ++ (cs ++ (" \x7d from \"".toList ++ (ds ++ "\";".toList)))) := by
    simp only [importFrom, hnames, hsource, String.ofList_append, String.ofList_toList,
      String.append_assoc]
  exact .of_chars hparts rfl (List.not_mem_append (by decide) (List.not_mem_append hcs
    (List.not_mem_append (by decide) (List.not_mem_append hds (by decide)))))

namespace ResourceClass.Imported

variable {cs ds : List Char}

/-- A class that is imported from a module. -/
theorem library {cls names source : String} (hnames : names = String.ofList cs)
    (hsource : source = String.ofList ds) (hcs : '\n' ∉ cs) (hds : '\n' ∉ ds) :
    Imported ⟨cls, some (importFrom names source)⟩ := by
  intro line hline
  obtain rfl := Option.some.inj hline
  exact isImport_importFrom hnames hsource hcs hds

/-- A class of the cloud provider. -/
theorem cloud {name source : String} (hname : name = String.ofList cs)
    (hsource : source = String.ofList ds) (hcs : '\n' ∉ cs) (hds : '\n' ∉ ds) :
    (constructClass name source).Imported := by
  have hlibrary : "@cdktf/provider-google/lib/" ++ source =
      String.ofList ("@cdktf/provider-google/lib/".toList ++ ds) := by
    rw [hsource, String.ofList_append, String.ofList_toList]
  exact library hname hlibrary hcs (List.not_mem_append (by decide) hds)

end ResourceClass.Imported

/-- Statements that only need lines which import something. -/
def Imports (statements : List Statement) : Prop :=
  ∀ st ∈ statements, ∀ line ∈ st.imports .construct, IsImport line

namespace Imports

variable {statements statements' : List Statement}

/-- Where there are no statements, no lines are needed. -/
theorem nil : Imports [] := by simp [Imports]

/-- A declared resource needs no line but the import of its class. -/
theorem declare {identifier label : String} {cls : ResourceClass} {fields : FieldList}
    (hcls : cls.Imported) (h : Imports statements) :
    Imports (.declare identifier cls label fields :: statements) :=
  List.forall_mem_cons.2 ⟨fun line hline => hcls line (Option.mem_toList.1 hline), h⟩

/-- Nor does a resource without a name. -/
theorem attach {label : String} {cls : ResourceClass} {fields : FieldList}
    (hcls : cls.Imported) (h : Imports statements) :
    Imports (.attach cls label fields :: statements) :=
  List.forall_mem_cons.2 ⟨fun line hline => hcls line (Option.mem_toList.1 hline), h⟩

/-- The line that an output needs imports the class of outputs. -/
theorem output {variableName : String} {value : Expression} (h : Imports statements) :
    Imports (.output variableName value :: statements) := by
  have hline : ∀ line ∈ Dialect.construct.outputImport, IsImport line := by
    intro line hline
    obtain rfl := List.mem_singleton.1 hline
    exact ⟨by decide, by decide⟩
  exact List.forall_mem_cons.2 ⟨hline, h⟩

/-- Statements that follow each other need the lines of both. -/
theorem append (h : Imports statements) (h' : Imports statements') :
    Imports (statements ++ statements') :=
  List.forall_mem_append.2 ⟨h, h'⟩

/-- Resources for the entries of a list need no line but the import of their class. -/
theorem attach_map {α : Type} (l : List α) {cls : ResourceClass} {label : α → String}
    {fields : α → FieldList} (hcls : cls.Imported) :
    Imports (l.map fun x => .attach cls (label x) (fields x)) := by
  induction l with
  | nil => exact .nil
  | cons x rest ih => exact .attach hcls ih

/-- Nor does a resource that is there under a condition. -/
theorem attach_ite (b : Bool) {cls : ResourceClass} {label : String} {fields : FieldList}
    (hcls : cls.Imported) : Imports (if b then [.attach cls label fields] else []) := by
  cases b with
  | false => exact .nil
  | true => exact .attach hcls .nil

/-- Statements for the entries of a list need the lines of each. -/
theorem flatMap {α : Type} (l : List α) {made : α → List Statement} (h : ∀ x, Imports (made x)) :
    Imports (l.flatMap made) := by
  induction l with
  | nil => exact .nil
  | cons x rest ih => exact (h x).append ih

/-- The imports of a script of a stack. -/
theorem of_mem_imports {s : Script} (h : Imports s.statements) (hdialect : s.dialect = .construct) :
    ∀ line ∈ s.imports, IsImport line := by
  intro line hline
  rw [Script.imports, hdialect, Dialect.baseImports, List.nil_append, List.mem_eraseDups] at hline
  obtain ⟨st, hst, hmem⟩ := List.mem_flatMap.1 hline
  exact h st hst line hmem

end Imports

variable {r : Resource}

/-- The code of a service account uses imported classes only. -/
theorem imports_serviceAccount (c : ServiceAccountConfig) :
    Imports (serviceAccount .construct r c).statements :=
  .declare (.cloud rfl rfl (by decide) (by decide))
    (.append (.attach_map _ (.cloud rfl rfl (by decide) (by decide))) (.output .nil))

/-- The code of a bucket uses imported classes only. -/
theorem imports_storageBucket (c : BucketConfig) :
    Imports (storageBucket .construct r c).statements :=
  .declare (.cloud rfl rfl (by decide) (by decide))
    (.append (.attach_ite _ (.cloud rfl rfl (by decide) (by decide))) (.output (.output .nil)))

theorem imports_secret (c : SecretConfig) : Imports (secret .construct r c).statements :=
  .declare (.cloud rfl rfl (by decide) (by decide)) (.output (.output (.output .nil)))

theorem imports_pubsubTopic (c : TopicConfig) : Imports (pubsubTopic .construct r c).statements :=
  .declare (.cloud rfl rfl (by decide) (by decide)) (.output (.output .nil))

theorem imports_tasksQueue (c : QueueConfig) : Imports (tasksQueue .construct r c).statements :=
  .declare (.cloud rfl rfl (by decide) (by decide)) (.output (.output .nil))

theorem imports_network (c : NetworkConfig) : Imports (network .construct r c).statements :=
  .declare (.cloud rfl rfl (by decide) (by decide)) .nil

theorem imports_subnetwork (c : SubnetConfig) : Imports (subnetwork .construct r c).statements :=
  .declare (.cloud rfl rfl (by decide) (by decide)) .nil

theorem imports_firewall (c : FirewallConfig) : Imports (firewall .construct r c).statements :=
  .declare (.cloud rfl rfl (by decide) (by decide)) .nil

theorem imports_artifactRegistry (c : RegistryConfig) :
    Imports (artifactRegistry .construct r c).statements :=
  .declare (.cloud rfl rfl (by decide) (by decide)) (.output .nil)

theorem imports_vpcConnector (c : ConnectorConfig) : Imports (vpcConnector r c).statements :=
  .declare (.cloud rfl rfl (by decide) (by decide)) .nil

/-- The code of a container uses imported classes only. -/
theorem imports_container (c : ContainerConfig) :
    Imports (container .construct r c).statements := by
  simp only [container, List.append_assoc, List.singleton_append]
  exact .declare (.cloud rfl rfl (by decide) (by decide))
    (.append (.attach_ite _ (.cloud rfl rfl (by decide) (by decide))) (.output .nil))

theorem imports_ui (c : UiConfig) : Imports (ui r c).statements :=
  .declare (.cloud rfl rfl (by decide) (by decide))
    (.attach (.cloud rfl rfl (by decide) (by decide)) (.output .nil))

/-- The code of a function uses imported classes only, its archive's among them. -/
theorem imports_function (c : FunctionConfig) : Imports (function .construct r c).statements :=
  .declare (.library rfl rfl (by decide) (by decide)) <|
  .declare (.cloud rfl rfl (by decide) (by decide)) <|
  .declare (.cloud rfl rfl (by decide) (by decide)) <|
  .declare (.cloud rfl rfl (by decide) (by decide)) <|
    .append (.attach_ite _ (.cloud rfl rfl (by decide) (by decide))) (.output .nil)

/-- The code of a kernel uses imported classes only, in either variant. -/
theorem imports_kernel (c : KernelConfig) : Imports (kernel r c).statements := by
  obtain ⟨kernelName, variant, image, region, machineType, port, env, connector⟩ := c
  cases variant with
  | native => exact .declare (.cloud rfl rfl (by decide) (by decide)) (.output .nil)
  | hybrid => exact .declare (.cloud rfl rfl (by decide) (by decide)) (.output .nil)

/-- What a load balancer has for a workload uses imported classes only. -/
theorem imports_backendStatements (c : LoadBalancerConfig) (t : RouteTarget) :
    Imports (backendStatements .construct r c t) :=
  .declare (.cloud rfl rfl (by decide) (by decide)) <|
  .declare (.cloud rfl rfl (by decide) (by decide)) <|
    .attach_map _ (.cloud rfl rfl (by decide) (by decide))

/-- The proxy and the certificate of a load balancer are of imported classes. -/
theorem imports_proxyStatements (c : LoadBalancerConfig) :
    Imports (proxyStatements .construct r c) := by
  unfold proxyStatements
  split
  · exact .declare (.cloud rfl rfl (by decide) (by decide))
      (.declare (.cloud rfl rfl (by decide) (by decide)) .nil)
  · exact .declare (.cloud rfl rfl (by decide) (by decide)) .nil

/-- The code of a load balancer uses imported classes only. -/
theorem imports_balancerStatements (c : LoadBalancerConfig) (first : RouteTarget) :
    Imports (balancerStatements .construct r c first) := by
  unfold balancerStatements
  refine .append (.append (.append ?_ ?_) (imports_proxyStatements c)) ?_
  · exact .flatMap _ (imports_backendStatements c)
  · unfold urlMapStatement
    exact .declare (.cloud rfl rfl (by decide) (by decide))
      (.declare (.cloud rfl rfl (by decide) (by decide)) .nil)
  · exact .attach (.cloud rfl rfl (by decide) (by decide)) (.output .nil)

end Groundwork.Code
