import Groundwork.Code.Storage
import Groundwork.Text.Case

/-!
# Workloads in code

Containers, frontends and hybrid kernels run as container services; functions come with the bucket
and archive of their source; a native kernel is a machine that runs one container.
-/

namespace Groundwork.Code

def runServiceClass : Dialect → ResourceClass :=
  cloudClass "gcp.cloudrunv2.Service" "CloudRunV2Service" "cloud-run-v2-service"

def runMemberClass : Dialect → ResourceClass :=
  cloudClass "gcp.cloudrunv2.ServiceIamMember" "CloudRunV2ServiceIamMember"
    "cloud-run-v2-service-iam-member"

def bucketObjectClass : Dialect → ResourceClass :=
  cloudClass "gcp.storage.BucketObject" "StorageBucketObject" "storage-bucket-object"

def functionClass : Dialect → ResourceClass :=
  cloudClass "gcp.cloudfunctionsv2.Function" "Cloudfunctions2Function" "cloudfunctions2-function"

def functionMemberClass : ResourceClass :=
  constructClass "Cloudfunctions2FunctionIamMember" "cloudfunctions2-function-iam-member"

def assetClass : ResourceClass :=
  ⟨"TerraformAsset", some (importFrom "AssetType, TerraformAsset" "cdktf")⟩

def machineClass : ResourceClass := constructClass "ComputeInstance" "compute-instance"

/-! ## Container services -/

/-- What is said of a container service. -/
structure RunService where
  name : String
  region : String
  image : String
  port : UInt16
  env : Environment
  /-- How much processor and memory it may use. -/
  limits : Option (String × String)
  /-- How few and how many instances run. -/
  scaling : Nat × Nat
  connector : Option String

/-- The declaration of a container service. -/
def RunService.declare (s : RunService) (d : Dialect) (r : Resource) (identifier : String) :
    Statement :=
  let limits : FieldList := s.limits.toList.map fun (cpu, memory) =>
    ("resources", nested "limits" (.object [("cpu", .quoted cpu), ("memory", .quoted memory)]))
  let env : FieldList := if s.env.isEmpty then [] else [(d.plural "env", s.env.toList)]
  let container : FieldList :=
    [("image", .quoted s.image), ("ports", nested "containerPort" (.number s.port.toNat))]
      ++ limits ++ env
  let egress : FieldList := match d with
    | .flat => []
    | .construct => [("egress", .quoted "PRIVATE_RANGES_ONLY")]
  let access : FieldList := s.connector.toList.map fun connector =>
    ("vpcAccess", .object (("connector", member connector "id") :: egress))
  let template : FieldList :=
    [("containers", d.only (.object container)),
     ("scaling", .object
       [("minInstanceCount", .number s.scaling.1), ("maxInstanceCount", .number s.scaling.2)])]
      ++ access
  .declare identifier (runServiceClass d) (d.label r "")
    [("name", .quoted s.name),
     ("location", .quoted s.region),
     ("ingress", .quoted "INGRESS_TRAFFIC_ALL"),
     ("template", .object template)]

/-- Lets everybody call a container service. -/
def allowEverybody (d : Dialect) (r : Resource) (identifier region : String) : Statement :=
  .attach (runMemberClass d) (d.label r "-invoker")
    [("name", member identifier "name"),
     ("location", .quoted region),
     ("role", .quoted "roles/run.invoker"),
     ("member", .quoted "allUsers")]

/-- A container. -/
def container (d : Dialect) (r : Resource) (c : ContainerConfig) : Script :=
  let service := codeIdentifier r.name "service"
  let run : RunService :=
    { name := c.serviceName
      region := c.region
      image := c.image
      port := c.port
      env := c.env
      limits := some (c.cpu, c.memory)
      scaling := (c.minInstances.toNat, c.maxInstances.toNat)
      connector := c.connector }
  let callers := if c.allowUnauthenticated then [allowEverybody d r service c.region] else []
  let name := match d with
    | .flat => [r.output "serviceName" (member service "name")]
    | .construct => []
  ⟨d,
    [run.declare d r service] ++ callers ++ [r.output "url" (member service "uri")] ++ name⟩

/-- The number of instances that a frontend may have. -/
def uiInstances : Nat := 10

/-- A frontend; everybody may call it. -/
def ui (r : Resource) (c : UiConfig) : Script :=
  let ui := codeIdentifier r.name "ui"
  let run : RunService :=
    { name := c.serviceName
      region := c.region
      image := c.image
      port := c.port
      env := c.env
      limits := none
      scaling := (0, uiInstances)
      connector := c.connector }
  ⟨.construct,
    [run.declare .construct r ui, allowEverybody .construct r ui c.region,
     r.output "url" (member ui "uri")]⟩

/-! ## Functions -/

/-- The bucket and archive of a function's source. -/
def sourceStatements (d : Dialect) (r : Resource) (c : FunctionConfig) : List Statement :=
  let asset := codeIdentifier r.name "asset"
  let bucket := codeIdentifier r.name "source"
  let archive := codeIdentifier r.name "archive"
  let bucketFields : FieldList :=
    d.named (c.functionName ++ "-source")
      ++ [("location", .quoted (uppercase c.region)), ("uniformBucketLevelAccess", .truth true)]
  let source : Expression := match d with
    | .flat => .enclosed "new pulumi.asset.FileArchive(" (.quoted c.source) ")"
    | .construct => member asset "path"
  let packed : List Statement := match d with
    | .flat => []
    | .construct =>
      [.declare asset assetClass (d.label r "-asset")
        [("path", .quoted c.source), ("type", .code "AssetType.ARCHIVE")]]
  packed ++
    [.declare bucket (bucketClass d) (d.label r "-source") bucketFields,
     .declare archive (bucketObjectClass d) (d.label r "-archive")
      (d.named (r.name ++ ".zip") ++ [("bucket", member bucket "name"), ("source", source)])]

/-- The fields of a function. -/
def functionFields (r : Resource) (c : FunctionConfig) : FieldList :=
  let bucket := codeIdentifier r.name "source"
  let archive := codeIdentifier r.name "archive"
  let env : FieldList :=
    if c.env.isEmpty then [] else [("environmentVariables", c.env.toObject)]
  let connector : FieldList := c.connector.toList.map fun connector =>
    ("vpcConnector", member connector "id")
  let trigger : FieldList := c.triggerTopic.toList.map fun topic =>
    ("eventTrigger", .object
      [("eventType", .quoted "google.cloud.pubsub.topic.v1.messagePublished"),
       ("pubsubTopic", topic.toCode),
       ("retryPolicy", .quoted "RETRY_POLICY_RETRY")])
  [("name", .quoted c.functionName),
   ("location", .quoted c.region),
   ("buildConfig", .object
     [("runtime", .quoted c.runtime),
      ("entryPoint", .quoted c.entryPoint),
      ("source", nested "storageSource" (.object
        [("bucket", member bucket "name"), ("object", member archive "name")]))]),
   ("serviceConfig", .object
     ([("availableMemory", .quoted c.memory), ("timeoutSeconds", .number c.timeoutSeconds.toNat)]
       ++ env ++ connector))]
    ++ trigger

/-- A function. -/
def function (d : Dialect) (r : Resource) (c : FunctionConfig) : Script :=
  let function := codeIdentifier r.name "function"
  let everybody : Statement := match d with
    | .flat => allowEverybody d r function c.region
    | .construct =>
      .attach functionMemberClass (d.label r "-invoker")
        [("cloudFunction", member function "name"),
         ("location", .quoted c.region),
         ("role", .quoted "roles/cloudfunctions.invoker"),
         ("member", .quoted "allUsers")]
  let callers := if c.allowUnauthenticated then [everybody] else []
  let outputs := match d with
    | .flat =>
      [r.output "url" (member function "url"), r.output "functionName" (member function "name")]
    | .construct => [r.output "url" (member function "serviceConfig.uri")]
  ⟨d,
    sourceStatements d r c
      ++ [.declare function (functionClass d) (d.label r "") (functionFields r c)]
      ++ callers ++ outputs⟩

/-! ## Kernels -/

/-- A kernel that runs as a container service, one instance at all times. -/
def hybridKernel (r : Resource) (c : KernelConfig) : List Statement :=
  let kernel := codeIdentifier r.name "kernel"
  let run : RunService :=
    { name := c.kernelName
      region := c.region
      image := c.image
      port := c.port
      env := c.env
      limits := none
      scaling := (1, 1)
      connector := c.connector }
  [run.declare .construct r kernel, r.output "url" (member kernel "uri")]

/-- A kernel on a machine of its own. -/
def nativeKernel (r : Resource) (c : KernelConfig) : List Statement :=
  let kernel := codeIdentifier r.name "kernel"
  let network := match r.network with
    | some network => member (codeIdentifier network "network") "name"
    | none => .quoted "default"
  let declaration : Expression := .enclosed "JSON.stringify("
    (nested "spec" (.object
      [("containers", .list [.object [("image", .quoted c.image), ("env", c.env.toList)]]),
       ("restartPolicy", .quoted "Always")])) ")"
  let address := placeholder (kernel ++ ".networkInterface.get(0).networkIp")
  [.declare kernel machineClass (Dialect.construct.label r "")
    [("name", .quoted c.kernelName),
     ("machineType", .quoted c.machineType),
     ("zone", .quoted (c.region ++ "-a")),
     ("bootDisk", nested "initializeParams" (nested "image" (.quoted "cos-cloud/cos-stable"))),
     ("networkInterface", .list [nested "network" network]),
     ("metadata", nested "\"gce-container-declaration\"" declaration),
     ("tags", .texts ["kernel"])],
   r.output "address" (.template (address ++ ":" ++ toString c.port.toNat))]

/-- A kernel of either variant. -/
def kernel (r : Resource) (c : KernelConfig) : Script :=
  ⟨.construct,
    match c.variant with
    | .native => nativeKernel r c
    | .hybrid => hybridKernel r c⟩

end Groundwork.Code
