import Groundwork.Code.Value

/-!
# Accounts, buckets and secrets in code
-/

namespace Groundwork.Code

def accountClass : Dialect → ResourceClass :=
  cloudClass "gcp.serviceaccount.Account" "ServiceAccount" "service-account"

def projectMemberClass : Dialect → ResourceClass :=
  cloudClass "gcp.projects.IAMMember" "ProjectIamMember" "project-iam-member"

def bucketClass : Dialect → ResourceClass :=
  cloudClass "gcp.storage.Bucket" "StorageBucket" "storage-bucket"

def bucketMemberClass : Dialect → ResourceClass :=
  cloudClass "gcp.storage.BucketIAMMember" "StorageBucketIamMember" "storage-bucket-iam-member"

def secretClass : Dialect → ResourceClass :=
  cloudClass "gcp.secretmanager.Secret" "SecretManagerSecret" "secret-manager-secret"

/-- An account, and the roles that it has in the project. -/
def serviceAccount (d : Dialect) (r : Resource) (c : ServiceAccountConfig) : Script :=
  let account := codeIdentifier r.name "account"
  let project := match d with
    | .flat => .code "gcp.config.project!"
    | .construct => member account "project"
  let grant (entry : String × Nat) : Statement :=
    .attach (projectMemberClass d) (d.label r ("-role-" ++ toString entry.2))
      [("project", project),
       ("role", .quoted entry.1),
       ("member", .template ("serviceAccount:" ++ placeholder (account ++ ".email")))]
  ⟨d,
    [.declare account (accountClass d) (d.label r "")
      [("accountId", .quoted c.accountId), ("displayName", .quoted c.displayName)]]
    ++ c.roles.zipIdx.map grant
    ++ [r.output "email" (member account "email")]⟩

/-- A bucket, and the leave to read it if it is public. -/
def storageBucket (d : Dialect) (r : Resource) (c : BucketConfig) : Script :=
  let bucket := codeIdentifier r.name "bucket"
  let versioning : FieldList :=
    if c.versioning then [("versioning", nested "enabled" (.truth true))] else []
  let cors : FieldList :=
    if c.corsOrigins.isEmpty then []
    else
      [("cors", d.only (.object
        [(d.plural "origin", .texts c.corsOrigins),
         (d.plural "method", .texts ["GET", "HEAD", "PUT", "POST"]),
         ("maxAgeSeconds", .number 3600)]))]
  let readers : List Statement :=
    if c.isPublic then
      [.attach (bucketMemberClass d) (d.label r "-public")
        [("bucket", member bucket "name"),
         ("role", .quoted "roles/storage.objectViewer"),
         ("member", .quoted "allUsers")]]
    else []
  ⟨d,
    [.declare bucket (bucketClass d) (d.label r "")
      ([("name", .quoted c.bucketName),
        ("location", .quoted c.location),
        ("storageClass", .quoted c.storageClass),
        ("uniformBucketLevelAccess", .truth true)] ++ versioning ++ cors)]
    ++ readers
    ++ [r.output "name" (member bucket "name"), r.output "url" (member bucket "url")]⟩

/-- A secret; its value comes from elsewhere. -/
def secret (d : Dialect) (r : Resource) (c : SecretConfig) : Script :=
  let secret := codeIdentifier r.name "secret"
  let annotations : FieldList := c.description.toList.map fun description =>
    ("annotations", nested "description" (.quoted description))
  ⟨d,
    [.declare secret (secretClass d) (d.label r "")
      ([("secretId", .quoted c.secretId), ("replication", nested "auto" (.object []))]
        ++ annotations),
     r.output "secretId" (member secret "secretId"),
     r.output "secretName" (member secret "name"),
     r.output "secretVersion" (.template (placeholder (secret ++ ".name") ++ "/versions/latest"))]⟩

end Groundwork.Code
