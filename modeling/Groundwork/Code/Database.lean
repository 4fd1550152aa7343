import Groundwork.Code.Value

/-!
# Databases and caches in code

Only flat code has them.  One in a network is reached by its private address.
-/

namespace Groundwork.Code

def databaseInstanceClass : ResourceClass := ⟨"gcp.sql.DatabaseInstance", none⟩
def databaseClass : ResourceClass := ⟨"gcp.sql.Database", none⟩
def cacheClass : ResourceClass := ⟨"gcp.redis.Instance", none⟩

/-- The port on which an engine listens. -/
def enginePort (engine : String) : Nat :=
  if "MYSQL".toList.isPrefixOf engine.toList then 3306
  else if "SQLSERVER".toList.isPrefixOf engine.toList then 1433
  else 5432

/-- A database instance with one database in it. -/
def sqlDatabase (r : Resource) (c : DatabaseConfig) : Script :=
  let inst := codeIdentifier r.name "instance"
  let database := codeIdentifier r.name "database"
  let privateNetwork : FieldList := c.network.toList.map fun network =>
    ("privateNetwork", member network "id")
  let address := if c.network.isSome then "privateIpAddress" else "publicIpAddress"
  ⟨.flat,
    [.declare inst databaseInstanceClass r.name
      [("name", .quoted c.instanceName),
       ("region", .quoted c.region),
       ("databaseVersion", .quoted c.engine),
       ("settings", .object
         [("tier", .quoted c.tier),
          ("diskSize", .number c.diskSizeGb.toNat),
          ("ipConfiguration", .object
            (("ipv4Enabled", .truth c.network.isNone) :: privateNetwork))]),
       ("deletionProtection", .truth false)],
     .declare database databaseClass (r.name ++ "-db")
      [("name", .quoted r.name), ("instance", member inst "name")],
     r.output "connectionString" (member inst "connectionName"),
     r.output "host" (member inst address),
     r.output "port" (.quoted (toString (enginePort c.engine))),
     r.output "instanceName" (member inst "name"),
     r.output "databaseName" (member database "name")]⟩

/-- A cache. -/
def redisCache (r : Resource) (c : CacheConfig) : Script :=
  let cache := codeIdentifier r.name "cache"
  let network : FieldList := c.network.toList.map fun network =>
    ("authorizedNetwork", member network "id")
  ⟨.flat,
    [.declare cache cacheClass r.name
      ([("name", .quoted c.instanceName),
        ("region", .quoted c.region),
        ("tier", .quoted c.tier),
        ("memorySizeGb", .number c.memorySizeGb.toNat)] ++ network),
     r.output "host" (member cache "host"),
     r.output "port" (member cache "port"),
     r.output "connectionString" (.template
      ("redis://" ++ placeholder (cache ++ ".host") ++ ":" ++ placeholder (cache ++ ".port")))]⟩

end Groundwork.Code
