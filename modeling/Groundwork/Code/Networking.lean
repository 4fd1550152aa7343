import Groundwork.Code.Value

/-!
# Networks in code

Networks with their subnets, rules, connectors and registries.
-/

namespace Groundwork.Code

def networkClass : Dialect → ResourceClass :=
  cloudClass "gcp.compute.Network" "ComputeNetwork" "compute-network"

def subnetClass : Dialect → ResourceClass :=
  cloudClass "gcp.compute.Subnetwork" "ComputeSubnetwork" "compute-subnetwork"

def firewallClass : Dialect → ResourceClass :=
  cloudClass "gcp.compute.Firewall" "ComputeFirewall" "compute-firewall"

def registryClass : Dialect → ResourceClass :=
  cloudClass "gcp.artifactregistry.Repository" "ArtifactRegistryRepository"
    "artifact-registry-repository"

def connectorClass : ResourceClass :=
  constructClass "VpcAccessConnector" "vpc-access-connector"

/-- A network; only flat code gives its name to others. -/
def network (d : Dialect) (r : Resource) (c : NetworkConfig) : Script :=
  let network := codeIdentifier r.name "network"
  let outputs := match d with
    | .flat => [r.output "name" (member network "name")]
    | .construct => []
  ⟨d,
    .declare network (networkClass d) (d.label r "")
      [("name", .quoted c.networkName),
       ("autoCreateSubnetworks", .truth c.autoCreateSubnetworks)]
    :: outputs⟩

/-- A subnet. -/
def subnetwork (d : Dialect) (r : Resource) (c : SubnetConfig) : Script :=
  ⟨d,
    [.declare (codeIdentifier r.name "subnet") (subnetClass d) (d.label r "")
      [("name", .quoted c.subnetName),
       ("ipCidrRange", .quoted c.cidr),
       ("region", .quoted c.region),
       ("network", member c.network "id")]]⟩

/-- A firewall rule. -/
def firewall (d : Dialect) (r : Resource) (c : FirewallConfig) : Script :=
  let ports : FieldList := if c.ports.isEmpty then [] else [("ports", .texts c.ports)]
  ⟨d,
    [.declare (codeIdentifier r.name "firewall") (firewallClass d) (d.label r "")
      [("name", .quoted c.ruleName),
       ("network", member c.network "name"),
       (d.plural "allow", d.only (.object (("protocol", .quoted c.protocol) :: ports))),
       ("sourceRanges", .texts c.sourceRanges)]]⟩

/-- A registry for images. -/
def artifactRegistry (d : Dialect) (r : Resource) (c : RegistryConfig) : Script :=
  ⟨d,
    [.declare (codeIdentifier r.name "registry") (registryClass d) (d.label r "")
      [("repositoryId", .quoted c.repositoryId),
       ("location", .quoted c.location),
       ("format", .quoted c.format)],
     r.output "url" (.quoted c.url)]⟩

/-- A connector between a network and the workloads in front of it. -/
def vpcConnector (r : Resource) (c : ConnectorConfig) : Script :=
  ⟨.construct,
    [.declare (codeIdentifier r.name "connector") connectorClass (Dialect.construct.label r "")
      [("name", .quoted c.connectorName),
       ("region", .quoted c.region),
       ("network", member c.network "name"),
       ("ipCidrRange", .quoted c.ipCidrRange)]]⟩

end Groundwork.Code
