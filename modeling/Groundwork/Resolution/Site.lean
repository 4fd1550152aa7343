import Groundwork.Resolution.Project

/-!
# Networks as sites

A network of a project as the place that workloads are put in: what they wait for, which connector
they reach the network through and where their images are.

The flat backend has a node for a network only if something lives inside it.  Constructs wait for
the connector of their network and then for its registry.  A cluster has no networks: workloads wait
for the namespace and the config map.
-/

namespace Groundwork

/-- A network with what its workloads share. -/
structure Site where
  spec : NetworkSpec
  /-- The id of the network's node, if it has one. -/
  networkId : Option String
  /-- What every workload waits for. -/
  base : List String
  /-- The code identifier of the connector. -/
  connector : Option String
  /-- Where the images of the workloads are. -/
  registryUrl : Option String

/-- The code identifier of a network. -/
def networkIdentifier (network : String) : String := codeIdentifier network "network"

/-- The address range of a connector. -/
def connectorRange : String := "10.8.0.0/28"

namespace Project

variable (p : Project)

/-- Where the images of a registry are. -/
def registryUrl (r : RegistrySpec) : String :=
  p.region ++ "-docker.pkg.dev/" ++ p.description.cloudProjectId ++ "/" ++ p.cloudName r.name

/-- The network of a cloud project as a site, without its registry among what workloads wait for. -/
def bareSite (n : NetworkSpec) : Site :=
  let hasNode := p.backend = .construct || n.hasInfrastructure
  let networkId := if hasNode then some (ResourceKind.network.nodeId n.name) else none
  let isConstruct := p.backend = .construct
  { spec := n
    networkId := networkId
    base := if isConstruct then [ResourceKind.connector.nodeId n.name] else networkId.toList
    connector := if isConstruct then some (codeIdentifier n.name "connector") else none
    registryUrl := n.registry.map p.registryUrl }

/-- A network as a site. -/
def site (n : NetworkSpec) : Site :=
  match p.cluster with
  | some c =>
    { spec := n
      networkId := none
      base := [c.namespaceId, p.configMapId]
      connector := none
      registryUrl := some c.registry }
  | none =>
    let site := p.bareSite n
    if p.backend = .construct then
      { site with
        base := site.base ++ n.registry.toList.map fun r => ResourceKind.registry.nodeId r.name }
    else site

/-- The nodes of a cluster that a network becomes: one policy for each rule. -/
def policyNodes (c : Cluster) (n : NetworkSpec) : List Resource :=
  n.firewall.map fun rule =>
    p.node .networkPolicy rule.name (.networkPolicy {
      policyName := sanitizeLabel rule.name
      namespaceName := c.namespaceName
      protocol := rule.protocol
      ports := rule.ports
      sourceRanges := rule.sourceRanges }) [c.namespaceId] (some n.name)

/-- The nodes of the network itself, its subnets and rules, its connector and its registry. -/
def cloudNetworkNodes (n : NetworkSpec) : List Resource :=
  let site := p.bareSite n
  let inside (kind : ResourceKind) (name : String) (config : ResourceConfig)
      (dependsOn : List String) : Resource :=
    p.node kind name config dependsOn (some n.name)
  let network := site.networkId.toList.map fun _ =>
    inside .network n.name (.network {
      networkName := p.cloudName n.name
      autoCreateSubnetworks := n.subnets.isEmpty }) []
  let subnets := n.subnets.map fun s =>
    inside .subnet s.name (.subnet {
      subnetName := p.cloudName s.name
      network := networkIdentifier n.name
      cidr := s.cidr
      region := s.region.getD p.region }) site.networkId.toList
  let rules := n.firewall.map fun rule =>
    inside .firewall rule.name (.firewall {
      ruleName := p.cloudName rule.name
      network := networkIdentifier n.name
      protocol := rule.protocol
      ports := rule.ports
      sourceRanges := rule.sourceRanges }) site.networkId.toList
  let connector := site.connector.toList.map fun _ =>
    inside .connector n.name (.connector {
      connectorName := p.cloudName (n.name ++ "-conn")
      network := networkIdentifier n.name
      region := p.region
      ipCidrRange := connectorRange }) site.networkId.toList
  let registry := n.registry.toList.map fun r =>
    inside .registry r.name (.registry {
      repositoryId := p.cloudName r.name
      location := p.region
      format := r.format
      url := p.registryUrl r }) site.base
  network ++ subnets ++ rules ++ connector ++ registry

/-- The nodes that a network becomes before its workloads. -/
def networkNodes (n : NetworkSpec) : List Resource :=
  match p.cluster with
  | some c => p.policyNodes c n
  | none => p.cloudNetworkNodes n

/-- What a database or cache waits for: its network, or else the namespace. -/
def dataDependencies (site : Site) : List String :=
  match site.networkId with
  | some id => [id]
  | none => p.scopeDependencies

def databaseNode (site : Site) (spec : DatabaseSpec) : Resource :=
  p.node .database spec.name (.database {
    instanceName := p.cloudName spec.name
    region := p.region
    engine := spec.engine
    tier := spec.tier
    diskSizeGb := spec.diskSizeGb
    network := site.networkId.map fun _ => networkIdentifier site.spec.name
    namespaceName := p.namespaceName }) (p.dataDependencies site) (some site.spec.name)

def cacheNode (site : Site) (spec : CacheSpec) : Resource :=
  p.node .cache spec.name (.cache {
    instanceName := p.cloudName spec.name
    region := p.region
    tier := spec.tier
    memorySizeGb := spec.memorySizeGb
    network := site.networkId.map fun _ => networkIdentifier site.spec.name
    namespaceName := p.namespaceName }) (p.dataDependencies site) (some site.spec.name)

end Project

end Groundwork
