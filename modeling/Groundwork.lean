import Groundwork.Compilation
import Groundwork.Description.Format
import Groundwork.Description.Parse
import Groundwork.Description.Secrets
import Groundwork.Digest.PlanHash
import Groundwork.Main
import Groundwork.Report.Program
import Groundwork.Report.Summary
import Groundwork.Proofs.Code.Lines
import Groundwork.Proofs.Code.Names
import Groundwork.Proofs.Code.Outputs
import Groundwork.Proofs.Description.Validation
import Groundwork.Proofs.Description.Violations
import Groundwork.Proofs.Naming.Identifier
import Groundwork.Proofs.Naming.Label
import Groundwork.Proofs.Provisioning.Cycle
import Groundwork.Proofs.Provisioning.Order
import Groundwork.Proofs.Registry.Builtin
import Groundwork.Proofs.Registry.Scripts
import Groundwork.Proofs.Report.Bindings
import Groundwork.Proofs.Report.Complete
import Groundwork.Proofs.Resolution.Cluster
import Groundwork.Proofs.Resolution.Compiled
import Groundwork.Proofs.Resolution.Declarations
import Groundwork.Proofs.Resolution.Distinct
import Groundwork.Proofs.Resolution.Groups
import Groundwork.Proofs.Resolution.Holders
import Groundwork.Proofs.Resolution.Ids
import Groundwork.Proofs.Resolution.Legality
import Groundwork.Proofs.Resolution.Links
import Groundwork.Proofs.Resolution.Names
import Groundwork.Proofs.Resolution.Nodes
import Groundwork.Proofs.Resolution.Objects
import Groundwork.Proofs.Resolution.Origins
import Groundwork.Proofs.Resolution.References
import Groundwork.Proofs.Resolution.Routing
import Groundwork.Proofs.Resolution.Steps
import Groundwork.Proofs.Resolution.Workloads
import Groundwork.Proofs.Report.Names
import Groundwork.Proofs.Resolution.Inventory
import Groundwork.Proofs.Resolution.Requests
import Groundwork.Proofs.Resolution.Backward
import Groundwork.Proofs.Resolution.Targets
import Groundwork.Proofs.Provisioning.Placement
import Groundwork.Proofs.Resolution.Ends
import Groundwork.Proofs.Resolution.Namespace
import Groundwork.Proofs.Resolution.Images
import Groundwork.Proofs.Report.Borrowed
import Groundwork.Proofs.Provisioning.Insertion
import Groundwork.Proofs.Resolution.Secrets
import Groundwork.Proofs.Report.Constructs
import Groundwork.Proofs.Codec.Description
import Groundwork.Proofs.Codec.Plan
import Groundwork.Proofs.Registry.Calls
import Groundwork.Proofs.Report.Entries
import Groundwork.Proofs.Naming.Reference
import Groundwork.Proofs.Report.Jobs
import Groundwork.Proofs.Report.Provider
import Groundwork.Proofs.Report.Balancers
import Groundwork.Proofs.Resolution.Schedule
import Groundwork.Proofs.Naming.Resolution
import Groundwork.Proofs.Registry.Outcomes
import Groundwork.Proofs.Report.Proxies
import Groundwork.Proofs.Provisioning.Countdown
import Groundwork.Proofs.Naming.Sanitized
import Groundwork.Proofs.Cli.Acceptance
import Groundwork.Proofs.Yaml.Ending
import Groundwork.Proofs.Registry.Manifests
