import NetworkPlan.Main
import NetworkPlan.Workspace.Tree
import NetworkPlan.Proofs.Address.Extent
import NetworkPlan.Proofs.Subnet.Cursor
import NetworkPlan.Proofs.Subnet.Soundness
import NetworkPlan.Proofs.Subnet.Packing
import NetworkPlan.Proofs.Subnet.Completeness
import NetworkPlan.Proofs.Address.Alignment
import NetworkPlan.Proofs.Subnet.FreeSpace
import NetworkPlan.Proofs.Subnet.Partition
import NetworkPlan.Proofs.Decoder.Value
import NetworkPlan.Proofs.Text.Trim
import NetworkPlan.Proofs.Decoder.Record
import NetworkPlan.Proofs.Validation.Checks
import NetworkPlan.Proofs.Document.Settings
import NetworkPlan.Proofs.Document.Subnets
import NetworkPlan.Proofs.Validation.Network
import NetworkPlan.Proofs.Validation.Subnets
import NetworkPlan.Proofs.Security.Failure
import NetworkPlan.Proofs.Routing.Failure
import NetworkPlan.Proofs.Plan
import NetworkPlan.Proofs.Validation.Preconditions
import NetworkPlan.Proofs.Address.Notation
import NetworkPlan.Proofs.Security.Expansion
import NetworkPlan.Proofs.Subnet.Directory
import NetworkPlan.Proofs.Security.Sides
import NetworkPlan.Proofs.Security.Groups
import NetworkPlan.Proofs.Subnet.Growth
import NetworkPlan.Proofs.Subnet.Reordering
import NetworkPlan.Proofs.Subnet.References
import NetworkPlan.Proofs.Subnet.Removal
import NetworkPlan.Proofs.Security.Renewal
import NetworkPlan.Proofs.Plan.Names
import NetworkPlan.Proofs.Routing.Tables
import NetworkPlan.Proofs.Text.Delimited
import NetworkPlan.Proofs.Number.Notation
import NetworkPlan.Proofs.Json.Alike
import NetworkPlan.Proofs.Output.Bicep
import NetworkPlan.Proofs.Decoder.Acceptance
import NetworkPlan.Proofs.Validation.TypedReading
import NetworkPlan.Proofs.Plan.Attachments
import NetworkPlan.Proofs.Decoder.Refusal
import NetworkPlan.Proofs.Plan.Sections
import NetworkPlan.Proofs.Validation.Independence
import NetworkPlan.Proofs.Json.Scan
import NetworkPlan.Proofs.Decoder.Faithful
import NetworkPlan.Proofs.Document.Typed
import NetworkPlan.Proofs.Subnet.MaximalFree
import NetworkPlan.Proofs.Subnet.Contiguity
import NetworkPlan.Proofs.Address.Hosts
import NetworkPlan.Proofs.Routing.Stages
import NetworkPlan.Proofs.Routing.Repetition
import NetworkPlan.Proofs.Security.Description
import NetworkPlan.Proofs.Subnet.Precedence
import NetworkPlan.Proofs.Output.Rules
import NetworkPlan.Proofs.Positions
import NetworkPlan.Proofs.Validation.Duplicates
import NetworkPlan.Proofs.Validation.Definitions
import NetworkPlan.Proofs.Address.Conflicts
import NetworkPlan.Proofs.Validation.Ranges
import NetworkPlan.Proofs.Number.Rounding
import NetworkPlan.Proofs.Validation.Members
import NetworkPlan.Proofs.Validation.Redis
import NetworkPlan.Proofs.Validation.Cosmos
import NetworkPlan.Proofs.Decoder.Kept
import NetworkPlan.Proofs.Output.Subnets
import NetworkPlan.Proofs.Subnet.Identifiers
import NetworkPlan.Proofs.Address.Grammar
import NetworkPlan.Proofs.Security.Selectors
import NetworkPlan.Proofs.Plan.Bastion
import NetworkPlan.Proofs.Plan.Printed
import NetworkPlan.Proofs.Text.Csv
import NetworkPlan.Proofs.Output.Summary
import NetworkPlan.Proofs.Output.Layout
import NetworkPlan.Proofs.Address.Nesting
import NetworkPlan.Proofs.Validation.Durations
import NetworkPlan.Proofs.Subnet.Gaps
import NetworkPlan.Proofs.Validation.Accumulation
