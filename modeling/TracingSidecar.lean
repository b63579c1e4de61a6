import TracingSidecar.Admission.Endpoint
import TracingSidecar.Admission.MediaType
import TracingSidecar.Admission.Mutation
import TracingSidecar.Admission.Received
import TracingSidecar.Admission.Response
import TracingSidecar.Admission.Review
import TracingSidecar.Agent.Arguments
import TracingSidecar.Agent.Options
import TracingSidecar.Agent.Tags
import TracingSidecar.Api.Client
import TracingSidecar.Api.Cluster
import TracingSidecar.Api.Collection
import TracingSidecar.Api.Error
import TracingSidecar.Api.Request
import TracingSidecar.Api.Server
import TracingSidecar.Api.Target
import TracingSidecar.Config.Error
import TracingSidecar.Config.Injector
import TracingSidecar.Config.Operator
import TracingSidecar.Config.SocketAddress
import TracingSidecar.Decimal.Binary64
import TracingSidecar.Decimal.Shortest
import TracingSidecar.Definition
import TracingSidecar.Discovery.Catalogue
import TracingSidecar.Discovery.Wait
import TracingSidecar.Injection.Evaluation
import TracingSidecar.Injection.Inject
import TracingSidecar.Injection.OptIn
import TracingSidecar.Injection.Selection
import TracingSidecar.Injection.Sidecar
import TracingSidecar.Instance
import TracingSidecar.Json.Basic
import TracingSidecar.Json.Codec
import TracingSidecar.Json.Draft
import TracingSidecar.Json.Parser
import TracingSidecar.Json.Patch
import TracingSidecar.Json.Pointer
import TracingSidecar.Json.Printer
import TracingSidecar.Json.Record
import TracingSidecar.Json.Token
import TracingSidecar.Naming
import TracingSidecar.Object.Container
import TracingSidecar.Object.Metadata
import TracingSidecar.Object.Namespace
import TracingSidecar.Object.Pod
import TracingSidecar.Object.Scheduling
import TracingSidecar.Object.Volume
import TracingSidecar.Object.Workload
import TracingSidecar.Reconcile.Instance
import TracingSidecar.Reconcile.Instances
import TracingSidecar.Reconcile.Namespace
import TracingSidecar.Reconcile.Timeline
import TracingSidecar.Settings.Basic
import TracingSidecar.Settings.Merge
import TracingSidecar.SortedMap
import TracingSidecar.Text.Ascii
import TracingSidecar.Text.Blank
import TracingSidecar.Text.Combining
import TracingSidecar.Text.Cut
import TracingSidecar.Text.Invisible
import TracingSidecar.Text.Quoted
import TracingSidecar.Text.Ranges
import TracingSidecar.Text.Unassigned
import TracingSidecar.Proofs.Agent.Arguments
import TracingSidecar.Proofs.Agent.ArgumentCodec
import TracingSidecar.Proofs.Agent.Flattening
import TracingSidecar.Proofs.Agent.TagCodec
import TracingSidecar.Proofs.Object.Views
import TracingSidecar.Proofs.Injection.Sidecar
import TracingSidecar.Proofs.Injection.Binding
import TracingSidecar.Proofs.Injection.Frame
import TracingSidecar.Proofs.Injection.FixedPoint
import TracingSidecar.Proofs.Reconcile.Affected
import TracingSidecar.Proofs.Reconcile.Convergence
import TracingSidecar.Proofs.Injection.Pods
import TracingSidecar.Proofs.Injection.Applications
import TracingSidecar.Proofs.Injection.OwnVolumes
import TracingSidecar.Proofs.Injection.Leftovers
import TracingSidecar.Proofs.Injection.TrustBundles
import TracingSidecar.Proofs.Injection.Report
import TracingSidecar.Proofs.Json.Leaves
import TracingSidecar.Proofs.Json.Patch
import TracingSidecar.Proofs.Object.Patches
import TracingSidecar.Proofs.Admission.Review
import TracingSidecar.Proofs.Injection.OptOut
import TracingSidecar.Proofs.Injection.OwnDecision
import TracingSidecar.Proofs.Injection.Footprint
import TracingSidecar.Proofs.Injection.WellFormed
import TracingSidecar.Proofs.Injection.ExplicitOptions
import TracingSidecar.Proofs.Injection.GivenBack
import TracingSidecar.Proofs.Injection.KeptTags
import TracingSidecar.Proofs.Injection.Ambiguity
import TracingSidecar.Proofs.Injection.OptIn
import TracingSidecar.Proofs.Injection.Ports
import TracingSidecar.Proofs.Injection.Residue
import TracingSidecar.Proofs.Api.Exchanges
import TracingSidecar.Proofs.Reconcile.Requests
import TracingSidecar.Proofs.Reconcile.Accounting
import TracingSidecar.Proofs.Reconcile.Visits
import TracingSidecar.Proofs.Reconcile.Order
import TracingSidecar.Proofs.Reconcile.Interleaving
import TracingSidecar.Proofs.Reconcile.Candidates
import TracingSidecar.Proofs.Reconcile.Writes
import TracingSidecar.Proofs.Reconcile.Terminating
import TracingSidecar.Proofs.WrittenForm
import TracingSidecar.Proofs.Settings.Precedence
import TracingSidecar.Proofs.Settings.Grouping
import TracingSidecar.Proofs.Discovery.Recommendation
import TracingSidecar.Proofs.Discovery.Polling
import TracingSidecar.Proofs.Discovery.Waiting
import TracingSidecar.Proofs.LabelValues
