import Sluice.Bench.Editing
import Sluice.Bench.Journal
import Sluice.Bench.Waiting
import Sluice.Main
import Sluice.Proofs.Merge.Completeness
import Sluice.Proofs.Pipeline.Lineage
import Sluice.Proofs.Pipeline.Supervision
import Sluice.Yaml.Value
import Sluice.Proofs.Engine.Stagewise
import Sluice.Proofs.Lifecycle.Tokens
import Sluice.Proofs.Worker.Halting
import Sluice.Proofs.Worker.Poised
import Sluice.Proofs.Engine.Staffed
import Sluice.Proofs.Engine.Watched
import Sluice.Proofs.Pipeline.Assembly
import Sluice.Proofs.Pipeline.Halting
import Sluice.Proofs.Input.Effort
import Sluice.Proofs.Worker.Effort
import Sluice.Proofs.Engine.Effort
import Sluice.Proofs.Monitor.Effort
import Sluice.Proofs.Engine.Workload
import Sluice.Proofs.Engine.Completion
import Sluice.Proofs.Worker.Fitting
import Sluice.Proofs.Topology.Cycle
import Sluice.Proofs.Engine.Shutdown
import Sluice.Proofs.Pipeline.Shutdown
import Sluice.Proofs.Engine.Order
import Sluice.Proofs.Pipeline.Order
import Sluice.Proofs.Worker.Ordering
import Sluice.Proofs.Topology.Faultless
import Sluice.Proofs.Pipeline.Construction
import Sluice.Proofs.Stage.Bindings
import Sluice.Proofs.Pipeline.Outcome
import Sluice.Proofs.Engine.Chronicle
import Sluice.Proofs.Worker.Failing
import Sluice.Proofs.Engine.Failure
import Sluice.Proofs.Worker.Rounds
import Sluice.Proofs.Engine.Rounds
import Sluice.Proofs.Link.Conservation
import Sluice.Proofs.Merge.Cancellation
import Sluice.Proofs.Monitor.Backoff
import Sluice.Proofs.Engine.Streaming
import Sluice.Proofs.Link.Wakeup
import Sluice.Proofs.Output.Delivery
import Sluice.Proofs.Merge.RoundTrip
import Sluice.Proofs.Worker.OneShot
import Sluice.Proofs.Engine.OneShot
import Sluice.Proofs.Lifecycle.Watch
import Sluice.Proofs.Topology.Faults
import Sluice.Proofs.Pipeline.Lookup
import Sluice.Proofs.MethodPath.Form
import Sluice.Proofs.Endpoint.Dialled
import Sluice.Proofs.Stage.Materializing
import Sluice.Proofs.Config.Capacity
import Sluice.Proofs.Stage.Reordering
import Sluice.Proofs.Merge.Progress
