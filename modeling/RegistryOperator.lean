import RegistryOperator.Api.Script
import RegistryOperator.Json.Strings
import RegistryOperator.Main
import RegistryOperator.Proofs.Cluster.Calm
import RegistryOperator.Proofs.Cluster.Release
import RegistryOperator.Proofs.Operator.Gating
import RegistryOperator.Proofs.Operator.Hosting
import RegistryOperator.Proofs.Queue.History
import RegistryOperator.Proofs.Queue.Waking
import RegistryOperator.Proofs.Reconcile.Discipline
import RegistryOperator.Proofs.Reconcile.Retry
import RegistryOperator.Proofs.Trigger.Coverage
import RegistryOperator.Queue.Command
import RegistryOperator.Watch.Script
import RegistryOperator.Proofs.Cache.Keys
import RegistryOperator.Proofs.Cache.Mirror
import RegistryOperator.Proofs.Trigger.Churn
import RegistryOperator.Proofs.Backoff.Debt
import RegistryOperator.Proofs.Config.Limits
import RegistryOperator.Proofs.Json.Records
import RegistryOperator.Proofs.Resource.RoundTrip
import RegistryOperator.Proofs.Resource.Transitions
import RegistryOperator.Proofs.Reconcile.Consistency
import RegistryOperator.Proofs.Schema.Validity
import RegistryOperator.Proofs.Schema.Agreement
import RegistryOperator.Proofs.Api.Teardown
import RegistryOperator.Proofs.Resource.Rendering
import RegistryOperator.Proofs.Backoff.Releases
import RegistryOperator.Proofs.Backoff.Charges
import RegistryOperator.Proofs.Queue.Closing
import RegistryOperator.Proofs.Reconcile.Announcement
