import AlertOperator.Api.Calls
import AlertOperator.Api.Manifest
import AlertOperator.Json.Printer
import AlertOperator.Proofs.Alertmanager.Delivery
import AlertOperator.Proofs.Alertmanager.PagingTree
import AlertOperator.Proofs.Operator.Effects
import AlertOperator.Proofs.Operator.Gating
import AlertOperator.Proofs.Operator.Redaction
import AlertOperator.Proofs.Watch.AtRest
import AlertOperator.Proofs.Watch.Timers
import AlertOperator.Watch.ErrorKind
import AlertOperator.Watch.System
import AlertOperator.Proofs.Operator.Degradation
import AlertOperator.Proofs.Operator.Repetition
import AlertOperator.Proofs.Operator.AgeLimit
import AlertOperator.Proofs.Watch.Clock
import AlertOperator.Proofs.Watch.Requeues
import AlertOperator.Proofs.Watch.System
import AlertOperator.Proofs.Retry.Backoff
import AlertOperator.Proofs.Operator.ErrorPolicy
import AlertOperator.Proofs.Alertmanager.Additivity
import AlertOperator.Proofs.Readiness.Checks
import AlertOperator.Proofs.Alertmanager.Managed
import AlertOperator.Proofs.Alertmanager.Counterparts
import AlertOperator.Proofs.Alertmanager.Placement
import AlertOperator.Proofs.Namespaces
import AlertOperator.Proofs.Readiness.Deletion
import AlertOperator.Proofs.Operator.Presence
import AlertOperator.Proofs.Settings.Numbers
import AlertOperator.Proofs.Time.Age
import AlertOperator.Proofs.Url.Webhook
import AlertOperator.Proofs.Watch.ErrorKind
import AlertOperator.Proofs.Api.Resource
