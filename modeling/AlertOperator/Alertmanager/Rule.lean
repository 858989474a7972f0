import AlertOperator.Alertmanager.Route

/-!
# The table of paging rules

The rules by which a paging notifier treats the alerts of the platform. A rule takes the alerts with
given label values and patterns and says what becomes of them: they are dropped, they page with
their own severity, or they page with a fixed severity. The first rule in the table that takes an
alert decides, so the order of the table is part of its meaning.

The rules do not name receivers. Each notifier has its own receivers for the treatments, its
`Tiers`, so one table serves all notifiers.
-/

namespace AlertOperator.Alertmanager

/-! ## Names of receivers -/

namespace ReceiverName

/-- Drops what it is sent. -/
def null : String := "null"
/-- Is told without end that the platform raises alerts at all. -/
def watchdog : String := "watchdog"
/-- Takes managed notifications. -/
def ocmAgent : String := "ocmagent"
def pagerduty : String := "pagerduty"
def makeItWarning : String := "make-it-warning"
def makeItError : String := "make-it-error"
def makeItCritical : String := "make-it-critical"
def goalert : String := "goalert"
def goalertLow : String := "goalert-low"
def goalertHigh : String := "goalert-high"
/-- The counterpart of the watchdog at GoAlert. -/
def goalertHeartbeat : String := "goalert-heartbeat"

end ReceiverName

/-! ## Treatments -/

/-- What becomes of an alert. -/
inductive Target where
  /-- Nobody is told. -/
  | drop
  /-- It pages with its own severity. -/
  | page
  | warning
  | error
  | critical
  deriving DecidableEq, Repr

/-- The receivers of one notifier, by treatment. -/
structure Tiers where
  /-- The receiver of alerts that no rule takes. -/
  root : String
  /-- The receiver of alerts that page with their own severity. -/
  page : String
  warning : String
  error : String
  critical : String
  deriving DecidableEq, Repr

namespace Tiers

/-- PagerDuty drops what no rule takes and has a receiver for each severity. -/
def pagerduty : Tiers where
  root := ReceiverName.null
  page := ReceiverName.pagerduty
  warning := ReceiverName.makeItWarning
  error := ReceiverName.makeItError
  critical := ReceiverName.makeItCritical

/-- GoAlert keeps what no rule takes and has two priorities, of which errors have the high one. -/
def goalert : Tiers where
  root := ReceiverName.goalert
  page := ReceiverName.goalert
  warning := ReceiverName.goalertLow
  error := ReceiverName.goalertHigh
  critical := ReceiverName.goalertHigh

/-- The receiver for a treatment. -/
def receiver (t : Tiers) : Target → String
  | .drop => ReceiverName.null
  | .page => t.page
  | .warning => t.warning
  | .error => t.error
  | .critical => t.critical

end Tiers

/-! ## Rules -/

/-- A rule: which alerts it takes and what becomes of them. -/
structure Rule where
  target : Target
  /-- The values that labels must have. -/
  labels : List (String × String)
  /-- The patterns that labels must match. -/
  patterns : List (String × String) := []
  deriving DecidableEq, Repr

namespace Rule

/-- Alerts with the given labels are dropped. -/
def drop (labels : List (String × String)) : Rule := ⟨.drop, labels, []⟩

/-- The route of a rule to the receivers of one notifier. -/
def route (r : Rule) (tiers : Tiers) : Route :=
  { receiver := tiers.receiver r.target
    labels := Dict.ofList r.labels
    patterns := Dict.ofList r.patterns }

end Rule

/-! ## Label values that recur -/

/-- The value of the label `prometheus` on the alerts of the platform itself. -/
def platformPrometheus : String := "openshift-monitoring/k8s"

def loggingNamespace : String := "openshift-logging"

def userWorkloadNamespace : String := "openshift-user-workload-monitoring"

/-- The names of the machines that run the control plane. -/
def masterMachine : String := "^.+-master-[123]$"

/-- The namespaces of layered products. -/
def layeredProducts : String := "^redhat-.*$"

/-- The label that workloads set to have an alert sent as a managed notification. -/
def managedLabel : String := "send_managed_notification"

/-! ## The table -/

/-- The rules for every environment, in order. -/
def baseRules : List Rule := [
  -- machines of the control plane that are gone
  { target := .critical,
    labels := [("alertname", "MachineWithoutValidNode"), ("namespace", "openshift-machine-api")],
    patterns := [("name", masterMachine)] },
  { target := .critical,
    labels := [("alertname", "MachineWithNoRunningPhase"), ("namespace", "openshift-machine-api")],
    patterns := [("name", masterMachine)] },
  -- managed notifications
  .drop [(managedLabel, "true")],
  .drop [("alertname", "KubeQuotaExceeded")],
  .drop [("alertname", "KubeQuotaFullyUsed")],
  .drop [("alertname", "CPUThrottlingHigh")],
  .drop [("alertname", "NodeFilesystemSpaceFillingUp"), ("severity", "warning")],
  .drop [("namespace", "openshift-customer-monitoring")],
  .drop [("namespace", "openshift-operators")],
  .drop [("namespace", "openshift-storage")],
  .drop [("namespace", "openshift-compliance")],
  .drop [("exported_namespace", "openshift-storage")],
  .drop [("exported_namespace", "openshift-operators")],
  .drop [("namespace", "openshift-operators-redhat")],
  .drop [("alertname", "CustomResourceDetected")],
  .drop [("alertname", "ImagePruningDisabled")],
  .drop [("severity", "info")],
  .drop [("alertname", "KubePersistentVolumeFillingUp"), ("severity", "warning"),
    ("namespace", loggingNamespace)],
  { target := .drop, labels := [("alertname", "PodDisruptionBudgetLimit")],
    patterns := [("namespace", layeredProducts)] },
  { target := .drop, labels := [("alertname", "PodDisruptionBudgetAtLimit")],
    patterns := [("namespace", layeredProducts)] },
  { target := .drop,
    labels := [("alertname", "TargetDown")], patterns := [("namespace", layeredProducts)] },
  { target := .drop, labels := [("alertname", "KubeJobFailed"), ("namespace", loggingNamespace)],
    patterns := [("job_name", "^elasticsearch.*")] },
  -- of the logging alerts, only those made for paging page
  { target := .page,
    labels := [("namespace", loggingNamespace)], patterns := [("alertname", "^.*SRE$")] },
  .drop [("alertname", "FluentDHighErrorRate"), ("namespace", loggingNamespace)],
  .drop [("alertname", "FluentDVeryHighErrorRate"), ("namespace", loggingNamespace)],
  .drop [("alertname", "FluentdNodeDown"), ("namespace", loggingNamespace)],
  .drop [("alertname", "FluentdNodeDown"), ("prometheus", platformPrometheus)],
  .drop [("alertname", "FluentdQueueLengthIncreasing"), ("namespace", loggingNamespace)],
  .drop [("alertname", "AggregatedLoggingSystemCPUHigh"), ("namespace", loggingNamespace)],
  .drop [("alertname", "ElasticsearchClusterNotHealthy"), ("namespace", loggingNamespace)],
  .drop [("alertname", "ElasticsearchDiskSpaceRunningLow"), ("namespace", loggingNamespace)],
  .drop [("alertname", "ElasticsearchHighFileDescriptorUsage"), ("namespace", loggingNamespace)],
  .drop [("alertname", "ElasticsearchJVMHeapUseHigh"), ("namespace", loggingNamespace)],
  .drop [("alertname", "ElasticsearchNodeDiskWatermarkReached"), ("namespace", loggingNamespace)],
  .drop [("alertname", "ElasticsearchOperatorCSVNotSuccessful"), ("namespace", loggingNamespace)],
  .drop [("alertname", "ElasticsearchProcessCPUHigh"), ("namespace", loggingNamespace)],
  .drop [("alertname", "ElasticsearchWriteRequestsRejectionJumps"),
    ("namespace", loggingNamespace)],
  -- another alert pages for the same fault
  .drop [("alertname", "HAProxyReloadFail"), ("severity", "critical")],
  .drop [("alertname", "PrometheusRuleFailures")],
  .drop [("alertname", "ClusterOperatorDegraded"), ("name", "authentication"),
    ("reason", "IdentityProviderConfig_Error")],
  .drop [("alertname", "ClusterOperatorDegraded"), ("name", "authentication"),
    ("reason", "OAuthServerConfigObservation_Error")],
  .drop [("alertname", "ClusterOperatorDown"), ("name", "authentication"),
    ("reason", "IdentityProviderConfig_Error")],
  .drop [("alertname", "ClusterOperatorDown"), ("name", "authentication"),
    ("reason", "OAuthServerConfigObservation_Error")],
  .drop [("alertname", "CannotRetrieveUpdates")],
  .drop [("alertname", "PrometheusNotIngestingSamples"), ("namespace", userWorkloadNamespace)],
  .drop [("alertname", "FluentdQueueLengthBurst"), ("namespace", loggingNamespace),
    ("severity", "warning")],
  .drop [("alertname", "ClusterAutoscalerUnschedulablePods"),
    ("namespace", "openshift-machine-api")],
  .drop [("severity", "alert")],
  { target := .warning, labels := [("alertname", "KubeAPILatencyHigh"), ("severity", "critical")] },
  { target := .page, labels := [("job", "fluentd"), ("prometheus", platformPrometheus)] },
  { target := .page, labels := [("cluster", "elasticsearch"), ("prometheus", platformPrometheus)] },
  { target := .error,
    labels := [("alertname", "NodeClockNotSynchronising"), ("prometheus", platformPrometheus)] },
  -- this alert has no namespace by which it could page
  { target := .page,
    labels := [("alertname", "KubeAPIErrorBudgetBurn"), ("prometheus", platformPrometheus)] },
  .drop [("alertname", "PrometheusBadConfig"), ("namespace", userWorkloadNamespace)],
  .drop [("alertname", "PrometheusDuplicateTimestamps"), ("namespace", userWorkloadNamespace)],
  .drop [("alertname", "PrometheusTargetSyncFailure"), ("namespace", userWorkloadNamespace)],
  .drop [("alertname", "PrometheusOperatorRejectedResources"),
    ("namespace", userWorkloadNamespace)],
  { target := .warning,
    labels := [("alertname", "etcdGRPCRequestsSlow"), ("namespace", "openshift-etcd")] },
  { target := .warning, labels := [("alertname", "ExtremelyHighIndividualControlPlaneCPU"),
      ("namespace", "openshift-kube-apiserver")] },
  { target := .warning, labels := [("alertname", "etcdHighNumberOfFailedGRPCRequests"),
      ("namespace", "openshift-etcd")] },
  { target := .warning, labels := [("severity", "critical"),
      ("namespace", "openshift-deployment-validation-operator")] },
  .drop [("alertname", "MultipleDefaultStorageClasses"),
    ("namespace", "openshift-cluster-storage-operator")],
  { target := .drop,
    labels := [("alertname", "NodeFilesystemAlmostOutOfSpace"), ("severity", "critical")],
    patterns := [("mountpoint", "/var/lib/ibmc-s3fs.*")] }]

/-- The rules added where Insights is not available. -/
def fedrampRules : List Rule := [
  .drop [("alertname", "ClusterOperatorDown"), ("name", "insights")]]

end AlertOperator.Alertmanager
