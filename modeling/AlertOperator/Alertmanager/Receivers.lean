import AlertOperator.Alertmanager.Config
import AlertOperator.Alertmanager.Rule

/-!
# The receivers of each notifier

Every notifier reports resolved alerts, and goes through the proxy of the cluster if there is one,
except the agent for managed notifications, which runs inside the cluster. A notifier that is not
configured has no receivers.
-/

namespace AlertOperator.Alertmanager

/-! ## Webhooks -/

/-- A webhook to `url` through `proxy`. -/
def Webhook.to (url proxy : String) : Webhook :=
  { sendResolved := true, http := HttpSettings.forProxy proxy, url := url }

namespace Receiver

/-- The receiver that posts to one address. -/
def webhook (name url proxy : String) : Receiver :=
  { name := name, webhooks := [Webhook.to url proxy] }

/-- The receiver of the dead man's switch at `url`. -/
def watchdog (url proxy : String) : List Receiver :=
  if url = "" then [] else [webhook ReceiverName.watchdog url proxy]

/-- The receiver of the agent for managed notifications at `url`. -/
def ocmAgent (url : String) : List Receiver :=
  if url = "" then [] else [webhook ReceiverName.ocmAgent url ""]

/-- The receiver of the GoAlert heartbeat at `url`. -/
def heartbeat (url proxy : String) : List Receiver :=
  if url = "" then [] else [webhook ReceiverName.goalertHeartbeat url proxy]

/-- The receivers of GoAlert, whose services of low and high priority have an address each. Alerts
that page with their own severity go to the low one. -/
def goalert (lowUrl highUrl proxy : String) : List Receiver :=
  if lowUrl = "" ∨ highUrl = "" then []
  else [
    webhook ReceiverName.goalert lowUrl proxy,
    webhook ReceiverName.goalertLow lowUrl proxy,
    webhook ReceiverName.goalertHigh highUrl proxy]

end Receiver

/-! ## PagerDuty -/

namespace Pagerduty

/-- The severity of the alert, or critical for want of one. -/
def ownSeverity : String :=
  "\x7b\x7b if .CommonLabels.severity \x7d\x7d\x7b\x7b .CommonLabels.severity | toLower \x7d\x7d" ++
    "\x7b\x7b else \x7d\x7dcritical\x7b\x7b end \x7d\x7d"

/-- The address of the Alertmanager that sent the alert. -/
def ownClientUrl : String := "\x7b\x7b template \"pagerduty.default.clientURL\" . \x7d\x7d"

/-- What stands in the place of that address where it must not be told, since it holds the name of
the cluster. -/
def fedrampClientUrl : String := "ROSA"

/-- The headline of an incident. -/
def headline : String :=
  "\x7b\x7b .CommonLabels.alertname \x7d\x7d \x7b\x7b .CommonLabels.severity | toUpper \x7d\x7d " ++
    "(\x7b\x7b len .Alerts \x7d\x7d)"

/-- The instructions for an alert: its runbook, its link, or the page of its name. -/
def instructions : String :=
  "\x7b\x7b if .CommonAnnotations.runbook_url \x7d\x7d" ++
    "\x7b\x7b .CommonAnnotations.runbook_url \x7d\x7d" ++
    "\x7b\x7b else if .CommonAnnotations.link \x7d\x7d\x7b\x7b .CommonAnnotations.link \x7d\x7d" ++
    "\x7b\x7b else \x7d\x7dhttps://github.com/openshift/ops-sop/tree/master/v4/alerts/" ++
    "\x7b\x7b .CommonLabels.alertname \x7d\x7d.md\x7b\x7b end \x7d\x7d"

/-- The instances that have recovered. -/
def recovered : String :=
  "\x7b\x7b template \"pagerduty.default.instances\" .Alerts.Resolved \x7d\x7d"

/-- The address of the console page of a cluster, up to the name of the cluster. -/
def consoleUrl : String := "https://console.redhat.com/openshift/details/"

/-- The details of an incident. -/
def fullDetails (clusterId : String) : Dict String := Dict.ofList [
  ("alert_name", "\x7b\x7b .CommonLabels.alertname \x7d\x7d"),
  ("link", instructions),
  ("ocm_link", consoleUrl ++ clusterId),
  ("num_firing", "\x7b\x7b .Alerts.Firing | len \x7d\x7d"),
  ("num_resolved", "\x7b\x7b .Alerts.Resolved | len \x7d\x7d"),
  ("resolved", recovered),
  ("cluster_id", clusterId)]

/-- The details that would tell which cluster or which workloads an incident is about. -/
def sensitiveDetails : List String := ["ocm_link", "resolved", "cluster_id", "firing"]

/-- The details of an incident with the sensitive ones blank. -/
def redactedDetails (clusterId : String) : Dict String :=
  sensitiveDetails.foldl (fun d key ↦ d.insert key "") (fullDetails clusterId)

/-- The notifier for incidents with the severity `severity`. -/
def notifier (routingKey clusterId proxy : String) (fedramp : Bool) (severity : String) :
    Pagerduty :=
  { sendResolved := true
    http := HttpSettings.forProxy proxy
    routingKey := routingKey
    clientUrl := if fedramp then fedrampClientUrl else ownClientUrl
    description := headline
    details := if fedramp then redactedDetails clusterId else fullDetails clusterId
    severity := severity }

end Pagerduty

/-- The receivers of PagerDuty: one that keeps the severity of an alert and three that set it. -/
def Receiver.forPagerduty (routingKey clusterId proxy : String) (fedramp : Bool) : List Receiver :=
  if routingKey = "" then []
  else
    [(ReceiverName.pagerduty, Pagerduty.ownSeverity),
      (ReceiverName.makeItWarning, "warning"),
      (ReceiverName.makeItError, "error"),
      (ReceiverName.makeItCritical, "critical")].map fun (name, severity) ↦
        { name := name
          pagerduty := [Pagerduty.notifier routingKey clusterId proxy fedramp severity] }

end AlertOperator.Alertmanager
