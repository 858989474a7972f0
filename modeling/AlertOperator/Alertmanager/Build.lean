import AlertOperator.Alertmanager.Inhibition
import AlertOperator.Alertmanager.Receivers
import AlertOperator.Alertmanager.Routing

/-!
# From settings of the cluster to a configuration

What the operator finds in the cluster decides which notifiers are configured. Each configured
notifier contributes one route below the root and its receivers, in a fixed order: the watchdog, the
agent for managed notifications, PagerDuty, and in FedRAMP environments the GoAlert heartbeat and
GoAlert. The receiver that drops alerts is always there and comes last.
-/

namespace AlertOperator.Alertmanager

/-- What the operator finds in the cluster. An empty text means that something is not configured. -/
structure Inputs where
  pagerdutyKey : String := ""
  watchdogUrl : String := ""
  ocmAgentUrl : String := ""
  goalertLowUrl : String := ""
  goalertHighUrl : String := ""
  goalertHeartbeatUrl : String := ""
  clusterId : String := ""
  clusterProxy : String := ""
  /-- The patterns of the namespaces whose alerts page. -/
  namespaces : List String := []
  fedramp : Bool := false
  deriving DecidableEq, Inhabited, Repr

/-- What a notifier contributes to a configuration: the route below the root, if it is configured,
and its receivers. -/
structure Contribution where
  route : Option Route := none
  receivers : List Receiver := []
  deriving DecidableEq, Inhabited

/-- A contribution that is made only under a condition. -/
def Contribution.when (condition : Bool) (route : Route) (receivers : List Receiver) :
    Contribution :=
  if condition then ⟨some route, receivers⟩ else {}

namespace Inputs

variable (i : Inputs)

/-- The watchdog. -/
def watchdog : Contribution :=
  .when (i.watchdogUrl != "") .watchdog (Receiver.watchdog i.watchdogUrl i.clusterProxy)

/-- The agent for managed notifications. -/
def ocmAgent : Contribution :=
  .when (i.ocmAgentUrl != "") .ocmAgent (Receiver.ocmAgent i.ocmAgentUrl)

/-- PagerDuty. -/
def pagerduty : Contribution :=
  .when (i.pagerdutyKey != "") (.pagerduty i.namespaces i.fedramp)
    (Receiver.forPagerduty i.pagerdutyKey i.clusterId i.clusterProxy i.fedramp)

/-- The GoAlert heartbeat. -/
def heartbeat : Contribution :=
  .when (i.fedramp && i.goalertHeartbeatUrl != "") .heartbeat
    (Receiver.heartbeat i.goalertHeartbeatUrl i.clusterProxy)

/-- GoAlert, which needs both of its addresses. -/
def goalert : Contribution :=
  .when (i.fedramp && i.goalertLowUrl != "" && i.goalertHighUrl != "")
    (.goalert i.namespaces i.fedramp)
    (Receiver.goalert i.goalertLowUrl i.goalertHighUrl i.clusterProxy)

/-- The contributions of all notifiers, in order. -/
def contributions : List Contribution :=
  [i.watchdog, i.ocmAgent, i.pagerduty, i.heartbeat, i.goalert]

end Inputs

/-- The address to which PagerDuty notifiers post. -/
def pagerdutyUrl : String := "https://events.pagerduty.com/v2/enqueue"

/-- The root of the routing tree above the given routes. -/
def Route.root (routes : List Route) : Route :=
  { receiver := ReceiverName.null
    groupBy := ["job"]
    groupWait := "30s"
    groupInterval := "5m"
    repeatInterval := "12h"
    routes := routes }

/-- The configuration for what the operator finds in the cluster. -/
def Inputs.config (i : Inputs) : Config :=
  { global := some { resolveTimeout := "5m", pagerdutyUrl := pagerdutyUrl }
    route := some (Route.root (i.contributions.filterMap (·.route)))
    inhibitRules := InhibitRule.standard
    receivers := i.contributions.flatMap (·.receivers) ++ [Receiver.blackhole ReceiverName.null] }

end AlertOperator.Alertmanager
