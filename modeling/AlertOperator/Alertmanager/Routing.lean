import AlertOperator.Alertmanager.Rule

/-!
# The routes of each notifier

A paging notifier has a tree of its own below the root: the rules of the table in their order, and
after them two routes for each namespace that pages. Of these, the first goes by the label
`exported_namespace`, the second by `namespace` on alerts without an exported one, so no alert is
taken by both. The trees continue, so that every notifier sees every alert.

Managed notifications go to their agent alone: its route does not continue, and all paging routes
come after it.
-/

namespace AlertOperator.Alertmanager

namespace Route

/-- The two routes to the receiver `page` for the namespaces that match `pattern`. -/
def forNamespace (page pattern : String) : List Route := [
  { receiver := page
    labels := Dict.ofList [("prometheus", platformPrometheus)]
    patterns := Dict.ofList [("exported_namespace", pattern)] },
  { receiver := page
    labels := Dict.ofList [("exported_namespace", ""), ("prometheus", platformPrometheus)]
    patterns := Dict.ofList [("namespace", pattern)] }]

/-- The rules that hold in an environment. -/
def rulesFor (fedramp : Bool) : List Rule :=
  if fedramp then baseRules ++ fedrampRules else baseRules

/-- The tree of a paging notifier. -/
def paging (tiers : Tiers) (namespaces : List String) (fedramp : Bool) : Route :=
  { receiver := tiers.root
    groupBy := ["alertname", "severity"]
    continues := true
    routes :=
      (rulesFor fedramp).map (·.route tiers) ++ namespaces.flatMap (forNamespace tiers.page) }

/-- The tree of PagerDuty. -/
def pagerduty (namespaces : List String) (fedramp : Bool) : Route :=
  paging .pagerduty namespaces fedramp

/-- The tree of GoAlert. -/
def goalert (namespaces : List String) (fedramp : Bool) : Route :=
  paging .goalert namespaces fedramp

/-- The route of the alert that is always firing, to a receiver that expects it. -/
def heartbeatTo (receiver : String) : Route :=
  { receiver := receiver
    labels := Dict.ofList [("alertname", "Watchdog")]
    continues := true
    repeatInterval := "5m" }

/-- The route of the always firing alert to the dead man's switch. -/
def watchdog : Route := heartbeatTo ReceiverName.watchdog

/-- The route of the always firing alert to GoAlert. -/
def heartbeat : Route := heartbeatTo ReceiverName.goalertHeartbeat

/-- The route of managed notifications. -/
def ocmAgent : Route :=
  { receiver := ReceiverName.ocmAgent
    labels := Dict.ofList [(managedLabel, "true")]
    repeatInterval := "10m" }

end Route

end AlertOperator.Alertmanager
