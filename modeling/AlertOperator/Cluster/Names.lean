/-!
# Names of the objects in use

The names and keys under which the operator finds its inputs and leaves its result. They are fixed
by the layout of the cluster.
-/

namespace AlertOperator.Cluster

/-! ## Secrets -/

/-- The secret with the addresses of GoAlert. -/
def goalertSecret : String := "goalert-secret"

/-- The secret with the key of PagerDuty. -/
def pagerdutySecret : String := "pd-secret"

/-- The secret with the address of the dead man's switch. -/
def watchdogSecret : String := "dms-secret"

/-- The secret that Alertmanager loads its configuration from. -/
def alertmanagerSecret : String := "alertmanager-main"

/-- The key of the configuration in its secret. -/
def configKey : String := "alertmanager.yaml"

def goalertLowKey : String := "GOALERT_URL_LOW"

def goalertHighKey : String := "GOALERT_URL_HIGH"

def goalertHeartbeatKey : String := "GOALERT_HEARTBEAT"

def pagerdutyKey : String := "PAGERDUTY_KEY"

def watchdogKey : String := "SNITCH_URL"

/-! ## Config maps -/

/-- The config map with the namespaces that are managed. -/
def managedNamespaces : String := "managed-namespaces"

/-- The config map with the namespaces of the platform. -/
def platformNamespaces : String := "ocp-namespaces"

/-- The config map of the agent for managed notifications. -/
def ocmAgentMap : String := "ocm-agent"

/-- The key of the document in both config maps with namespaces. -/
def namespacesKey : String := "managed_namespaces.yaml"

def ocmAgentUrlKey : String := "serviceURL"

/-! ## What is watched -/

/-- The names of the objects whose changes lead to a pass. -/
def watchedNames : List String :=
  [goalertSecret, pagerdutySecret, watchdogSecret, alertmanagerSecret, ocmAgentMap,
    managedNamespaces, platformNamespaces]

/-- A change of an object with the given name leads to a pass. -/
def isWatched (name : String) : Bool := watchedNames.contains name

/-- The name of the operator. -/
def operatorName : String := "configure-alertmanager-operator"

end AlertOperator.Cluster
