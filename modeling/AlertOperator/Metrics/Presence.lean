import AlertOperator.Alertmanager.Build
import AlertOperator.Cluster.Names
import AlertOperator.Cluster.Object

/-!
# What is present

Which of the objects in use exist, and for which services Alertmanager is configured. A service
counts as configured if the configuration has its receiver and both its own secret and the secret of
Alertmanager were there when the secrets were listed.
-/

namespace AlertOperator.Metrics

open Alertmanager
open Cluster (Secret ConfigMap Object)

/-- Some object has the given name. -/
def isListed {β : Type} (name : String) (objects : List (Object β)) : Bool :=
  (Object.find? name objects).isSome

/-- What the secrets and the configuration show. -/
structure Presence where
  goalertSecret : Bool := false
  pagerdutySecret : Bool := false
  watchdogSecret : Bool := false
  alertmanagerSecret : Bool := false
  containsGoalert : Bool := false
  containsPagerduty : Bool := false
  containsWatchdog : Bool := false
  deriving DecidableEq, Inhabited, Repr

/-- What a list of secrets and a configuration show. -/
def Presence.of (secrets : List Secret) (config : Config) : Presence :=
  let configured (secret receiver : String) : Bool :=
    isListed Cluster.alertmanagerSecret secrets && isListed secret secrets &&
      config.hasReceiver receiver
  { goalertSecret := isListed Cluster.goalertSecret secrets
    pagerdutySecret := isListed Cluster.pagerdutySecret secrets
    watchdogSecret := isListed Cluster.watchdogSecret secrets
    alertmanagerSecret := isListed Cluster.alertmanagerSecret secrets
    containsGoalert := configured Cluster.goalertSecret ReceiverName.goalert
    containsPagerduty := configured Cluster.pagerdutySecret ReceiverName.pagerduty
    containsWatchdog := configured Cluster.watchdogSecret ReceiverName.watchdog }

/-- What the config maps show. -/
structure MapPresence where
  managedNamespaces : Bool := false
  platformNamespaces : Bool := false
  deriving DecidableEq, Inhabited, Repr

/-- What a list of config maps shows. -/
def MapPresence.of (maps : List ConfigMap) : MapPresence where
  managedNamespaces := isListed Cluster.managedNamespaces maps
  platformNamespaces := isListed Cluster.platformNamespaces maps

end AlertOperator.Metrics
