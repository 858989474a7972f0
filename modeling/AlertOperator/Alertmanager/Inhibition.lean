import AlertOperator.Alertmanager.Config

/-!
# Inhibition rules

The alerts that mute others, in every configuration the same. A rule with a label that no alert has
among those on which the two alerts must agree always applies, since absent labels agree.
-/

namespace AlertOperator.Alertmanager

namespace InhibitRule

/-- An alert with the labels `source` mutes those with labels that match `target` and agree with it
on `equal`. -/
def mute (source target : List (String × String)) (equal : List String) : InhibitRule :=
  { sourceLabels := Dict.ofList source, targetPatterns := Dict.ofList target, equal := equal }

/-- The rules of every configuration, in order. -/
def standard : List InhibitRule := [
  -- a severe alert mutes the milder ones on the same thing
  mute [("severity", "critical")] [("severity", "warning|info")] ["namespace", "alertname"],
  mute [("severity", "warning")] [("severity", "info")] ["namespace", "alertname"],
  -- a degraded operator says more than one that is down
  mute [("alertname", "ClusterOperatorDegraded"), ("severity", "critical")]
    [("alertname", "ClusterOperatorDown")] ["namespace", "name"],
  mute [("alertname", "KubeNodeNotReady")] [("alertname", "KubeNodeUnreachable")]
    ["node", "instance"],
  mute [("alertname", "KubeNodeUnreachable")] [("alertname", "SDNPodNotReady|TargetDown")] [],
  mute [("alertname", "KubeNodeNotReady")]
    [("alertname", "KubeDaemonSetRolloutStuck|KubeDaemonSetMisScheduled|" ++
      "KubeDeploymentReplicasMismatch|KubeStatefulSetReplicasMismatch|KubePodNotReady")]
    ["instance"],
  mute [("alertname", "KubeDeploymentReplicasMismatch")]
    [("alertname", "KubePodNotReady|KubePodCrashLooping")] ["namespace"],
  -- no alert has this label
  mute [("alertname", "ElasticsearchOperatorCSVNotSuccessful")]
    [("alertname", "ElasticsearchClusterNotHealthy")] ["dummylabel"],
  mute [("alertname", "KubeAPIErrorBudgetBurn")] [("alertname", "api-ErrorBudgetBurn")]
    ["severity"]]

end InhibitRule

end AlertOperator.Alertmanager
