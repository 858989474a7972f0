import AlertOperator.Cluster.Names
import AlertOperator.Metrics.Basic

/-!
# The page of metrics

Metrics are read as a page of text. It has a family of samples for each metric, in the order of
their names; a family begins with two lines that explain it, and each sample is a line with its
name, its labels if it has any, and its value. Which families there are does not depend on what was
counted.
-/

namespace AlertOperator.Metrics

/-- How the values of a metric behave. -/
inductive Kind where
  | counter
  | gauge
  | histogram
  deriving DecidableEq, Repr

/-- The name of a kind of metric. -/
def Kind.word : Kind → String
  | counter => "counter"
  | gauge => "gauge"
  | histogram => "histogram"

/-- One value of a metric. -/
structure Sample where
  name : String
  labels : List (String × String) := []
  value : Nat
  deriving DecidableEq, Repr

/-- A metric with its values. -/
structure Family where
  name : String
  help : String
  kind : Kind
  samples : List Sample
  deriving Repr

/-! ## The families -/

/-- A metric that says whether something is the case. -/
def presenceGauge (name help : String) (value : Bool) : Family :=
  ⟨name, help, .gauge, [⟨name, [("name", Cluster.operatorName)], value.toNat⟩]⟩

/-- A metric without labels that counts events. -/
def eventCounter (name help : String) (value : Nat) : Family :=
  ⟨name, help, .counter, [⟨name, [], value⟩]⟩

/-- The seconds of a bound given in milliseconds, in the shortest form. -/
def boundText (millis : Nat) : String :=
  let fraction := ((Text.padded 3 (millis % 1000)).reverse.dropWhile (· == '0')).reverse
  String.ofList (Text.decimal (millis / 1000) ++
    if fraction.isEmpty then [] else '.' :: fraction)

/-- The metric of how long passes take. -/
def durationHistogram (h : Histogram) : Family :=
  let name := "alertmanager_operator_reconciliation_duration_seconds"
  let bucket (bound : String) (n : Nat) : Sample := ⟨name ++ "_bucket", [("le", bound)], n⟩
  { name := name
    help := "Duration of reconciliation in seconds"
    kind := .histogram
    samples := bounds.zipWith (fun bound n ↦ bucket (boundText bound) n) h.within ++
      [bucket "+Inf" h.count, ⟨name ++ "_count", [], h.count⟩] }

/-- The metric of passes scheduled after errors. -/
def requeueCounter (requeues : Dict Nat) : Family :=
  let name := "alertmanager_operator_requeues_total"
  { name := name
    help := "Total number of scheduled requeues by reason"
    kind := .counter
    samples := requeues.entries.map fun e ↦ ⟨name, [("reason", e.1)], e.2⟩ }

/-- All metrics, in the order of their names. -/
def families (m : Metrics) : List Family := [
  eventCounter "alertmanager_operator_config_write_errors_total"
    "Total number of failed writes of the alertmanager-main secret" m.writeErrors,
  durationHistogram m.durations,
  eventCounter "alertmanager_operator_reconciliation_errors_total"
    "Total number of reconciliation passes that returned an error" m.errors,
  eventCounter "alertmanager_operator_reconciliations_total"
    "Total number of completed reconciliation passes" m.passes,
  requeueCounter m.requeues,
  presenceGauge "am_secret_contains_dms"
    "AlertManager Config contains configuration for Dead Man's Snitch" m.presence.containsWatchdog,
  presenceGauge "am_secret_contains_ga"
    "AlertManager Config contains configuration for GoAlert" m.presence.containsGoalert,
  presenceGauge "am_secret_contains_pd"
    "AlertManager Config contains configuration for Pager Duty" m.presence.containsPagerduty,
  presenceGauge "am_secret_exists"
    "AlertManager Config secret exists" m.presence.alertmanagerSecret,
  presenceGauge "dms_secret_exists" "Dead Man's Snitch secret exists" m.presence.watchdogSecret,
  presenceGauge "ga_secret_exists" "GoAlert secret exists" m.presence.goalertSecret,
  presenceGauge "managed_namespaces_configmap_exists"
    "managed-namespaces configMap exists" m.maps.managedNamespaces,
  presenceGauge "ocp_namespaces_configmap_exists"
    "ocp-namespaces configMap exists" m.maps.platformNamespaces,
  presenceGauge "pd_secret_exists" "Pager Duty secret exists" m.presence.pagerdutySecret]

/-! ## The text -/

/-- A character of a label's value as it is written. -/
def labelChar (c : Char) : List Char :=
  if c = '\\' then ['\\', '\\']
  else if c = '\n' then ['\\', 'n']
  else if c = '\x22' then ['\\', '\x22']
  else [c]

/-- A label as it is written. -/
def labelText (label : String × String) : String :=
  label.1 ++ "=\"" ++ String.ofList (label.2.toList.flatMap labelChar) ++ "\""

/-- The name and labels of a sample as they are written. -/
def Sample.key (s : Sample) : String :=
  if s.labels.isEmpty then s.name
  else s.name ++ "\x7b" ++ String.intercalate "," (s.labels.map labelText) ++ "\x7d"

/-- The line of a sample. -/
def Sample.line (s : Sample) : String := s.key ++ " " ++ toString s.value

/-- The lines of a family. -/
def Family.lines (f : Family) : List String :=
  ("# HELP " ++ f.name ++ " " ++ f.help) :: ("# TYPE " ++ f.name ++ " " ++ f.kind.word) ::
    f.samples.map Sample.line

/-- The lines of the page. -/
def page (m : Metrics) : List String := m.families.flatMap Family.lines

end AlertOperator.Metrics
