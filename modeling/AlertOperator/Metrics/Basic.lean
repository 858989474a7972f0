import AlertOperator.Dict
import AlertOperator.Metrics.Presence
import AlertOperator.Time.Duration

/-!
# Metrics

What the operator counts about itself: what was present at the last completed pass, how many passes
were completed and how long they took, how many ended in an error, how many writes failed, and how
many further passes were scheduled after errors, by reason.
-/

namespace AlertOperator

open Alertmanager (Config)
open Cluster (Secret ConfigMap)
open Time (Duration)

/-- The bounds in milliseconds by which durations are grouped. -/
def Metrics.bounds : List Nat := [50, 100, 250, 500, 1000, 2500, 5000]

/-- How many durations were observed, and how many of them were within each bound. -/
structure Histogram where
  within : List Nat := Metrics.bounds.map fun _ ↦ 0
  count : Nat := 0
  deriving DecidableEq, Inhabited, Repr

/-- Adds a duration to those observed. -/
def Histogram.observe (d : Duration) (h : Histogram) : Histogram where
  within := h.within.zipWith (fun n bound ↦ if d.nanos ≤ bound * 1000000 then n + 1 else n)
    Metrics.bounds
  count := h.count + 1

/-- The metrics of the operator. -/
structure Metrics where
  presence : Metrics.Presence := {}
  maps : Metrics.MapPresence := {}
  /-- Completed passes. -/
  passes : Nat := 0
  durations : Histogram := {}
  /-- Passes that ended in an error. -/
  errors : Nat := 0
  /-- Configurations that could not be written. -/
  writeErrors : Nat := 0
  /-- Passes scheduled after errors, by reason. -/
  requeues : Dict Nat := {}
  deriving DecidableEq, Inhabited

namespace Metrics

/-- Takes over what the secrets and the configuration show. -/
def withSecrets (secrets : List Secret) (config : Config) (m : Metrics) : Metrics :=
  { m with presence := .of secrets config }

/-- Takes over what the config maps show. -/
def withMaps (maps : List ConfigMap) (m : Metrics) : Metrics := { m with maps := .of maps }

def addPass (m : Metrics) : Metrics := { m with passes := m.passes + 1 }

def addDuration (d : Duration) (m : Metrics) : Metrics :=
  { m with durations := m.durations.observe d }

def addError (m : Metrics) : Metrics := { m with errors := m.errors + 1 }

def addWriteError (m : Metrics) : Metrics := { m with writeErrors := m.writeErrors + 1 }

def addRequeue (reason : String) (m : Metrics) : Metrics :=
  { m with requeues := m.requeues.insert reason ((m.requeues.get? reason).getD 0 + 1) }

end Metrics

end AlertOperator
