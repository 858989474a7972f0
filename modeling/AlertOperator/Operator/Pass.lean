import AlertOperator.Alertmanager.Document
import AlertOperator.Findings
import AlertOperator.Operator.Basic

/-!
# A pass

A pass brings the secret of Alertmanager up to date with the cluster: it asks the gate, reads what
the configuration is made of, and writes the configuration. Requests for other namespaces and for
objects that are not in use need no pass.

Only an error of the gate stops a pass. A call that fails counts as one that found nothing, so that
a broken input makes the configuration smaller instead of keeping it from being written. A write
that fails is counted, and the pass ends like any other. The clock stands still while a pass runs.
-/

namespace AlertOperator

open Alertmanager (Config)
open Cluster (Secret StoreError Session)
open Retry (Requeue)
open Time (Duration Instant)

/-- The result of a call, or what stands for nothing if it failed. -/
def orNothing {α : Type} (nothing : α) : Except StoreError α → α
  | .ok a => a
  | .error _ => nothing

/-- The secret of Alertmanager with a document as its configuration. -/
def alertmanagerSecret (ns document : String) : Secret where
  name := some Cluster.alertmanagerSecret
  ns := some ns
  data := some (Dict.insert Cluster.configKey (Bytes.ofString document) {})

/-- Writes a configuration and says whether it is there. One that cannot be put into a document is
not written. -/
def writeConfig (ns : String) (config : Config) (s : Session) : Bool × Session :=
  match config.toYaml with
  | .error _ => (false, s)
  | .ok document =>
    match s.upsertSecret (alertmanagerSecret ns document) with
    | (.ok (), s) => (true, s)
    | (.error _, s) => (false, s)

namespace Operator

/-- The request needs a pass. -/
def concerns (o : Operator) (r : Request) : Bool :=
  r.ns == o.settings.ns && Cluster.isWatched r.name

/-- Reads what the configuration is made of. -/
def gather (o : Operator) (ready : Bool) (s : Session) : Findings × Session :=
  let (secrets, s) := s.listSecrets o.settings.ns
  let (maps, s) := s.listConfigMaps o.settings.ns
  let (proxy, s) := s.clusterProxy
  let (id, s) := s.clusterId
  ({ secrets := orNothing [] secrets
     configMaps := orNothing [] maps
     clusterProxy := orNothing "" proxy
     clusterId := orNothing "" id
     ready := ready
     fedramp := o.settings.fedramp }, s)

/-- Writes a configuration to the namespace `ns`, and counts it if that fails. -/
def write (ns : String) (config : Config) (o : Operator) (s : Session) : Operator × Session :=
  match writeConfig ns config s with
  | (true, s) => (o, s)
  | (false, s) => (o.record Metrics.addWriteError, s)

/-- Updates the metrics at the end of a pass. -/
def complete (found : Findings) (config : Config) (o : Operator) : Operator :=
  o.record fun m ↦
    (((m.withSecrets found.secrets config).withMaps found.configMaps).addPass).addDuration .zero

/-- The part of a pass behind the gate. -/
def update (ready : Bool) (o : Operator) (s : Session) : Operator × Session :=
  let (found, s) := o.gather ready s
  let config := found.inputs.config
  let (o, s) := o.write o.settings.ns config s
  (o.complete found config, s)

/-- Answers a request: when to run again, or why the pass did not reach its end. None if the
operator stops. -/
def reconcile (now : Instant) (r : Request) (o : Operator) (s : Session) :
    Option (Except PassError Requeue × Operator × Session) :=
  if o.concerns r then
    (o.checkReady now s).map fun
      | (.error e, o, s) => (.error ⟨e, o.requeue⟩, o, s)
      | (.ok ready, o, s) =>
        let (o, s) := o.update ready s
        (.ok o.requeue, o, s)
  else some (.ok .never, o, s)

end Operator

end AlertOperator
