import AlertOperator.Dict
import AlertOperator.Metrics.Basic
import AlertOperator.Readiness
import AlertOperator.Retry.Backoff
import AlertOperator.Settings
import AlertOperator.Text.Quoted

/-!
# The operator

The operator answers requests: each names an object of the cluster that has changed, or that is to
be looked at again. Between requests it keeps the readiness gate, how often each request has failed
in a row, and its metrics.

Failures are kept under a lock. A holder of the lock that dies leaves them as they are for good.
-/

namespace AlertOperator

open Cluster (Session)
open Retry (Requeue Failures)
open Time (Duration Instant)

/-- An object that has changed or is to be looked at again. -/
structure Request where
  ns : String
  name : String
  deriving DecidableEq, Inhabited, Repr

/-- The key under which failures and timers of a request are kept. -/
def Request.key (r : Request) : String := r.ns ++ "/" ++ r.name

/-- What the readiness gate says, with its wish for the next pass. -/
structure Verdict where
  ready : Except ReadinessError Bool
  requeue : Requeue

/-- Why a pass did not reach its end: readiness could not be determined. The gate may have a wish
for the next pass all the same. -/
structure PassError where
  cause : ReadinessError
  requeue : Requeue
  deriving DecidableEq

namespace PassError

/-- The wish for the next pass, if there is one. -/
def wish (e : PassError) : Option Requeue :=
  match e.requeue with
  | .never => none
  | requeue => some requeue

/-- The message of an error, where its cause is told. -/
def message? (e : PassError) : Option String :=
  e.cause.message?.map ("Error determining cluster readiness: " ++ ·)

end PassError

/-- The state of the operator. -/
structure Operator where
  settings : Settings := {}
  gate : Gate := {}
  /-- A verdict to go by, in place of the gate's. -/
  assumed : Option Verdict := none
  /-- The failures of requests by their keys. -/
  failures : Dict Failures := {}
  /-- The failures are no longer kept, since a holder of their lock has died. -/
  abandoned : Bool := false
  metrics : Metrics := {}
  deriving Inhabited

namespace Operator

/-- Counts something. -/
def record (f : Metrics → Metrics) (o : Operator) : Operator := { o with metrics := f o.metrics }

/-- The wish of the gate for the next pass, after its last check. -/
def requeue (o : Operator) : Requeue :=
  match o.assumed with
  | some verdict => verdict.requeue
  | none => o.gate.requeue

/-- Asks the gate whether the cluster is ready. None if the operator stops. -/
def checkReady (now : Instant) (o : Operator) (s : Session) :
    Option (Except ReadinessError Bool × Operator × Session) :=
  match o.assumed with
  | some verdict => some (verdict.ready, o, s)
  | none =>
    (o.gate.check o.settings.maxAgeMinutes now s).map fun c ↦
      (c.ready, { o with gate := c.gate }, c.session)

/-- The operator as descriptions show it. -/
def describe (o : Operator) : String :=
  "Reconciler \x7b namespace: " ++ Text.quote o.settings.ns ++ ", fedramp: " ++
    toString o.settings.fedramp ++ ", .. \x7d"

end Operator

end AlertOperator
