import AlertOperator.Operator.Basic

/-!
# What follows an error

An error that comes with a wish for the next pass has it granted. Any other error delays the next
pass for its request by that request's own growing delays, so that a request that keeps failing does
not slow the others down. A success starts the delays of its request again.
-/

namespace AlertOperator.Operator

open Retry (Requeue Failures)
open Time (Duration)

/-- The failures of a request. -/
def failuresOf (r : Request) (o : Operator) : Failures :=
  (o.failures.get? r.key).getD (.none o.settings.backoffStart o.settings.backoffMax)

/-- Counts a failure of a request, and gives the delay after it; the longest delay if failures are
no longer kept. -/
def backOff (r : Request) (o : Operator) : Duration × Operator :=
  if o.abandoned then (o.settings.backoffMax, o)
  else
    let (delay, failures) := (o.failuresOf r).increment.next
    (delay, { o with failures := o.failures.insert r.key failures })

/-- The time until a request whose pass ended in an error is looked at again, where `immediate` is
the shortest time between two passes. -/
def handleError (immediate : Duration) (r : Request) (e : PassError) (o : Operator) :
    Duration × Operator :=
  let o := o.record Metrics.addError
  match e.wish.bind (Requeue.delay immediate) with
  | some delay => (delay, o.record (Metrics.addRequeue "readiness"))
  | none =>
    let (delay, o) := o.backOff r
    (delay, o.record (Metrics.addRequeue "error-backoff"))

/-- Forgets the failures of a request. -/
def resetBackoff (r : Request) (o : Operator) : Operator :=
  if o.abandoned then o
  else
    match o.failures.get? r.key with
    | some failures => { o with failures := o.failures.insert r.key failures.reset }
    | none => o

end AlertOperator.Operator
