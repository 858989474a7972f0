import AlertOperator.Operator.ErrorPolicy
import AlertOperator.Operator.Pass
import AlertOperator.Watch.Pending

/-!
# The watch loop

Requests wait in a queue and are answered one at a time, so passes never meet. A pass that wants to
be followed by another one starts a timer, and a timer that comes to its end puts its request into
the queue again. A request has one timer at most: while it runs, no other is started for it, however
early that one would end. Once the loop has stopped it does nothing any more.

Time is counted in milliseconds. A timer ends with the first of them that is not before its time, so
that one of no length ends at once.
-/

namespace AlertOperator.Watch

open Cluster (Session)
open Retry (Requeue)
open Time (Duration Instant)

/-- A request that will be put into the queue. -/
structure Timer where
  /-- The millisecond at which the timer ends. -/
  due : Nat
  request : Request
  deriving DecidableEq, Inhabited, Repr

/-- The state of the loop, with the operator and the cluster that it works on. -/
structure Loop where
  operator : Operator
  session : Session := {}
  /-- The milliseconds since the start. -/
  now : Nat := 0
  /-- The requests to be answered, in order. -/
  queue : List Request := []
  /-- The keys for which a timer runs. -/
  pending : Pending := {}
  /-- The timers that run, in the order in which they were started. -/
  timers : List Timer := []
  stopped : Bool := false
  deriving Inhabited

namespace Loop

/-- Puts a request into the queue. -/
def receive (r : Request) (l : Loop) : Loop :=
  if l.stopped then l else { l with queue := l.queue ++ [r] }

/-- Stops the loop. -/
def stop (l : Loop) : Loop := { l with stopped := true }

/-! ## Timers -/

/-- Starts a timer for a request, unless one runs for it already. -/
def schedule (r : Request) (delay : Duration) (l : Loop) : Loop :=
  match l.pending.schedule r.key with
  | (true, pending) =>
    { l with
      pending := pending
      timers := l.timers ++ [⟨l.now + delay.millisUp, r⟩] }
  | (false, _) => l

/-- Lets a timer come to its end. -/
def fire (t : Timer) (l : Loop) : Loop :=
  { l with
    pending := l.pending.complete t.request.key
    timers := l.timers.erase t }.receive t.request

/-- It is time for some timer to come to its end. -/
def ends (l : Loop) : Bool := l.timers.any fun t ↦ t.due ≤ l.now

/-- Lets all timers come to their end whose time it is. -/
def expire (l : Loop) : Loop :=
  (l.timers.filter fun t ↦ t.due ≤ l.now).foldl (fun l t ↦ l.fire t) l

/-! ## Passes -/

/-- What follows the answer to a request. -/
def conclude (r : Request) (result : Except PassError Requeue) (l : Loop) : Loop :=
  match result with
  | .ok requeue =>
    let l := { l with operator := l.operator.resetBackoff r }
    match requeue.delay l.operator.settings.immediate with
    | some delay => l.schedule r delay
    | none => l
  | .error e =>
    let (delay, operator) := l.operator.handleError l.operator.settings.immediate r e
    { l with operator := operator }.schedule r delay

/-- Answers the request that has waited longest. None if the operator stops. -/
def pass (present : Instant) (l : Loop) : Option Loop :=
  match l.queue with
  | [] => some l
  | r :: rest =>
    (l.operator.reconcile present r l.session).map fun (result, operator, session) ↦
      { l with queue := rest, operator := operator, session := session }.conclude r result

/-- Answers `n` requests. -/
def passes (present : Instant) : Nat → Loop → Option Loop
  | 0, l => some l
  | n + 1, l => (l.pass present).bind (passes present n)

/-- Answers all requests that wait. -/
def settle (present : Instant) (l : Loop) : Option Loop :=
  if l.stopped then some l else l.passes present l.queue.length

end Loop

end AlertOperator.Watch
