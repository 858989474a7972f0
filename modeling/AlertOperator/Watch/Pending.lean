/-!
# Pending timers

The keys of the requests that have a timer running. A key has one timer at most: another one is not
started before the first has come to its end.
-/

namespace AlertOperator.Watch

/-- The keys that have a timer running. -/
structure Pending where
  keys : List String := []
  deriving DecidableEq, Inhabited, Repr

namespace Pending

/-- A timer is running for `key`. -/
def contains (key : String) (p : Pending) : Bool := p.keys.contains key

/-- Notes a timer for `key`, and says whether it is to be started. -/
def schedule (key : String) (p : Pending) : Bool × Pending :=
  if p.contains key then (false, p) else (true, ⟨key :: p.keys⟩)

/-- Notes that the timer for `key` has come to its end. -/
def complete (key : String) (p : Pending) : Pending := ⟨p.keys.filter (· != key)⟩

end Pending

end AlertOperator.Watch
