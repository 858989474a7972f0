import AlertOperator.Time.Duration

/-!
# When to run again

What a pass asks for after it has ended: to wait for the next change in the cluster, to run again as
soon as the operator allows, or to run again after a given time.
-/

namespace AlertOperator.Retry

open Time (Duration)

/-- When to run again. -/
inductive Requeue where
  | never
  | immediately
  | after (delay : Duration)
  deriving DecidableEq, Inhabited

namespace Requeue

/-- The time to wait, where `immediate` is the shortest time between two passes; none if only a
change leads to the next pass. -/
def delay (immediate : Duration) : Requeue → Option Duration
  | never => none
  | immediately => some immediate
  | after d => some d

/-- The name of a policy in descriptions of the operator. -/
def describe : Requeue → String
  | never => "Never"
  | immediately => "Immediately"
  | after d => "After(" ++ d.toShortText ++ ")"

end Requeue

end AlertOperator.Retry
