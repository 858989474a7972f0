/-!
# Instants and ages

Instants are counted in seconds from the beginning of 1970 and nanoseconds within the second. The
calendar ends on both sides: it has the years from -262143 to 262142. A span of minutes has to fit
the milliseconds of a signed 64-bit number. An age limit that leaves either range is not compared
with anything; it is an error.
-/

namespace AlertOperator.Time

/-- A point in time. -/
structure Instant where
  /-- Seconds since the beginning of 1970. -/
  seconds : Int
  nanos : Nat := 0
  deriving DecidableEq, Inhabited, Repr

namespace Instant

/-- `a` comes before `b`. -/
def before (a b : Instant) : Bool :=
  a.seconds < b.seconds || (a.seconds == b.seconds && a.nanos < b.nanos)

end Instant

/-- The first second of the calendar. -/
def firstSecond : Int := -8334601228800

/-- The last second of the calendar. -/
def lastSecond : Int := 8210266876799

/-- The largest number of whole seconds in a span. -/
def maxSpan : Int := 9223372036854775

/-- The instant the given minutes before `now`; none if the minutes are no span or the calendar does
not reach that far. -/
def minutesBefore (now : Instant) (minutes : Int) : Option Instant :=
  let span := minutes * 60
  let start := now.seconds - span
  if -maxSpan ≤ span ∧ span ≤ maxSpan ∧ firstSecond ≤ start ∧ start ≤ lastSecond then
    some ⟨start, now.nanos⟩
  else none

/-- Whether `created` is more than the given minutes before `now`, where that can be told. -/
def olderThan (created now : Instant) (minutes : Int) : Option Bool :=
  (minutesBefore now minutes).map created.before

end AlertOperator.Time
