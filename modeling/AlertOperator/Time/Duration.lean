import AlertOperator.Text.Digits

/-!
# Durations

Lengths of time in nanoseconds, up to the largest that a count of seconds below 2⁶⁴ and a fraction
can write. Sums that would be larger stop there, so the longest duration absorbs whatever is added.
-/

namespace AlertOperator.Time

/-- The number of nanoseconds in a second. -/
def nanosPerSecond : Nat := 1000000000

/-- The number of nanoseconds in the longest duration. -/
def maxNanos : Nat := Nat.pow 2 64 * nanosPerSecond - 1

/-- A length of time. -/
structure Duration where
  nanos : Nat
  nanos_le : nanos ≤ maxNanos := by decide
  deriving DecidableEq

namespace Duration

theorem ext_nanos {a b : Duration} (h : a.nanos = b.nanos) : a = b := by
  cases a; cases b; cases h; rfl

/-- The longest duration that has at most `n` nanoseconds. -/
def ofNanos (n : Nat) : Duration := ⟨min n maxNanos, Nat.min_le_right _ _⟩

/-- The duration of `n` milliseconds. -/
def ofMillis (n : Nat) : Duration := ofNanos (n * 1000000)

/-- The duration of `n` seconds. -/
def ofSeconds (n : Nat) : Duration := ofNanos (n * nanosPerSecond)

/-- No time at all. -/
def zero : Duration := ⟨0, by decide⟩

instance : Inhabited Duration := ⟨zero⟩

/-- The sum of two durations, or the longest duration if that is shorter. -/
def add (a b : Duration) : Duration := ofNanos (a.nanos + b.nanos)

instance : Add Duration := ⟨add⟩

/-- The shorter of two durations. -/
def min (a b : Duration) : Duration := if a.nanos ≤ b.nanos then a else b

instance : Min Duration := ⟨min⟩

/-- The whole seconds of a duration. -/
def seconds (d : Duration) : Nat := d.nanos / nanosPerSecond

/-- The nanoseconds of a duration after its whole seconds. -/
def fraction (d : Duration) : Nat := d.nanos % nanosPerSecond

/-- The smallest number of milliseconds that are no shorter than the duration. -/
def millisUp (d : Duration) : Nat := (d.nanos + 999999) / 1000000

/-- The seconds of a duration with nine decimal places. -/
def toText (d : Duration) : String :=
  String.ofList (Text.decimal d.seconds ++ '.' :: Text.padded 9 d.fraction)

/-- The seconds, or parts of a second, in which a person writes a duration: the largest of seconds,
milliseconds, microseconds and nanoseconds of which there is a whole one, without zeros at the end
of the fraction. -/
def toShortText (d : Duration) : String :=
  let (unit, places, suffix) : Nat × Nat × String :=
    if nanosPerSecond ≤ d.nanos then (nanosPerSecond, 9, "s")
    else if 1000000 ≤ d.nanos then (1000000, 6, "ms")
    else if 1000 ≤ d.nanos then (1000, 3, "µs")
    else (1, 0, "ns")
  let fraction := ((Text.padded places (d.nanos % unit)).reverse.dropWhile (· == '0')).reverse
  let fraction := if d.nanos % unit = 0 then [] else '.' :: fraction
  String.ofList (Text.decimal (d.nanos / unit) ++ fraction) ++ suffix

end Duration

end AlertOperator.Time
