import AlertOperator.Time.Duration

/-!
# Growing delays

Delays between attempts that keep failing. The first two are the shortest delay, each later one is
the sum of the two before it, and none is longer than the longest delay. One success starts the
sequence again.
-/

namespace AlertOperator.Retry

open Time (Duration)

/-- The state of a sequence of delays. -/
structure Backoff where
  /-- The delay with which the sequence starts. -/
  least : Duration
  /-- The delay before the next one; none at all at the start. -/
  previous : Duration
  /-- The next delay. -/
  current : Duration
  /-- The longest delay. -/
  most : Duration
  deriving DecidableEq, Inhabited

namespace Backoff

/-- The start of a sequence. -/
def start (least most : Duration) : Backoff := ⟨least, .zero, min least most, most⟩

/-- The next delay, and the sequence after it. -/
def next (b : Backoff) : Duration × Backoff :=
  (b.current, { b with previous := b.current, current := min (b.previous + b.current) b.most })

/-- The start of the same sequence. -/
def reset (b : Backoff) : Backoff := start b.least b.most

end Backoff

/-- The failures of one request since its last success. -/
structure Failures where
  backoff : Backoff
  /-- Their number, which starts again after 32 bits. -/
  count : UInt32 := 0
  deriving DecidableEq, Inhabited

namespace Failures

/-- No failures yet. -/
def none (least most : Duration) : Failures := ⟨.start least most, 0⟩

/-- One more failure. -/
def increment (f : Failures) : Failures := { f with count := f.count + 1 }

/-- The delay after the failures so far, and the state after it. -/
def next (f : Failures) : Duration × Failures :=
  let (delay, backoff) := f.backoff.next
  (delay, { f with backoff := backoff })

/-- The state after a success. -/
def reset (f : Failures) : Failures := ⟨f.backoff.reset, 0⟩

end Failures

end AlertOperator.Retry
