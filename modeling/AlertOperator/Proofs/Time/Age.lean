import AlertOperator.Time.Date
import AlertOperator.Time.Instant

/-!
# Ages in nanoseconds

Instants are pairs of seconds and nanoseconds, and an age is compared with a limit in minutes by
going that far back from the present. In nanoseconds since the beginning of 1970, `Instant.toNanos`,
both are integer arithmetic: the way back is a subtraction, since whole minutes leave the
nanoseconds within the second alone, and the order of pairs is that of numbers, since there are
fewer nanoseconds than a second has. `minutesBefore_eq` says the first, `Instant.before_iff` the
second, and `olderThan_eq` is the one after the other.

There are two limits to going back, and neither depends on the other. The minutes have to be a span,
one that is counted in milliseconds in 64 bits, and the calendar ends on both sides.
-/

namespace AlertOperator.Time

/-! ## Instants as numbers -/

/-- The nanoseconds from the beginning of 1970 to an instant. -/
def Instant.toNanos (t : Instant) : Int := t.seconds * 1000000000 + t.nanos

/-- The nanoseconds from the beginning of 1970 to that of a day. -/
def Date.toNanos (d : Date) : Int := d.toDays * 86400 * 1000000000

/-- The calendar has the instant: it is not before the first day of the year -262143, and before
the first day of 262143. -/
def OnCalendar (nanos : Int) : Prop :=
  Date.toNanos ⟨-262143, 1, 1⟩ ≤ nanos ∧ nanos < Date.toNanos ⟨262143, 1, 1⟩

/-- The minutes are a span: their milliseconds are a number of 64 bits with a sign, and so are those
of the opposite. -/
def IsSpan (minutes : Int) : Prop :=
  -0x7FFFFFFFFFFFFFFF ≤ minutes * 60000 ∧ minutes * 60000 ≤ 0x7FFFFFFFFFFFFFFF

instance (nanos : Int) : Decidable (OnCalendar nanos) := inferInstanceAs (Decidable (_ ∧ _))

instance (minutes : Int) : Decidable (IsSpan minutes) := inferInstanceAs (Decidable (_ ∧ _))

/-- The instant the given minutes before another one, if neither limit is there. -/
def Instant.back (now : Instant) (minutes : Int) : Instant :=
  ⟨now.seconds - minutes * 60, now.nanos⟩

section Instants

variable {a b t created now : Instant} {minutes : Int}

theorem Instant.before_iff (ha : a.nanos < 1000000000) (hb : b.nanos < 1000000000) :
    a.before b = true ↔ a.toNanos < b.toNanos := by
  simp only [before, toNanos, Bool.or_eq_true, Bool.and_eq_true, decide_eq_true_eq, beq_iff_eq]
  omega

theorem onCalendar_toNanos_iff (ht : t.nanos < 1000000000) :
    OnCalendar t.toNanos ↔ firstSecond ≤ t.seconds ∧ t.seconds ≤ lastSecond := by
  have hfirst : Date.toNanos ⟨-262143, 1, 1⟩ = firstSecond * 1000000000 := by decide
  have hlast : Date.toNanos ⟨262143, 1, 1⟩ = (lastSecond + 1) * 1000000000 := by decide
  rw [OnCalendar, hfirst, hlast, Instant.toNanos]
  omega

theorem isSpan_iff : IsSpan minutes ↔ -maxSpan ≤ minutes * 60 ∧ minutes * 60 ≤ maxSpan := by
  rw [IsSpan, maxSpan]
  omega

theorem toNanos_back (now : Instant) (minutes : Int) :
    (now.back minutes).toNanos = now.toNanos - minutes * 60 * 1000000000 := by
  simp only [Instant.back, Instant.toNanos]
  omega

theorem minutesBefore_eq (hnow : now.nanos < 1000000000) : minutesBefore now minutes =
    if IsSpan minutes ∧ OnCalendar (now.toNanos - minutes * 60 * 1000000000) then
      some (now.back minutes)
    else none := by
  have hcalendar : OnCalendar (now.toNanos - minutes * 60 * 1000000000) ↔
      firstSecond ≤ now.seconds - minutes * 60 ∧ now.seconds - minutes * 60 ≤ lastSecond := by
    rw [← toNanos_back]
    exact onCalendar_toNanos_iff hnow
  simp only [minutesBefore, hcalendar, isSpan_iff, and_assoc]
  rfl

/-- An age is compared with a limit as a number of nanoseconds. -/
theorem olderThan_eq (hcreated : created.nanos < 1000000000) (hnow : now.nanos < 1000000000) :
    olderThan created now minutes =
      if IsSpan minutes ∧ OnCalendar (now.toNanos - minutes * 60 * 1000000000) then
        some (decide (minutes * 60 * 1000000000 < now.toNanos - created.toNanos))
      else none := by
  have hbefore : created.before (now.back minutes)
      = decide (minutes * 60 * 1000000000 < now.toNanos - created.toNanos) := by
    have hback : (now.back minutes).nanos < 1000000000 := hnow
    rw [Bool.eq_iff_iff, decide_eq_true_eq, Instant.before_iff hcreated hback, toNanos_back]
    omega
  rw [olderThan, minutesBefore_eq hnow]
  split
  · rw [Option.map_some, hbefore]
  · rfl

theorem olderThan_eq_none_iff (hcreated : created.nanos < 1000000000)
    (hnow : now.nanos < 1000000000) : olderThan created now minutes = none ↔
      ¬IsSpan minutes ∨ ¬OnCalendar (now.toNanos - minutes * 60 * 1000000000) := by
  rw [olderThan_eq hcreated hnow, ite_eq_right_iff, ← Decidable.not_and_iff_not_or_not]
  exact ⟨fun h hc ↦ (nomatch h hc), fun h hc ↦ absurd hc h⟩

theorem iff_of_olderThan (hcreated : created.nanos < 1000000000) (hnow : now.nanos < 1000000000)
    {old : Bool} (h : olderThan created now minutes = some old) :
    old = true ↔ minutes * 60 * 1000000000 < now.toNanos - created.toNanos := by
  rw [olderThan_eq hcreated hnow, Option.ite_none_right_eq_some, Option.some.injEq] at h
  rw [← h.2, decide_eq_true_eq]

end Instants

/-! ## The comparison is exact and monotone -/

/-- Whether a cluster is older than a limit cannot be told exactly if the limit is no span of
minutes or the calendar does not reach that far back; otherwise it is told without any rounding, and
also for limits below zero. So a cluster that is older stays so at all later times, and with a
smaller limit, and so are all that were created earlier, wherever it can be told. -/
theorem olderThan_exact {created now : Instant} (hcreated : created.nanos < 1000000000)
    (hnow : now.nanos < 1000000000) (minutes : Int) :
    (olderThan created now minutes = none ↔
      ¬IsSpan minutes ∨ ¬OnCalendar (now.toNanos - minutes * 60 * 1000000000)) ∧
    (∀ old, olderThan created now minutes = some old →
      (old = true ↔ minutes * 60 * 1000000000 < now.toNanos - created.toNanos)) ∧
    (olderThan created now minutes = some true →
      ∀ created' now' : Instant, created'.nanos < 1000000000 → now'.nanos < 1000000000 →
        created'.toNanos ≤ created.toNanos → now.toNanos ≤ now'.toNanos → ∀ minutes' ≤ minutes,
          ∀ old, olderThan created' now' minutes' = some old → old = true) := by
  refine ⟨olderThan_eq_none_iff hcreated hnow, fun old ↦ iff_of_olderThan hcreated hnow, ?_⟩
  intro hold created' now' hcreated' hnow' hearlier hlater minutes' hminutes old h
  rw [iff_of_olderThan hcreated' hnow' h]
  have hage := (iff_of_olderThan hcreated hnow hold).1 rfl
  omega

/-- An age of exactly the limit is not above it, one nanosecond more is, and a limit below zero is
one for times that are still to come. The largest number of 64 bits is no span. -/
theorem olderThan_exact_boundary :
    let now : Instant := ⟨1700007200, 0⟩
    let created : Instant := ⟨1699999999, 999999999⟩
    olderThan ⟨1700000000, 0⟩ now 120 = some false ∧
      olderThan created now 120 = some true ∧
      olderThan ⟨1700007259, 0⟩ now (-1) = some true ∧
      olderThan created now 9223372036854775807 = none ∧
      ∀ later : Instant, later.nanos < 1000000000 → now.toNanos ≤ later.toNanos →
        olderThan created later 120 ≠ some false := by
  intro now created
  have hold : olderThan created now 120 = some true := by decide
  have hcreated : created.nanos < 1000000000 := by decide
  have hnow : now.nanos < 1000000000 := by decide
  refine ⟨by decide, hold, by decide,
    (olderThan_exact hcreated hnow 9223372036854775807).1.2 (.inl (by decide)),
    fun later hlater hle hyoung ↦ ?_⟩
  exact nomatch (olderThan_exact hcreated hnow 120).2.2 hold created later hcreated hlater
    (Int.le_refl _) hle 120 (Int.le_refl _) false hyoung

end AlertOperator.Time
