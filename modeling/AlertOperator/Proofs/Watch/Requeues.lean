import AlertOperator.Proofs.Watch.Clock

/-!
# When a request comes again

A pass may ask for its request to be looked at again after some time. In a run on time it is put
into the queue exactly when that time is over, counted in whole milliseconds, if no timer runs for
its key. If one does, no other is started, so the request is put into the queue at the end of that
timer, `Process.requeued_on_time`. That may be later than the pass has asked for: the delays after
errors grow, and one of them may still run when an event leads to a pass that asks for a shorter
time, `Process.requeued_late`.
-/

namespace AlertOperator.Watch

open Cluster (Operation StoreError World)
open Retry (Requeue)
open Time (Duration Instant)

namespace Process

variable {outside : Outside} {settings : Settings} {w : World} {p : Process}
  {log : List (Nat × Request)} {r : Request} {result : Except PassError Requeue} {d : Duration}

theorem exists_timer (htimely : p.Timely settings) (hpass : p.pass = some (r, .ended result))
    (hasked : p.loop.operator.asked r result = some d) :
    ∃ t ∈ (p.loop.conclude r result).timers, t.request = r ∧
      ((∀ u ∈ p.loop.timers, u.request.key ≠ r.key) → t.due = p.loop.now + d.millisUp) ∧
      ∀ u ∈ p.loop.timers, u.request.key = r.key → t.due = u.due := by
  have hc : p.loop.operator.concerns r = true := by
    rcases htimely.pass r _ hpass with ⟨hc, -⟩ | ⟨-, hnever⟩
    · exact hc
    · exact nomatch (Operator.asked_eq_none.2 hnever).symm.trans hasked
  have hpending : r.key ∈ p.loop.pending.keys ↔ ∃ u ∈ p.loop.timers, u.request.key = r.key := by
    rw [htimely.keys.mem_iff, List.mem_map]
  by_cases hkey : r.key ∈ p.loop.pending.keys
  · obtain ⟨t, ht, htkey⟩ := hpending.1 hkey
    refine ⟨t, (p.loop.mem_timers_conclude r).2 (.inl ht), ?_, fun hnone ↦ ?_, fun u hu hukey ↦ ?_⟩
    · exact Operator.eq_of_key_eq (htimely.timers t ht) hc htkey
    · exact absurd htkey (hnone t ht)
    · -- no two timers have the same key
      have hnodup := htimely.keys.nodup htimely.distinct
      rw [List.inj_on_of_nodup_map hnodup ht hu (htkey.trans hukey.symm)]
  · refine ⟨⟨p.loop.now + d.millisUp, r⟩,
      (p.loop.mem_timers_conclude r).2 (.inr ⟨hkey, d, hasked, rfl⟩), rfl, fun _ ↦ rfl,
      fun u hu hukey ↦ ?_⟩
    exact absurd (hpending.2 ⟨u, hu, hukey⟩) hkey

/-! ## A timer that outlasts what is asked for -/

theorem runs_changed (w : World) (r : Request) (p : Process) :
    Runs anyChange p [(p.loop.now, r)] { p with loop := (p.loop.withWorld w).receive r } := by
  let q : Process := { p with loop := p.loop.withWorld w }
  have hchange : Runs anyChange p [] q := .tail .refl (@TimedStep.outside _ p w [] trivial)
  exact hchange.trans (.tail .refl (timedStep_receive r q))

/-- A pass that fails at once has started a timer of a minute, and an event has led to another pass,
which ends in the error that a failed job could not be deleted and asks for a second. -/
theorem exists_longer_timer : ∃ (settings : Settings) (w : World) (log : List (Nat × Request))
    (p p₁ : Process) (r : Request) (result : Except PassError Requeue),
    Runs anyChange (start settings w) log p ∧ p.pass = some (r, .ended result) ∧
      p.loop.operator.asked r result = some (.ofMillis 1000) ∧
      (∀ present, p.advance present = some p₁) ∧ p.loop.now = 0 ∧ p.loop.timers = [⟨60000, r⟩] ∧
      p₁.loop.now = 0 ∧ p₁.loop.timers = [⟨60000, r⟩] ∧ p₁.expired = [] := by
  let settings : Settings := { backoffStart := .ofMillis 60000 }
  let r : Request := ⟨settings.ns, Cluster.pagerdutySecret⟩
  let w (operation : Operation) : World :=
    { job := some ⟨some { failed := some 1 }⟩
      created := some ⟨0, 0⟩
      failing := fun op ↦ if op = operation then some .refused else none }
  let p₀ : Process := { loop := ((start settings {}).loop.withWorld (w .readinessJob)).receive r }
  let a : Process := (run ⟨60, 0⟩ 3 p₀).get (by decide)
  let a₀ : Process := { a with loop := (a.loop.withWorld (w .deleteReadinessJob)).receive r }
  let b : Process := (run ⟨60, 0⟩ 2 a₀).get (by decide)
  let c : Process := (b.advance ⟨60, 0⟩).get (by decide)
  have hfirst : Runs anyChange (start settings {}) [(0, r)] p₀ := runs_changed _ r _
  have hfails : Runs anyChange p₀ [] a := Leads.runs ⟨3, (Option.some_get _).symm⟩
  have hsecond : Runs anyChange a [(0, r)] a₀ := runs_changed _ r a
  have hasks : Runs anyChange a₀ [] b := Leads.runs ⟨2, (Option.some_get _).symm⟩
  exact ⟨settings, {}, _, b, c, r, .error ⟨.jobDelete .refused, .immediately⟩,
    ((hfirst.trans hfails).trans hsecond).trans hasks, rfl, rfl, fun _ ↦ rfl, by decide, by decide,
    by decide, by decide, by decide⟩

/-! ## The time of the next request -/

/-- When a pass for a key ends that has asked to be run again after some time, the time at which the
request will be put into the queue again is settled:

* it is that time later, in whole milliseconds, if no timer runs for the key;
* it is the end of the timer that runs for the key, if one does, which may be sooner or later than
  was asked;
* in every run on time from there on, what was put into the queue was taken in order or is left in
  it;
* in every such run that goes beyond, the request was put into the queue then, whatever else has
  happened meanwhile;
* and every such run can go on until it goes beyond. -/
theorem requeued_on_time (hrun : Runs outside (start settings w) log p)
    (hpass : p.pass = some (r, .ended result))
    (hasked : p.loop.operator.asked r result = some d) :
    ∃ (p₁ : Process) (due : Nat), (∀ present, p.advance present = some p₁) ∧ p.loop.now ≤ due ∧
      ((∀ t ∈ p.loop.timers, t.request.key ≠ r.key) → due = p.loop.now + d.millisUp) ∧
      (∀ t ∈ p.loop.timers, t.request.key = r.key → due = t.due) ∧
      ∀ log₁ p₂, Runs outside p₁ log₁ p₂ →
        (∃ taken, p₁.loop.queue ++ log₁.map Prod.snd = taken ++ p₂.loop.queue) ∧
        (due < p₂.loop.now → (due, r) ∈ log₁) ∧
        ∃ log₂ p₃, Runs outside p₂ log₂ p₃ ∧ due < p₃.loop.now := by
  have htimely := timely_of_reachable hrun.reachable
  have hadvance : ∀ present, p.advance present = some { p with
      loop := p.loop.conclude r result, pass := none, answered := r :: p.answered } := by
    intro present
    rw [advance, hpass]
  have honTime : p.OnTime := hrun.onTime (onTime_start settings w)
  have hstep : TimedStep outside p [] _ := .advance default (hadvance default)
  have honTime₁ := hstep.onTime honTime
  obtain ⟨t, ht, rfl, hnew, hold⟩ := exists_timer htimely hpass hasked
  refine ⟨_, t.due, hadvance, ?_, hnew, hold, fun log₁ p₂ hrun₁ ↦ ⟨?_, fun hlater ↦ ?_, ?_⟩⟩
  · have hnow := honTime₁ t ht
    rwa [(keeps_of_advance (hadvance default)).now] at hnow
  · exact (hrun₁.queue_eq (hstep.queue_eq htimely.running).1).2
  · exact hrun₁.mem_log honTime₁ ht hlater
  · exact (hrun₁.onTime honTime₁).exists_later (t.due + 1)

/-- The request of a pass that has asked for a second comes after a minute, at the end of the timer
that runs. -/
theorem requeued_on_time_longer : ∃ (settings : Settings) (w : World) (log : List (Nat × Request))
    (p p₁ : Process) (r : Request) (result : Except PassError Requeue),
    Runs anyChange (start settings w) log p ∧ p.pass = some (r, .ended result) ∧
      p.loop.operator.asked r result = some (.ofMillis 1000) ∧
      (∀ present, p.advance present = some p₁) ∧
      ∀ log₁ p₂, Runs anyChange p₁ log₁ p₂ → 60000 < p₂.loop.now → (60000, r) ∈ log₁ := by
  obtain ⟨settings, w, log, p, p₁, r, result, hrun, hpass, hasked, hadvance, -, htimers, -⟩ :=
    exists_longer_timer
  obtain ⟨q, due, hq, -, -, hold, hruns⟩ := requeued_on_time hrun hpass hasked
  obtain rfl : q = p₁ := Option.some.inj ((hq default).symm.trans (hadvance default))
  obtain rfl : due = 60000 := hold ⟨60000, r⟩ (by rw [htimers]; exact List.mem_cons_self ..) rfl
  exact ⟨settings, w, log, p, q, r, result, hrun, hpass, hasked, hadvance,
    fun log₁ p₂ hrun₁ ↦ (hruns log₁ p₂ hrun₁).2.1⟩

/-- After a pass that has asked for a second while a timer of a minute runs, time may go by beyond
the second, and nothing is put into the queue meanwhile. -/
theorem requeued_late : ∃ (settings : Settings) (w : World) (log : List (Nat × Request))
    (p p₁ p₂ : Process) (r : Request) (result : Except PassError Requeue) (d : Duration),
    Runs anyChange (start settings w) log p ∧ p.pass = some (r, .ended result) ∧
      p.loop.operator.asked r result = some d ∧ (∀ present, p.advance present = some p₁) ∧
      Runs anyChange p₁ [] p₂ ∧ p.loop.now + d.millisUp < p₂.loop.now := by
  obtain ⟨settings, w, log, p, p₁, r, result, hrun, hpass, hasked, hadvance, hnow, -, hnow₁,
    htimers₁, hexpired₁⟩ := exists_longer_timer
  have hclock : TimedStep anyChange p₁ [] { p₁ with loop := { p₁.loop with now := 60000 } } := by
    refine .clock 60000 (hnow₁.trans_le (Nat.zero_le _)) (fun t ht ↦ ?_) hexpired₁
    rw [htimers₁, List.mem_singleton] at ht
    rw [ht]
  refine ⟨settings, w, log, p, p₁, _, r, result, .ofMillis 1000, hrun, hpass, hasked, hadvance,
    .tail .refl hclock, ?_⟩
  have hlonger : 0 + (Duration.ofMillis 1000).millisUp < 60000 := by decide
  rwa [hnow]

end Process

end AlertOperator.Watch
