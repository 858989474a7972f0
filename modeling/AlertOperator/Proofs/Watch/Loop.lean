import AlertOperator.Proofs.Operator.ErrorPolicy
import AlertOperator.Watch.Loop

/-!
# Operations of the loop

What each operation of the loop changes, said once: what is put into the queue, when a timer is
started, and what follows the result of a pass. None of them changes the settings of the operator or
its gate.
-/

namespace AlertOperator

open Retry (Requeue)
open Time (Duration)

namespace Operator

variable {o : Operator} {r : Request}

/-- How long after a pass with the given result its request wants to be looked at again, if it
does. -/
def asked (r : Request) (result : Except PassError Requeue) (o : Operator) : Option Duration :=
  match result with
  | .ok requeue => requeue.delay o.settings.immediate
  | .error e => some (o.handleError o.settings.immediate r e).1

theorem asked_eq_none {result : Except PassError Requeue} :
    o.asked r result = none ↔ result = .ok .never := by
  rcases result with e | _ | _ | d
  · exact ⟨nofun, nofun⟩
  · exact ⟨fun _ ↦ rfl, fun _ ↦ rfl⟩
  · exact ⟨nofun, nofun⟩
  · exact ⟨nofun, nofun⟩

end Operator

namespace Watch.Loop

variable (r : Request) (l : Loop)

theorem receive_eq (h : l.stopped = false) :
    l.receive r = { l with queue := l.queue ++ [r] } := by
  rw [receive, h]
  exact if_neg Bool.false_ne_true

section Schedule

variable {r l} (delay : Duration)

theorem schedule_of_mem (h : r.key ∈ l.pending.keys) : l.schedule r delay = l := by
  have hcontains : l.pending.contains r.key = true := List.contains_iff_mem.2 h
  rw [schedule, Pending.schedule, if_pos hcontains]

theorem schedule_of_notMem (h : r.key ∉ l.pending.keys) : l.schedule r delay = { l with
    pending := ⟨r.key :: l.pending.keys⟩
    timers := l.timers ++ [⟨l.now + delay.millisUp, r⟩] } := by
  have hcontains : ¬l.pending.contains r.key = true := mt List.contains_iff_mem.1 h
  rw [schedule, Pending.schedule, if_neg hcontains]

end Schedule

theorem schedule_cases (delay : Duration) :
    (r.key ∈ l.pending.keys ∧ l.schedule r delay = l) ∨
      (r.key ∉ l.pending.keys ∧ ∃ due, l.schedule r delay = { l with
        pending := ⟨r.key :: l.pending.keys⟩
        timers := l.timers ++ [⟨due, r⟩] }) := by
  by_cases h : r.key ∈ l.pending.keys
  · exact .inl ⟨h, schedule_of_mem delay h⟩
  · exact .inr ⟨h, _, schedule_of_notMem delay h⟩

/-- What follows the result of a pass: its request is put off as long as was asked. -/
theorem conclude_eq (result : Except PassError Requeue) :
    ∃ o, l.operator.Keeps o ∧
      (∀ k ∈ o.failures.keys, k ∈ l.operator.failures.keys ∨ (k = r.key ∧ result ≠ .ok .never)) ∧
      l.conclude r result = (l.operator.asked r result).elim { l with operator := o }
        fun delay ↦ { l with operator := o }.schedule r delay := by
  cases result with
  | ok requeue =>
    have hkeeps := l.operator.resetBackoff_keeps r
    refine ⟨l.operator.resetBackoff r, hkeeps, ?_, ?_⟩
    · exact fun k hk ↦ .inl (Operator.mem_failures_resetBackoff hk)
    · rw [conclude]
      dsimp only
      rw [hkeeps.settings, Operator.asked]
      cases requeue with
      | never => rfl
      | immediately => rfl
      | after delay => rfl
  | error e =>
    refine ⟨_, l.operator.handleError_keeps l.operator.settings.immediate r e, ?_, rfl⟩
    intro k hk
    rcases Operator.mem_failures_handleError hk with hk | hk
    · exact .inr ⟨hk, by rintro ⟨⟩⟩
    · exact .inl hk

theorem conclude_keeps (result : Except PassError Requeue) :
    (l.conclude r result).now = l.now ∧ (l.conclude r result).queue = l.queue ∧
      (l.conclude r result).stopped = l.stopped := by
  obtain ⟨o, -, -, heq⟩ := l.conclude_eq r result
  rcases hasked : l.operator.asked r result with _ | delay
  · rw [heq, hasked]
    exact ⟨rfl, rfl, rfl⟩
  · rw [heq, hasked, Option.elim_some]
    rcases schedule_cases r { l with operator := o } delay with ⟨-, h⟩ | ⟨-, due, h⟩
    all_goals
      rw [h]
      exact ⟨rfl, rfl, rfl⟩

theorem mem_timers_conclude {result : Except PassError Requeue} {t : Timer} :
    t ∈ (l.conclude r result).timers ↔ t ∈ l.timers ∨ (r.key ∉ l.pending.keys ∧
      ∃ delay, l.operator.asked r result = some delay ∧ t = ⟨l.now + delay.millisUp, r⟩) := by
  obtain ⟨o, -, -, heq⟩ := l.conclude_eq r result
  rcases hasked : l.operator.asked r result with _ | delay
  · rw [heq, hasked]
    simp
  · rw [heq, hasked, Option.elim_some]
    by_cases hkey : r.key ∈ l.pending.keys
    · rw [schedule_of_mem (l := { l with operator := o }) delay hkey]
      simp [hkey]
    · rw [schedule_of_notMem (l := { l with operator := o }) delay hkey]
      simp [hkey]

theorem le_due_of_conclude {result : Except PassError Requeue} {t : Timer}
    (h : t ∈ (l.conclude r result).timers) : t ∈ l.timers ∨ l.now ≤ t.due := by
  refine ((l.mem_timers_conclude r).1 h).imp_right ?_
  rintro ⟨-, delay, -, rfl⟩
  exact Nat.le_add_right _ _

/-- Only a pass that does not want to be followed by another one starts no timer. -/
theorem conclude_cases (result : Except PassError Requeue) :
    ∃ o, l.operator.Keeps o ∧
      (∀ k ∈ o.failures.keys, k ∈ l.operator.failures.keys ∨ (k = r.key ∧ result ≠ .ok .never)) ∧
      ((result = .ok .never ∧ l.conclude r result = { l with operator := o }) ∨
        (result ≠ .ok .never ∧
          ∃ delay, l.conclude r result = { l with operator := o }.schedule r delay)) := by
  obtain ⟨o, hkeeps, hfailures, heq⟩ := l.conclude_eq r result
  refine ⟨o, hkeeps, hfailures, ?_⟩
  rcases hasked : l.operator.asked r result with _ | delay
  · rw [hasked] at heq
    exact .inl ⟨Operator.asked_eq_none.1 hasked, heq⟩
  · rw [hasked] at heq
    refine .inr ⟨fun hnever ↦ ?_, delay, heq⟩
    exact nomatch (Operator.asked_eq_none.2 hnever).symm.trans hasked

end Watch.Loop

end AlertOperator
