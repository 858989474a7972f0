import AlertOperator.Proofs.Watch.Timers

/-!
# Runs on time

The steps of a process let timers end at any time and the clock show anything. In a run on time,
`Process.Runs`, the clock only goes forward, a timer does not end before its time, and the clock
does not pass its end while it runs or while its request is on its way to the queue. All else may
happen as before, so time may also go by between the calls of a pass. With a run comes the list of
the requests that were put into the queue, and when: what the loop has taken out of the queue and
what is left in it are what was there at the start and, after it, this list, `Runs.queue_eq`.
-/

namespace AlertOperator.Watch

open Cluster (World)
open Time (Instant)

namespace Process

/-- The cluster may change in any way, and what changes need not be told. -/
def anyChange : Outside := fun _ _ _ ↦ True

/-- One thing that happens on time, with the requests that it puts into the queue. -/
inductive TimedStep (outside : Outside) : Process → List Request → Process → Prop
  /-- The loop goes on. -/
  | advance {p p' : Process} (present : Instant) (h : p.advance present = some p') :
    TimedStep outside p [] p'
  /-- A timer comes to its end whose time it is. -/
  | release {p : Process} {t : Timer} (h : t ∈ p.loop.timers) (hdue : t.due ≤ p.loop.now) :
    TimedStep outside p [] { p with loop := p.loop.release t, expired := t.request :: p.expired }
  /-- The request of a timer that has ended is put into the queue. -/
  | send {p : Process} {r : Request} (h : r ∈ p.expired) :
    TimedStep outside p [r] { p with loop := p.loop.receive r, expired := p.expired.erase r }
  /-- A watch tells something, after which `untold` is still to be told. -/
  | tell {p : Process} {β : Type} (e : Event β) (untold : List Request)
      (h : ∀ r ∈ p.untold, e.Tells r ∨ r ∈ untold) :
    TimedStep outside p e.request?.toList
      { p with loop := e.request?.elim p.loop p.loop.receive, untold := untold }
  /-- The cluster changes, and events will tell of `changes`. -/
  | outside {p : Process} {w : World} {changes : List Request}
      (h : outside p.loop.session.world w changes) :
    TimedStep outside p [] { p with loop := p.loop.withWorld w, untold := changes ++ p.untold }
  /-- Time passes, but not beyond the end of a timer. -/
  | clock {p : Process} (now : Nat) (hnow : p.loop.now ≤ now)
      (htimers : ∀ t ∈ p.loop.timers, now ≤ t.due) (hexpired : p.expired = []) :
    TimedStep outside p [] { p with loop := { p.loop with now := now } }

/-- The second state can follow the first one on time. The list has what was put into the queue
meanwhile, with the millisecond at which it was. -/
inductive Runs (outside : Outside) (p : Process) : List (Nat × Request) → Process → Prop
  | refl : Runs outside p [] p
  | tail {log : List (Nat × Request)} {q q' : Process} {received : List Request}
      (h : Runs outside p log q) (hstep : TimedStep outside q received q') :
    Runs outside p (log ++ received.map (q.loop.now, ·)) q'

variable {outside : Outside} {p p' p'' q : Process} {log log' : List (Nat × Request)}

theorem TimedStep.step {received : List Request} (h : TimedStep outside p received p') :
    Step outside p p' := by
  cases h with
  | advance present h => exact .advance present h
  | release h _ => exact .release h
  | send h => exact .send h
  | tell e untold h => exact .tell e untold h
  | outside h => exact .outside h
  | clock now _ _ _ => exact .clock now

theorem Runs.reachable (h : Runs outside p log p') : Reachable outside p p' := by
  induction h with
  | refl => exact .refl
  | tail _ hstep ih => exact ih.tail hstep.step

theorem Runs.trans (h : Runs outside p log p') (h' : Runs outside p' log' p'') :
    Runs outside p (log ++ log') p'' := by
  induction h' with
  | refl => rwa [List.append_nil]
  | tail _ hstep ih =>
    rw [← List.append_assoc]
    exact .tail ih hstep

/-! ## What the queue receives -/

/-- A step adds what it puts into the queue at its end, or is the one with which the loop takes the
first request. -/
theorem TimedStep.queue_eq {received : List Request} (h : TimedStep outside p received p')
    (hp : p.loop.stopped = false) : p'.loop.stopped = false ∧
      (p'.loop.queue = p.loop.queue ++ received ∨
        ∃ r, p.loop.queue = r :: p'.loop.queue ∧ received = [] ∧ p.pass = none ∧
          p'.pass = some (r, .taken)) := by
  cases h with
  | advance present h =>
    rcases advance_cases h with ⟨r, rest, hpass, hqueue, rfl⟩ | ⟨r, result, -, rfl⟩ |
      ⟨r, stage, x, -, -, rfl⟩
    · exact ⟨hp, .inr ⟨r, hqueue, rfl, hpass, rfl⟩⟩
    · obtain ⟨-, hqueue, hstopped⟩ := p.loop.conclude_keeps r result
      exact ⟨hstopped.trans hp, .inl (hqueue.trans (List.append_nil _).symm)⟩
    · exact ⟨hp, .inl (List.append_nil _).symm⟩
  | release h _ => exact ⟨hp, .inl (List.append_nil _).symm⟩
  | @send r h =>
    rw [p.loop.receive_eq r hp]
    exact ⟨hp, .inl rfl⟩
  | tell e untold h =>
    cases e.request? with
    | none => exact ⟨hp, .inl (List.append_nil _).symm⟩
    | some r =>
      rw [Option.elim_some, p.loop.receive_eq r hp]
      exact ⟨hp, .inl rfl⟩
  | outside h => exact ⟨hp, .inl (List.append_nil _).symm⟩
  | clock now _ _ _ => exact ⟨hp, .inl (List.append_nil _).symm⟩

/-- Each request that was put into the queue has been taken, in order, or is left in it. -/
theorem Runs.queue_eq (h : Runs outside p log p') (hp : p.loop.stopped = false) :
    p'.loop.stopped = false ∧
      ∃ taken, p.loop.queue ++ log.map Prod.snd = taken ++ p'.loop.queue := by
  induction h with
  | refl => exact ⟨hp, [], List.append_nil _⟩
  | @tail log q q' received h hstep ih =>
    obtain ⟨hq, taken, hqueue⟩ := ih
    obtain ⟨hq', hcases⟩ := hstep.queue_eq hq
    have hlog : (log ++ received.map (q.loop.now, ·)).map Prod.snd
        = log.map Prod.snd ++ received := by
      simp [Function.comp_def]
    refine ⟨hq', ?_⟩
    rw [hlog, ← List.append_assoc, hqueue]
    rcases hcases with hadded | ⟨r, htaken, rfl, -, -⟩
    · exact ⟨taken, by rw [hadded, List.append_assoc]⟩
    · refine ⟨taken ++ [r], ?_⟩
      rw [htaken, List.append_nil, List.append_assoc, List.singleton_append]

/-! ## No timer is late -/

/-- What a step of the loop itself does to the timers: none ends, and a new one is not late. -/
structure Keeps (p p' : Process) : Prop where
  now : p'.loop.now = p.loop.now
  expired : p'.expired = p.expired
  timers : ∀ t ∈ p.loop.timers, t ∈ p'.loop.timers
  started : ∀ t ∈ p'.loop.timers, t ∈ p.loop.timers ∨ p.loop.now ≤ t.due

theorem keeps_of_advance {present : Instant} (h : p.advance present = some p') : p.Keeps p' := by
  rcases advance_cases h with ⟨r, rest, -, -, rfl⟩ | ⟨r, result, -, rfl⟩ | ⟨r, stage, x, -, -, rfl⟩
  · exact ⟨rfl, rfl, fun _ ht ↦ ht, fun _ ht ↦ .inl ht⟩
  · exact ⟨(p.loop.conclude_keeps r result).1, rfl,
      fun t ht ↦ (p.loop.mem_timers_conclude r).2 (.inl ht),
      fun t ht ↦ Loop.le_due_of_conclude r p.loop ht⟩
  · exact ⟨rfl, rfl, fun _ ht ↦ ht, fun _ ht ↦ .inl ht⟩

/-- The clock has not passed the end of a timer. -/
def OnTime (p : Process) : Prop := ∀ t ∈ p.loop.timers, p.loop.now ≤ t.due

theorem onTime_start (settings : Settings) (w : World) : (start settings w).OnTime :=
  fun _ ht ↦ absurd ht List.not_mem_nil

theorem received_keeps (r? : Option Request) (l : Loop) :
    (r?.elim l l.receive).now = l.now ∧ (r?.elim l l.receive).timers = l.timers := by
  cases r? with
  | none => exact ⟨rfl, rfl⟩
  | some r =>
    rw [Option.elim_some, Loop.receive]
    split
    · exact ⟨rfl, rfl⟩
    · exact ⟨rfl, rfl⟩

theorem onTime_received (hp : p.OnTime) (r? : Option Request) {p' : Process}
    (hp' : p'.loop = r?.elim p.loop p.loop.receive) : p'.OnTime := by
  obtain ⟨hnow, htimers⟩ := received_keeps r? p.loop
  intro t ht
  rw [hp', htimers] at ht
  rw [hp', hnow]
  exact hp t ht

theorem TimedStep.onTime {received : List Request} (h : TimedStep outside p received p')
    (hp : p.OnTime) : p'.OnTime := by
  cases h with
  | advance present h =>
    have hkeeps := keeps_of_advance h
    intro t ht
    rw [hkeeps.now]
    exact (hkeeps.started t ht).elim (hp t) id
  | release h hdue => exact fun t ht ↦ hp t (List.mem_of_mem_erase ht)
  | @send r h => exact onTime_received hp (some r) rfl
  | tell e untold h => exact onTime_received hp e.request? rfl
  | outside h => exact hp
  | clock now hnow htimers hexpired => exact htimers

theorem Runs.onTime (h : Runs outside p log p') (hp : p.OnTime) : p'.OnTime := by
  induction h with
  | refl => exact hp
  | tail _ hstep ih => exact hstep.onTime ih

/-- What has become of a timer that was started: it runs, or its time has come and its request is on
its way to the queue, or that was put into the queue in time. -/
inductive Served (t : Timer) (log : List (Nat × Request)) (p : Process) : Prop
  | runs (h : t ∈ p.loop.timers)
  | expired (h : t.request ∈ p.expired) (hnow : p.loop.now = t.due)
  | received (h : (t.due, t.request) ∈ log)

theorem TimedStep.served {received : List Request} {t : Timer}
    (h : TimedStep outside p received p') (hp : p.OnTime) (ht : Served t log p) :
    Served t (log ++ received.map (p.loop.now, ·)) p' := by
  cases ht with
  | received hlog => exact .received (List.mem_append_left _ hlog)
  | runs ht =>
    cases h with
    | advance present h => exact .runs ((keeps_of_advance h).timers t ht)
    | @release u hu hdue =>
      by_cases htu : t = u
      · subst htu
        exact .expired (List.mem_cons_self ..) (Nat.le_antisymm (hp t ht) hdue)
      · exact .runs ((List.mem_erase_of_ne htu).2 ht)
    | @send r h =>
      have htimers : (p.loop.receive r).timers = p.loop.timers := (received_keeps (some r) p.loop).2
      exact .runs (by rwa [htimers])
    | tell e untold h => exact .runs (by rwa [(received_keeps e.request? p.loop).2])
    | outside h => exact .runs ht
    | clock now hnow htimers hexpired => exact .runs ht
  | expired hmem hnow =>
    cases h with
    | advance present h =>
      have hkeeps := keeps_of_advance h
      exact .expired (by rwa [hkeeps.expired]) (hkeeps.now.trans hnow)
    | release hu hdue => exact .expired (List.mem_cons_of_mem _ hmem) hnow
    | @send r h =>
      by_cases htr : t.request = r
      · refine .received (List.mem_append_right _ ?_)
        rw [hnow, htr]
        exact List.mem_singleton_self _
      · exact .expired ((List.mem_erase_of_ne htr).2 hmem)
          ((received_keeps (some r) p.loop).1.trans hnow)
    | tell e untold h => exact .expired hmem ((received_keeps e.request? p.loop).1.trans hnow)
    | outside h => exact .expired hmem hnow
    | clock now hnow htimers hexpired =>
      -- time stands still while a request is on its way to the queue
      rw [hexpired] at hmem
      exact absurd hmem List.not_mem_nil

/-- A timer that runs puts its request into the queue when its time has come. -/
theorem Runs.served {t : Timer} (h : Runs outside p log p') (hp : p.OnTime)
    (ht : t ∈ p.loop.timers) : Served t log p' := by
  induction h with
  | refl => exact .runs ht
  | tail h hstep ih => exact hstep.served (h.onTime hp) ih

theorem Runs.mem_log {t : Timer} (h : Runs outside p log p') (hp : p.OnTime)
    (ht : t ∈ p.loop.timers) (hlater : t.due < p'.loop.now) : (t.due, t.request) ∈ log := by
  cases h.served hp ht with
  | runs ht => exact absurd hlater (Nat.not_lt.2 (h.onTime hp t ht))
  | expired _ hnow => exact absurd hlater (Nat.not_lt.2 hnow.le)
  | received hmem => exact hmem

/-! ## What can happen on time -/

theorem timedStep_receive (r : Request) (p : Process) :
    TimedStep outside p [r] { p with loop := p.loop.receive r } := by
  let e : Event Bytes := .apply { name := some r.name, ns := some r.ns }
  exact .tell e p.untold fun _ h ↦ .inr h

theorem exists_sent (p : Process) :
    ∃ log p', p.Runs outside log p' ∧ p'.expired = [] ∧ p'.loop.now = p.loop.now ∧
      p'.loop.timers = p.loop.timers := by
  induction hexpired : p.expired generalizing p with
  | nil => exact ⟨[], p, .refl, hexpired, rfl, rfl⟩
  | cons r rest ih =>
    have hsend := @TimedStep.send outside p r (by rw [hexpired]; exact List.mem_cons_self ..)
    rw [hexpired, List.erase_cons_head] at hsend
    obtain ⟨log, p', hrun, hnone, hnow, htimers⟩ :=
      ih { p with loop := p.loop.receive r, expired := rest } rfl
    obtain ⟨hnow₁, htimers₁⟩ := received_keeps (some r) p.loop
    exact ⟨_, p', (Runs.tail .refl hsend).trans hrun, hnone, hnow.trans hnow₁,
      htimers.trans htimers₁⟩

/-- Timers never keep the time from passing: those whose time it is can end first. -/
theorem OnTime.exists_next {p : Process} (hp : p.OnTime) :
    ∃ log p', p.Runs outside log p' ∧ p.loop.now < p'.loop.now := by
  by_cases hends : ∃ t ∈ p.loop.timers, t.due ≤ p.loop.now
  · obtain ⟨t, ht, hdue⟩ := hends
    have hrelease := @TimedStep.release outside p t ht hdue
    obtain ⟨log, p', hrun, hnext⟩ := OnTime.exists_next (hrelease.onTime hp)
    exact ⟨_, p', (Runs.tail .refl hrelease).trans hrun, hnext⟩
  · obtain ⟨log, q, hrun, hexpired, hnow, htimers⟩ := @exists_sent outside p
    have hclock : TimedStep outside q [] { q with loop := { q.loop with now := p.loop.now + 1 } } :=
      .clock (p.loop.now + 1) (hnow.le.trans (Nat.le_succ _))
        (fun t ht ↦ Nat.lt_of_not_le fun hdue ↦ hends ⟨t, htimers ▸ ht, hdue⟩) hexpired
    exact ⟨_, _, hrun.tail hclock, Nat.lt_succ_self _⟩
termination_by p.loop.timers.length
decreasing_by
  exact (List.length_erase_of_mem ht).trans_lt (Nat.sub_lt (List.length_pos_of_mem ht) Nat.one_pos)

theorem OnTime.exists_later (hp : p.OnTime) (now : Nat) :
    ∃ log p', p.Runs outside log p' ∧ now ≤ p'.loop.now := by
  induction now with
  | zero => exact ⟨[], p, .refl, Nat.zero_le _⟩
  | succ now ih =>
    obtain ⟨log, q, hrun, hlater⟩ := ih
    obtain ⟨log', p', hrun', hnext⟩ := (hrun.onTime hp).exists_next
    exact ⟨_, p', hrun.trans hrun', Nat.succ_le_of_lt (hlater.trans_lt hnext)⟩

theorem Leads.runs {present : Instant} (h : Leads present p p') : Runs outside p [] p' := by
  obtain ⟨n, hn⟩ := h
  induction n generalizing p with
  | zero =>
    obtain rfl := Option.some.inj hn
    exact .refl
  | succ n ih =>
    obtain ⟨q, hq, hrest⟩ := Option.bind_eq_some_iff.1 hn
    exact (Runs.tail .refl (.advance present hq)).trans (ih hrest)

end Process

end AlertOperator.Watch
