import AlertOperator.Proofs.Watch.Clock
import AlertOperator.Watch.System

/-!
# The running system runs on time

The running system lets time pass one millisecond after the other, and whatever else there is to do
is done at once: no millisecond begins while it is time for a timer to end. So each state that it
reaches before it is told to stop is one that a process comes to in a run on time, and what holds in
all of these holds of the running system.
-/

namespace AlertOperator.Watch

open Cluster (World)
open Time (Instant)

/-- Nothing is under way: no request is being answered, and none is on its way to the queue. -/
def Process.Idle (p : Process) : Prop := p.pass = none ∧ p.expired = []

namespace Loop

/-- A process for which nothing is under way comes from the first loop to the second one in a run on
time. -/
def Becomes (l l' : Loop) : Prop :=
  ∀ p : Process, p.loop = l → p.Idle →
    ∃ log p', p.Runs Process.anyChange log p' ∧ p'.loop = l' ∧ p'.Idle

variable {l l' l'' : Loop}

theorem Becomes.refl (l : Loop) : l.Becomes l :=
  fun p hloop hidle ↦ ⟨[], p, .refl, hloop, hidle⟩

theorem Becomes.trans (h : l.Becomes l') (h' : l'.Becomes l'') : l.Becomes l'' := by
  intro p hloop hidle
  obtain ⟨log, q, hrun, hloop, hidle⟩ := h p hloop hidle
  obtain ⟨log', q', hrun', hq'⟩ := h' q hloop hidle
  exact ⟨log ++ log', q', hrun.trans hrun', hq'⟩

/-! ## What is put into the queue -/

theorem receive_becomes (r : Request) (l : Loop) : l.Becomes (l.receive r) := by
  rintro p rfl hidle
  exact ⟨_, _, .tail .refl (Process.timedStep_receive r p), rfl, hidle⟩

theorem receiveAll_becomes (rs : List Request) (l : Loop) :
    l.Becomes (rs.foldl (fun l r ↦ l.receive r) l) := by
  induction rs generalizing l with
  | nil => exact .refl l
  | cons r rs ih => exact (receive_becomes r l).trans (ih (l.receive r))

/-! ## Passes -/

section Passes

variable {present : Instant} {n : Nat}

theorem passes_becomes (h : l.passes present n = some l') : l.Becomes l' := by
  induction n generalizing l with
  | zero =>
    obtain rfl := Option.some.inj h
    exact .refl l
  | succ n ih =>
    obtain ⟨l₁, hl₁, hrest⟩ := Option.bind_eq_some_iff.1 h
    have hfirst : l.Becomes l₁ := by
      rintro p rfl hidle
      rcases hqueue : p.loop.queue with _ | ⟨r, rest⟩
      · rw [pass, hqueue] at hl₁
        obtain rfl := Option.some.inj hl₁
        exact Becomes.refl p.loop p rfl hidle
      · obtain ⟨m, hm⟩ := @Process.run_pass present p r rest hidle.1 hqueue
        rw [hl₁] at hm
        exact ⟨[], _, Process.Leads.runs ⟨m, hm⟩, rfl, hidle⟩
    exact hfirst.trans (ih hrest)

theorem settle_becomes (h : l.settle present = some l') : l.Becomes l' := by
  rw [settle] at h
  split at h
  · obtain rfl := Option.some.inj h
    exact .refl l
  · exact passes_becomes h

end Passes

/-! ## Time -/

theorem withWorld_becomes (w : World) (l : Loop) : l.Becomes (l.withWorld w) := by
  rintro p rfl hidle
  exact ⟨_, _, .tail .refl (@Process.TimedStep.outside _ p w [] trivial), rfl, hidle⟩

theorem becomes_next (h : l.ends = false) : l.Becomes { l with now := l.now + 1 } := by
  rintro p rfl hidle
  have htimers : ∀ t ∈ p.loop.timers, p.loop.now + 1 ≤ t.due := by
    simpa [ends, Nat.succ_le_iff] using h
  exact ⟨_, _, .tail .refl (.clock (p.loop.now + 1) (Nat.le_succ _) htimers hidle.2), rfl, hidle⟩

theorem fire_becomes {t : Timer} (ht : t ∈ l.timers) (hdue : t.due ≤ l.now) :
    l.Becomes (l.fire t) := by
  rintro p rfl hidle
  have hends := Process.Runs.tail .refl (@Process.TimedStep.release Process.anyChange p t ht hdue)
  have hsent := hends.tail (.send (List.mem_cons_self ..))
  refine ⟨_, _, hsent, rfl, hidle.1, ?_⟩
  rw [List.erase_cons_head]
  exact hidle.2

theorem fire_keeps (t : Timer) (l : Loop) :
    (l.fire t).now = l.now ∧ (l.fire t).timers = l.timers.erase t :=
  Process.received_keeps (some t.request) (l.release t)

theorem fireAll_becomes {ts : List Timer} (hts : ts.Sublist l.timers)
    (hdue : ∀ t ∈ ts, t.due ≤ l.now) : l.Becomes (ts.foldl (fun l t ↦ l.fire t) l) := by
  induction ts generalizing l with
  | nil => exact .refl l
  | cons t ts ih =>
    obtain ⟨hnow, htimers⟩ := l.fire_keeps t
    have hfirst :=
      fire_becomes (hts.subset (List.mem_cons_self ..)) (hdue t (List.mem_cons_self ..))
    refine hfirst.trans (ih ?_ ?_)
    · rw [htimers]
      simpa only [List.erase_cons_head] using hts.erase t
    · rw [hnow]
      exact fun u hu ↦ hdue u (List.mem_cons_of_mem t hu)

theorem expire_becomes (l : Loop) : l.Becomes l.expire :=
  fireAll_becomes List.filter_sublist fun _ ht ↦ of_decide_eq_true (List.mem_filter.1 ht).2

end Loop

namespace System

/-- What the running system does as long as it is not told to stop. -/
inductive Step : System → System → Prop
  | start {s s' : System} (present : Instant) (h : s.start present = some s') : Step s s'
  | next {s s' : System} (present : Instant) (h : s.next present = some s') : Step s s'
  | change {s s' : System} (present : Instant) (kind : Kind) (c : Change) (r : Request)
      (h : s.change present kind c r = some s') : Step s s'
  | fail {s : System} (kind : Kind) (code : Nat) : Step s (s.fail kind code)
  | setListFails {s : System} (kind : Kind) (fails : Bool) : Step s (s.setListFails kind fails)
  | setWorld {s : System} (f : World → World) : Step s (s.setWorld f)

variable {s s' : System} {present : Instant}

theorem loop_withFeed (kind : Kind) (f : Feed) (s : System) :
    (s.withFeed kind f).loop = s.loop := by
  cases kind <;> rfl

theorem feeding_becomes (kind : Kind) (step : Feed → List Request × Feed) (s : System) :
    s.loop.Becomes (s.feeding kind step).loop :=
  Loop.receiveAll_becomes _ s.loop

theorem settle_becomes (h : s.settle present = some s') : s.loop.Becomes s'.loop := by
  obtain ⟨l, hl, rfl⟩ := Option.map_eq_some_iff.1 h
  exact Loop.settle_becomes hl

theorem turn_becomes (h : s.turn present = some s') : s.loop.Becomes s'.loop :=
  s.loop.expire_becomes.trans (settle_becomes h)

theorem next_becomes (h : s.next present = some s') : s.loop.Becomes s'.loop := by
  rw [next] at h
  split at h
  · exact turn_becomes h
  · rename_i hends
    let s₁ : System := { s with loop := { s.loop with now := s.loop.now + 1 } }
    let s₂ := s₁.feeding .secret (Feed.wake s₁.loop.now)
    have hfed : s.loop.Becomes s₂.loop :=
      (Loop.becomes_next (Bool.eq_false_iff.2 hends)).trans (s₁.feeding_becomes _ _)
    exact (hfed.trans (s₂.feeding_becomes _ _)).trans (turn_becomes h)

theorem Step.becomes (h : Step s s') : s.loop.Becomes s'.loop := by
  cases h with
  | start present h =>
    let s₁ := s.feeding .secret (Feed.list s.loop.now)
    exact ((s.feeding_becomes _ _).trans (s₁.feeding_becomes _ _)).trans (settle_becomes h)
  | next present h => exact next_becomes h
  | change present kind c r h => exact (s.feeding_becomes kind _).trans (settle_becomes h)
  | fail kind code =>
    rw [System.fail, loop_withFeed]
    exact .refl s.loop
  | setListFails kind fails =>
    rw [System.setListFails, loop_withFeed]
    exact .refl s.loop
  | setWorld f => exact s.loop.withWorld_becomes _

/-- Each state of the running system, however the cluster and its objects change and whatever fails
meanwhile, is one that the loop comes to in a run on time. -/
theorem runs_of_steps {settings : Settings} {w : World}
    (hstart : s.loop = (Process.start settings w).loop) (h : Relation.ReflTransGen Step s s') :
    ∃ log p, Process.Runs Process.anyChange (Process.start settings w) log p ∧
      p.loop = s'.loop := by
  have hsteps : s.loop.Becomes s'.loop := by
    induction h with
    | refl => exact .refl s.loop
    | tail _ hstep ih => exact ih.trans hstep.becomes
  obtain ⟨log, p, hrun, hloop, -⟩ := hsteps (Process.start settings w) hstart.symm ⟨rfl, rfl⟩
  exact ⟨log, p, hrun, hloop⟩

end System

end AlertOperator.Watch
