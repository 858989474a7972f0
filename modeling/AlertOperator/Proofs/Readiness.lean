import AlertOperator.Operator.Basic
import AlertOperator.Proofs.Cluster.World

/-!
# The readiness gate

What a check of the gate leads to. It says that the cluster is ready exactly if it leaves the gate
open, and a gate that stays closed either has a wish for the next pass or ends in an error. The gate
is open after a check exactly if it was before or the check has seen a reason to open it: a job that
has succeeded, or a cluster that is too old. If all its calls are answered, a check leaves what
makes the next one say the same.

In the cluster a check deletes the readiness job at most, so the rest of a pass finds the secrets
and config maps that were there before.
-/

namespace AlertOperator

open Cluster (StoreError Session Job JobCounts JobState World Call)
open Retry (Requeue)
open Time (Instant olderThan)

/-! ## Calls that leave the objects alone -/

namespace Cluster.Session

/-- Between the two sessions nothing but the job was changed, and only the calls of the gate were
made. -/
structure Spares (s s' : Session) : Prop where
  world : ∃ job, s'.world = { s.world with job := job }
  calls : ∃ calls, s'.calls = s.calls ++ calls ∧ ∀ call ∈ calls, call.asksReadiness = true

theorem Spares.rfl {s : Session} : s.Spares s :=
  ⟨⟨s.world.job, Eq.refl _⟩, [], (List.append_nil _).symm, by simp⟩

theorem Spares.trans {s₁ s₂ s₃ : Session} (h : s₁.Spares s₂) (h' : s₂.Spares s₃) :
    s₁.Spares s₃ := by
  obtain ⟨⟨job, hworld⟩, calls, hcalls, hasks⟩ := h
  obtain ⟨⟨job', hworld'⟩, calls', hcalls', hasks'⟩ := h'
  refine ⟨⟨job', by rw [hworld', hworld]⟩, calls ++ calls', ?_, ?_⟩
  · rw [hcalls', hcalls, List.append_assoc]
  · intro call hcall
    rw [List.mem_append] at hcall
    exact hcall.elim (hasks call) (hasks' call)

theorem spares_inquire {α : Type} {call : Call} (answer : World → Except StoreError α)
    (h : call.asksReadiness = true) (s : Session) : s.Spares (s.inquire call answer).2 := by
  refine ⟨⟨s.world.job, by rw [world_inquire]⟩, [call], s.calls_inquire call answer, ?_⟩
  intro c hc
  rwa [List.mem_singleton.1 hc]

theorem spares_deleteReadinessJob (s : Session) : s.Spares s.deleteReadinessJob.2 := by
  refine ⟨?_, [.deleteReadinessJob], s.calls_request _ _, by simp [Call.asksReadiness]⟩
  rw [deleteReadinessJob, request]
  cases s.world.failing (Call.operation .deleteReadinessJob) with
  | none => exact ⟨none, Eq.refl _⟩
  | some e => exact ⟨s.world.job, Eq.refl _⟩

end Cluster.Session

namespace Gate

variable {g : Gate} {a : Int} {now : Instant} {s : Session} {c : Checked}

theorem spares_readJob (s : Session) : s.Spares (readJob s).2 := by
  have hread : s.Spares s.readinessJob.2 := Session.spares_inquire _ rfl s
  rw [readJob]
  split
  · rename_i hs
    rwa [hs] at hread
  · exact hread

theorem spares_readCreated (g : Gate) (s : Session) : s.Spares (g.readCreated s).2 := by
  rw [readCreated]
  split
  · exact .rfl
  · exact Session.spares_inquire _ rfl s

theorem spares_deleteJob (s : Session) : s.Spares (deleteJob s).2 := by
  have hdelete := s.spares_deleteReadinessJob
  rw [deleteJob]
  split
  · rename_i hs
    rwa [hs] at hdelete
  · exact hdelete

/-! ## What a check sees -/

/-- The check sees a reason to open the gate. -/
inductive Sees (g : Gate) (maxAgeMinutes : Int) (now : Instant) (s : Session) : Prop
  /-- A pod of the job has succeeded. -/
  | succeeded {job : Job} {counts : JobCounts} {n : Int} (hjob : (readJob s).1 = .ok (some job))
      (hcounts : job.counts = some counts) (hn : counts.succeeded = some n) (hpos : 0 < n)
  /-- The job could be read, and the cluster is older than the limit. -/
  | tooOld {job : Option Job} {created : Instant} (hjob : (readJob s).1 = .ok job)
      (hcreated : (g.readCreated (readJob s).2).1 = .ok created)
      (hold : olderThan created now maxAgeMinutes = some true)

theorem jobState_eq_succeeded {job : Option Job} :
    JobState.of job = .succeeded ↔
      ∃ j counts n, job = some j ∧ j.counts = some counts ∧ counts.succeeded = some n ∧ 0 < n := by
  have hother : ∀ active : Int,
      ¬(if 0 < active then JobState.active else JobState.failed) = .succeeded := by
    intro active
    split <;> exact nofun
  rcases job with _ | ⟨_ | ⟨_ | n, active, failed⟩⟩
  · simp [JobState.of]
  · simp [JobState.of]
  · simp [JobState.of, hother]
  · by_cases hn : 0 < n
    · simp [JobState.of, hn]
    · simp [JobState.of, hn, hother]

/-! ## What a check leads to -/

/-- What a check leads to that does not open the gate: a wish for the next pass, or an error. -/
structure Waits (c : Checked) : Prop where
  closed : c.gate.opened = false
  next : (c.ready = .ok false ∧ c.gate.requeue ≠ .never) ∨ ∃ e, c.ready = .error e

/-- What a check leads to that finds the gate open or opens it. -/
structure Opens (c : Checked) : Prop where
  opened : c.gate.opened = true
  ready : c.ready = .ok true

theorem await_waits {state : JobState} (hg : g.opened = false) (hstate : state ≠ .succeeded) :
    Waits (g.await state s) := by
  cases state with
  | missing => exact ⟨hg, .inl ⟨rfl, nofun⟩⟩
  | succeeded => exact absurd rfl hstate
  | active => exact ⟨hg, .inl ⟨rfl, nofun⟩⟩
  | failed =>
    rw [await]
    split
    · exact ⟨hg, .inl ⟨rfl, nofun⟩⟩
    · exact ⟨hg, .inr ⟨_, rfl⟩⟩

theorem spares_await (state : JobState) : s.Spares (g.await state s).session := by
  cases state with
  | failed =>
    have hdelete := spares_deleteJob s
    rw [await]
    split
    all_goals
      rename_i hs
      rwa [hs] at hdelete
  | _ => exact .rfl

/-- The age of the cluster is all that opens the gate once the job is known not to have
succeeded. -/
theorem judge_cases {state : JobState} (hg : g.opened = false) (hstate : state ≠ .succeeded)
    (h : g.judge a now state s = some c) :
    s.Spares c.session ∧
      ((Opens c ∧ ∃ created, (g.readCreated s).1 = .ok created ∧
          olderThan created now a = some true) ∨
        (Waits c ∧ ∀ created, (g.readCreated s).1 = .ok created →
          olderThan created now a ≠ some true)) := by
  have hread := spares_readCreated g s
  rw [judge] at h
  split at h
  · rename_i hs
    obtain rfl := Option.some.inj h
    rw [hs] at hread ⊢
    exact ⟨hread, .inr ⟨⟨hg, .inl ⟨rfl, nofun⟩⟩, nofun⟩⟩
  · rename_i created s' hs
    rw [hs] at hread ⊢
    obtain ⟨old, hold, rfl⟩ := Option.map_eq_some_iff.1 h
    cases old with
    | true => exact ⟨hread, .inl ⟨⟨rfl, rfl⟩, created, rfl, hold⟩⟩
    | false =>
      refine ⟨hread.trans (spares_await state), .inr ⟨await_waits hg hstate, ?_⟩⟩
      rintro _ ⟨⟩
      rw [hold]
      exact nofun

/-- A check finds the gate open, sees a reason to open it, or sees none and waits. -/
theorem check_cases (h : g.check a now s = some c) :
    s.Spares c.session ∧
      ((Opens c ∧ (g.opened = true ∨ g.Sees a now s)) ∨
        (Waits c ∧ g.opened = false ∧ ¬g.Sees a now s)) := by
  rw [check] at h
  by_cases hg : g.opened = true
  · rw [if_pos hg] at h
    -- an open gate asks nothing
    obtain rfl := Option.some.inj h
    exact ⟨.rfl, .inl ⟨⟨hg, rfl⟩, .inl hg⟩⟩
  rw [if_neg hg] at h
  rw [Bool.not_eq_true] at hg
  have hread := spares_readJob s
  dsimp only at h
  split at h
  · rename_i e s' hs
    -- a job that cannot be read shows no reason, and neither does the age, which is not asked for
    obtain rfl := Option.some.inj h
    rw [hs] at hread
    refine ⟨hread, .inr ⟨⟨hg, .inr ⟨_, rfl⟩⟩, hg, ?_⟩⟩
    rintro (⟨hjob, -⟩ | ⟨hjob, -⟩)
    all_goals
      rw [hs] at hjob
      exact nomatch hjob
  · rename_i job s' hs
    rw [hs] at hread
    have hjob : (readJob s).1 = .ok job := by rw [hs]
    have hrest : (readJob s).2 = s' := by rw [hs]
    split at h
    · rename_i hstate
      obtain ⟨j, counts, n, rfl, hcounts, hn, hpos⟩ := jobState_eq_succeeded.1 hstate
      obtain rfl := Option.some.inj h
      exact ⟨hread, .inl ⟨⟨rfl, rfl⟩, .inr (.succeeded hjob hcounts hn hpos)⟩⟩
    · rename_i hstate
      obtain ⟨hspares, hcases⟩ := judge_cases (g := g.wanting .never) hg hstate h
      refine ⟨hread.trans hspares, ?_⟩
      rcases hcases with ⟨hopens, created, hcreated, hold⟩ | ⟨hwaits, hyoung⟩
      · exact .inl ⟨hopens, .inr (.tooOld hjob (by rw [hrest]; exact hcreated) hold)⟩
      · refine .inr ⟨hwaits, hg, ?_⟩
        rintro (⟨hjob', hcounts, hn, hpos⟩ | ⟨-, hcreated, hold⟩)
        · rw [hs] at hjob'
          obtain rfl := Except.ok.inj hjob'
          exact hstate (jobState_eq_succeeded.2 ⟨_, _, _, rfl, hcounts, hn, hpos⟩)
        · rw [hrest] at hcreated
          exact hyoung _ hcreated hold

/-! ## Checks whose calls are answered -/

/-- What a check says if its calls are answered. None if the age of the cluster cannot be compared
with the limit. -/
def tells (g : Gate) (maxAgeMinutes : Int) (now : Instant) (w : World) : Option Bool :=
  if g.opened = true ∨ JobState.of w.job = .succeeded then some true
  else
    match g.created.or w.created with
    | none => some false
    | some created => olderThan created now maxAgeMinutes

/-- What a check has said, and what one right after it will say. -/
def tellsTwice (maxAgeMinutes : Int) (now : Instant) (c : Checked) :
    Except ReadinessError Bool × Option Bool :=
  (c.ready, c.gate.tells maxAgeMinutes now c.session.world)

theorem tells_of_opened (hg : g.opened = true) (w : World) : g.tells a now w = some true :=
  if_pos (.inl hg)

theorem tells_of_closed {w : World} (hg : g.opened = false)
    (hjob : JobState.of w.job ≠ .succeeded) :
    g.tells a now w = match g.created.or w.created with
      | none => some false
      | some created => olderThan created now a :=
  if_neg (not_or_intro (ne_true_of_eq_false hg) hjob)

theorem tellsTwice_of_opened (hready : c.ready = .ok true) (hopened : c.gate.opened = true) :
    tellsTwice a now c = (.ok true, some true) :=
  Prod.ext hready (tells_of_opened hopened _)

section Works

variable (hworks : ∀ operation, s.world.failing operation = none)

include hworks

theorem readJob_of_works :
    readJob s = (.ok s.world.job, ⟨s.world, s.calls ++ [.readinessJob]⟩) := by
  rw [readJob, Session.readinessJob, Session.inquire_of_works (hworks _)]

theorem readCreated_of_works (g : Gate) : ∃ calls, g.readCreated s =
    ((g.created.or s.world.created).elim (.error (.notFound "no creation time")) .ok,
      ⟨s.world, calls⟩) := by
  rw [readCreated]
  cases g.created with
  | some created => exact ⟨_, rfl⟩
  | none =>
    dsimp only
    rw [Session.createdAt, Session.inquire_of_works (hworks _), Option.none_or]
    cases s.world.created with
    | some created => exact ⟨_, rfl⟩
    | none => exact ⟨_, rfl⟩

theorem tellsTwice_await (hg : g.opened = false) {created : Instant}
    (hcreated : g.created = some created) (hyoung : olderThan created now a = some false)
    (hjob : JobState.of s.world.job ≠ .succeeded) :
    tellsTwice a now (g.await (JobState.of s.world.job) s) = (.ok false, some false) := by
  have htells : ∀ {g' : Gate} {w : World}, g'.opened = false → g'.created = some created →
      JobState.of w.job ≠ .succeeded → g'.tells a now w = some false := by
    intro g' w hopened hcreated hjob
    rw [tells_of_closed hopened hjob, hcreated]
    exact hyoung
  cases hstate : JobState.of s.world.job with
  | succeeded => exact absurd hstate hjob
  | missing => exact Prod.ext rfl (htells hg hcreated hjob)
  | active => exact Prod.ext rfl (htells hg hcreated hjob)
  | failed =>
    have hdelete : deleteJob s
        = (.ok (), ⟨{ s.world with job := none }, s.calls ++ [.deleteReadinessJob]⟩) := by
      rw [deleteJob, Session.deleteReadinessJob, Session.request_of_works (hworks _)]
    rw [await, hdelete]
    -- a job that is missing has not succeeded either
    exact Prod.ext rfl (htells hg hcreated nofun)

theorem tellsTwice_judge (hg : g.opened = false) (hjob : JobState.of s.world.job ≠ .succeeded) :
    (g.judge a now (JobState.of s.world.job) s).map (tellsTwice a now)
      = (g.tells a now s.world).map fun ready ↦ (.ok ready, some ready) := by
  have htells : g.tells a now s.world = _ := tells_of_closed hg hjob
  obtain ⟨calls, hread⟩ := readCreated_of_works hworks g
  rw [judge, hread]
  rcases hcreated : g.created.or s.world.created with _ | created
  · rw [hcreated] at htells
    rw [htells]
    exact congrArg some (Prod.ext rfl htells)
  · rw [hcreated] at htells
    rw [htells]
    dsimp only [Option.elim]
    rw [Option.map_map]
    refine Option.map_congr fun old hold ↦ ?_
    cases old with
    | true =>
      rw [Function.comp_apply, if_pos rfl]
      exact tellsTwice_of_opened rfl rfl
    | false => exact tellsTwice_await (s := ⟨s.world, calls⟩) hworks hg rfl hold hjob

/-- What a check leaves behind makes the next one say the same. The job of a closed gate is at most
deleted, and the age of the cluster is at most known by then. -/
theorem tellsTwice_check (g : Gate) (a : Int) (now : Instant) :
    (g.check a now s).map (tellsTwice a now)
      = (g.tells a now s.world).map fun ready ↦ (.ok ready, some ready) := by
  by_cases hg : g.opened = true
  · rw [check, if_pos hg, tells_of_opened hg]
    exact congrArg some (tellsTwice_of_opened rfl hg)
  rw [check, if_neg hg, readJob_of_works hworks]
  dsimp only
  by_cases hstate : JobState.of s.world.job = .succeeded
  · rw [tells, if_pos (.inr hstate), hstate]
    exact congrArg some (tellsTwice_of_opened rfl rfl)
  · split
    · exact absurd ‹_› hstate
    · exact tellsTwice_judge (g := g.wanting .never) (s := ⟨s.world, s.calls ++ [.readinessJob]⟩)
        hworks (Bool.eq_false_iff.2 hg) hstate

end Works

end Gate

theorem Operator.checkReady_eq {o : Operator} (h : o.assumed = none) (now : Instant) (s : Session) :
    o.checkReady now s = (o.gate.check o.settings.maxAgeMinutes now s).map fun c ↦
      (c.ready, { o with gate := c.gate }, c.session) := by
  rw [checkReady, h]

/-- Whatever the operator goes by, to ask whether the cluster is ready changes nothing but the gate
and the readiness job. -/
theorem Operator.checkReady_spares {o o' : Operator} {now : Instant} {s s' : Session}
    {answer : Except ReadinessError Bool} (h : o.checkReady now s = some (answer, o', s')) :
    o' = { o with gate := o'.gate } ∧ s.Spares s' := by
  obtain hassumed | ⟨verdict, hassumed⟩ := Option.eq_none_or_eq_some o.assumed
  · rw [checkReady_eq hassumed, Option.map_eq_some_iff] at h
    obtain ⟨c, hcheck, ⟨⟩⟩ := h
    exact ⟨rfl, (Gate.check_cases hcheck).1⟩
  · rw [checkReady, hassumed] at h
    obtain ⟨⟩ := h
    exact ⟨rfl, .rfl⟩

theorem Operator.requeue_eq {o : Operator} (h : o.assumed = none) : o.requeue = o.gate.requeue := by
  rw [requeue, h]

end AlertOperator
