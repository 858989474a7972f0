import AlertOperator.Proofs.Operator.AgeLimit

/-!
# The checks of a gate

A gate is checked again and again, and between two checks the cluster may become any other. What the
gate keeps from one check to the next is a latch, a wish for the next pass and the time at which the
cluster was created. A history is a run of checks from a new gate, and of each check it keeps the
cluster that was asked, the present, and what the check led to, the calls among it.

The step is `Gate.course_of_check`: it lists the courses that a check can take, each with its calls.
Over a history three things are kept, by `Checks.opened`, `Checks.settled` and
`Checks.learned_eq`: the gate is open once a check has found the cluster ready, an open gate wishes
for nothing, and the gate knows the time of creation that the cluster has told, which it therefore
tells once at most.

That two clusters make no difference to a check because they answer its calls alike is said apart
from the courses, by `Gate.outcome_congr`.
-/

namespace AlertOperator

open Cluster (Call Job JobState Operation Session StoreError World)
open Retry (Requeue)
open Time (Instant minutesBefore olderThan)

/-! ## Answers -/

namespace Cluster.World

variable (w : World)

/-- What is answered to a call for the readiness job. -/
def jobAnswer : Except StoreError (Option Job) := (Session.readinessJob { world := w }).1

/-- What is answered to a call for the time of creation. -/
def createdAnswer : Except StoreError Instant := (Session.createdAt { world := w }).1

/-- The cluster with another error, or none, for one operation. -/
def answering (operation : Operation) (error : Option StoreError) : World :=
  { w with failing := fun op ↦ if op = operation then error else w.failing op }

end Cluster.World

/-- What a check shows to the operator and to the cluster: what it says, the gate it leaves and the
calls it makes. -/
def Checked.shown (c : Checked) : Except ReadinessError Bool × Gate × List Call :=
  (c.ready, c.gate, c.session.calls)

namespace Gate

/-- The state of the readiness job as a check sees it: a job that does not exist is missing. -/
def seen (w : World) : Except StoreError JobState := (readJob { world := w }).1.map JobState.of

/-- How the deletion of the readiness job ends. -/
def deleted (w : World) : Except StoreError Unit := (deleteJob { world := w }).1

variable {g : Gate} {a : Int} {now : Instant} {w : World}

theorem readJob_eq (s : Session) :
    readJob s = ((readJob { world := s.world }).1, ⟨s.world, s.calls ++ [.readinessJob]⟩) := by
  rw [readJob, readJob, Session.readinessJob, Session.readinessJob, Session.inquire,
    Session.inquire, Session.request, Session.request]
  rcases s.world.failing _ with _ | e
  · rfl
  · cases e <;> rfl

theorem readCreated_of_some {created : Instant} (h : g.created = some created) (s : Session) :
    g.readCreated s = (.ok created, s) := by
  rw [readCreated, h]

theorem readCreated_of_none (h : g.created = none) (s : Session) :
    g.readCreated s = (s.world.createdAnswer, ⟨s.world, s.calls ++ [.createdAt]⟩) := by
  rw [readCreated, h, World.createdAnswer, Session.createdAt, Session.createdAt, Session.inquire,
    Session.inquire, Session.request, Session.request]
  cases s.world.failing _ <;> rfl

theorem deleteJob_eq (s : Session) : ∃ w,
    deleteJob s = (deleted s.world, ⟨w, s.calls ++ [.deleteReadinessJob]⟩) := by
  rw [deleted, deleteJob, deleteJob, Session.deleteReadinessJob, Session.deleteReadinessJob,
    Session.request, Session.request]
  rcases s.world.failing _ with _ | e
  · exact ⟨_, rfl⟩
  · cases e <;> exact ⟨_, rfl⟩

theorem seen_eq (w : World) : seen w = match w.jobAnswer with
    | .ok job => .ok (JobState.of job)
    | .error (.notFound _) => .ok .missing
    | .error e => .error e := by
  rw [seen, readJob, World.jobAnswer]
  rcases Session.readinessJob { world := w } with ⟨e | job, s⟩
  · cases e <;> rfl
  · rfl

theorem seen_of_ok {job : Option Job} (h : w.jobAnswer = .ok job) :
    seen w = .ok (JobState.of job) := by
  rw [seen_eq, h]

theorem seen_of_error {e : StoreError} (h : w.jobAnswer = .error e) (he : e.isNotFound = false) :
    seen w = .error e := by
  rw [seen_eq, h]
  cases e with
  | notFound text => exact nomatch he
  | _ => rfl

theorem exists_of_seen_failed (h : seen w = .ok .failed) :
    ∃ job, w.jobAnswer = .ok (some job) ∧ JobState.of (some job) = .failed := by
  rw [seen_eq] at h
  rcases hjob : w.jobAnswer with e | _ | job
  · rw [hjob] at h
    cases e with
    | _ => exact nomatch h
  · rw [hjob] at h
    exact nomatch h
  · rw [hjob] at h
    exact ⟨job, rfl, Except.ok.inj h⟩

/-! ## Courses of a check -/

/-- How a check gets to know when the cluster was created, and the calls it makes for that. -/
inductive Knows (known : Option Instant) (w : World) (created : Instant) : List Call → Prop
  | before (h : known = some created) : Knows known w created []
  | asked (h : known = none) (hanswer : w.createdAnswer = .ok created) :
    Knows known w created [.createdAt]

/-- What a check does about a job of a young cluster: what it says, when it wants the next pass, and
the calls it makes. -/
inductive Awaits (w : World) : JobState → Except ReadinessError Bool → Requeue → List Call → Prop
  | missing : Awaits w .missing (.ok false) .immediately []
  | active : Awaits w .active (.ok false) (.after jobDelay) []
  | failed (h : deleted w = .ok ()) :
    Awaits w .failed (.ok false) .immediately [.deleteReadinessJob]
  | stuck {e : StoreError} (h : deleted w = .error e) :
    Awaits w .failed (.error (.jobDelete e)) .immediately [.deleteReadinessJob]

/-- The courses that a check can take: what it says, the gate it leaves and the calls it makes. -/
inductive Course (g : Gate) (maxAgeMinutes : Int) (now : Instant) (w : World) :
    Except ReadinessError Bool → Gate → List Call → Prop
  | latched (hopened : g.opened = true) : Course g maxAgeMinutes now w (.ok true) g []
  | unread {e : StoreError} (hopened : g.opened = false) (hseen : seen w = .error e) :
    Course g maxAgeMinutes now w (.error (.jobLookup e)) (g.wanting .never) [.readinessJob]
  | succeeded (hopened : g.opened = false) (hseen : seen w = .ok .succeeded) :
    Course g maxAgeMinutes now w (.ok true) { g.wanting .never with opened := true }
      [.readinessJob]
  | ageless {state : JobState} {e : StoreError} (hopened : g.opened = false)
    (hseen : seen w = .ok state) (hstate : state ≠ .succeeded) (hcreated : g.created = none)
    (hanswer : w.createdAnswer = .error e) :
    Course g maxAgeMinutes now w (.ok false) (g.wanting (.after ageDelay))
      [.readinessJob, .createdAt]
  | tooOld {state : JobState} {created : Instant} {calls : List Call} (hopened : g.opened = false)
    (hseen : seen w = .ok state) (hstate : state ≠ .succeeded)
    (hknows : Knows g.created w created calls)
    (hold : olderThan created now maxAgeMinutes = some true) :
    Course g maxAgeMinutes now w (.ok true) ⟨true, .never, some created⟩ (.readinessJob :: calls)
  | waits {state : JobState} {created : Instant} {calls calls' : List Call}
    {ready : Except ReadinessError Bool} {requeue : Requeue} (hopened : g.opened = false)
    (hseen : seen w = .ok state) (hknows : Knows g.created w created calls)
    (hyoung : olderThan created now maxAgeMinutes = some false)
    (hawaits : Awaits w state ready requeue calls') :
    Course g maxAgeMinutes now w ready ⟨false, requeue, some created⟩
      (.readinessJob :: calls ++ calls')

theorem exists_awaits (g : Gate) {state : JobState} (hstate : state ≠ .succeeded) (s : Session) :
    ∃ ready requeue w calls, Awaits s.world state ready requeue calls ∧
      g.await state s = ⟨ready, g.wanting requeue, ⟨w, s.calls ++ calls⟩⟩ := by
  cases state with
  | missing => exact ⟨_, _, s.world, _, .missing, by rw [List.append_nil]; rfl⟩
  | succeeded => exact absurd rfl hstate
  | active => exact ⟨_, _, s.world, _, .active, by rw [List.append_nil]; rfl⟩
  | failed =>
    obtain ⟨w, hdelete⟩ := deleteJob_eq s
    rw [await, hdelete]
    rcases hdeleted : deleted s.world with e | _
    · exact ⟨_, _, w, _, .stuck hdeleted, rfl⟩
    · exact ⟨_, _, w, _, .failed hdeleted, rfl⟩

theorem readCreated_cases (g : Gate) (s : Session) :
    (∃ created calls, Knows g.created s.world created calls ∧
      g.readCreated s = (.ok created, ⟨s.world, s.calls ++ calls⟩)) ∨
    ∃ e, g.created = none ∧ s.world.createdAnswer = .error e ∧
      g.readCreated s = (.error e, ⟨s.world, s.calls ++ [.createdAt]⟩) := by
  obtain hcreated | ⟨created, hcreated⟩ := Option.eq_none_or_eq_some g.created
  · have hread := readCreated_of_none hcreated s
    rcases hanswer : s.world.createdAnswer with e | created
    · exact .inr ⟨e, hcreated, rfl, by rw [hread, hanswer]⟩
    · exact .inl ⟨created, _, .asked hcreated hanswer, by rw [hread, hanswer]⟩
  · refine .inl ⟨created, [], .before hcreated, ?_⟩
    rw [readCreated_of_some hcreated, List.append_nil]

theorem course_of_judge {state : JobState} {c : Checked} (hopened : g.opened = false)
    (hseen : seen w = .ok state) (hstate : state ≠ .succeeded)
    (h : (g.wanting .never).judge a now state ⟨w, [.readinessJob]⟩ = some c) :
    Course g a now w c.ready c.gate c.session.calls := by
  rw [judge] at h
  obtain ⟨created, calls, hknows, hread⟩ | ⟨e, hcreated, hanswer, hread⟩ :=
    readCreated_cases (g.wanting .never) ⟨w, [.readinessJob]⟩
  · rw [hread] at h
    obtain ⟨old, hold, rfl⟩ := Option.map_eq_some_iff.1 h
    cases old with
    | true => exact .tooOld hopened hseen hstate hknows hold
    | false =>
      obtain ⟨ready, requeue, w', calls', hawaits, hawait⟩ := exists_awaits
        { g.wanting .never with created := some created } hstate ⟨w, .readinessJob :: calls⟩
      have hcourse := Course.waits hopened hseen hknows hold hawaits
      rw [← hopened] at hcourse
      rw [if_neg Bool.false_ne_true]
      exact hawait ▸ hcourse
  · rw [hread] at h
    obtain rfl := Option.some.inj h
    exact .ageless hopened hseen hstate hcreated hanswer

/-- A check takes one of the courses. -/
theorem course_of_check {c : Checked} (h : g.check a now { world := w } = some c) :
    Course g a now w c.ready c.gate c.session.calls := by
  rw [check] at h
  split at h
  · rename_i hopened
    obtain rfl := Option.some.inj h
    exact .latched hopened
  rename_i hopened
  rw [Bool.not_eq_true] at hopened
  rw [readJob_eq] at h
  rcases hjob : (readJob { world := w }).1 with e | job
  · have hseen : seen w = .error e := by rw [seen, hjob]; rfl
    rw [hjob] at h
    obtain rfl := Option.some.inj h
    exact .unread hopened hseen
  have hseen : seen w = .ok (JobState.of job) := by rw [seen, hjob]; rfl
  rw [hjob] at h
  dsimp only at h
  split at h
  · rename_i hstate
    rw [hstate] at hseen
    obtain rfl := Option.some.inj h
    exact .succeeded hopened hseen
  · rename_i hstate
    exact course_of_judge hopened hseen hstate h

/-! ## What holds of every course -/

/-- The wish for the next pass that goes with what a check says. -/
def Fits (requeue : Requeue) : Except ReadinessError Bool → Prop
  | .ok true => requeue = .never
  | .ok false => requeue ≠ .never
  | .error (.jobLookup _) => requeue = .never
  | .error (.jobDelete _) => requeue = .immediately

/-- The times of creation that a cluster tells in answer to calls. -/
def learned (w : World) (calls : List Call) : List Instant :=
  calls.filterMap fun call ↦ if call = .createdAt then w.createdAnswer.toOption else none

theorem Awaits.cases {state : JobState} {ready : Except ReadinessError Bool} {requeue : Requeue}
    {calls : List Call} (h : Awaits w state ready requeue calls) :
    state ≠ .succeeded ∧ Fits requeue ready ∧ ready ≠ .ok true ∧
      (calls = [] ∨ state = .failed ∧ calls = [.deleteReadinessJob]) := by
  cases h with
  | missing => exact ⟨nofun, nofun, nofun, .inl rfl⟩
  | active => exact ⟨nofun, nofun, nofun, .inl rfl⟩
  | failed => exact ⟨nofun, nofun, nofun, .inr ⟨rfl, rfl⟩⟩
  | stuck => exact ⟨nofun, rfl, nofun, .inr ⟨rfl, rfl⟩⟩

theorem Knows.cases {known : Option Instant} {created : Instant} {calls : List Call}
    (h : Knows known w created calls) :
    known.toList ++ learned w calls = [created] ∧ .deleteReadinessJob ∉ calls := by
  cases h with
  | before h =>
    rw [h]
    exact ⟨rfl, List.not_mem_nil⟩
  | asked h hanswer =>
    rw [h, learned, List.filterMap_cons_some (b := created) (by rw [if_pos rfl, hanswer]; rfl)]
    exact ⟨rfl, by decide⟩

namespace Course

variable {ready : Except ReadinessError Bool} {g' : Gate} {calls : List Call}

theorem of_opened (h : Course g a now w ready g' calls) (hopened : g.opened = true) :
    ready = .ok true ∧ g' = g ∧ calls = [] := by
  cases h with
  | latched => exact ⟨rfl, rfl, rfl⟩
  | unread hclosed | succeeded hclosed | ageless hclosed | tooOld hclosed | waits hclosed =>
    rw [hclosed] at hopened
    exact nomatch hopened

theorem opened_of_ready (h : Course g a now w ready g' calls) (hready : ready = .ok true) :
    g'.opened = true := by
  cases h with
  | latched hopened => exact hopened
  | unread | ageless => exact nomatch hready
  | succeeded | tooOld => rfl
  | waits _ _ _ _ hawaits => exact absurd hready hawaits.cases.2.2.1

/-- A check says what goes with its wish, if the wish of an open gate is none. -/
theorem fits (h : Course g a now w ready g' calls) (hg : g.opened = true → g.requeue = .never) :
    Fits g'.requeue ready := by
  cases h with
  | latched hopened => exact hg hopened
  | unread | succeeded | tooOld => rfl
  | ageless => exact nofun
  | waits _ _ _ _ hawaits => exact hawaits.cases.2.1

theorem settled (h : Course g a now w ready g' calls) (hg : g.opened = true → g.requeue = .never) :
    g'.opened = true → g'.requeue = .never := by
  cases h with
  | latched => exact hg
  | unread | succeeded | tooOld => exact fun _ ↦ rfl
  | ageless hclosed =>
    intro hopened
    exact absurd (hclosed.symm.trans hopened) Bool.false_ne_true
  | waits => exact nofun

theorem created_toList (h : Course g a now w ready g' calls) :
    g'.created.toList = g.created.toList ++ learned w calls := by
  cases h with
  | latched | unread | succeeded => exact (List.append_nil _).symm
  | ageless _ _ _ _ hanswer =>
    have hnone : learned w [.readinessJob, .createdAt] = [] := by
      simp [learned, hanswer, Except.toOption]
    rw [hnone, List.append_nil]
    rfl
  | tooOld _ _ _ hknows => exact hknows.cases.1.symm
  | @waits _ _ calls calls' _ _ _ _ hknows _ hawaits =>
    have hnone : learned w calls' = [] := by
      rcases hawaits.cases.2.2.2 with rfl | ⟨-, rfl⟩
      all_goals rfl
    have happend : learned w (.readinessJob :: calls ++ calls')
        = learned w calls ++ learned w calls' := List.filterMap_append
    rw [happend, hnone, List.append_nil]
    exact hknows.cases.1.symm

theorem seen_of_createdAt_mem (h : Course g a now w ready g' calls) (hmem : .createdAt ∈ calls) :
    ∃ state, seen w = .ok state ∧ state ≠ .succeeded := by
  cases h with
  | latched | unread | succeeded => simp at hmem
  | ageless _ hseen hstate => exact ⟨_, hseen, hstate⟩
  | tooOld _ hseen hstate => exact ⟨_, hseen, hstate⟩
  | waits _ hseen _ _ hawaits => exact ⟨_, hseen, hawaits.cases.1⟩

/-- The job is deleted once at most, and only if it has failed and the cluster is known to be
young. -/
theorem deletes (h : Course g a now w ready g' calls) :
    calls.count .deleteReadinessJob ≤ 1 ∧ (.deleteReadinessJob ∈ calls → seen w = .ok .failed ∧
      ∃ created, g'.created = some created ∧ olderThan created now a = some false) := by
  cases h with
  | latched | unread | succeeded | ageless =>
    exact ⟨by decide, fun hmem ↦ by simp at hmem⟩
  | @tooOld _ _ calls _ _ _ hknows =>
    have hnone : .deleteReadinessJob ∉ Call.readinessJob :: calls :=
      List.not_mem_cons_of_ne_of_not_mem nofun hknows.cases.2
    rw [List.count_eq_zero.2 hnone]
    exact ⟨Nat.zero_le 1, fun hmem ↦ absurd hmem hnone⟩
  | @waits _ _ calls calls' _ _ _ hseen hknows hyoung hawaits =>
    have hnone : .deleteReadinessJob ∉ Call.readinessJob :: calls :=
      List.not_mem_cons_of_ne_of_not_mem nofun hknows.cases.2
    rw [List.count_append, List.count_eq_zero.2 hnone, Nat.zero_add]
    rcases hawaits.cases.2.2.2 with rfl | ⟨rfl, rfl⟩
    · rw [List.append_nil]
      exact ⟨Nat.zero_le 1, fun hmem ↦ absurd hmem hnone⟩
    · exact ⟨by decide, fun _ ↦ ⟨hseen, _, rfl, hyoung⟩⟩

end Course

/-! ## Answers that make no difference -/

/-- What a check of a cluster shows. -/
def outcome (g : Gate) (maxAgeMinutes : Int) (now : Instant) (w : World) :
    Option (Except ReadinessError Bool × Gate × List Call) :=
  (g.check maxAgeMinutes now { world := w }).map Checked.shown

section Congr

variable {w' : World}

theorem fst_readJob_congr (hfailing : w.failing .readinessJob = w'.failing .readinessJob)
    (hjob : w.job = w'.job) : (readJob { world := w }).1 = (readJob { world := w' }).1 := by
  rw [readJob, readJob, Session.readinessJob, Session.readinessJob, Session.inquire,
    Session.inquire, Session.request, Session.request, Call.operation, hfailing, hjob]
  rcases w'.failing .readinessJob with _ | e
  · rfl
  · cases e <;> rfl

theorem createdAnswer_congr (hfailing : w.failing .createdAt = w'.failing .createdAt)
    (hcreated : w.created = w'.created) : w.createdAnswer = w'.createdAnswer := by
  rw [World.createdAnswer, World.createdAnswer, Session.createdAt, Session.createdAt,
    Session.inquire, Session.inquire, Session.request, Session.request, Call.operation, hfailing,
    hcreated]
  cases w'.failing .createdAt <;> rfl

theorem deleted_congr (hfailing : w.failing .deleteReadinessJob = w'.failing .deleteReadinessJob) :
    deleted w = deleted w' := by
  rw [deleted, deleted, deleteJob, deleteJob, Session.deleteReadinessJob,
    Session.deleteReadinessJob, Session.request, Session.request, Call.operation, hfailing]
  rcases w'.failing .deleteReadinessJob with _ | e
  · rfl
  · cases e <;> rfl

theorem shown_await_congr (hdeleted : deleted w = deleted w') (g : Gate) (state : JobState)
    (calls : List Call) : (g.await state ⟨w, calls⟩).shown = (g.await state ⟨w', calls⟩).shown := by
  cases state with
  | failed =>
    obtain ⟨v, hdelete⟩ := deleteJob_eq ⟨w, calls⟩
    obtain ⟨v', hdelete'⟩ := deleteJob_eq ⟨w', calls⟩
    rw [await, await, hdelete, hdelete', hdeleted]
    cases deleted w' <;> rfl
  | _ => rfl

theorem exists_readCreated (hcreated : w.createdAnswer = w'.createdAnswer) (g : Gate)
    (calls : List Call) : ∃ answer calls', g.readCreated ⟨w, calls⟩ = (answer, ⟨w, calls'⟩) ∧
      g.readCreated ⟨w', calls⟩ = (answer, ⟨w', calls'⟩) := by
  obtain hknown | ⟨created, hknown⟩ := Option.eq_none_or_eq_some g.created
  · refine ⟨_, _, readCreated_of_none hknown _, ?_⟩
    rw [readCreated_of_none hknown, hcreated]
  · exact ⟨_, _, readCreated_of_some hknown _, readCreated_of_some hknown _⟩

theorem shown_judge_congr (hcreated : w.createdAnswer = w'.createdAnswer)
    (hdeleted : deleted w = deleted w') (g : Gate) (state : JobState) (calls : List Call) :
    (g.judge a now state ⟨w, calls⟩).map Checked.shown
      = (g.judge a now state ⟨w', calls⟩).map Checked.shown := by
  obtain ⟨answer, calls', hread, hread'⟩ := exists_readCreated hcreated g calls
  rw [judge, judge, hread, hread']
  rcases answer with e | created
  · rfl
  · dsimp only
    rw [Option.map_map, Option.map_map]
    refine Option.map_congr fun old _ ↦ ?_
    cases old with
    | true => rfl
    | false => exact shown_await_congr hdeleted _ state calls'

theorem outcome_congr (hjob : (readJob { world := w }).1 = (readJob { world := w' }).1)
    (hcreated : w.createdAnswer = w'.createdAnswer) (hdeleted : deleted w = deleted w') :
    g.outcome a now w = g.outcome a now w' := by
  rw [outcome, outcome, check, check, readJob_eq, readJob_eq { world := w' }, hjob]
  split
  · rfl
  rcases (readJob { world := w' }).1 with e | job
  · rfl
  · dsimp only
    cases JobState.of job with
    | succeeded => rfl
    | _ => exact shown_judge_congr hcreated hdeleted _ _ _

end Congr

/-! ## One check after the other -/

/-- A check in the history of a gate: the cluster that was asked, the present, and what the check
led to. -/
structure Entry where
  world : World
  now : Instant
  checked : Checked

namespace Entry

/-- What the check said. -/
def ready (x : Entry) : Except ReadinessError Bool := x.checked.ready

/-- When the check wanted the next pass. -/
def requeue (x : Entry) : Requeue := x.checked.gate.requeue

/-- The calls of the check. -/
def calls (x : Entry) : List Call := x.checked.session.calls

/-- The times of creation that the cluster told during the check. -/
def learned (x : Entry) : List Instant := Gate.learned x.world x.calls

/-- What is asked of a check that comes after the checks `before`. -/
structure Disciplined (maxAgeMinutes : Int) (before : List Entry) (x : Entry) : Prop where
  latched : (∃ y ∈ before, y.ready = .ok true) →
    x.ready = .ok true ∧ x.calls = [] ∧ x.requeue = .never
  fits : Fits x.requeue x.ready
  /-- The age plays no part where the job has succeeded or could not be read. -/
  unasked : ((∃ job, x.world.jobAnswer = .ok (some job) ∧ JobState.of (some job) = .succeeded) ∨
    ∃ e, x.world.jobAnswer = .error e ∧ e.isNotFound = false) → .createdAt ∉ x.calls
  deletes : x.calls.count .deleteReadinessJob ≤ 1
  /-- Only a job without a pod that has succeeded or runs is deleted, and only in a cluster that has
  told when it was created, and is not too old. -/
  deleted : .deleteReadinessJob ∈ x.calls →
    (∃ job, x.world.jobAnswer = .ok (some job) ∧ ∀ counts ∈ job.counts,
      (∀ n ∈ counts.succeeded, n ≤ 0) ∧ ∀ n ∈ counts.active, n ≤ 0) ∧
    ∃ created ∈ (before ++ [x]).flatMap learned,
      olderThan created x.now maxAgeMinutes = some false

end Entry

/-- The checks of a gate since it was new, the last one at the end, and the gate after them. Each
check found a cluster and a present of its own. -/
inductive Checks (maxAgeMinutes : Int) : List Entry → Gate → Prop
  | new : Checks maxAgeMinutes [] {}
  | check {xs : List Entry} {g : Gate} {c : Checked} (h : Checks maxAgeMinutes xs g) (w : World)
    (now : Instant) (hcheck : g.check maxAgeMinutes now { world := w } = some c) :
    Checks maxAgeMinutes (xs ++ [⟨w, now, c⟩]) c.gate

theorem counts_of_failed {job : Job} (h : JobState.of (some job) = .failed) :
    ∀ counts ∈ job.counts, (∀ n ∈ counts.succeeded, n ≤ 0) ∧ ∀ n ∈ counts.active, n ≤ 0 := by
  intro counts hcounts
  have hgetD : job.counts.getD {} = counts := by rw [hcounts]; rfl
  rw [JobState.of, hgetD] at h
  split at h
  · exact nomatch h
  rename_i hsucceeded
  split at h
  · exact nomatch h
  rename_i hactive
  constructor
  · intro n hn
    rw [hn] at hsucceeded
    exact Int.not_lt.1 hsucceeded
  · intro n hn
    rw [hn] at hactive
    exact Int.not_lt.1 hactive

namespace Checks

variable {xs : List Entry}

theorem settled (h : Checks a xs g) : g.opened = true → g.requeue = .never := by
  induction h with
  | new => exact fun _ ↦ rfl
  | check _ _ _ hcheck ih => exact (course_of_check hcheck).settled ih

theorem opened (h : Checks a xs g) (hready : ∃ x ∈ xs, x.ready = .ok true) : g.opened = true := by
  induction h with
  | new => simp at hready
  | check _ _ _ hcheck ih =>
    have hcourse := course_of_check hcheck
    obtain ⟨x, hx, hready⟩ := hready
    rcases List.mem_append.1 hx with hx | hx
    · have hopened := ih ⟨x, hx, hready⟩
      rw [(hcourse.of_opened hopened).2.1]
      exact hopened
    · rw [List.mem_singleton.1 hx] at hready
      exact hcourse.opened_of_ready hready

theorem learned_eq (h : Checks a xs g) : xs.flatMap Entry.learned = g.created.toList := by
  induction h with
  | new => rfl
  | check _ _ _ hcheck ih =>
    rw [List.flatMap_append, ih, (course_of_check hcheck).created_toList]
    exact congrArg _ (List.append_nil _)

/-- Each check of a history was made by the gate after the checks before it. -/
theorem exists_check (h : Checks a xs g) {before after : List Entry} {x : Entry}
    (hxs : xs = before ++ x :: after) : ∃ g₀, Checks a before g₀ ∧
      g₀.check a x.now { world := x.world } = some x.checked := by
  induction h generalizing after with
  | new => simp at hxs
  | check h _ _ hcheck ih =>
    obtain rfl | ⟨rest, y, rfl⟩ := after.eq_nil_or_concat
    · obtain ⟨rfl, ⟨⟩⟩ := List.append_inj' hxs rfl
      exact ⟨_, h, hcheck⟩
    · rw [List.concat_eq_append, ← List.cons_append, ← List.append_assoc] at hxs
      exact ih (List.append_inj' hxs rfl).1

theorem disciplined (h : Checks a xs g) {before after : List Entry} {x : Entry}
    (hxs : xs = before ++ x :: after) : x.Disciplined a before := by
  obtain ⟨g₀, hbefore, hcheck⟩ := h.exists_check hxs
  have hcourse := course_of_check hcheck
  refine ⟨fun hready ↦ ?_, hcourse.fits hbefore.settled, ?_, hcourse.deletes.1, fun hmem ↦ ?_⟩
  · have hopened := hbefore.opened hready
    obtain ⟨hready, hgate, hcalls⟩ := hcourse.of_opened hopened
    refine ⟨hready, hcalls, ?_⟩
    rw [Entry.requeue, hgate]
    exact hbefore.settled hopened
  · intro hseen hmem
    obtain ⟨state, hstate, hne⟩ := hcourse.seen_of_createdAt_mem hmem
    rcases hseen with ⟨job, hjob, hsucceeded⟩ | ⟨e, hjob, he⟩
    · rw [seen_of_ok hjob] at hstate
      exact hne ((Except.ok.inj hstate).symm.trans hsucceeded)
    · rw [seen_of_error hjob he] at hstate
      exact nomatch hstate
  · obtain ⟨hfailed, created, hcreated, hyoung⟩ := hcourse.deletes.2 hmem
    obtain ⟨job, hjob, hstate⟩ := exists_of_seen_failed hfailed
    refine ⟨⟨job, hjob, counts_of_failed hstate⟩, created, ?_, hyoung⟩
    have hthen : Checks a (before ++ [x]) x.checked.gate := hbefore.check _ _ hcheck
    rw [hthen.learned_eq, hcreated]
    exact List.mem_singleton_self _

/-- Over every history of a gate, whatever clusters its checks have found:

* each check keeps to the rules for its calls and its wish for the next pass;
* the cluster tells once at most when it was created;
* once a check has found the cluster ready, the next one says so at any time and without a call, and
  before that it has a result whenever the age can be compared with the limit;
* to the next check a job that is not found is one that is missing, and one that is not found when
  it is to be deleted has been deleted. -/
theorem keep_discipline (h : Checks a xs g) :
    (∀ before x after, xs = before ++ x :: after → x.Disciplined a before) ∧
    (xs.flatMap Entry.learned).length ≤ 1 ∧
    (∀ w now, ((∃ x ∈ xs, x.ready = .ok true) →
        g.check a now { world := w } = some ⟨.ok true, g, { world := w }⟩) ∧
      ((minutesBefore now a).isSome = true → (g.check a now { world := w }).isSome = true)) ∧
    ∀ (w : World) now text,
      g.outcome a now (w.answering .readinessJob (some (.notFound text)))
        = g.outcome a now (World.answering { w with job := none } .readinessJob none) ∧
      g.outcome a now (w.answering .deleteReadinessJob (some (.notFound text)))
        = g.outcome a now (w.answering .deleteReadinessJob none) := by
  refine ⟨fun before x after hxs ↦ h.disciplined hxs, ?_,
    fun w now ↦ ⟨fun hready ↦ ?_, fun hsome ↦ isSome_check hsome _⟩, fun w now text ↦ ⟨?_, ?_⟩⟩
  · rw [h.learned_eq]
    exact Option.length_toList_le
  · rw [Gate.check, if_pos (h.opened hready)]
  · exact outcome_congr rfl (createdAnswer_congr rfl rfl) (deleted_congr rfl)
  · exact outcome_congr (fst_readJob_congr rfl rfl) (createdAnswer_congr rfl rfl) rfl

/-- A history with a check of every kind: the cluster does not tell its age; a failed job cannot be
deleted; the job cannot be read; it has succeeded; and nothing can be asked any more. -/
theorem keep_discipline_five : ∃ xs g, Checks 120 xs g ∧
    xs.map (fun x ↦ (x.ready, x.requeue, x.calls)) = [
      (.ok false, .after ageDelay, [.readinessJob, .createdAt]),
      (.error (.jobDelete .refused), .immediately,
        [.readinessJob, .createdAt, .deleteReadinessJob]),
      (.error (.jobLookup .refused), .never, [.readinessJob]),
      (.ok true, .never, [.readinessJob]),
      (.ok true, .never, [])] ∧
    (∀ before x after, xs = before ++ x :: after → x.Disciplined 120 before) ∧
    (xs.flatMap Entry.learned).length ≤ 1 := by
  let young : World := { job := some {}, created := some ⟨0, 0⟩ }
  let done : World := { job := some { counts := some { succeeded := some 1 } } }
  let dead : World := { failing := fun _ ↦ some .refused }
  have h₁ : Checks 120 _ _ := .check .new {} ⟨600, 0⟩ rfl
  have h₂ : Checks 120 _ _ :=
    h₁.check (young.answering .deleteReadinessJob (some .refused)) ⟨1200, 0⟩ rfl
  have h₃ : Checks 120 _ _ := h₂.check dead ⟨1800, 0⟩ rfl
  have h₄ : Checks 120 _ _ := h₃.check done ⟨2400, 0⟩ rfl
  have h₅ : Checks 120 _ _ := h₄.check dead ⟨3000, 0⟩ rfl
  exact ⟨_, _, h₅, rfl, (keep_discipline h₅).1, (keep_discipline h₅).2.1⟩

end Checks

end Gate

end AlertOperator
