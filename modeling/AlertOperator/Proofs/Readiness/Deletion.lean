import AlertOperator.Proofs.Readiness.Checks

/-!
# Which jobs a check deletes

A check deletes the readiness job of a young cluster so that it is started again. It takes for
failed every job without a pod that has succeeded or runs, and does not look at how many have
failed. So a job is deleted too that has not started: one that the cluster has not looked at has no
counts, and one that waits for its pods has none but zeros.

Which courses of a check delete the job is known from `Gate.Course`; that nothing else changes the
cluster is `Gate.world_check`.
-/

namespace AlertOperator

open Cluster (Call Job JobState Session World)
open Time (Instant olderThan)

/-! ## Jobs -/

namespace Cluster.Job

/-- No pod of the job has succeeded, and none runs. -/
def Idle (job : Job) : Prop :=
  ∀ counts ∈ job.counts, (∀ n ∈ counts.succeeded, n ≤ 0) ∧ ∀ n ∈ counts.active, n ≤ 0

/-- The job is over, and was in vain: a pod has failed, none has succeeded, and none runs. -/
structure FinishedInVain (job : Job) : Prop where
  failed : ∃ counts ∈ job.counts, ∃ n ∈ counts.failed, 0 < n
  idle : job.Idle

end Cluster.Job

theorem state_eq_failed_iff {job : Job} : JobState.of (some job) = .failed ↔ job.Idle := by
  refine ⟨Gate.counts_of_failed, fun h ↦ ?_⟩
  rcases job with ⟨_ | ⟨succeeded, active, failed⟩⟩
  · rfl
  obtain ⟨hsucceeded, hactive⟩ := h _ rfl
  have hnone {n : Option Int} (hn : ∀ m ∈ n, m ≤ 0) : ¬0 < n.getD 0 := by
    cases n with
    | none => exact Int.lt_irrefl 0
    | some m => exact Int.not_lt.2 (hn m rfl)
  rw [JobState.of, Option.getD_some, if_neg (hnone hsucceeded), if_neg (hnone hactive)]

namespace Gate

variable {g : Gate} {a : Int} {now : Instant} {w : World} {c : Checked}

theorem seen_eq_failed_iff :
    seen w = .ok .failed ↔ ∃ job, w.jobAnswer = .ok (some job) ∧ job.Idle := by
  constructor
  · intro h
    obtain ⟨job, hjob, hstate⟩ := exists_of_seen_failed h
    exact ⟨job, hjob, state_eq_failed_iff.1 hstate⟩
  · rintro ⟨job, hjob, hidle⟩
    rw [seen_of_ok hjob, state_eq_failed_iff.2 hidle]

/-! ## What the calls of a check change -/

/-- Of the calls that were made to the cluster `w` only the deletion of the job has changed it. -/
def Tracks (w : World) (s : Session) : Prop :=
  s.world = if .deleteReadinessJob ∈ s.calls ∧ w.failing .deleteReadinessJob = none
    then { w with job := none } else w

theorem tracks_of_notMem {calls : List Call} (h : .deleteReadinessJob ∉ calls) :
    Tracks w ⟨w, calls⟩ :=
  (if_neg fun hmem ↦ h hmem.1).symm

theorem tracks_deleteJob (calls : List Call) : Tracks w (deleteJob ⟨w, calls⟩).2 := by
  have hmem : .deleteReadinessJob ∈ calls ++ [.deleteReadinessJob] := by simp
  rw [Tracks, deleteJob, Session.deleteReadinessJob, Session.request, Call.operation]
  rcases hfailing : w.failing .deleteReadinessJob with _ | e
  · exact (if_pos ⟨hmem, rfl⟩).symm
  · have hunchanged : ¬(.deleteReadinessJob ∈ calls ++ [.deleteReadinessJob] ∧ some e = none) :=
      fun h ↦ Option.some_ne_none e h.2
    cases e with
    | _ => exact (if_neg hunchanged).symm

theorem tracks_await {calls : List Call} (h : .deleteReadinessJob ∉ calls) (g : Gate)
    (state : JobState) : Tracks w (g.await state ⟨w, calls⟩).session := by
  cases state with
  | failed =>
    have hdelete := tracks_deleteJob (w := w) calls
    rw [await]
    rcases hjob : deleteJob ⟨w, calls⟩ with ⟨e | _, s⟩
    all_goals rwa [hjob] at hdelete
  | _ => exact tracks_of_notMem h

theorem tracks_judge {calls : List Call} (h : .deleteReadinessJob ∉ calls) {state : JobState}
    (hjudge : g.judge a now state ⟨w, calls⟩ = some c) : Tracks w c.session := by
  rw [judge] at hjudge
  obtain ⟨created, calls', hknows, hread⟩ | ⟨e, -, -, hread⟩ := readCreated_cases g ⟨w, calls⟩
  · have hnone : .deleteReadinessJob ∉ calls ++ calls' := by
      simp [h, hknows.cases.2]
    rw [hread] at hjudge
    obtain ⟨old, -, rfl⟩ := Option.map_eq_some_iff.1 hjudge
    cases old with
    | true => exact tracks_of_notMem hnone
    | false => exact tracks_await hnone _ state
  · rw [hread] at hjudge
    obtain rfl := Option.some.inj hjudge
    exact tracks_of_notMem (by simp [h])

/-- A check changes nothing but the job, and that only by deleting it. -/
theorem world_check (h : g.check a now { world := w } = some c) : Tracks w c.session := by
  rw [check] at h
  split at h
  · obtain rfl := Option.some.inj h
    exact tracks_of_notMem List.not_mem_nil
  rw [readJob_eq] at h
  rcases hjob : (readJob { world := w }).1 with e | job
  · rw [hjob] at h
    obtain rfl := Option.some.inj h
    exact tracks_of_notMem (by simp)
  rw [hjob] at h
  dsimp only at h
  split at h
  · obtain rfl := Option.some.inj h
    exact tracks_of_notMem (by simp)
  · exact tracks_judge (by simp) h

/-! ## When a check deletes the job -/

theorem Knows.unique {known : Option Instant} {created created' : Instant}
    {calls calls' : List Call} (h : Knows known w created calls)
    (h' : Knows known w created' calls') : created = created' := by
  cases h with
  | before h =>
    cases h' with
    | before h' => exact Option.some.inj (h.symm.trans h')
    | asked h' => exact nomatch h.symm.trans h'
  | asked h hanswer =>
    cases h' with
    | before h' => exact nomatch h.symm.trans h'
    | asked h' hanswer' => exact Except.ok.inj (hanswer.symm.trans hanswer')

/-- The gate knows that the cluster is young, or gets to know it. -/
def Young (g : Gate) (maxAgeMinutes : Int) (now : Instant) (w : World) : Prop :=
  ∃ created calls, Knows g.created w created calls ∧
    olderThan created now maxAgeMinutes = some false

theorem deletes_of_failed {ready : Except ReadinessError Bool} {g' : Gate} {calls : List Call}
    (h : Course g a now w ready g' calls) (hopened : g.opened = false)
    (hseen : seen w = .ok .failed) (hyoung : g.Young a now w) : .deleteReadinessJob ∈ calls := by
  obtain ⟨created, asked, hknows, hyoung⟩ := hyoung
  cases h with
  | latched hopened' => exact nomatch hopened.symm.trans hopened'
  | unread _ hseen' => exact nomatch hseen.symm.trans hseen'
  | succeeded _ hseen' => exact nomatch hseen.symm.trans hseen'
  | ageless _ _ _ hcreated hanswer =>
    rw [hcreated] at hknows
    cases hknows with
    | before h => exact nomatch h
    | asked _ hanswer' => exact nomatch hanswer.symm.trans hanswer'
  | tooOld _ _ _ hknows' hold =>
    rw [hknows'.unique hknows, hyoung] at hold
    exact nomatch hold
  | waits _ hseen' _ _ hawaits =>
    obtain rfl := Except.ok.inj (hseen.symm.trans hseen')
    cases hawaits with
    | failed | stuck => simp

theorem young_of_deletes {ready : Except ReadinessError Bool} {g' : Gate} {calls : List Call}
    (h : Course g a now w ready g' calls) (hmem : .deleteReadinessJob ∈ calls) :
    g.opened = false ∧ g.Young a now w := by
  cases h with
  | latched | unread | succeeded | ageless => simp at hmem
  | tooOld _ _ _ hknows => simp [hknows.cases.2] at hmem
  | waits hopened _ hknows hyoung => exact ⟨hopened, _, _, hknows, hyoung⟩

/-- A check deletes the job exactly if the gate is closed, the cluster known to be young, and the
job that was read has no pod that has succeeded or runs, whether or not one has failed. Apart from
that it leaves the cluster as it is. -/
theorem deletes_job_iff (h : g.check a now { world := w } = some c) :
    (.deleteReadinessJob ∈ c.session.calls ↔
      g.opened = false ∧ g.Young a now w ∧
        ∃ job, w.jobAnswer = .ok (some job) ∧ job.Idle) ∧
    c.session.world =
      if .deleteReadinessJob ∈ c.session.calls ∧ w.failing .deleteReadinessJob = none
      then { w with job := none } else w := by
  have hcourse := course_of_check h
  refine ⟨⟨fun hmem ↦ ?_, fun ⟨hopened, hyoung, hjob⟩ ↦ ?_⟩, world_check h⟩
  · obtain ⟨hopened, hyoung⟩ := young_of_deletes hcourse hmem
    exact ⟨hopened, hyoung, seen_eq_failed_iff.1 (hcourse.deletes.2 hmem).1⟩
  · exact deletes_of_failed hcourse hopened (seen_eq_failed_iff.2 hjob) hyoung

/-- A job of which one pod has failed is deleted in a cluster of ten minutes. -/
theorem deletes_job_iff_failed :
    let job : Job := { counts := some { failed := some 1 } }
    let w : World := { job := some job, created := some ⟨0, 0⟩ }
    ∃ c, check {} 120 ⟨600, 0⟩ { world := w } = some c ∧ job.FinishedInVain ∧
      .deleteReadinessJob ∈ c.session.calls ∧ c.session.world = { w with job := none } := by
  intro job w
  have hcheck : check {} 120 ⟨600, 0⟩ { world := w } = some _ := rfl
  have hidle : job.Idle := by
    rintro _ ⟨⟩
    exact ⟨nofun, nofun⟩
  have hmem := (deletes_job_iff hcheck).1.2
    ⟨rfl, ⟨⟨0, 0⟩, [.createdAt], .asked rfl rfl, by decide⟩, job, rfl, hidle⟩
  exact ⟨_, hcheck, ⟨⟨_, rfl, 1, rfl, by decide⟩, hidle⟩, hmem,
    (deletes_job_iff hcheck).2.trans (if_pos ⟨hmem, rfl⟩)⟩

/-- Jobs that have not started: one that the cluster has not looked at, one whose counts are all
absent, and one whose counts are all zero. Each is deleted in a cluster of ten minutes. -/
theorem deletes_unstarted_job :
    let unstarted : List Job := [{}, { counts := some {} },
      { counts := some { succeeded := some 0, active := some 0, failed := some 0 } }]
    ∀ job ∈ unstarted, ¬job.FinishedInVain ∧
      let w : World := { job := some job, created := some ⟨0, 0⟩ }
      ∃ c, check {} 120 ⟨600, 0⟩ { world := w } = some c ∧
        .deleteReadinessJob ∈ c.session.calls ∧ c.session.world.job = none := by
  intro unstarted job hjob
  have hnone : ¬job.FinishedInVain := by
    rintro ⟨⟨counts, hcounts, n, hn, hpos⟩, -⟩
    simp only [unstarted, List.mem_cons, List.not_mem_nil, or_false] at hjob
    rcases hjob with rfl | rfl | rfl
    · exact nomatch hcounts
    · obtain ⟨⟩ := hcounts
      exact nomatch hn
    · obtain ⟨⟩ := hcounts
      obtain ⟨⟩ := hn
      exact absurd hpos (by decide)
  refine ⟨hnone, ?_⟩
  simp only [unstarted, List.mem_cons, List.not_mem_nil, or_false] at hjob
  rcases hjob with rfl | rfl | rfl
  all_goals exact ⟨_, rfl, by decide, rfl⟩

end Gate

end AlertOperator
