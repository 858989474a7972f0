import AlertOperator.Operator.Basic
import AlertOperator.Proofs.Cluster.World

/-!
# Changes that the gate does not see

The gate looks at the readiness job and at the age of the cluster. A change of the cluster that
leaves these alone, and what their calls are answered, makes no difference to a check: it gives the
same answer, leaves the same gate and makes the same calls, and the cluster after it is the changed
one. So two passes over clusters that differ in such ways go by the same verdict, which is
`Operator.checkReady_under`.
-/

namespace AlertOperator

open Cluster (Call JobState Session StoreError World)
open Time (Instant)

namespace Cluster

/-- The change `f` of the cluster is none that the gate can see. -/
structure World.Unseen (f : World → World) : Prop where
  job : ∀ w, (f w).job = w.job
  created : ∀ w, (f w).created = w.created
  failing : ∀ w (call : Call), call.asksReadiness = true →
    (f w).failing call.operation = w.failing call.operation
  /-- What the gate itself does to the job can be done before the change or after it. -/
  withJob : ∀ w job, f { w with job := job } = { f w with job := job }

namespace Session

/-- The session with its cluster changed. -/
def under (f : World → World) (s : Session) : Session := { s with world := f s.world }

variable {α : Type} {call : Call} {f : World → World} (s : Session)

/-- A call is answered alike before a change and after it if its operation is, and if the change
and what the call does can be exchanged. -/
theorem request_under {answer : World → Except StoreError α × World}
    (hfailing : ∀ w, (f w).failing call.operation = w.failing call.operation)
    (hanswer : ∀ w, answer (f w) = Prod.map id f (answer w)) :
    (s.under f).request call answer = Prod.map id (under f) (s.request call answer) := by
  have hsame : (s.under f).world.failing call.operation = s.world.failing call.operation :=
    hfailing s.world
  rw [request, request, hsame]
  cases s.world.failing call.operation with
  | none =>
    dsimp only
    rw [under, hanswer]
    rfl
  | some e => rfl

theorem inquire_under {answer : World → Except StoreError α}
    (hfailing : ∀ w, (f w).failing call.operation = w.failing call.operation)
    (hanswer : ∀ w, answer (f w) = answer w) :
    (s.under f).inquire call answer = Prod.map id (under f) (s.inquire call answer) :=
  s.request_under hfailing fun w ↦ by rw [hanswer]; rfl

end Session

end Cluster

/-! ## Checks -/

/-- What a check leads to, with the cluster changed. -/
def Checked.under (f : World → World) (c : Checked) : Checked :=
  { c with session := c.session.under f }

namespace Gate

variable {f : World → World} (hf : World.Unseen f) (g : Gate) (maxAgeMinutes : Int) (now : Instant)
  (s : Session)

include hf

theorem readJob_under :
    readJob (s.under f) = Prod.map id (Session.under f) (readJob s) := by
  have hjob : (s.under f).readinessJob = Prod.map id (Session.under f) s.readinessJob :=
    s.inquire_under (fun w ↦ hf.failing w .readinessJob rfl) fun w ↦ by rw [hf.job]
  rw [readJob, readJob, hjob]
  rcases s.readinessJob with ⟨e | job, s'⟩
  · cases e with
    | _ => rfl
  · rfl

theorem readCreated_under :
    g.readCreated (s.under f) = Prod.map id (Session.under f) (g.readCreated s) := by
  rw [readCreated, readCreated]
  cases g.created with
  | none =>
    exact s.inquire_under (fun w ↦ hf.failing w .createdAt rfl) fun w ↦ by rw [hf.created]
  | some created => rfl

theorem deleteJob_under :
    deleteJob (s.under f) = Prod.map id (Session.under f) (deleteJob s) := by
  have hdelete : (s.under f).deleteReadinessJob
      = Prod.map id (Session.under f) s.deleteReadinessJob :=
    s.request_under (fun w ↦ hf.failing w .deleteReadinessJob rfl) fun w ↦
      Prod.ext rfl (hf.withJob w none).symm
  rw [deleteJob, deleteJob, hdelete]
  rcases s.deleteReadinessJob with ⟨e | _, s'⟩
  · cases e with
    | _ => rfl
  · rfl

theorem await_under (state : JobState) :
    g.await state (s.under f) = (g.await state s).under f := by
  cases state with
  | failed =>
    rw [await, await, deleteJob_under hf]
    rcases deleteJob s with ⟨e | _, s'⟩ <;> rfl
  | _ => rfl

theorem judge_under (state : JobState) :
    g.judge maxAgeMinutes now state (s.under f)
      = (g.judge maxAgeMinutes now state s).map (Checked.under f) := by
  rw [judge, judge, readCreated_under hf]
  rcases g.readCreated s with ⟨e | created, s'⟩
  · rfl
  · change Option.map _ _ = Option.map _ (Option.map _ _)
    rw [Option.map_map]
    congr 1
    funext old
    cases old with
    | true => rfl
    | false => exact await_under hf _ s' state

theorem check_under : g.check maxAgeMinutes now (s.under f)
    = (g.check maxAgeMinutes now s).map (Checked.under f) := by
  rw [check, check, readJob_under hf]
  by_cases hopened : g.opened = true
  · rw [if_pos hopened, if_pos hopened]
    rfl
  · rw [if_neg hopened, if_neg hopened]
    rcases readJob s with ⟨e | job, s'⟩
    · rfl
    · dsimp only [Prod.map_apply, id_eq]
      cases JobState.of job with
      | succeeded => rfl
      | _ => exact judge_under hf _ maxAgeMinutes now s' _

end Gate

theorem Operator.checkReady_under {f : World → World} (hf : World.Unseen f) (o : Operator)
    (now : Instant) (s : Session) : o.checkReady now (s.under f)
      = (o.checkReady now s).map (Prod.map id (Prod.map id (Session.under f))) := by
  rw [checkReady, checkReady]
  cases o.assumed with
  | some verdict => rfl
  | none =>
    dsimp only
    rw [Gate.check_under hf, Option.map_map, Option.map_map]
    rfl

end AlertOperator
