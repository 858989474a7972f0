import AlertOperator.Cluster.World
import AlertOperator.Retry.Requeue

/-!
# The readiness gate

Nobody is paged before the cluster has settled. It is ready once the readiness job has succeeded,
and in any case once it is older than a limit. The gate is a latch: it never closes again, and an
open gate asks the cluster nothing.

A check also decides when the next pass runs. While the gate is closed it always asks for one, so
that the cluster keeps being looked at; the exception is a job that cannot be read, which is an
error and left to the delays after errors.

The age is compared only if the limit leaves a time within the calendar. Otherwise the check has no
result, and the operator stops.
-/

namespace AlertOperator

open Cluster (StoreError Session Job JobState)
open Retry (Requeue)
open Time (Duration Instant olderThan)

/-- Why it could not be determined whether the cluster is ready. -/
inductive ReadinessError where
  /-- The readiness job could not be read. -/
  | jobLookup (cause : StoreError)
  /-- A failed readiness job could not be deleted. -/
  | jobDelete (cause : StoreError)
  deriving DecidableEq, Repr

namespace ReadinessError

/-- The error of the call that failed. -/
def cause : ReadinessError → StoreError
  | jobLookup e => e
  | jobDelete e => e

/-- The message of an error, where its cause is told. -/
def message? : ReadinessError → Option String
  | jobLookup e => e.message?.map ("failed to retrieve osd-cluster-ready Job: " ++ ·)
  | jobDelete e => e.message?.map ("failed to delete failed osd-cluster-ready Job: " ++ ·)

end ReadinessError

/-- The state of the gate. -/
structure Gate where
  /-- The cluster has been found ready. -/
  opened : Bool := false
  /-- When the last check wants the next pass. -/
  requeue : Requeue := .never
  /-- When the cluster was created, once that is known. -/
  created : Option Instant := none
  deriving DecidableEq, Inhabited

/-- What a check leads to: whether the cluster is ready, the gate after it, and the cluster after
the calls it made. -/
structure Checked where
  ready : Except ReadinessError Bool
  gate : Gate
  session : Session

namespace Gate

/-- The delay while the readiness job runs. -/
def jobDelay : Duration := .ofSeconds 10

/-- The delay after the age of the cluster could not be determined. -/
def ageDelay : Duration := .ofSeconds 1

/-- The gate with a wish for the next pass. -/
def wanting (requeue : Requeue) (g : Gate) : Gate := { g with requeue := requeue }

/-- Reads the readiness job; one that does not exist is missing. -/
def readJob (s : Session) : Except StoreError (Option Job) × Session :=
  match s.readinessJob with
  | (.error (.notFound _), s) => (.ok none, s)
  | other => other

/-- Determines when the cluster was created, unless that is already known. -/
def readCreated (g : Gate) (s : Session) : Except StoreError Instant × Session :=
  match g.created with
  | some created => (.ok created, s)
  | none => s.createdAt

/-- Deletes the readiness job; one that does not exist counts as deleted. -/
def deleteJob (s : Session) : Except StoreError Unit × Session :=
  match s.deleteReadinessJob with
  | (.error (.notFound _), s) => (.ok (), s)
  | other => other

/-- What follows for a cluster that is young and whose job has not succeeded: a running job is
waited for, and a failed one is deleted so that it is started again. -/
def await (g : Gate) (state : JobState) (s : Session) : Checked :=
  match state with
  | .active => ⟨.ok false, g.wanting (.after jobDelay), s⟩
  | .failed =>
    match deleteJob s with
    | (.ok (), s) => ⟨.ok false, g.wanting .immediately, s⟩
    | (.error e, s) => ⟨.error (.jobDelete e), g.wanting .immediately, s⟩
  | .missing => ⟨.ok false, g.wanting .immediately, s⟩
  | .succeeded => ⟨.ok true, { g with opened := true }, s⟩

/-- What follows for a job in the given state: the age of the cluster decides. None if it cannot be
compared with the limit. -/
def judge (g : Gate) (maxAgeMinutes : Int) (now : Instant) (state : JobState) (s : Session) :
    Option Checked :=
  match g.readCreated s with
  | (.error _, s) => some ⟨.ok false, g.wanting (.after ageDelay), s⟩
  | (.ok created, s) =>
    let g := { g with created := some created }
    (olderThan created now maxAgeMinutes).map fun old ↦
      if old then ⟨.ok true, { g with opened := true }, s⟩ else g.await state s

/-- Checks whether the cluster is ready. None if its age cannot be compared with the limit. -/
def check (g : Gate) (maxAgeMinutes : Int) (now : Instant) (s : Session) : Option Checked :=
  if g.opened then some ⟨.ok true, g, s⟩
  else
    let g := g.wanting .never
    match readJob s with
    | (.error e, s) => some ⟨.error (.jobLookup e), g, s⟩
    | (.ok job, s) =>
      match JobState.of job with
      | .succeeded => some ⟨.ok true, { g with opened := true }, s⟩
      | state => g.judge maxAgeMinutes now state s

/-- The gate as descriptions of the operator show it. -/
def describe (g : Gate) (maxAgeMinutes : Int) : String :=
  "ClusterReadiness \x7b max_cluster_age_minutes: " ++ toString maxAgeMinutes ++ ", ready: " ++
    toString g.opened ++ ", result: " ++ g.requeue.describe ++ ", .. \x7d"

end Gate

end AlertOperator
