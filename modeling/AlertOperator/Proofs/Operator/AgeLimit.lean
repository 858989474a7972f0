import AlertOperator.Operator.Pass
import AlertOperator.Proofs.Settings.Strict

/-!
# Age limits that stop the operator

The limit for the age of a cluster is read as any number of 64 bits, but the age is compared with it
through the instant that lies that many minutes before the present. If there is no such instant, a
check of the gate has no result, and the operator stops. Whether there is one depends on the limit
and the present alone, not on when the cluster was created, `isSome_olderThan`.

So the limits with which an operator never stops are an interval, whose ends are the limits that
reach the first second of the calendar from the beginning of 1970, and the last one from the
beginning of 2200. It is far smaller than the numbers that are accepted.
-/

namespace AlertOperator

open Cluster (Job JobState Session World)
open Time (Instant minutesBefore olderThan)

namespace Time

/-- The first second of the year 2200. -/
def endOfService : Int := 7258118400

/-- The limits that can be compared with an age at any time from the beginning of 1970 to that of
2200. -/
def Comparable (minutes : Int) : Prop := -136716812639 ≤ minutes ∧ minutes ≤ 138910020480

theorem isSome_olderThan (created now : Instant) (minutes : Int) :
    (olderThan created now minutes).isSome = (minutesBefore now minutes).isSome :=
  Option.isSome_map

/-- The interval has no gap and no end that could be moved. -/
theorem comparable_iff {minutes : Int} : Comparable minutes ↔
    ∀ now : Instant, 0 ≤ now.seconds → now.seconds ≤ endOfService →
      (minutesBefore now minutes).isSome = true := by
  have hsome : ∀ now : Instant, (minutesBefore now minutes).isSome = true ↔
      -maxSpan ≤ minutes * 60 ∧ minutes * 60 ≤ maxSpan ∧
        firstSecond ≤ now.seconds - minutes * 60 ∧ now.seconds - minutes * 60 ≤ lastSecond := by
    intro now
    rw [minutesBefore, Option.isSome_ite]
  simp only [hsome, Comparable, maxSpan, firstSecond, lastSecond, endOfService]
  constructor
  · omega
  · intro h
    have hfirst := h ⟨0, 0⟩ (by decide) (by decide)
    have hlast := h ⟨7258118400, 0⟩ (by decide) (by decide)
    dsimp only at hfirst hlast
    omega

end Time

/-! ## Checks and passes -/

theorem Gate.isSome_check {g : Gate} {minutes : Int} {now : Instant}
    (h : (minutesBefore now minutes).isSome = true) (s : Session) :
    (g.check minutes now s).isSome = true := by
  have hjudge : ∀ (g : Gate) (state : JobState) (s : Session),
      (g.judge minutes now state s).isSome = true := by
    intro g state s
    rw [judge]
    rcases g.readCreated s with ⟨e | created, s₁⟩
    · rfl
    · dsimp only
      rw [Option.isSome_map, Time.isSome_olderThan, h]
  rw [check]
  split
  · rfl
  · dsimp only
    split
    · rfl
    · split
      · rfl
      · exact hjudge _ _ _

theorem Gate.check_eq_none {minutes : Int} {now created : Instant}
    (h : minutesBefore now minutes = none) :
    check {} minutes now { world := { created := some created } } = none := by
  change (olderThan created now minutes).map _ = none
  rw [olderThan, h]
  rfl

theorem Settings.maxAgeMinutes_eq {env : Environment} {settings : Settings}
    (h : ofEnvironment env = .ok settings) :
    readInt "MAX_CLUSTER_AGE_MINUTES" 120 (text? env "MAX_CLUSTER_AGE_MINUTES")
      = .ok settings.maxAgeMinutes :=
  (ofEnvironment_eq_ok_iff.1 h).2.1

namespace Operator

theorem isSome_reconcile {o : Operator} {now : Instant}
    (h : (minutesBefore now o.settings.maxAgeMinutes).isSome = true) (r : Request) (s : Session) :
    (o.checkReady now s).isSome = true ∧ (o.reconcile now r s).isSome = true := by
  have hcheck : (o.checkReady now s).isSome = true := by
    rw [checkReady]
    split
    · rfl
    · rw [Option.isSome_map]
      exact Gate.isSome_check h s
  refine ⟨hcheck, ?_⟩
  rw [reconcile]
  split
  · rw [Option.isSome_map]
    exact hcheck
  · rfl

theorem reconcile_eq_none {settings : Settings} {now : Instant}
    (h : minutesBefore now settings.maxAgeMinutes = none) (created : Instant) :
    let o : Operator := { settings := settings }
    let s : Session := { world := { created := some created } }
    o.checkReady now s = none ∧
      o.reconcile now ⟨settings.ns, Cluster.alertmanagerSecret⟩ s = none := by
  intro o s
  have hcheck : o.checkReady now s = none := by
    change (Gate.check {} settings.maxAgeMinutes now s).map _ = none
    rw [Gate.check_eq_none h]
    rfl
  refine ⟨hcheck, ?_⟩
  have hconcerns : o.concerns ⟨settings.ns, Cluster.alertmanagerSecret⟩ = true := by
    rw [concerns, beq_self_eq_true, Bool.true_and]
    exact show Cluster.isWatched Cluster.alertmanagerSecret = true by decide
  rw [reconcile, if_pos hconcerns, hcheck]
  rfl

/-- The limits with which no pass stops the operator, of all that are accepted: for any state of the
operator, any cluster, any request and any time from the beginning of 1970 to that of 2200, the
check of the gate has a result, and so has the pass. With any other limit there is a time at which
the first pass over a cluster of known age stops it. -/
theorem never_stops_iff {env : Environment} {settings : Settings}
    (h : Settings.ofEnvironment env = .ok settings) :
    Settings.readInt "MAX_CLUSTER_AGE_MINUTES" 120
        (Settings.text? env "MAX_CLUSTER_AGE_MINUTES") = .ok settings.maxAgeMinutes ∧
    ((∀ (o : Operator) (now : Instant) (r : Request) (s : Session), o.settings = settings →
        0 ≤ now.seconds → now.seconds ≤ 7258118400 →
          (o.checkReady now s).isSome = true ∧ (o.reconcile now r s).isSome = true) ↔
      -136716812639 ≤ settings.maxAgeMinutes ∧ settings.maxAgeMinutes ≤ 138910020480) := by
  refine ⟨Settings.maxAgeMinutes_eq h, Iff.trans ⟨?_, ?_⟩ Time.comparable_iff.symm⟩
  · intro hall now hfirst hlast
    rcases hstart : minutesBefore now settings.maxAgeMinutes with _ | start
    · have hstops := (reconcile_eq_none hstart ⟨0, 0⟩).1
      have hsome := (hall { settings := settings } now ⟨settings.ns, Cluster.alertmanagerSecret⟩
        { world := { created := some ⟨0, 0⟩ } } rfl hfirst hlast).1
      rw [hstops] at hsome
      exact nomatch hsome
    · rfl
  · rintro hall o now r s rfl hfirst hlast
    exact isSome_reconcile (hall now hfirst hlast) r s

/-- The largest limit with which the operator never stops is accepted. -/
theorem never_stops_iff_largest :
    let env : Environment := fun key ↦
      if key = "MAX_CLUSTER_AGE_MINUTES" then some (Bytes.ofString "138910020480") else none
    ∃ settings, Settings.ofEnvironment env = .ok settings ∧ settings.maxAgeMinutes = 138910020480 ∧
      ∀ (o : Operator) (now : Instant) (r : Request) (s : Session), o.settings = settings →
        0 ≤ now.seconds → now.seconds ≤ 7258118400 →
          (o.checkReady now s).isSome = true ∧ (o.reconcile now r s).isSome = true := by
  intro env
  obtain ⟨settings, hsettings, hminutes⟩ : ∃ settings, Settings.ofEnvironment env = .ok settings ∧
      settings.maxAgeMinutes = 138910020480 := ⟨_, rfl, by decide⟩
  refine ⟨settings, hsettings, hminutes, (never_stops_iff hsettings).2.2 ?_⟩
  rw [hminutes]
  decide

/-- The largest number of 64 bits is accepted as a limit, and stops the operator in its first pass
over a cluster from the year 2000. -/
theorem stops_at_largest_limit :
    let env : Environment := fun key ↦
      if key = "MAX_CLUSTER_AGE_MINUTES" then some (Bytes.ofString "9223372036854775807") else none
    ∃ settings, Settings.ofEnvironment env = .ok settings ∧
      settings.maxAgeMinutes = 9223372036854775807 ∧
      let o : Operator := { settings := settings }
      let s : Session := { world := { created := some ⟨946684800, 0⟩ } }
      ∀ now : Instant, o.checkReady now s = none ∧
        o.reconcile now ⟨settings.ns, Cluster.alertmanagerSecret⟩ s = none := by
  intro env
  refine ⟨_, rfl, by decide, fun now ↦ reconcile_eq_none ?_ _⟩
  rw [minutesBefore, if_neg]
  rintro ⟨-, hspan, -⟩
  exact absurd hspan (by decide)

end Operator

end AlertOperator
