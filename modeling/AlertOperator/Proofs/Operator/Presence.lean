import AlertOperator.Proofs.Operator.Accounting
import AlertOperator.Proofs.Operator.Repetition

/-!
# When the flags are true of the cluster

At the end of a pass the flags are set by the configuration that the pass has made, not by the
secret that the cluster holds then. The two agree if what the pass wrote has got into the cluster:
the document is read back as the configuration it was made from. Otherwise the cluster keeps the
secret it had, of which the flags may say what is not so, and all that tells is the count of failed
writes.
-/

namespace AlertOperator

open Alertmanager
open Cluster (Object Secret Session StoreError World)
open Metrics (Presence)
open Retry (Requeue)

/-- The secret holds a document of a configuration with a receiver of the given name. -/
def HoldsReceiver (receiver : String) (secret : Secret) : Prop :=
  ∃ text config, secret.value? Cluster.configKey = some (Bytes.ofString text) ∧
    Config.ofYaml text = .ok config ∧ config.hasReceiver receiver = true

/-- The services that count as configured have a receiver in the secret. -/
structure Metrics.Presence.TrueOf (p : Presence) (secret : Secret) : Prop where
  pagerduty : p.containsPagerduty = true → HoldsReceiver ReceiverName.pagerduty secret
  goalert : p.containsGoalert = true → HoldsReceiver ReceiverName.goalert secret
  watchdog : p.containsWatchdog = true → HoldsReceiver ReceiverName.watchdog secret

theorem Metrics.Presence.trueOf_of_ofYaml {secret : Secret} {text : String} {config : Config}
    (hvalue : secret.value? Cluster.configKey = some (Bytes.ofString text))
    (hread : Config.ofYaml text = .ok config) (listed : List Secret) :
    (Presence.of listed config).TrueOf secret := by
  have hholds {found : Bool} {receiver : String}
      (h : (found && config.hasReceiver receiver) = true) : HoldsReceiver receiver secret :=
    ⟨text, config, hvalue, hread, (Bool.and_eq_true_iff.1 h).2⟩
  exact ⟨hholds, hholds, hholds⟩

theorem Operator.trueOf_desired (o : Operator) (ready : Bool) (w : World) :
    (Presence.of (o.finds ready w).secrets (o.finds ready w).inputs.config).TrueOf
      (o.desired ready w) :=
  Presence.trueOf_of_ofYaml (value?_alertmanagerSecret _ _) (Inputs.ofYaml_render _) _

namespace Tally

variable {xs : List Round} {x : Round} {m : Metrics} {ready : Bool}
  {result : Except PassError Requeue} {o : Operator} {s : Session}

/-- After each pass of a run that reaches its end:

* if what it wrote has got into the cluster, a secret of Alertmanager is there of which the flags
  are true, and it is the one found by its name, unless it was said that there was none to replace
  although there was one;
* otherwise the secrets are those from before the pass, and one failed write more is counted. -/
theorem flags_true_of_stored (h : Tally (x :: xs) m) (hcompleted : x.completed? = some ready)
    (houtcome : x.outcome = some (result, o, s)) :
    (x.loses = false → ∃ secret ∈ s.world.secrets,
      secret.name = some Cluster.alertmanagerSecret ∧ m.presence.TrueOf secret ∧
      ((∀ text, x.world.failing .replaceSecret = some (.notFound text) →
          Object.find? Cluster.alertmanagerSecret x.world.secrets = none) →
        Object.find? Cluster.alertmanagerSecret s.world.secrets = some secret)) ∧
    (x.loses = true → s.world.secrets = x.world.secrets ∧
      m.writeErrors = x.operator.metrics.writeErrors + 1) := by
  obtain ⟨hc, o₁, s₁, hcheck⟩ := Round.completed?_eq_some_iff.1 hcompleted
  obtain ⟨job, hworld⟩ := (Operator.checkReady_spares hcheck).2.world
  obtain ⟨o₂, calls, -, houtcome', -⟩ := Round.outcome_of_check hc hcheck
  obtain ⟨⟩ := houtcome.symm.trans houtcome'
  have hupserted := (Session.upserts_upsertSecret (x.operator.desired ready x.world)
    ⟨s₁.world, calls⟩).1.secrets
  generalize (Session.upsertSecret (x.operator.desired ready x.world) ⟨s₁.world, calls⟩).2 = s
    at hupserted ⊢
  have haccepts : s₁.world.accepts (x.operator.desired ready x.world) = !x.loses := by
    rw [Round.loses, hcompleted, Option.any_some, Bool.not_not, Operator.accepts_of_check hcheck]
  have hpresence : m.presence = Presence.of (x.operator.finds ready x.world).secrets
      (x.operator.finds ready x.world).inputs.config := by
    have hshown := h.shown_head hcompleted
    rw [Round.shown?, hcompleted] at hshown
    exact (congrArg Prod.fst (Option.some.inj hshown)).symm
  refine ⟨fun hwritten ↦ ?_, fun hlost ↦ ⟨?_, ?_⟩⟩
  · rw [hwritten] at haccepts
    obtain ⟨hmem, hfound⟩ := hupserted.stored (n := Cluster.alertmanagerSecret) rfl haccepts
    refine ⟨_, hmem, rfl, ?_, fun hhonest ↦ hfound ?_⟩
    · rw [hpresence]
      exact x.operator.trueOf_desired ready x.world
    · rw [hworld]
      exact hhonest
  · rw [hlost] at haccepts
    rw [hupserted.unchanged haccepts, hworld]
  · have hwriteErrors := h.accounts.writeErrors
    rcases h with _ | ⟨hbefore, hmetrics, -⟩
    rw [hwriteErrors, List.countP_cons_of_pos hlost, hmetrics, hbefore.accounts.writeErrors]

/-- A pass over a ready cluster in which the key of PagerDuty is known. Replacing the secret of
Alertmanager fails with the given error, if there is one. -/
def replacing (error : Option StoreError) : Round where
  operator := {}
  world := World.paged.answering .replaceSecret error
  present := ⟨600, 0⟩
  request := ⟨"openshift-monitoring", Cluster.alertmanagerSecret⟩

/-- The flag of PagerDuty is up after the pass, whatever replacing the secret is answered. -/
theorem exists_tally_replacing (error : Option StoreError) : ∃ m result o s,
    Tally [replacing error] m ∧ (replacing error).completed? = some true ∧
      (replacing error).outcome = some (result, o, s) ∧ m.presence.containsPagerduty = true := by
  obtain ⟨⟨result, o, s⟩, houtcome⟩ :=
    Option.isSome_iff_exists.1 (show (replacing error).outcome.isSome = true from rfl)
  obtain ⟨o', hsettled⟩ :=
    Option.isSome_iff_exists.1 (show ((replacing error).settled .zero).isSome = true from rfl)
  have hrun : Tally [replacing error] o'.metrics := .pass .start rfl hsettled
  have hcompleted : (replacing error).completed? = some true := rfl
  have hdescribes := Round.describes hcompleted (hrun.shown_head hcompleted)
  exact ⟨_, result, o, s, hrun, hcompleted, houtcome, hdescribes.pagerduty.2
    ⟨⟨_, .head _, rfl⟩, ⟨_, .tail _ (.head _), rfl⟩, rfl, _, rfl, by decide⟩⟩

/-- Nothing fails, and the secret has the receiver of PagerDuty. -/
theorem flags_true_of_stored_replacing : ∃ m result o s,
    Tally [replacing none] m ∧ (replacing none).completed? = some true ∧
      (replacing none).outcome = some (result, o, s) ∧ (replacing none).loses = false ∧
      m.presence.containsPagerduty = true ∧
      ∃ secret, Object.find? Cluster.alertmanagerSecret s.world.secrets = some secret ∧
        HoldsReceiver ReceiverName.pagerduty secret := by
  obtain ⟨m, result, o, s, hrun, hcompleted, houtcome, hflag⟩ := exists_tally_replacing none
  have hwritten : (replacing none).loses = false := rfl
  obtain ⟨secret, -, -, htrue, hfound⟩ :=
    (flags_true_of_stored hrun hcompleted houtcome).1 hwritten
  exact ⟨m, result, o, s, hrun, hcompleted, houtcome, hwritten, hflag, secret,
    hfound (fun text h ↦ nomatch h), htrue.pagerduty hflag⟩

/-- Replacing the secret is refused. The flag is up all the same, and no secret has a document. -/
theorem flag_up_not_stored : ∃ m result o s,
    Tally [replacing (some .refused)] m ∧ (replacing (some .refused)).completed? = some true ∧
      (replacing (some .refused)).outcome = some (result, o, s) ∧
      m.presence.containsPagerduty = true ∧
      (∃ secret ∈ s.world.secrets, secret.name = some Cluster.alertmanagerSecret) ∧
      ∀ secret ∈ s.world.secrets, ¬HoldsReceiver ReceiverName.pagerduty secret := by
  obtain ⟨m, result, o, s, hrun, hcompleted, houtcome, hflag⟩ :=
    exists_tally_replacing (some .refused)
  have hsecrets : s.world.secrets = World.paged.secrets := by
    have hleft : (replacing (some .refused)).left = some (World.paged.secrets, []) := rfl
    rw [Round.left, houtcome] at hleft
    exact (Prod.mk.inj (Option.some.inj hleft)).1
  refine ⟨m, result, o, s, hrun, hcompleted, houtcome, hflag, ?_⟩
  rw [hsecrets]
  have hnone : ∀ secret ∈ World.paged.secrets, secret.value? Cluster.configKey = none := by decide
  refine ⟨⟨_, .head _, rfl⟩, fun secret hsecret ↦ ?_⟩
  rintro ⟨text, config, hvalue, -⟩
  rw [hnone secret hsecret] at hvalue
  cases hvalue

end Tally

end AlertOperator
