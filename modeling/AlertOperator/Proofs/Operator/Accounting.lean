import AlertOperator.Proofs.Alertmanager.Additivity
import AlertOperator.Proofs.Operator.ErrorPolicy
import AlertOperator.Proofs.Operator.Gating
import AlertOperator.Proofs.Readiness.Checks

/-!
# What the metrics say about a run

A pass that is not skipped either reaches its end or ends in an error of the gate. In the first case
it is counted once it is over; in the second the error policy counts it, together with the reason of
the next pass. Nothing else touches the metrics, so over a run of passes each counter is the number
of passes of its kind, and the flags are those of the last pass that reached its end.

What one pass does to the metrics is said by `Round.settled_cases`, and `Tally.accounts` goes by it
alone. That the flags say what was listed is read off the configuration: a receiver is there exactly
if its feature contributes, and the conditions of the features go back to the values in the secrets.
-/

namespace AlertOperator

open Alertmanager (Feature)
open Cluster (Object Secret Session World)
open Metrics (Presence MapPresence isListed)
open Retry (Requeue)
open Time (Duration)

/-! ## Counters by reason -/

/-- How many passes were scheduled for a reason. -/
def Metrics.requeued (reason : String) (m : Metrics) : Nat := (m.requeues.get? reason).getD 0

@[simp] theorem Metrics.requeued_addError (reason : String) (m : Metrics) :
    m.addError.requeued reason = m.requeued reason := rfl

theorem Metrics.requeued_addRequeue (reason reason' : String) (m : Metrics) :
    (m.addRequeue reason').requeued reason
      = m.requeued reason + if reason = reason' then 1 else 0 := by
  rw [requeued, addRequeue, Dict.get?_insert]
  split_ifs with h
  · rw [h]
    rfl
  · rfl

/-- The reason for which the next pass is scheduled after an error. -/
def PassError.reason (e : PassError) : String :=
  if e.requeue = .never then "error-backoff" else "readiness"

theorem PassError.readiness_eq_reason_iff {e : PassError} :
    "readiness" = e.reason ↔ e.requeue ≠ .never := by
  rw [reason]
  split_ifs with h
  · exact iff_of_false (by decide) (not_not.2 h)
  · exact iff_of_true rfl h

theorem PassError.backoff_eq_reason_iff {e : PassError} :
    "error-backoff" = e.reason ↔ e.requeue = .never := by
  rw [reason]
  split_ifs with h
  · exact iff_of_true rfl h
  · exact iff_of_false (by decide) h

theorem Operator.metrics_backOff (r : Request) (o : Operator) :
    (o.backOff r).2.metrics = o.metrics := by
  rw [backOff]
  split
  · rfl
  · rfl

theorem Operator.metrics_handleError (immediate : Duration) (r : Request) (e : PassError)
    (o : Operator) :
    (o.handleError immediate r e).2.metrics = o.metrics.addError.addRequeue e.reason := by
  rw [handleError]
  dsimp only
  rw [PassError.wish_bind_delay, PassError.reason]
  rcases hdelay : e.requeue.delay immediate with _ | delay
  · rw [if_pos (Requeue.delay_eq_none.1 hdelay)]
    dsimp only [record]
    rw [metrics_backOff]
  · have hwish : e.requeue ≠ .never := by
      intro hnever
      rw [Requeue.delay_eq_none.2 hnever] at hdelay
      cases hdelay
    rw [if_neg hwish]
    rfl

theorem Operator.metrics_updated (ready written : Bool) (o : Operator) (w : World) :
    (o.updated ready written w).metrics =
      { o.metrics with
        presence := .of (o.finds ready w).secrets (o.finds ready w).inputs.config
        maps := .of (o.finds ready w).configMaps
        passes := o.metrics.passes + 1
        durations := o.metrics.durations.observe .zero
        writeErrors := o.metrics.writeErrors + if written then 0 else 1 } := by
  cases written with
  | true => rfl
  | false => rfl

/-! ## How a pass ends -/

namespace Round

/-- What a pass goes by that reaches its end, since it is neither skipped nor stopped by the gate:
whether the cluster is ready. -/
def completed? (x : Round) : Option Bool :=
  if x.operator.concerns x.request then
    (x.operator.checkReady x.present { world := x.world }).bind fun c ↦ c.1.toOption
  else none

/-- The error in which a pass ends. -/
def error? (x : Round) : Option PassError :=
  x.outcome.bind fun p ↦
    match p.1 with
    | .ok _ => none
    | .error e => some e

/-- A pass reaches its end, but what it writes does not get into the cluster. -/
def loses (x : Round) : Bool :=
  x.completed?.any fun ready ↦ !x.world.accepts (x.operator.desired ready x.world)

/-- The operator after a pass and, if that ends in an error, the error policy. None if the operator
stops. -/
def settled (immediate : Duration) (x : Round) : Option Operator :=
  x.outcome.map fun
    | (.ok _, o, _) => o
    | (.error e, o, _) => (o.handleError immediate x.request e).2

/-- The flags that a pass shows that reaches its end. -/
def shown? (x : Round) : Option (Presence × MapPresence) :=
  x.completed?.map fun ready ↦
    let found := x.operator.finds ready x.world
    (.of found.secrets found.inputs.config, .of found.configMaps)

variable {x : Round} {immediate : Duration} {o : Operator} {ready : Bool}

theorem completed?_eq_some_iff : x.completed? = some ready ↔ x.Finds ready := by
  rw [completed?]
  by_cases hc : x.operator.concerns x.request = true
  · rw [if_pos hc, Option.bind_eq_some_iff]
    constructor
    · rintro ⟨⟨answer, o, s⟩, hcheck, hanswer⟩
      cases answer with
      | error e => exact nomatch hanswer
      | ok ready =>
        obtain ⟨⟩ := hanswer
        exact ⟨hc, o, s, hcheck⟩
    · rintro ⟨-, o, s, hcheck⟩
      exact ⟨_, hcheck, rfl⟩
  · rw [if_neg hc]
    exact iff_of_false nofun fun h ↦ hc h.concerns

/-- A pass is skipped and changes no metrics, or it ends in an error, which is counted, or it
reaches its end, and an update of the metrics ends it. -/
theorem settled_cases (h : x.settled immediate = some o) :
    (x.completed? = none ∧ x.error? = none ∧ o.metrics = x.operator.metrics) ∨
    (∃ e, x.completed? = none ∧ x.error? = some e ∧
      o.metrics = x.operator.metrics.addError.addRequeue e.reason) ∨
    ∃ ready, x.completed? = some ready ∧ x.error? = none ∧
      o.metrics = (x.operator.updated ready (!x.loses) x.world).metrics := by
  rw [settled] at h
  by_cases hc : x.operator.concerns x.request = true
  · rcases hcheck : x.operator.checkReady x.present { world := x.world } with
      _ | ⟨e | ready, o₁, s₁⟩
    · -- without an answer the operator stops
      rw [outcome, Operator.reconcile, if_pos hc, hcheck] at h
      cases h
    · obtain ⟨hsame, -⟩ := Operator.checkReady_spares hcheck
      have hcompleted : x.completed? = none := by
        rw [completed?, if_pos hc, hcheck]
        rfl
      have houtcome := outcome_of_check_error hc hcheck
      have herror : x.error? = some ⟨e, o₁.requeue⟩ := by rw [error?, houtcome]; rfl
      rw [houtcome] at h
      obtain rfl := Option.some.inj h
      refine .inr (.inl ⟨_, hcompleted, herror, ?_⟩)
      rw [Operator.metrics_handleError, hsame]
    · obtain ⟨hsame, hspares⟩ := Operator.checkReady_spares hcheck
      obtain ⟨job, hworld⟩ := hspares.world
      have hcompleted : x.completed? = some ready :=
        completed?_eq_some_iff.2 ⟨hc, o₁, s₁, hcheck⟩
      have houtcome := outcome_of_check_ok hc hcheck
      have herror : x.error? = none := by rw [error?, houtcome]; rfl
      have hloses : (!x.loses) = x.world.accepts (x.operator.desired ready x.world) := by
        rw [loses, hcompleted]
        exact Bool.not_not _
      rw [houtcome] at h
      obtain rfl := Option.some.inj h
      refine .inr (.inr ⟨ready, hcompleted, herror, ?_⟩)
      have haccepts : s₁.world.accepts (o₁.desired ready s₁.world)
          = x.world.accepts (x.operator.desired ready x.world) := by
        rw [Operator.desired_of_check hcheck, Operator.accepts_of_check hcheck]
      rw [hloses, Operator.update_eq, haccepts, hsame, hworld]
      cases x.world.accepts (x.operator.desired ready x.world) with
      | true => rfl
      | false => rfl
  · have hcompleted : x.completed? = none := by rw [completed?, if_neg hc]
    have houtcome := outcome_of_skip (Bool.eq_false_iff.2 hc)
    have herror : x.error? = none := by rw [error?, houtcome]; rfl
    rw [houtcome] at h
    obtain rfl := Option.some.inj h
    exact .inl ⟨hcompleted, herror, rfl⟩

end Round

/-! ## Runs -/

/-- A run of passes, the last one first, each followed by the error policy if it ends in an error,
and the metrics after it. From one pass to the next anything may change but the metrics: the
cluster, the failing calls, the gate, and what is noted of failures. -/
inductive Tally : List Round → Metrics → Prop
  | start : Tally [] {}
  | pass {xs : List Round} {x : Round} {m : Metrics} {o : Operator} {immediate : Duration}
      (h : Tally xs m) (hmetrics : x.operator.metrics = m)
      (hsettled : x.settled immediate = some o) : Tally (x :: xs) o.metrics

/-- The metrics are those of a run with the passes `xs`, the last one first. -/
structure Accounts (xs : List Round) (m : Metrics) : Prop where
  passes : m.passes = xs.countP (·.completed?.isSome)
  durations : m.durations.count = xs.countP (·.completed?.isSome)
  errors : m.errors = (xs.filterMap Round.error?).length
  granted : m.requeued "readiness" = (xs.filterMap Round.error?).countP (·.requeue ≠ .never)
  delayed : m.requeued "error-backoff" = (xs.filterMap Round.error?).countP (·.requeue = .never)
  writeErrors : m.writeErrors = xs.countP Round.loses
  shown : (m.presence, m.maps) = (xs.findSome? Round.shown?).getD ({}, {})

theorem accounts_nil : Accounts [] {} := ⟨rfl, rfl, rfl, rfl, rfl, rfl, rfl⟩

theorem Accounts.pass {xs : List Round} {x : Round} {o : Operator} {immediate : Duration}
    (h : Accounts xs x.operator.metrics) (hsettled : x.settled immediate = some o) :
    Accounts (x :: xs) o.metrics := by
  obtain ⟨hcompleted, herror, hmetrics⟩ | ⟨e, hcompleted, herror, hmetrics⟩ |
    ⟨ready, hcompleted, herror, hmetrics⟩ := Round.settled_cases hsettled
  · have hloses : x.loses = false := by rw [Round.loses, hcompleted]; rfl
    have hshown : x.shown? = none := by rw [Round.shown?, hcompleted]; rfl
    rw [hmetrics]
    exact {
      passes := h.passes.trans (by simp [hcompleted])
      durations := h.durations.trans (by simp [hcompleted])
      errors := h.errors.trans (by simp [herror])
      granted := h.granted.trans (by simp [herror])
      delayed := h.delayed.trans (by simp [herror])
      writeErrors := h.writeErrors.trans (by simp [hloses])
      shown := h.shown.trans (by simp [hshown]) }
  · have hloses : x.loses = false := by rw [Round.loses, hcompleted]; rfl
    have hshown : x.shown? = none := by rw [Round.shown?, hcompleted]; rfl
    have herrors : (x :: xs).filterMap Round.error? = e :: xs.filterMap Round.error? :=
      List.filterMap_cons_some herror
    rw [hmetrics]
    exact {
      passes := h.passes.trans (by simp [hcompleted])
      durations := h.durations.trans (by simp [hcompleted])
      errors := by
        rw [herrors, List.length_cons, ← h.errors]
        rfl
      granted := by
        rw [herrors, List.countP_cons, ← h.granted, Metrics.requeued_addRequeue,
          Metrics.requeued_addError]
        simp only [PassError.readiness_eq_reason_iff, decide_eq_true_eq]
      delayed := by
        rw [herrors, List.countP_cons, ← h.delayed, Metrics.requeued_addRequeue,
          Metrics.requeued_addError]
        simp only [PassError.backoff_eq_reason_iff, decide_eq_true_eq]
      writeErrors := h.writeErrors.trans (by simp [hloses])
      shown := h.shown.trans (by simp [hshown]) }
  · have herrors : (x :: xs).filterMap Round.error? = xs.filterMap Round.error? :=
      List.filterMap_cons_none herror
    rw [hmetrics, Operator.metrics_updated]
    exact {
      passes := by simp [hcompleted, h.passes]
      durations := by
        rw [List.countP_cons_of_pos (by simp [hcompleted]), ← h.durations]
        rfl
      errors := by rw [herrors, ← h.errors]
      granted := by rw [herrors, ← h.granted]; rfl
      delayed := by rw [herrors, ← h.delayed]; rfl
      writeErrors := by
        rw [List.countP_cons, ← h.writeErrors]
        cases x.loses with
        | true => rfl
        | false => rfl
      shown := by rw [List.findSome?_cons, Round.shown?, hcompleted]; rfl }

theorem Tally.accounts {xs : List Round} {m : Metrics} (h : Tally xs m) : Accounts xs m := by
  induction h with
  | start => exact accounts_nil
  | pass h hmetrics hsettled ih =>
    subst hmetrics
    exact ih.pass hsettled

theorem Round.findSome?_shown? {xs : List Round} (h : ∀ x ∈ xs, x.completed? = none) :
    xs.findSome? shown? = none :=
  List.findSome?_eq_none_iff.2 fun x hx ↦ by rw [shown?, h x hx, Option.map_none]

/-- The flags are those of the last pass that reached its end. -/
theorem Tally.shown_of_last {later earlier : List Round} {x : Round} {m : Metrics} {ready : Bool}
    (h : Tally (later ++ x :: earlier) m) (hlater : ∀ y ∈ later, y.completed? = none)
    (hcompleted : x.completed? = some ready) : x.shown? = some (m.presence, m.maps) := by
  obtain ⟨shown, hshown⟩ : ∃ shown, x.shown? = some shown :=
    ⟨_, by rw [Round.shown?, hcompleted, Option.map_some]⟩
  rw [h.accounts.shown, List.findSome?_append, Round.findSome?_shown? hlater, Option.none_or,
    List.findSome?_cons, hshown, Option.getD_some]

theorem Tally.shown_head {xs : List Round} {x : Round} {m : Metrics} {ready : Bool}
    (h : Tally (x :: xs) m) (hcompleted : x.completed? = some ready) :
    x.shown? = some (m.presence, m.maps) := by
  have hrun : Tally ([] ++ x :: xs) m := h
  exact hrun.shown_of_last (List.forall_mem_nil _) hcompleted

/-! ## What the flags show -/

theorem isListed_iff {β : Type} {name : String} {os : List (Object β)} :
    isListed name os = true ↔ ∃ o ∈ os, o.name = some name := by
  rw [isListed, Object.find?, List.find?_isSome]
  simp only [beq_iff_eq]

namespace Findings

variable (f : Findings)

theorem condition_pagerduty_iff : Feature.pagerduty.condition f.inputs = true ↔
    f.ready = true ∧ Place.Filled ⟨Cluster.pagerdutySecret, Cluster.pagerdutyKey⟩ f.secrets := by
  rw [← paging_ne_empty_iff, Feature.condition, bne_iff_ne]
  rfl

theorem condition_goalert_iff : Feature.goalert.condition f.inputs = true ↔
    f.ready = true ∧ f.fedramp = true ∧
      Place.Filled ⟨Cluster.goalertSecret, Cluster.goalertLowKey⟩ f.secrets ∧
      Place.Filled ⟨Cluster.goalertSecret, Cluster.goalertHighKey⟩ f.secrets := by
  have hlow : f.inputs.goalertLowUrl ≠ "" ↔ _ := paging_ne_empty_iff
  have hhigh : f.inputs.goalertHighUrl ≠ "" ↔ _ := paging_ne_empty_iff
  have hfedramp : f.inputs.fedramp = f.fedramp := rfl
  rw [Feature.condition, Bool.and_eq_true, Bool.and_eq_true, bne_iff_ne, bne_iff_ne, hlow, hhigh,
    hfedramp]
  constructor
  · rintro ⟨⟨hfedramp, hready, hlow⟩, -, hhigh⟩
    exact ⟨hready, hfedramp, hlow, hhigh⟩
  · rintro ⟨hready, hfedramp, hlow, hhigh⟩
    exact ⟨⟨hfedramp, hready, hlow⟩, hready, hhigh⟩

theorem condition_watchdog_iff : Feature.watchdog.condition f.inputs = true ↔
    Place.Filled ⟨Cluster.watchdogSecret, Cluster.watchdogKey⟩ f.secrets := by
  rw [← secretText_ne_empty_iff, Feature.condition, bne_iff_ne]
  rfl

/-- A service counts as configured if its secret and that of Alertmanager were found, and its
feature contributes. -/
theorem configured_iff (feature : Feature) (secret : String) {receiver : String}
    (h : receiver ∈ feature.names) :
    (isListed Cluster.alertmanagerSecret f.secrets && isListed secret f.secrets &&
        f.inputs.config.hasReceiver receiver) = true ↔
      (∃ s ∈ f.secrets, s.name = some Cluster.alertmanagerSecret) ∧
        (∃ s ∈ f.secrets, s.name = some secret) ∧ feature.condition f.inputs = true := by
  rw [Bool.and_eq_true, Bool.and_eq_true, isListed_iff, isListed_iff, and_assoc,
    f.inputs.hasReceiver_config h]

end Findings

/-- The secrets that a pass has listed; none if that fails. -/
def Round.listed (x : Round) : List Secret := x.world.found .listSecrets [] x.world.secrets

/-- A secret of the given name was among those that the pass has listed. -/
def Round.Lists (x : Round) (name : String) : Prop := ∃ secret ∈ x.listed, secret.name = some name

/-- The flags show what was there in the pass `x`, in which the cluster was or was not ready. -/
structure Metrics.Describes (m : Metrics) (x : Round) (ready : Bool) : Prop where
  pagerduty : m.presence.containsPagerduty = true ↔
    x.Lists Cluster.alertmanagerSecret ∧ x.Lists Cluster.pagerdutySecret ∧ ready = true ∧
      Place.Filled ⟨Cluster.pagerdutySecret, Cluster.pagerdutyKey⟩ x.listed
  goalert : m.presence.containsGoalert = true ↔
    x.Lists Cluster.alertmanagerSecret ∧ x.Lists Cluster.goalertSecret ∧ ready = true ∧
      x.operator.settings.fedramp = true ∧
      Place.Filled ⟨Cluster.goalertSecret, Cluster.goalertLowKey⟩ x.listed ∧
      Place.Filled ⟨Cluster.goalertSecret, Cluster.goalertHighKey⟩ x.listed
  watchdog : m.presence.containsWatchdog = true ↔
    x.Lists Cluster.alertmanagerSecret ∧ x.Lists Cluster.watchdogSecret ∧
      Place.Filled ⟨Cluster.watchdogSecret, Cluster.watchdogKey⟩ x.listed

theorem Round.describes {x : Round} {ready : Bool} {m : Metrics}
    (hcompleted : x.completed? = some ready) (hshown : x.shown? = some (m.presence, m.maps)) :
    m.Describes x ready := by
  rw [shown?, hcompleted, Option.map_some, Option.some.injEq] at hshown
  obtain ⟨hpresence, -⟩ := Prod.mk.inj hshown
  -- what the pass has found are the secrets that it has listed, and what the gate has said
  let found := x.operator.finds ready x.world
  constructor
  all_goals rw [← hpresence]
  · refine (found.configured_iff .pagerduty Cluster.pagerdutySecret (by decide)).trans ?_
    rw [Findings.condition_pagerduty_iff]
    rfl
  · refine (found.configured_iff .goalert Cluster.goalertSecret (by decide)).trans ?_
    rw [Findings.condition_goalert_iff]
    rfl
  · refine (found.configured_iff .watchdog Cluster.watchdogSecret (by decide)).trans ?_
    rw [Findings.condition_watchdog_iff]
    rfl

/-- A ready cluster in which the key of PagerDuty is known and Alertmanager has an empty secret. -/
def Cluster.World.paged : World where
  job := some { counts := some { succeeded := some 1 } }
  secrets := [
    { name := some Cluster.alertmanagerSecret },
    { name := some Cluster.pagerdutySecret
      data := some (Dict.insert Cluster.pagerdutyKey (Bytes.ofString "k") {}) }]

namespace Tally

variable {xs : List Round} {m : Metrics}

/-- The metrics after a run, whatever has become of the cluster between its passes and whichever
calls have failed:

* the passes that reached their end are counted, and their durations are;
* the passes that ended in an error are counted, and for each of them the reason of the next pass,
  which is the readiness of the cluster exactly if the error had a wish;
* the passes are counted that reached their end without getting into the cluster what they wrote;
* the flags show what was there in the last pass that reached its end, if there was one. -/
theorem accounts_for_passes (h : Tally xs m) :
    (m.passes = xs.countP (·.completed?.isSome) ∧
      m.durations.count = xs.countP (·.completed?.isSome)) ∧
    (m.errors = (xs.filterMap Round.error?).length ∧
      m.errors = m.requeued "readiness" + m.requeued "error-backoff" ∧
      m.requeued "readiness" = (xs.filterMap Round.error?).countP (·.requeue ≠ .never)) ∧
    m.writeErrors = xs.countP Round.loses ∧
    (∀ later x earlier ready, xs = later ++ x :: earlier → (∀ y ∈ later, y.completed? = none) →
      x.completed? = some ready → m.Describes x ready) ∧
    ((∀ x ∈ xs, x.completed? = none) → m.presence = {} ∧ m.maps = {}) := by
  have haccounts := h.accounts
  refine ⟨⟨haccounts.passes, haccounts.durations⟩, ⟨haccounts.errors, ?_, haccounts.granted⟩,
    haccounts.writeErrors, ?_, ?_⟩
  · rw [haccounts.errors, haccounts.granted, haccounts.delayed,
      List.length_eq_countP_add_countP (·.requeue ≠ .never)]
    simp
  · rintro later x earlier ready rfl hlater hcompleted
    exact Round.describes hcompleted (h.shown_of_last hlater hcompleted)
  · intro hxs
    have hshown := haccounts.shown
    rw [Round.findSome?_shown? hxs] at hshown
    exact Prod.mk.inj hshown

/-- Four passes: the readiness job cannot be read; a failed job cannot be deleted; the cluster is
ready and the key of PagerDuty known, but nothing can be written; and no pass is needed. -/
theorem accounts_for_passes_four : ∃ xs m, Tally xs m ∧ xs.length = 4 ∧
    (m.passes = 1 ∧ m.durations.count = 1) ∧
    (m.errors = 2 ∧ m.requeued "readiness" = 1 ∧ m.requeued "error-backoff" = 1) ∧
    m.writeErrors = 1 ∧ m.presence.containsPagerduty = true := by
  let request : Request := ⟨"openshift-monitoring", Cluster.alertmanagerSecret⟩
  let young : World := { job := some {}, created := some ⟨0, 0⟩ }
  let x₁ : Round := ⟨{}, young.answering .readinessJob (some .refused), ⟨600, 0⟩, request⟩
  obtain ⟨o₁, h₁⟩ := Option.isSome_iff_exists.1 (show (x₁.settled .zero).isSome = true from rfl)
  let x₂ : Round := ⟨{ metrics := o₁.metrics },
    young.answering .deleteReadinessJob (some .refused), ⟨600, 0⟩, request⟩
  obtain ⟨o₂, h₂⟩ := Option.isSome_iff_exists.1 (show (x₂.settled .zero).isSome = true from rfl)
  let x₃ : Round := ⟨{ metrics := o₂.metrics },
    World.paged.answering .replaceSecret (some .refused), ⟨600, 0⟩, request⟩
  obtain ⟨o₃, h₃⟩ := Option.isSome_iff_exists.1 (show (x₃.settled .zero).isSome = true from rfl)
  let x₄ : Round := ⟨{ metrics := o₃.metrics }, .paged, ⟨600, 0⟩, { request with name := "other" }⟩
  obtain ⟨o₄, h₄⟩ := Option.isSome_iff_exists.1 (show (x₄.settled .zero).isSome = true from rfl)
  have hrun : Tally [x₄, x₃, x₂, x₁] o₄.metrics :=
    .pass (.pass (.pass (.pass .start rfl h₁) rfl h₂) rfl h₃) rfl h₄
  obtain ⟨⟨hpasses, hdurations⟩, ⟨herrors, hsum, hgranted⟩, hwriteErrors, hlast, -⟩ :=
    accounts_for_passes hrun
  have htwo : o₄.metrics.errors = 2 := herrors
  have hone : o₄.metrics.requeued "readiness" = 1 := hgranted
  have hskipped : ∀ y ∈ [x₄], y.completed? = none := by
    intro y hy
    rw [List.mem_singleton.1 hy]
    rfl
  have hdescribes := hlast [x₄] x₃ [x₂, x₁] true rfl hskipped rfl
  refine ⟨_, _, hrun, rfl, ⟨hpasses, hdurations⟩, ⟨htwo, hone, by omega⟩, hwriteErrors, ?_⟩
  exact hdescribes.pagerduty.2
    ⟨⟨_, .head _, rfl⟩, ⟨_, .tail _ (.head _), rfl⟩, rfl, _, rfl, by decide⟩

end Tally

end AlertOperator
