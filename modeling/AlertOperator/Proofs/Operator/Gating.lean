import AlertOperator.Proofs.Alertmanager.Paging
import AlertOperator.Proofs.Findings
import AlertOperator.Proofs.Operator.Pass

/-!
# Nobody is paged before the cluster is ready

A run of an operator is a sequence of passes, each for any request and with the cluster in any
state, in which any calls may fail. A pass makes each call once at most, so whatever its calls are
answered while the cluster changes, there is a state in which they are answered so.

The gate is open after a run exactly if some pass has seen a reason to open it, which is
`History.gate_opened`. What a pass writes pages only if its gate is open, and depends on what the
gate says in no other way than through two secrets, which are not read while the cluster is not
ready.
-/

namespace AlertOperator

open Alertmanager (Config Inputs)
open Cluster (Object Secret Session World replaceFirst)
open Retry (Requeue)
open Time (Instant)

/-! ## Without the secrets of the paging services -/

namespace Cluster

/-- The secrets without those of PagerDuty and GoAlert. -/
def withoutPaging (secrets : List Secret) : List Secret :=
  secrets.filter fun s ↦ s.name ≠ some pagerdutySecret ∧ s.name ≠ some goalertSecret

theorem find?_withoutPaging {n : String} (hpagerduty : n ≠ pagerdutySecret)
    (hgoalert : n ≠ goalertSecret) (secrets : List Secret) :
    Object.find? n (withoutPaging secrets) = Object.find? n secrets := by
  rw [Object.find?, withoutPaging, List.find?_filter, Object.find?]
  congr 1
  funext s
  by_cases hs : s.name = some n
  · simp [hs, hpagerduty, hgoalert]
  · simp [hs]

theorem find?_withoutPaging_eq_none {n : String} (h : n = pagerdutySecret ∨ n = goalertSecret)
    (secrets : List Secret) : Object.find? n (withoutPaging secrets) = none := by
  rw [Object.find?, withoutPaging, List.find?_filter, List.find?_eq_none]
  rintro s -
  rcases h with rfl | rfl
  · simp +contextual
  · simp +contextual

end Cluster

/-- While the cluster is not ready, the credentials are those of a ready one without the secrets of
the paging services. -/
theorem Credentials.ofSecrets_withoutPaging (secrets : List Secret) :
    ofSecrets (Cluster.withoutPaging secrets) true = ofSecrets secrets false := by
  have hpaged : ∀ n key : String, n = Cluster.pagerdutySecret ∨ n = Cluster.goalertSecret →
      secretText (Cluster.withoutPaging secrets) n key = "" := by
    intro n key hn
    rw [secretText, Cluster.find?_withoutPaging_eq_none hn]
    rfl
  have hwatchdog := secretText_congr (Cluster.find?_withoutPaging (n := Cluster.watchdogSecret)
    (by decide) (by decide) secrets)
  simp [ofSecrets, hpaged, hwatchdog]

/-! ## Passes -/

/-- A pass: the operator and the cluster before it, the time, and the request. -/
structure Round where
  operator : Operator
  world : World
  present : Instant
  request : Request

namespace Round

variable (x : Round)

/-- What the pass leads to. None if the operator stops. -/
def outcome : Option (Except PassError Requeue × Operator × Session) :=
  x.operator.reconcile x.present x.request { world := x.world }

/-- The secrets that the pass writes. -/
def written : List Secret := x.outcome.elim [] (·.2.2.written)

/-- The check of the gate in the pass has seen a reason to open it. -/
structure Sees : Prop where
  concerns : x.operator.concerns x.request = true
  closed : x.operator.gate.opened = false
  sees : x.operator.gate.Sees x.operator.settings.maxAgeMinutes x.present { world := x.world }

/-- The check of the gate in the pass has said whether the cluster is ready. -/
structure Finds (ready : Bool) : Prop where
  concerns : x.operator.concerns x.request = true
  check : ∃ o s, x.operator.checkReady x.present { world := x.world } = some (.ok ready, o, s)

/-- A document that the pass writes holds a configuration that pages. -/
def WritesPaging : Prop :=
  ∃ secret ∈ x.written, ∃ text config,
    secret.value? Cluster.configKey = some (Bytes.ofString text) ∧
    Config.ofYaml text = .ok config ∧ config.Pages

variable {x} {result : Except PassError Requeue} {o o₁ : Operator} {s s₁ : Session} {ready : Bool}

theorem outcome_of_skip (hc : x.operator.concerns x.request = false) :
    x.outcome = some (.ok .never, x.operator, { world := x.world }) := by
  rw [outcome, Operator.reconcile, if_neg (ne_true_of_eq_false hc)]

theorem outcome_of_check_error {e : ReadinessError} (hc : x.operator.concerns x.request = true)
    (hcheck : x.operator.checkReady x.present { world := x.world } = some (.error e, o₁, s₁)) :
    x.outcome = some (.error ⟨e, o₁.requeue⟩, o₁, s₁) := by
  rw [outcome, Operator.reconcile, if_pos hc, hcheck, Option.map_some]

theorem outcome_of_check_ok (hc : x.operator.concerns x.request = true)
    (hcheck : x.operator.checkReady x.present { world := x.world } = some (.ok ready, o₁, s₁)) :
    x.outcome = some (.ok (o₁.update ready s₁).1.requeue, (o₁.update ready s₁).1,
      (o₁.update ready s₁).2) := by
  rw [outcome, Operator.reconcile, if_pos hc, hcheck, Option.map_some]

theorem settings_eq (hassumed : x.operator.assumed = none)
    (h : x.outcome = some (result, o, s)) :
    o.settings = x.operator.settings ∧ o.assumed = none := by
  rcases Operator.reconcile_cases hassumed h with ⟨-, -, rfl, -⟩ | ⟨-, c, -, hkeeps, -⟩
  · exact ⟨rfl, hassumed⟩
  · exact ⟨hkeeps.settings, hkeeps.assumed.trans hassumed⟩

/-- A pass opens the gate if its check has seen a reason to, and never closes it. -/
theorem gate_opened_iff (hassumed : x.operator.assumed = none)
    (h : x.outcome = some (result, o, s)) :
    o.gate.opened = true ↔ x.operator.gate.opened = true ∨ x.Sees := by
  rcases Operator.reconcile_cases hassumed h with ⟨hc, -, rfl, -⟩ | ⟨hc, c, hcheck, hkeeps, -⟩
  · refine ⟨.inl, ?_⟩
    rintro (hopened | hsees)
    · exact hopened
    · exact nomatch hc.symm.trans hsees.concerns
  · have hgate : o.gate = c.gate := hkeeps.gate
    rw [hgate]
    obtain ⟨-, hcases⟩ := Gate.check_cases hcheck
    rcases hcases with ⟨hopens, hreason⟩ | ⟨hwaits, hclosed, hnot⟩
    · refine ⟨fun _ ↦ ?_, fun _ ↦ hopens.opened⟩
      by_cases hopened : x.operator.gate.opened = true
      · exact .inl hopened
      · exact .inr ⟨hc, Bool.eq_false_iff.2 hopened, hreason.resolve_left hopened⟩
    · rw [hwaits.closed]
      refine ⟨nofun, ?_⟩
      rintro (hopened | hsees)
      · exact nomatch hclosed.symm.trans hopened
      · exact absurd hsees.sees hnot

theorem finds_of_mem_written {secret : Secret} (hassumed : x.operator.assumed = none)
    (h : x.outcome = some (result, o, s)) (hsecret : secret ∈ x.written) :
    ∃ ready, x.Finds ready ∧ (ready = true → o.gate.opened = true) := by
  have hwritten : x.written = s.written := by rw [written, h, Option.elim_some]
  rw [hwritten] at hsecret
  rcases Operator.reconcile_cases hassumed h with ⟨-, -, -, rfl⟩ | ⟨hc, c, hcheck, hkeeps, hrest⟩
  · exact absurd hsecret List.not_mem_nil
  · obtain ⟨hspares, hcases⟩ := Gate.check_cases hcheck
    rcases hrest with ⟨e, -, -, -, rfl⟩ | ⟨ready, hready, -, -⟩
    · -- a check writes no secret
      rw [hspares.written_eq] at hsecret
      exact absurd hsecret List.not_mem_nil
    · refine ⟨ready, ⟨hc, ?_⟩, ?_⟩
      · rw [Operator.checkReady_eq hassumed, hcheck, Option.map_some, hready]
        exact ⟨_, _, rfl⟩
      · rintro rfl
        have hgate : o.gate = c.gate := hkeeps.gate
        rw [hgate]
        rcases hcases with ⟨hopens, -⟩ | ⟨hwaits, -⟩
        · exact hopens.opened
        · rcases hwaits.next with ⟨hfalse, -⟩ | ⟨e, herror⟩
          · exact nomatch hready.symm.trans hfalse
          · exact nomatch hready.symm.trans herror

theorem written_eq (hassumed : x.operator.assumed = none) (h : x.outcome = some (result, o, s))
    (hfinds : x.Finds ready) :
    x.written = List.replicate (x.world.attempts (x.operator.desired ready x.world))
      (x.operator.desired ready x.world) := by
  have hwritten : x.written = s.written := by rw [written, h, Option.elim_some]
  obtain ⟨o₁, s₁, hcheck₁⟩ := hfinds.check
  rw [Operator.checkReady_eq hassumed] at hcheck₁
  rcases Operator.reconcile_cases hassumed h with ⟨hc, -⟩ | ⟨-, c, hcheck, -, hrest⟩
  · exact nomatch hc.symm.trans hfinds.concerns
  · -- the pass has asked the gate once, so this is the check it goes by
    rw [hcheck, Option.map_some, Option.some.injEq, Prod.mk.injEq] at hcheck₁
    have hready := hcheck₁.1
    obtain ⟨job, hworld⟩ := (Gate.check_cases hcheck).1.world
    rcases hrest with ⟨e, herror, -⟩ | ⟨ready', hready', -, hupdate⟩
    · exact nomatch herror.symm.trans hready
    · obtain rfl := Except.ok.inj (hready'.symm.trans hready)
      have hspec := (Operator.update_spec ready' { x.operator with gate := c.gate } c.session).2
      rw [hupdate, hworld, (Gate.check_cases hcheck).1.written_eq] at hspec
      -- the job is nothing that an update reads
      exact hwritten.trans hspec

end Round

/-- A run of a new operator with the given settings: its passes, the last one first, and the
operator after them. Metrics and failures may change between passes. -/
inductive History (settings : Settings) : List Round → Operator → Prop
  | start : History settings [] { settings := settings }
  | pass {xs : List Round} {x : Round} {o o' : Operator} {result : Except PassError Requeue}
      {s : Session} (h : History settings xs o) (hkeeps : o.Keeps x.operator)
      (houtcome : x.outcome = some (result, o', s)) : History settings (x :: xs) o'

/-! ## Documents that page -/

theorem value?_alertmanagerSecret (ns document : String) :
    (alertmanagerSecret ns document).value? Cluster.configKey = some (Bytes.ofString document) :=
  rfl

namespace Operator

variable {o o' : Operator} {w : World}

theorem not_pages_desired {text : String} {config : Config}
    (hvalue : (o.desired false w).value? Cluster.configKey = some (Bytes.ofString text))
    (hread : Config.ofYaml text = .ok config) : ¬config.Pages := by
  rw [desired, value?_alertmanagerSecret] at hvalue
  have htext := Bytes.ofString_inj (Option.some.inj hvalue)
  rw [← htext, Inputs.ofYaml_render] at hread
  obtain rfl := Except.ok.inj hread
  exact Inputs.not_pages_config rfl rfl rfl

end Operator

/-! ## The cluster without paging services -/

namespace Cluster.World

variable (w : World) (job : Option Job) (created : Option Instant)

/-- The cluster without the secrets of PagerDuty and GoAlert, with any job and any age. -/
def unpaged : World :=
  { w with secrets := withoutPaging w.secrets, job := job, created := created }

theorem found_withoutPaging (operation : Operation) :
    w.found operation [] (withoutPaging w.secrets)
      = withoutPaging (w.found operation [] w.secrets) := by
  rw [found, found]
  cases w.failing operation <;> rfl

theorem attempts_unpaged {secret : Secret} (hname : secret.name = some alertmanagerSecret) :
    (w.unpaged job created).attempts secret = w.attempts secret := by
  have hfirst : (replaceFirst secret (withoutPaging w.secrets)).isNone
      = (replaceFirst secret w.secrets).isNone := by
    rw [Bool.eq_iff_iff, Option.isNone_iff_eq_none, Option.isNone_iff_eq_none,
      replaceFirst_eq_none hname, replaceFirst_eq_none hname,
      find?_withoutPaging (by decide) (by decide)]
  rw [attempts, attempts, unpaged, hfirst]

end Cluster.World

/-- A pass that finds the cluster not ready wants what one wants that finds it ready, but without
the secrets of PagerDuty and GoAlert. -/
theorem Operator.desired_unpaged {o o' : Operator} (hsettings : o'.settings = o.settings)
    (w : World) (job : Option Cluster.Job) (created : Option Instant) :
    o'.desired true (w.unpaged job created) = o.desired false w := by
  have hinputs : (o'.finds true (w.unpaged job created)).inputs = (o.finds false w).inputs := by
    have hcredentials : Credentials.ofSecrets (o'.finds true (w.unpaged job created)).secrets true
        = Credentials.ofSecrets (o.finds false w).secrets false := by
      rw [← Credentials.ofSecrets_withoutPaging, finds, finds, ← World.found_withoutPaging]
      rfl
    have hfedramp : (o'.finds true (w.unpaged job created)).fedramp = (o.finds false w).fedramp :=
      congrArg Settings.fedramp hsettings
    rw [Findings.inputs, Findings.inputs]
    simp only [finds] at hcredentials hfedramp ⊢
    rw [hcredentials, hfedramp]
    rfl
  rw [desired, desired, hinputs, hsettings]

/-! ## Runs -/

namespace History

variable {settings : Settings} {x : Round} {xs : List Round} {o : Operator}

/-- The settings stay those of the start, and the gate is open after a run exactly if some pass has
seen a reason to open it. -/
theorem gate_opened (h : History settings xs o) :
    o.settings = settings ∧ o.assumed = none ∧ (o.gate.opened = true ↔ ∃ y ∈ xs, y.Sees) := by
  induction h with
  | start => exact ⟨rfl, rfl, by simp⟩
  | @pass xs x o o' result s h hkeeps houtcome ih =>
    obtain ⟨hsettings, hassumed, hopened⟩ := ih
    have hx : x.operator.assumed = none := hkeeps.assumed.trans hassumed
    obtain ⟨hsettings', hassumed'⟩ := Round.settings_eq hx houtcome
    refine ⟨hsettings'.trans (hkeeps.settings.trans hsettings), hassumed', ?_⟩
    rw [Round.gate_opened_iff hx houtcome, hkeeps.gate, hopened, or_comm]
    simp only [List.mem_cons, exists_eq_or_imp]

/-- In every run, with any requests and whatever the calls are answered:

* a pass writes a document that pages only if its check of the gate, or that of an earlier pass, has
  seen a reason to open the gate;
* in every pass after such a check the cluster is ready, and the gate asks for nothing any more;
* while the cluster is not ready, a pass writes what a pass writes that finds it ready, but without
  the secrets of PagerDuty and GoAlert. -/
theorem gates_paging (h : History settings (x :: xs) o) :
    (x.WritesPaging → ∃ y ∈ x :: xs, y.Sees) ∧
    ((∃ y ∈ xs, y.Sees) → ∀ now s, x.operator.checkReady now s = some (.ok true, x.operator, s)) ∧
    (x.Finds false → x.written ≠ [] ∧ ∀ (y : Round) (ys : List Round) (o' : Operator) job created,
      History settings (y :: ys) o' → y.Finds true → y.world = x.world.unpaged job created →
        y.written = x.written) := by
  have hopened := h.gate_opened.2.2
  rcases h with _ | ⟨hbefore, hkeeps, houtcome⟩
  obtain ⟨hsettings, hassumed, hbefore⟩ := hbefore.gate_opened
  have hx : x.operator.assumed = none := hkeeps.assumed.trans hassumed
  refine ⟨?_, ?_, ?_⟩
  · rintro ⟨secret, hsecret, text, config, hvalue, hread, hpages⟩
    obtain ⟨ready, hfinds, hready⟩ := Round.finds_of_mem_written hx houtcome hsecret
    rw [Round.written_eq hx houtcome hfinds] at hsecret
    obtain rfl := List.eq_of_mem_replicate hsecret
    -- a document that was written while the cluster was not ready does not page
    cases ready with
    | true => exact hopened.1 (hready rfl)
    | false => exact absurd hpages (Operator.not_pages_desired hvalue hread)
  · intro hsees now s
    have hgate : x.operator.gate.opened = true := by rw [hkeeps.gate, hbefore.2 hsees]
    rw [Operator.checkReady_eq hx, Gate.check, if_pos hgate]
    rfl
  · intro hfinds
    rw [Round.written_eq hx houtcome hfinds]
    refine ⟨?_, ?_⟩
    · rw [ne_eq, List.replicate_eq_nil_iff]
      exact (World.attempts_pos _ _).ne'
    · intro y ys o' job created hy hyfinds hworld
      obtain ⟨hysettings, -, -⟩ := hy.gate_opened
      rcases hy with _ | ⟨hybefore, hykeeps, hyoutcome⟩
      obtain ⟨hysettings, hyassumed, -⟩ := hybefore.gate_opened
      have hy : y.operator.assumed = none := hykeeps.assumed.trans hyassumed
      have hsame : y.operator.settings = x.operator.settings := by
        rw [hykeeps.settings, hysettings, hkeeps.settings, hsettings]
      rw [Round.written_eq hy hyoutcome hyfinds, hworld, Operator.desired_unpaged hsame,
        World.attempts_unpaged _ _ _ rfl]

/-- The key of PagerDuty is known. The first pass for it pages if the job has succeeded. -/
theorem gates_paging_succeeded :
    ∃ x o, History {} [x] o ∧ x.WritesPaging ∧ ∃ y ∈ [x], y.Sees := by
  let x : Round :=
    { operator := {}
      world :=
        { job := some ⟨some { succeeded := some 1 }⟩
          secrets := [{ name := some Cluster.pagerdutySecret
                        data := some (Dict.insert Cluster.pagerdutyKey (Bytes.ofString "k") {}) }] }
      present := ⟨0, 0⟩
      request := ⟨"openshift-monitoring", Cluster.pagerdutySecret⟩ }
  obtain ⟨⟨result, o, s⟩, houtcome⟩ := Option.isSome_iff_exists.1 (show x.outcome.isSome by decide)
  have hrun : History {} [x] o := .pass .start .rfl houtcome
  have hfinds : x.Finds true := ⟨by decide, _, _, rfl⟩
  have hkey : (x.operator.finds true x.world).inputs.pagerdutyKey ≠ "" := by decide
  have hpages : x.WritesPaging := by
    refine ⟨x.operator.desired true x.world, ?_, _, _, value?_alertmanagerSecret _ _,
      Inputs.ofYaml_render _, Inputs.pages_config hkey⟩
    rw [Round.written_eq rfl houtcome hfinds]
    exact List.mem_replicate.2 ⟨(World.attempts_pos _ _).ne', rfl⟩
  exact ⟨x, o, hrun, hpages, (gates_paging hrun).1 hpages⟩

end History

end AlertOperator
