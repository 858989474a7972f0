import AlertOperator.Proofs.Alertmanager.Build
import AlertOperator.Proofs.Findings
import AlertOperator.Proofs.Watch.Timers

/-!
# A loop at rest

When nothing is left to do, the secret of Alertmanager is up to date, provided that calls do not
fail and every change of an object is told by an event some time. This needs no order of changes,
events, timers and calls.

Something is left to do in a state if a request is on its way that will lead to a pass from the
beginning: `Process.Due`. In every reachable state either something is due, or the pass under way
has found nothing so far that has changed since, or the loop waits and the secret is up to date:
`Process.Settled`. A change of an object in use makes its request due, so it may happen at any point
of a pass, also between what the pass reads and what it writes. A pass that finds the cluster not
ready makes its own request due again when it ends.
-/

namespace AlertOperator

open Cluster (Session World Secret ConfigMap Object StoreError)
open Retry (Requeue)
open Time (Instant)

/-! ## The state that a pass brings about -/

namespace Cluster.World

/-- Calls other than those of the readiness gate do not fail. -/
structure Works (w : World) : Prop where
  listSecrets : w.failing .listSecrets = none
  listConfigMaps : w.failing .listConfigMaps = none
  clusterId : w.failing .clusterId = none
  clusterProxy : w.failing .clusterProxy = none
  replaceSecret : w.failing .replaceSecret = none
  createSecret : w.failing .createSecret = none

theorem Works.congr {w w' : World} (h : w.Works) (hfailing : w'.failing = w.failing) :
    w'.Works := by
  constructor <;> rw [hfailing]
  exacts [h.listSecrets, h.listConfigMaps, h.clusterId, h.clusterProxy, h.replaceSecret,
    h.createSecret]

/-- The document that Alertmanager loads. -/
def document? (w : World) : Option Bytes :=
  (Object.find? Cluster.alertmanagerSecret w.secrets).bind (·.value? Cluster.configKey)

/-- Two states of the cluster have the same secrets and config maps under the given names. -/
structure Same (secretNames mapNames : List String) (w w' : World) : Prop where
  secrets : SameObjects secretNames w.secrets w'.secrets
  configMaps : SameObjects mapNames w.configMaps w'.configMaps
  clusterId : w.clusterId = w'.clusterId
  proxy : w.proxy = w'.proxy

theorem Same.rfl {secretNames mapNames : List String} {w : World} :
    w.Same secretNames mapNames w :=
  ⟨fun _ _ ↦ Eq.refl _, fun _ _ ↦ Eq.refl _, Eq.refl _, Eq.refl _⟩

/-- Two states of the cluster have the same objects in use. -/
abbrev SameInUse : World → World → Prop := Same Cluster.watchedNames Cluster.watchedNames

theorem SameInUse.inputs {w w' : World} (h : w.SameInUse w') : w.Same secretInputs mapInputs w' :=
  ⟨h.secrets.mono secretInputs_subset, h.configMaps.mono mapInputs_subset, h.clusterId, h.proxy⟩

end Cluster.World

namespace Operator

/-- What a pass finds when the cluster is ready and nothing changes. -/
def current (o : Operator) (w : World) : Findings :=
  { secrets := w.secrets
    configMaps := w.configMaps
    clusterProxy := w.proxy
    clusterId := w.clusterId
    ready := true
    fedramp := o.settings.fedramp }

/-- Alertmanager loads the configuration for the present state of the cluster. -/
def UpToDate (o : Operator) (w : World) : Prop :=
  ∃ document, (o.current w).inputs.config.toYaml = .ok document ∧
    w.document? = some (Bytes.ofString document)

variable {o o' : Operator} {w w' : World}

theorem UpToDate.congr (h : o.UpToDate w) (hsame : w.SameInUse w')
    (hsettings : o'.settings = o.settings) : o'.UpToDate w' := by
  obtain ⟨document, hyaml, hdocument⟩ := h
  have hinputs : (o.current w).inputs = (o'.current w').inputs :=
    Findings.inputs_congr hsame.inputs.secrets hsame.inputs.configMaps hsame.proxy hsame.clusterId
      rfl (congrArg Settings.fedramp hsettings.symm)
  refine ⟨document, by rw [← hinputs, hyaml], ?_⟩
  rw [World.document?, ← hsame.secrets _ (by decide)]
  exact hdocument

end Operator

namespace Watch

/-! ## What a pass has found -/

/-- What a call has found is still there. -/
def Reading.Agrees (found : Findings) (w : World) : Reading → Prop
  | secrets => SameObjects secretInputs found.secrets w.secrets
  | configMaps => SameObjects mapInputs found.configMaps w.configMaps
  | proxy => found.clusterProxy = w.proxy
  | clusterId => found.clusterId = w.clusterId

/-- The calls that a pass has made before a call, the last one first. -/
def Reading.before : Reading → List Reading
  | secrets => []
  | configMaps => [secrets]
  | proxy => [configMaps, secrets]
  | clusterId => [proxy, configMaps, secrets]

/-- All calls. -/
def Reading.all : List Reading := [clusterId, proxy, configMaps, secrets]

/-- What the given calls have found is still there. -/
structure Agree (calls : List Reading) (found : Findings) (o : Operator) (w : World) : Prop where
  fedramp : found.fedramp = o.settings.fedramp
  calls : ∀ call ∈ calls, call.Agrees found w

section Agree

variable {calls : List Reading} {found : Findings} {o : Operator} {w w' : World}

theorem Agree.congr (h : Agree calls found o w) (hsame : w.Same secretInputs mapInputs w') :
    Agree calls found o w' := by
  refine ⟨h.fedramp, fun call hcall ↦ ?_⟩
  have hagrees := h.calls call hcall
  cases call with
  | secrets => exact hagrees.trans hsame.secrets
  | configMaps => exact hagrees.trans hsame.configMaps
  | proxy => exact hagrees.trans hsame.proxy
  | clusterId => exact hagrees.trans hsame.clusterId

theorem Reading.world_perform (call : Reading) (ns : String) (found : Findings) (s : Session) :
    (call.perform ns found s).2.world = s.world := by
  cases call with
  | secrets => exact Session.world_inquire (.listSecrets ns) s fun w ↦ .ok w.secrets
  | configMaps => exact Session.world_inquire (.listConfigMaps ns) s fun w ↦ .ok w.configMaps
  | proxy => exact Session.world_inquire .clusterProxy s fun w ↦ .ok w.proxy
  | clusterId => exact Session.world_inquire .clusterId s fun w ↦ .ok w.clusterId

theorem Reading.agrees_perform (call : Reading) {s : Session} (hworks : s.world.Works) (ns : String)
    (found : Findings) : call.Agrees (call.perform ns found s).1 s.world := by
  cases call with
  | secrets =>
    have hcall : s.listSecrets ns = (.ok s.world.secrets, _) :=
      Session.inquire_of_works hworks.listSecrets _
    rw [perform, hcall]
    exact fun _ _ ↦ rfl
  | configMaps =>
    have hcall : s.listConfigMaps ns = (.ok s.world.configMaps, _) :=
      Session.inquire_of_works hworks.listConfigMaps _
    rw [perform, hcall]
    exact fun _ _ ↦ rfl
  | proxy =>
    have hcall : s.clusterProxy = (.ok s.world.proxy, _) :=
      Session.inquire_of_works hworks.clusterProxy _
    rw [perform, hcall]
    rfl
  | clusterId =>
    have hcall : s.clusterId = (.ok s.world.clusterId, _) :=
      Session.inquire_of_works hworks.clusterId _
    rw [perform, hcall]
    rfl

theorem Reading.agrees_perform_of_ne {call other : Reading} (h : other ≠ call) (ns : String)
    (found : Findings) (s : Session) (w : World) :
    other.Agrees (call.perform ns found s).1 w ↔ other.Agrees found w := by
  cases call <;> cases other <;> first | exact absurd rfl h | exact Iff.rfl

theorem Agree.perform {call : Reading} {s : Session} (hworks : s.world.Works)
    (h : Agree call.before found o s.world) (ns : String) :
    Agree (call :: call.before) (call.perform ns found s).1 o s.world := by
  have hne : ∀ call : Reading, ∀ other ∈ call.before, other ≠ call := by
    intro call
    cases call <;> decide
  refine ⟨?_, fun other hother ↦ ?_⟩
  · rw [← h.fedramp]
    cases call <;> rfl
  · -- what other calls have found is kept as it was
    rcases List.mem_cons.1 hother with rfl | hother
    · exact other.agrees_perform hworks ns found
    · exact (Reading.agrees_perform_of_ne (hne call other hother) ns found s _).2
        (h.calls other hother)

/-- What a pass writes is up to date if what it has found is still there. -/
theorem Agree.upToDate (h : Agree Reading.all found o w) (hready : found.ready = true)
    {document : String} (hyaml : found.inputs.config.toYaml = .ok document) {ns : String}
    (hwritten : Object.find? Cluster.alertmanagerSecret w.secrets
      = some (alertmanagerSecret ns document)) : o.UpToDate w := by
  have hinputs : (o.current w).inputs = found.inputs :=
    Findings.inputs_congr (h.calls .secrets (by decide)).symm (h.calls .configMaps (by decide)).symm
      (h.calls .proxy (by decide)).symm (h.calls .clusterId (by decide)).symm hready.symm
      h.fedramp.symm
  refine ⟨document, by rw [hinputs, hyaml], ?_⟩
  rw [World.document?, hwritten]
  rfl

end Agree

/-! ## Nothing to be done -/

/-- No request in use was answered yet, or the gate is open and the secret is up to date. -/
def Quiet (answered : List Request) (o : Operator) (w : World) : Prop :=
  (∀ r ∈ answered, o.concerns r = false) ∨ (o.gate.opened = true ∧ o.UpToDate w)

/-- If nothing changes, the pass for `r` will leave nothing to be done, or its request due. -/
def Stage.Settled (answered : List Request) (r : Request) (o : Operator) (w : World) : Stage → Prop
  | taken => o.concerns r = true ∨ Quiet answered o w
  | reading call found => found.ready = true → Agree call.before found o w
  | replacing found => found.ready = true → Agree Reading.all found o w
  | creating found document =>
    found.ready = true → Agree Reading.all found o w ∧
      found.inputs.config.toYaml = .ok document ∧
      Object.find? Cluster.alertmanagerSecret w.secrets = none
  | ended result =>
    result ≠ .ok .never ∨ (o.concerns r = true ∧ o.UpToDate w) ∨
      (o.concerns r = false ∧ Quiet answered o w)

section Settled

variable {answered : List Request} {r : Request} {o o' : Operator} {w w' : World} {stage : Stage}

theorem Quiet.congr (h : Quiet answered o w) (hsame : w.SameInUse w') : Quiet answered o w' :=
  h.imp id fun ⟨hopened, hdate⟩ ↦ ⟨hopened, hdate.congr hsame rfl⟩

theorem Stage.Settled.congr (h : stage.Settled answered r o w) (hsame : w.SameInUse w') :
    stage.Settled answered r o w' := by
  cases stage with
  | taken => exact h.imp id fun hquiet ↦ hquiet.congr hsame
  | reading call found => exact fun hready ↦ (h hready).congr hsame.inputs
  | replacing found => exact fun hready ↦ (h hready).congr hsame.inputs
  | creating found document =>
    intro hready
    obtain ⟨hagree, hyaml, hnone⟩ := h hready
    exact ⟨hagree.congr hsame.inputs, hyaml, by rw [← hsame.secrets _ (by decide), hnone]⟩
  | ended result =>
    exact h.imp id (Or.imp (And.imp id fun hdate ↦ hdate.congr hsame rfl)
      (And.imp id fun hquiet ↦ hquiet.congr hsame))

/-! ## Steps of a pass -/

variable (answered)

theorem failing_of_spares {s s' : Session} (h : s.Spares s') :
    s'.world.failing = s.world.failing := by
  obtain ⟨job, hworld⟩ := h.world
  rw [hworld]

theorem Stage.finish_settled {found : Findings} {written : Bool} {s s' : Session}
    (hassumed : o.assumed = none) (hc : o.concerns r = true) (hjudged : o.Judged found.ready)
    (h : finish found written o s = (stage, o', s')) :
    s' = s ∧ ((found.ready = true → o.UpToDate s.world) →
      stage.Settled answered r o' s'.world) := by
  obtain ⟨o₁, hkeeps, -, hfinish⟩ := finish_eq found written o s
  rw [hfinish] at h
  obtain ⟨⟩ := h
  refine ⟨rfl, fun hdate ↦ ?_⟩
  rcases hjudged with ⟨hready, -⟩ | ⟨-, hwish⟩
  · refine .inr (.inl ⟨?_, ?_⟩)
    · rwa [Operator.concerns_congr hkeeps.settings]
    · exact (hdate hready).congr .rfl hkeeps.settings
  · -- the gate has left a wish, so the pass does not end without one
    refine .inl fun hnever ↦ ?_
    rw [o.requeue_eq hassumed] at hnever
    exact hwish (Except.ok.inj hnever)

/-- The secret of Alertmanager is no input. -/
theorem same_of_writes {ns document : String}
    (h : Session.Writes (alertmanagerSecret ns document) w w') :
    w.Same secretInputs mapInputs w' ∧ w'.failing = w.failing := by
  have hother : ∀ n ∈ secretInputs, (some Cluster.alertmanagerSecret) ≠ some n := by decide
  refine ⟨⟨fun n hn ↦ (h.others n (hother n hn)).symm, ?_, ?_, ?_⟩, ?_⟩
  all_goals rw [h.rest]
  exact fun _ _ ↦ rfl

theorem Stage.replace_settled {found : Findings} {s s' : Session} (hassumed : o.assumed = none)
    (hworks : s.world.Works) (hc : o.concerns r = true) (hjudged : o.Judged found.ready)
    (h : replace found o s = (stage, o', s')) :
    s'.world.Works ∧
      ((replacing found).Settled answered r o s.world → stage.Settled answered r o' s'.world) := by
  have hyaml := found.inputs.toYaml_config
  have hname : (alertmanagerSecret o.settings.ns found.inputs.config.tree.render).name
    = some Cluster.alertmanagerSecret := rfl
  rw [replace, hyaml] at h
  rcases Session.replaceSecret_cases hname hworks.replaceSecret with
    ⟨hnone, text, s₁, hreplace, hworld⟩ | ⟨s₁, hreplace, hwrites, hfound⟩
  · dsimp only at h
    rw [hreplace] at h
    obtain ⟨⟩ := h
    rw [hworld]
    exact ⟨hworks, fun hsettled hready ↦ ⟨hsettled hready, hyaml, hnone⟩⟩
  · dsimp only at h
    rw [hreplace] at h
    obtain ⟨rfl, hfinish⟩ := finish_settled answered hassumed hc hjudged h
    obtain ⟨hsame, hfailing⟩ := same_of_writes hwrites
    exact ⟨hworks.congr hfailing, fun hsettled ↦ hfinish fun hready ↦
      ((hsettled hready).congr hsame).upToDate hready hyaml hfound⟩

theorem Stage.create_settled {found : Findings} {document : String} {s s' : Session}
    (hassumed : o.assumed = none) (hworks : s.world.Works) (hc : o.concerns r = true)
    (hjudged : o.Judged found.ready) (h : create found document o s = (stage, o', s')) :
    s'.world.Works ∧ ((creating found document).Settled answered r o s.world →
      stage.Settled answered r o' s'.world) := by
  have hname : (alertmanagerSecret o.settings.ns document).name
    = some Cluster.alertmanagerSecret := rfl
  obtain ⟨s₁, hcreate, hwrites, hfound⟩ := Session.createSecret_eq hname hworks.createSecret
  rw [create, hcreate] at h
  obtain ⟨rfl, hfinish⟩ := finish_settled answered hassumed hc hjudged h
  obtain ⟨hsame, hfailing⟩ := same_of_writes hwrites
  refine ⟨hworks.congr hfailing, fun hsettled ↦ hfinish fun hready ↦ ?_⟩
  obtain ⟨hagree, hyaml, hnone⟩ := hsettled hready
  exact (hagree.congr hsame).upToDate hready hyaml (hfound hnone)

theorem Stage.ask_settled (r : Request) {s s' : Session} {present : Instant}
    (hassumed : o.assumed = none) (hworks : s.world.Works)
    (h : ask present o s = some (stage, o', s')) :
    s'.world.Works ∧ stage.Settled answered r o' s'.world := by
  rw [ask, Operator.checkReady_eq hassumed, Option.map_map] at h
  obtain ⟨c, hcheck, heq⟩ := Option.map_eq_some_iff.1 h
  have hfailing := failing_of_spares (Gate.check_cases hcheck).1
  rw [Function.comp_apply] at heq
  rcases hready : c.ready with e | ready
  · rw [hready] at heq
    obtain ⟨⟩ := heq
    exact ⟨hworks.congr hfailing, .inl (by rintro ⟨⟩)⟩
  · rw [hready] at heq
    obtain ⟨⟩ := heq
    exact ⟨hworks.congr hfailing, fun _ ↦ ⟨rfl, fun x hx ↦ absurd hx List.not_mem_nil⟩⟩

/-- A step of a pass leaves nothing to be done that was not there before. -/
theorem Stage.step_settled {stage' : Stage} {s s' : Session} {present : Instant}
    (hassumed : o.assumed = none) (hworks : s.world.Works) (hsound : stage.Sound o r)
    (h : stage.step present r o s = some (stage', o', s')) :
    s'.world.Works ∧
      (stage.Settled answered r o s.world → stage'.Settled answered r o' s'.world) := by
  cases stage with
  | taken =>
    rw [step] at h
    by_cases hc : o.concerns r = true
    · rw [if_pos hc] at h
      obtain ⟨hworks', hsettled⟩ := ask_settled answered r hassumed hworks h
      -- nothing has been found yet that could have changed
      exact ⟨hworks', fun _ ↦ hsettled⟩
    · rw [if_neg hc] at h
      obtain ⟨⟩ := h
      refine ⟨hworks, fun hsettled ↦ .inr (.inr ⟨Bool.eq_false_iff.2 hc, ?_⟩)⟩
      exact hsettled.resolve_left hc
  | reading call found =>
    change some (afterReading (call.perform o.settings.ns found s).1 call, o,
      (call.perform o.settings.ns found s).2) = _ at h
    rw [Option.some.injEq, Prod.mk.injEq, Prod.mk.injEq] at h
    obtain ⟨rfl, rfl, rfl⟩ := h
    rw [call.world_perform]
    refine ⟨hworks, fun hsettled ↦ ?_⟩
    have hagree : (call.perform o.settings.ns found s).1.ready = true →
        Agree (call :: call.before) (call.perform o.settings.ns found s).1 o s.world := by
      intro hready
      refine (hsettled ?_).perform hworks o.settings.ns
      rw [← hready]
      cases call <;> rfl
    cases call <;> exact hagree
  | replacing found =>
    exact replace_settled answered hassumed hworks hsound.1 hsound.2 (Option.some.inj h)
  | creating found document =>
    exact create_settled answered hassumed hworks hsound.1 hsound.2 (Option.some.inj h)
  | ended result => exact absurd h.symm (Option.some_ne_none _)

variable {answered}

/-- A pass that wants no other one has left nothing to be done. -/
theorem Stage.Settled.conclude {result : Except PassError Requeue}
    (h : (ended result).Settled answered r o w) (hsound : (ended result).Sound o r)
    (hkeeps : o.Keeps o') (hnever : result = .ok .never) : Quiet (r :: answered) o' w := by
  have hconcerns := Operator.concerns_congr hkeeps.settings
  rcases h with hother | ⟨hc, hdate⟩ | ⟨hnot, hquiet⟩
  · exact absurd hnever hother
  · rcases hsound with ⟨-, hopened⟩ | ⟨hnot, -⟩
    · exact .inr ⟨by rw [hkeeps.gate, hopened hnever], hdate.congr .rfl hkeeps.settings⟩
    · exact nomatch hnot.symm.trans hc
  · rcases hquiet with hnone | ⟨hopened, hdate⟩
    · refine .inl fun x hx ↦ (hconcerns x).trans ?_
      rcases List.mem_cons.1 hx with rfl | hx
      · exact hnot
      · exact hnone x hx
    · exact .inr ⟨by rw [hkeeps.gate, hopened], hdate.congr .rfl hkeeps.settings⟩

end Settled

namespace Process

/-! ## Requests that are due -/

/-- The requests that will be answered: those of changes that no event has told of yet, those of
timers that have ended, and those in the queue. -/
def waiting (p : Process) : List Request := p.untold ++ p.expired ++ p.loop.queue

/-- A request in use will be answered by a pass that has not begun. -/
inductive Due (p : Process) : Prop
  | waiting {r : Request} (hc : p.loop.operator.concerns r = true) (h : r ∈ p.waiting)
  | timer {t : Timer} (hc : p.loop.operator.concerns t.request = true) (h : t ∈ p.loop.timers)

/-- If nothing changes, the pass under way will leave nothing to be done, or a request due. Without
one there is nothing to be done. -/
def Settled (p : Process) : Prop :=
  match p.pass with
  | none => Quiet p.answered p.loop.operator p.loop.session.world
  | some (r, stage) => stage.Settled p.answered r p.loop.operator p.loop.session.world

/-- What holds of the secret in every reachable state. -/
structure Tracks (p : Process) : Prop where
  works : p.loop.session.world.Works
  done : p.Due ∨ p.Settled

/-- The cluster changes in any way in which calls go on to work, the cluster keeps its name and
proxy, and events will tell of each object that is changed. -/
structure Told (ns : String) (w w' : World) (changes : List Request) : Prop where
  secrets : ∀ name, Object.find? name w.secrets ≠ Object.find? name w'.secrets →
    ⟨ns, name⟩ ∈ changes
  configMaps : ∀ name, Object.find? name w.configMaps ≠ Object.find? name w'.configMaps →
    ⟨ns, name⟩ ∈ changes
  clusterId : w.clusterId = w'.clusterId
  proxy : w.proxy = w'.proxy
  works : w'.Works

variable {settings : Settings} {p p' : Process} {r : Request}

theorem tracks_start {w : World} (h : w.Works) : (start settings w).Tracks where
  works := h
  done := .inr (.inl nofun)

/-! ## Preservation -/

theorem Tracks.release (h : p.Tracks) {t : Timer}
    (hc : p.loop.operator.concerns t.request = true) :
    Tracks { p with loop := p.loop.release t, expired := t.request :: p.expired } where
  works := h.works
  done := .inl (.waiting hc (by simp [waiting]))

/-- Requests may move on and others may come. -/
theorem Tracks.move (h : p.Tracks) (now : Nat) {queue expired untold : List Request}
    (hlost : p.waiting ⊆ untold ++ expired ++ queue) :
    Tracks { p with
      loop := { p.loop with now := now, queue := queue }
      expired := expired
      untold := untold } where
  works := h.works
  done := by
    rcases h.done with (⟨hc, hr⟩ | ⟨hc, ht⟩) | hsettled
    · exact .inl (.waiting hc (hlost hr))
    · exact .inl (.timer hc ht)
    · exact .inr hsettled

theorem Tracks.send (h : p.Tracks) (htimely : p.Timely settings) (r : Request) :
    Tracks { p with loop := p.loop.receive r, expired := p.expired.erase r } := by
  rw [p.loop.receive_eq r htimely.running]
  refine h.move p.loop.now fun x hx ↦ ?_
  simp only [waiting, List.mem_append] at hx ⊢
  by_cases hxr : x = r
  · exact .inr (.inr (List.mem_singleton.2 hxr))
  · rw [List.mem_erase_of_ne hxr]
    exact hx.imp id .inl

theorem Tracks.tell (h : p.Tracks) (htimely : p.Timely settings) {r? : Option Request}
    {untold : List Request} (htold : ∀ r ∈ p.untold, r? = some r ∨ r ∈ untold) :
    Tracks { p with loop := r?.elim p.loop p.loop.receive, untold := untold } := by
  cases r? with
  | none =>
    refine h.move p.loop.now fun x hx ↦ ?_
    simp only [waiting, List.mem_append] at hx ⊢
    exact hx.imp (Or.imp (fun hmem ↦ (htold x hmem).resolve_left nofun) id) id
  | some r =>
    rw [Option.elim_some, p.loop.receive_eq _ htimely.running]
    refine h.move p.loop.now fun x hx ↦ ?_
    simp only [waiting, List.mem_append, List.mem_singleton] at hx ⊢
    rcases hx with (hmem | hmem) | hmem
    · rcases htold x hmem with hx | hx
      · exact .inr (.inr (Option.some.inj hx).symm)
      · exact .inl (.inl hx)
    · exact .inl (.inr hmem)
    · exact .inr (.inl hmem)

theorem Tracks.change (h : p.Tracks) {w : World} {changes : List Request}
    (htold : Told p.loop.operator.settings.ns p.loop.session.world w changes) :
    Tracks { p with loop := p.loop.withWorld w, untold := changes ++ p.untold } where
  works := htold.works
  done := by
    have hdue : ∀ name ∈ Cluster.watchedNames, ⟨p.loop.operator.settings.ns, name⟩ ∈ changes →
        Due { p with loop := p.loop.withWorld w, untold := changes ++ p.untold } := by
      intro name hname hmem
      have hc : p.loop.operator.concerns ⟨p.loop.operator.settings.ns, name⟩ = true :=
        Operator.concerns_iff.2 ⟨rfl, hname⟩
      exact .waiting hc (by simp [waiting, hmem])
    by_cases hsecrets : SameObjects Cluster.watchedNames p.loop.session.world.secrets w.secrets
    · by_cases hmaps :
          SameObjects Cluster.watchedNames p.loop.session.world.configMaps w.configMaps
      · have hsame : p.loop.session.world.SameInUse w :=
          ⟨hsecrets, hmaps, htold.clusterId, htold.proxy⟩
        -- no object in use differs, so what was found is still there
        rcases h.done with (⟨hc, hr⟩ | ⟨hc, ht⟩) | hsettled
        · refine .inl (.waiting hc ?_)
          simp only [waiting, List.mem_append] at hr ⊢
          exact hr.imp (Or.imp .inr id) id
        · exact .inl (.timer hc ht)
        · refine .inr ?_
          rw [Settled] at hsettled ⊢
          rcases hpass : p.pass with _ | ⟨r, stage⟩
          · rw [hpass] at hsettled
            exact hsettled.congr hsame
          · rw [hpass] at hsettled
            exact Stage.Settled.congr hsettled hsame
      · simp only [SameObjects, not_forall] at hmaps
        obtain ⟨name, hname, hne⟩ := hmaps
        exact .inl (hdue name hname (htold.configMaps name hne))
    · simp only [SameObjects, not_forall] at hsecrets
      obtain ⟨name, hname, hne⟩ := hsecrets
      exact .inl (hdue name hname (htold.secrets name hne))

theorem Tracks.take (h : p.Tracks) {rest : List Request} (hpass : p.pass = none)
    (hqueue : p.loop.queue = r :: rest) :
    Tracks { p with loop := { p.loop with queue := rest }, pass := some (r, .taken) } where
  works := h.works
  done := by
    rcases h.done with (⟨hc, hx⟩ | ⟨hc, ht⟩) | hsettled
    · simp only [waiting, hqueue, List.mem_append, List.mem_cons] at hx
      rcases hx with hx | rfl | hx
      · exact .inl (.waiting hc (List.mem_append_left _ (List.mem_append.2 hx)))
      -- the request that was due is the one that is taken
      · exact .inr (.inl hc)
      · exact .inl (.waiting hc (List.mem_append_right _ hx))
    · exact .inl (.timer hc ht)
    · rw [Settled, hpass] at hsettled
      exact .inr (.inr hsettled)

theorem Tracks.going (h : p.Tracks) (htimely : p.Timely settings) {stage stage' : Stage}
    {o' : Operator} {s' : Session} {present : Instant} (hpass : p.pass = some (r, stage))
    (hstep : stage.step present r p.loop.operator p.loop.session = some (stage', o', s')) :
    Tracks (p.going r (stage', o', s')) := by
  have hsound := htimely.pass r stage hpass
  obtain ⟨hworks, hstage⟩ := Stage.step_settled p.answered htimely.assumed h.works
    hsound hstep
  have hconcerns :=
    Operator.concerns_congr (Stage.step_sound htimely.assumed hsound hstep).1.settings
  refine ⟨hworks, ?_⟩
  rcases h.done with (⟨hc, hx⟩ | ⟨hc, ht⟩) | hsettled
  · exact .inl (.waiting ((hconcerns _).trans hc) hx)
  · exact .inl (.timer ((hconcerns _).trans hc) ht)
  · rw [Settled, hpass] at hsettled
    exact .inr (hstage hsettled)

/-- A pass that starts no timer has brought the secret up to date. -/
theorem Tracks.conclude (h : p.Tracks) (htimely : p.Timely settings)
    {result : Except PassError Requeue} (hpass : p.pass = some (r, .ended result)) :
    Tracks
      { p with loop := p.loop.conclude r result, pass := none, answered := r :: p.answered } := by
  obtain ⟨o, hkeeps, -, hcases⟩ := p.loop.conclude_cases r result
  have hconcerns := Operator.concerns_congr hkeeps.settings
  have hsound := htimely.pass r _ hpass
  rcases hcases with ⟨hnever, heq⟩ | ⟨hresult, delay, heq⟩
  · rw [heq]
    refine ⟨h.works, ?_⟩
    rcases h.done with (⟨hc, hx⟩ | ⟨hc, ht⟩) | hsettled
    · exact .inl (.waiting ((hconcerns _).trans hc) hx)
    · exact .inl (.timer ((hconcerns _).trans hc) ht)
    · rw [Settled, hpass] at hsettled
      exact .inr (hsettled.conclude hsound hkeeps hnever)
  · have hc : p.loop.operator.concerns r = true :=
      hsound.elim And.left fun hnot ↦ absurd hnot.2 hresult
    rw [heq]
    rcases Loop.schedule_cases r { p.loop with operator := o } delay with
      ⟨hkey, hsame⟩ | ⟨hkey, due, hnew⟩
    · -- a timer runs already, and its request is due as well
      obtain ⟨t, ht, -⟩ := List.mem_map.1 (htimely.keys.subset hkey)
      rw [hsame]
      exact ⟨h.works, .inl (.timer ((hconcerns _).trans (htimely.timers t ht)) ht)⟩
    · rw [hnew]
      exact ⟨h.works, .inl (.timer ((hconcerns r).trans hc)
        (List.mem_append_right _ (List.mem_singleton_self _)))⟩

theorem Tracks.advance (h : p.Tracks) (htimely : p.Timely settings) {present : Instant}
    (hadvance : p.advance present = some p') : p'.Tracks := by
  rcases advance_cases hadvance with ⟨r, rest, hpass, hqueue, rfl⟩ | ⟨r, result, hpass, rfl⟩ |
    ⟨r, stage, x, hpass, hstep, rfl⟩
  · exact h.take hpass hqueue
  · exact h.conclude htimely hpass
  · exact h.going htimely hpass hstep

theorem Tracks.step (h : p.Tracks) (htimely : p.Timely settings)
    (hstep : Step (Told settings.ns) p p') : p'.Tracks := by
  cases hstep with
  | advance present hadvance => exact h.advance htimely hadvance
  | release ht => exact h.release (htimely.timers _ ht)
  | send hr => exact h.send htimely _
  | tell e untold htold =>
    exact h.tell htimely fun r hr ↦ (htold r hr).imp_left Event.Tells.request?
  | outside htold =>
    rw [← htimely.settings] at htold
    exact h.change htold
  | clock now => exact h.move now (List.Subset.refl _)

theorem tracks_of_reachable {w : World} (hworks : w.Works)
    (h : Reachable (Told settings.ns) (start settings w) p) : p.Tracks := by
  induction h with
  | refl => exact tracks_start hworks
  | tail hreach hstep ih => exact ih.step (timely_of_reachable hreach) hstep

/-! ## At rest -/

/-- Nothing is left to do: every change was told, no timer runs, and the loop waits for a
request. -/
structure AtRest (p : Process) : Prop where
  untold : p.untold = []
  timers : p.loop.timers = []
  expired : p.expired = []
  queue : p.loop.queue = []
  pass : p.pass = none

theorem AtRest.not_due (h : p.AtRest) : ¬p.Due := by
  rintro (⟨-, hr⟩ | ⟨-, ht⟩)
  · rw [waiting, h.untold, h.expired, h.queue] at hr
    exact List.not_mem_nil hr
  · rw [h.timers] at ht
    exact List.not_mem_nil ht

/-- In every reachable state at rest in which some request in use was answered, the gate is open,
and Alertmanager loads the text of the configuration that is built from the present state of the
cluster. This holds however objects have changed meanwhile, whichever of them were told together,
and whatever the calls of the gate were answered. -/
theorem upToDate_of_atRest {w : World} (hworks : w.Works)
    (h : Reachable (Told settings.ns) (start settings w) p) (hrest : p.AtRest)
    (hanswered : ∃ r ∈ p.answered, r.ns = settings.ns ∧ r.name ∈ Cluster.watchedNames) :
    p.loop.operator.gate.opened = true ∧
      ∃ document,
        (p.loop.operator.current p.loop.session.world).inputs.config.toYaml = .ok document ∧
        p.loop.session.world.document? = some (Bytes.ofString document) := by
  have hsettled := (tracks_of_reachable hworks h).done.resolve_left hrest.not_due
  rw [Settled, hrest.pass] at hsettled
  rcases hsettled with hnone | hdone
  · obtain ⟨r, hr, hns, hname⟩ := hanswered
    have hc : p.loop.operator.concerns r = true :=
      Operator.concerns_iff.2 ⟨by rw [hns, (timely_of_reachable h).settings], hname⟩
    exact nomatch (hnone r hr).symm.trans hc
  · exact hdone

/-- The key of PagerDuty has changed in a cluster whose readiness job has succeeded. One pass later
nothing is left to do. -/
theorem upToDate_of_atRest_paging :
    ∃ p, Reachable (Told "openshift-monitoring")
        (start {} { job := some ⟨some { succeeded := some 1 }⟩
                    secrets := [
                      { name := some Cluster.pagerdutySecret
                        data := some
                          (Dict.insert Cluster.pagerdutyKey (Bytes.ofString "k") {}) }] })
        p ∧ p.AtRest ∧ p.loop.operator.gate.opened = true ∧
      ∃ document,
        (p.loop.operator.current p.loop.session.world).inputs.config.toYaml = .ok document ∧
        p.loop.session.world.document? = some (Bytes.ofString document) := by
  let ready : World :=
    { job := some ⟨some { succeeded := some 1 }⟩
      secrets := [{ name := some Cluster.pagerdutySecret
                    data := some (Dict.insert Cluster.pagerdutyKey (Bytes.ofString "k") {}) }] }
  let changed : Event Bytes :=
    .apply { name := some Cluster.pagerdutySecret, ns := some "openshift-monitoring" }
  let waiting : Loop :=
    { (start {} ready).loop with queue := [⟨"openshift-monitoring", Cluster.pagerdutySecret⟩] }
  obtain ⟨l, hl⟩ := Option.isSome_iff_exists.1 (show (waiting.pass ⟨0, 0⟩).isSome by decide)
  have hqueue : (waiting.pass ⟨0, 0⟩).map (·.queue) = some [] := by decide
  have htimers : (waiting.pass ⟨0, 0⟩).map (·.timers) = some [] := by decide
  rw [hl] at hqueue htimers
  have hreach := reachable_first (e := changed) rfl hl (Told (Settings.ns {}))
  have hrest : AtRest
      { loop := l, answered := [⟨"openshift-monitoring", Cluster.pagerdutySecret⟩] } :=
    ⟨rfl, Option.some.inj htimers, rfl, Option.some.inj hqueue, rfl⟩
  have hworks : ready.Works := ⟨rfl, rfl, rfl, rfl, rfl, rfl⟩
  obtain ⟨hopened, hdocument⟩ := upToDate_of_atRest hworks hreach hrest
    ⟨_, List.mem_singleton_self _, rfl, by decide⟩
  exact ⟨_, hreach, hrest, hopened, hdocument⟩

end Process

end Watch

end AlertOperator
