import AlertOperator.Proofs.Operator.Gating
import Mathlib.Logic.Relation

/-!
# A pass repeats what the one before it did

What a pass writes is made of a few values in the cluster, of its id and its proxy, as far as these
can be read, and of what the gate has said. It does not matter which request has led to the pass,
where in the lists the values were found, what else is there, and which secret Alertmanager has so
far. So two passes that agree on these write the same secret.

In particular the secret of Alertmanager is none of the inputs. If no call fails, a pass leaves
everything that it goes by as it was, `Round.Leaves`: the gate will say the same, since what the
check has deleted or learned makes no difference to the next one. So passes one after the other
write the same secret, and all but the first find it in its place and leave the secrets as they are.
-/

namespace AlertOperator

open Cluster (ConfigMap Object Operation Secret Session World)
open Retry (Requeue)
open Time (Instant)

/-! ## The inputs of a pass -/

namespace Cluster.World

/-- The clusters have the same values in all places from which a pass takes any, and the same reads
of a pass fail, with whatever errors. -/
structure SameInputs (w w' : World) : Prop where
  secrets : SameValues secretPlaces w.secrets w'.secrets
  configMaps : SameValues mapPlaces w.configMaps w'.configMaps
  clusterId : w.clusterId = w'.clusterId
  proxy : w.proxy = w'.proxy
  failing : ∀ operation, operation.reads = true →
    (w.failing operation).isSome = (w'.failing operation).isSome

variable {w w' : World}

theorem SameInputs.found {α : Type} {operation : Operation} (h : w.SameInputs w')
    (hreads : operation.reads = true) (related : α → α → Prop) {nothing answer answer' : α}
    (hnothing : related nothing nothing) (hanswer : related answer answer') :
    related (w.found operation nothing answer) (w'.found operation nothing answer') := by
  have hsame := h.failing operation hreads
  rw [World.found, World.found]
  rcases hleft : w.failing operation with _ | e
  · rw [hleft, Option.isSome_none, eq_comm, Option.isSome_eq_false_iff,
      Option.isNone_iff_eq_none] at hsame
    rw [hsame]
    exact hanswer
  · rw [hleft, Option.isSome_some, eq_comm, Option.isSome_iff_exists] at hsame
    obtain ⟨e', hright⟩ := hsame
    rw [hright]
    exact hnothing

end Cluster.World

theorem Operator.desired_congr {o o' : Operator} {w w' : World}
    (hns : o.settings.ns = o'.settings.ns) (hfedramp : o.settings.fedramp = o'.settings.fedramp)
    (h : w.SameInputs w') (ready : Bool) : o.desired ready w = o'.desired ready w' := by
  have hinputs : (o.finds ready w).inputs = (o'.finds ready w').inputs :=
    Findings.inputs_congr_values
      (h.found rfl (SameValues secretPlaces) (fun _ _ ↦ rfl) h.secrets)
      (h.found rfl (SameValues mapPlaces) (fun _ _ ↦ rfl) h.configMaps)
      (h.found rfl Eq rfl h.proxy) (h.found rfl Eq rfl h.clusterId) rfl hfedramp
  rw [desired, desired, hinputs, hns]

/-! ## What a pass says and writes -/

namespace Operator

/-- What the operator goes by, if the calls of the gate are answered. None if it stops. -/
def tells (o : Operator) (now : Instant) (w : World) : Option (Except ReadinessError Bool) :=
  match o.assumed with
  | some verdict => some verdict.ready
  | none => (o.gate.tells o.settings.maxAgeMinutes now w).map .ok

theorem tells_of_none {o : Operator} (h : o.assumed = none) (now : Instant) (w : World) :
    o.tells now w = (o.gate.tells o.settings.maxAgeMinutes now w).map .ok := by
  rw [tells, h]

theorem tells_congr {o o' : Operator} {w w' : World} (hkeeps : o.Keeps o') (hjob : w'.job = w.job)
    (hcreated : w'.created = w.created) (now : Instant) : o'.tells now w' = o.tells now w := by
  rw [tells, tells, hkeeps.assumed, hkeeps.gate, hkeeps.settings, Gate.tells, Gate.tells, hjob,
    hcreated]

theorem tellsTwice_checkReady {s : Session} (hworks : ∀ operation, s.world.failing operation = none)
    (o : Operator) (now : Instant) :
    (o.checkReady now s).map (fun c ↦ (c.1, c.2.1.tells now c.2.2.world))
      = (o.tells now s.world).map fun answer ↦ (answer, some answer) := by
  rcases hassumed : o.assumed with _ | verdict
  · have hcheck := Gate.tellsTwice_check hworks o.gate o.settings.maxAgeMinutes now
    rw [checkReady_eq hassumed, tells_of_none hassumed, Option.map_map, Option.map_map]
    calc (o.gate.check o.settings.maxAgeMinutes now s).map _
        = ((o.gate.check o.settings.maxAgeMinutes now s).map
            (Gate.tellsTwice o.settings.maxAgeMinutes now)).map fun p ↦ (p.1, p.2.map .ok) := by
          rw [Option.map_map]
          refine Option.map_congr fun c _ ↦ ?_
          exact congrArg (Prod.mk c.ready)
            (tells_of_none (o := { o with gate := c.gate }) hassumed now c.session.world)
      _ = _ := by
          rw [hcheck, Option.map_map]
          rfl
  · rw [checkReady, tells, hassumed]
    refine congrArg some (Prod.ext rfl ?_)
    change o.tells now s.world = some verdict.ready
    rw [tells, hassumed]

end Operator

/-! ## Passes one after the other -/

namespace Round

variable {x y : Round} {ready : Bool} {secret : Secret}

/-- The pass reaches its end, and every call by which it writes has the given secret. If these calls
do not fail, the secret is found after the pass. -/
def Writes (x : Round) (secret : Secret) : Prop :=
  ∃ requeue o s, x.outcome = some (.ok requeue, o, s) ∧ s.written.dedup = [secret] ∧
    (x.world.failing .replaceSecret = none → x.world.failing .createSecret = none →
      Object.find? Cluster.alertmanagerSecret s.world.secrets = some secret)

/-- Once the gate has answered, a pass does nothing to the cluster but to write what it wants to be
there. -/
theorem outcome_of_check {o₁ : Operator} {s₁ : Session}
    (hc : x.operator.concerns x.request = true)
    (hcheck : x.operator.checkReady x.present { world := x.world } = some (.ok ready, o₁, s₁)) :
    ∃ o calls, o₁.Keeps o ∧
      let s := (Session.upsertSecret (x.operator.desired ready x.world) ⟨s₁.world, calls⟩).2
      x.outcome = some (.ok o.requeue, o, s) ∧
        s.written.dedup = [x.operator.desired ready x.world] := by
  have hwritten : s₁.written = [] := (Operator.checkReady_spares hcheck).2.written_eq
  have hdesired : o₁.desired ready s₁.world = x.operator.desired ready x.world :=
    Operator.desired_of_check hcheck ready
  obtain ⟨hkeeps, hupdate⟩ := Operator.update_spec ready o₁ s₁
  rw [hwritten, hdesired, List.nil_append] at hupdate
  have hend : (o₁.update ready s₁).2 = (Session.upsertSecret (x.operator.desired ready x.world)
      ⟨s₁.world, s₁.calls ++ o₁.lookups⟩).2 := by
    rw [Operator.update_eq, hdesired]
  refine ⟨_, s₁.calls ++ o₁.lookups, hkeeps, ?_, ?_⟩
  · rw [← hend]
    exact outcome_of_check_ok hc hcheck
  · rw [← hend, hupdate, List.replicate_dedup (World.attempts_pos _ _).ne']

theorem Finds.writes (h : x.Finds ready) : x.Writes (x.operator.desired ready x.world) := by
  obtain ⟨hc, o₁, s₁, hcheck⟩ := h
  obtain ⟨job, hworld⟩ := (Operator.checkReady_spares hcheck).2.world
  obtain ⟨o, calls, -, houtcome, hwritten⟩ := outcome_of_check hc hcheck
  refine ⟨_, o, _, houtcome, hwritten, fun hreplace hcreate ↦ ?_⟩
  refine (Session.upsertSecret_of_works rfl ?_ ?_).2
  · rw [hworld]
    exact hreplace
  · rw [hworld]
    exact hcreate

/-- The second pass is right after the first: the cluster and the operator are what the first has
left, but for metrics and failures, and no time has gone by. Any request has led to it. -/
def Follows (x y : Round) : Prop :=
  ∃ result o s, x.outcome = some (result, o, s) ∧ o.Keeps y.operator ∧ y.world = s.world ∧
    y.present = x.present ∧ y.operator.concerns y.request = true

/-- The secrets and config maps that are there after the pass. -/
def left (x : Round) : Option (List Secret × List ConfigMap) :=
  x.outcome.map fun p ↦ (p.2.2.world.secrets, p.2.2.world.configMaps)

/-- No call of the pass fails, and the gate has an answer. -/
structure Sound (x : Round) (ready : Bool) : Prop where
  concerns : x.operator.concerns x.request = true
  works : ∀ operation, x.world.failing operation = none
  tells : x.operator.tells x.present x.world = some (.ok ready)

/-- What a pass leaves in which no call fails. -/
structure Leaves (x : Round) (ready : Bool) (o : Operator) (s : Session) : Prop where
  settings : o.settings = x.operator.settings
  tells : o.tells x.present s.world = some (.ok ready)
  failing : s.world.failing = x.world.failing
  inputs : x.world.SameInputs s.world
  written : s.written.dedup = [x.operator.desired ready x.world]
  found : Object.find? Cluster.alertmanagerSecret s.world.secrets
    = some (x.operator.desired ready x.world)
  configMaps : s.world.configMaps = x.world.configMaps
  /-- The secrets stay as they are if the secret was already there. -/
  secrets : Object.find? Cluster.alertmanagerSecret x.world.secrets
      = some (x.operator.desired ready x.world) → s.world.secrets = x.world.secrets

/-- The check has said whether the cluster is ready, and another one will say so again. -/
theorem Sound.check (h : x.Sound ready) : ∃ o s,
    x.operator.checkReady x.present { world := x.world } = some (.ok ready, o, s) ∧
      o.tells x.present s.world = some (.ok ready) := by
  have htells := Operator.tellsTwice_checkReady (s := { world := x.world }) h.works x.operator
    x.present
  rw [h.tells, Option.map_some, Option.map_eq_some_iff] at htells
  obtain ⟨⟨answer, o, s⟩, hcheck, heq⟩ := htells
  obtain ⟨rfl, hagain⟩ := Prod.mk.inj heq
  exact ⟨o, s, hcheck, hagain⟩

theorem Sound.finds (h : x.Sound ready) : x.Finds ready := by
  obtain ⟨o, s, hcheck, -⟩ := h.check
  exact ⟨h.concerns, o, s, hcheck⟩

theorem Sound.leaves (h : x.Sound ready) :
    ∃ requeue o s, x.outcome = some (.ok requeue, o, s) ∧ x.Leaves ready o s := by
  obtain ⟨o₁, s₁, hcheck, hagain⟩ := h.check
  obtain ⟨hsame, hspares⟩ := Operator.checkReady_spares hcheck
  obtain ⟨job, hworld⟩ := hspares.world
  obtain ⟨o, calls, hkeeps, houtcome, hwritten⟩ := outcome_of_check h.concerns hcheck
  have hworks : ∀ operation, s₁.world.failing operation = none := by
    rw [hworld]
    exact h.works
  have hname : (x.operator.desired ready x.world).name = some Cluster.alertmanagerSecret := rfl
  obtain ⟨⟨hrest, hothers⟩, hfound⟩ :=
    Session.upsertSecret_of_works (s := ⟨s₁.world, calls⟩) hname (hworks _) (hworks _)
  have hsecrets (hthere : Object.find? Cluster.alertmanagerSecret x.world.secrets
      = some (x.operator.desired ready x.world)) :=
    Session.upsertSecret_of_find? (s := ⟨s₁.world, calls⟩) hname (hworks _) (by rwa [hworld])
  generalize (Session.upsertSecret (x.operator.desired ready x.world) ⟨s₁.world, calls⟩).2 = s
    at houtcome hwritten hrest hothers hfound hsecrets
  -- the pass changes no more than the secrets and the job, and the check will say the same again
  have hafter : s.world = { x.world with secrets := s.world.secrets, job := job } := by
    rw [hworld] at hrest
    exact hrest
  refine ⟨_, o, s, houtcome, ?_, ?_, ?_, ?_, hwritten, hfound, ?_, fun hthere ↦ ?_⟩
  · rw [hkeeps.settings, hsame]
  · rw [Operator.tells_congr hkeeps (congrArg World.job hrest) (congrArg World.created hrest)]
    exact hagain
  · rw [hafter]
  · refine ⟨fun p hp ↦ ?_, ?_, ?_, ?_, ?_⟩
    · have hname : p.name ≠ Cluster.alertmanagerSecret := by
        revert p
        decide
      rw [Place.find?, Place.find?, hothers p.name fun h ↦ hname (Option.some.inj h).symm, hworld]
    · rw [hafter]
      exact fun _ _ ↦ rfl
    · rw [hafter]
    · rw [hafter]
    · rw [hafter]
      exact fun _ _ ↦ rfl
  · rw [hafter]
  · rw [hsecrets hthere, hworld]

theorem exists_sound (hc : x.operator.concerns x.request = true)
    (hworks : ∀ operation, x.world.failing operation = none)
    (hassumed : ∀ verdict ∈ x.operator.assumed, ∃ ready, verdict.ready = .ok ready)
    (houtcome : x.outcome ≠ none) : ∃ ready, x.Sound ready := by
  have htells := Operator.tellsTwice_checkReady (s := { world := x.world }) hworks x.operator
    x.present
  rcases hanswer : x.operator.tells x.present x.world with _ | answer
  · -- without an answer the operator stops
    rw [hanswer, Option.map_none, Option.map_eq_none_iff] at htells
    rw [outcome, Operator.reconcile, if_pos hc, htells] at houtcome
    exact absurd rfl houtcome
  · obtain ⟨ready, rfl⟩ : ∃ ready, answer = .ok ready := by
      rcases hverdict : x.operator.assumed with _ | verdict
      · rw [Operator.tells_of_none hverdict, Option.map_eq_some_iff] at hanswer
        obtain ⟨ready, -, rfl⟩ := hanswer
        exact ⟨ready, rfl⟩
      · rw [Operator.tells, hverdict, Option.some.injEq] at hanswer
        rw [← hanswer]
        exact hassumed verdict hverdict
    exact ⟨ready, hc, hworks, hanswer⟩

/-- The second pass finds what the first one has left, and wants what is already there. -/
structure Again (ready : Bool) (x y : Round) : Prop where
  sound : y.Sound ready
  desired : y.operator.desired ready y.world = x.operator.desired ready x.world
  found : Object.find? Cluster.alertmanagerSecret y.world.secrets
    = some (y.operator.desired ready y.world)
  left : x.left = some (y.world.secrets, y.world.configMaps)

theorem Again.left_eq (h : Again ready x y) : y.left = x.left := by
  obtain ⟨requeue, o, s, houtcome, hleaves⟩ := h.sound.leaves
  rw [h.left, Round.left, houtcome, Option.map_some, hleaves.configMaps, hleaves.secrets h.found]

theorem Sound.again (h : x.Sound ready) (hfollows : x.Follows y) : Again ready x y := by
  obtain ⟨requeue, o, s, houtcome, hleaves⟩ := h.leaves
  obtain ⟨_, _, _, hsame, hkeeps, hworld, hpresent, hc⟩ := hfollows
  obtain ⟨⟩ := houtcome.symm.trans hsame
  have hworks : ∀ operation, y.world.failing operation = none := by
    rw [hworld, hleaves.failing]
    exact h.works
  have hsettings : y.operator.settings = x.operator.settings :=
    hkeeps.settings.trans hleaves.settings
  have hdesired : y.operator.desired ready y.world = x.operator.desired ready x.world := by
    refine (Operator.desired_congr ?_ ?_ ?_ ready).symm
    · rw [hsettings]
    · rw [hsettings]
    · rw [hworld]
      exact hleaves.inputs
  refine ⟨⟨hc, hworks, ?_⟩, hdesired, ?_, ?_⟩
  · rw [hpresent, hworld, Operator.tells_congr hkeeps rfl rfl]
    exact hleaves.tells
  · rw [hdesired, hworld]
    exact hleaves.found
  · rw [left, houtcome, hworld]
    rfl

theorem Sound.again_of_transGen (h : x.Sound ready) (hfollows : Relation.TransGen Follows x y) :
    Again ready x y := by
  induction hfollows with
  | single hfollows => exact h.again hfollows
  | tail _ hfollows ih =>
    have hlast := ih.sound.again hfollows
    exact ⟨hlast.sound, hlast.desired.trans ih.desired, hlast.found,
      ih.left_eq.symm.trans hlast.left⟩

/-- Two passes with the same inputs write the same secret, and passes one after the other change
nothing but once:

* if the gate has said the same, and the clusters agree on the values that a pass reads and on which
  reads fail, two passes for any requests write the same secret, whatever else is in the clusters,
  and whatever secret Alertmanager has in them;
* after a pass in which no call fails, whatever state the gate is in, all passes that follow while
  nothing else happens, for any requests, write the same secret as the first, and leave all secrets
  and config maps as the first has left them. -/
theorem repeats_document :
    (∀ (x y : Round) (ready : Bool), x.Finds ready → y.Finds ready →
      x.operator.settings.ns = y.operator.settings.ns →
      x.operator.settings.fedramp = y.operator.settings.fedramp →
      x.world.SameInputs y.world →
      ∃ secret, x.Writes secret ∧ y.Writes secret) ∧
    ∀ x y : Round, x.operator.concerns x.request = true →
      (∀ operation, x.world.failing operation = none) →
      (∀ verdict ∈ x.operator.assumed, ∃ ready, verdict.ready = .ok ready) →
      x.outcome ≠ none → Relation.TransGen Follows x y →
      (∃ secret, x.Writes secret ∧ y.Writes secret) ∧ y.left = x.left := by
  refine ⟨fun x y ready hx hy hns hfedramp hsame ↦ ?_,
    fun x y hc hworks hassumed houtcome hfollows ↦ ?_⟩
  · refine ⟨_, hx.writes, ?_⟩
    rw [Operator.desired_congr hns hfedramp hsame]
    exact hy.writes
  · obtain ⟨ready, hsound⟩ := exists_sound hc hworks hassumed houtcome
    have hagain := hsound.again_of_transGen hfollows
    refine ⟨⟨_, hsound.finds.writes, ?_⟩, hagain.left_eq⟩
    rw [← hagain.desired]
    exact hagain.sound.finds.writes

/-- A cluster whose readiness job has failed. The first pass deletes the job and adds the secret of
Alertmanager, and the pass to which that leads finds the secret it wants. A pass over a cluster that
has more secrets, in another order, writes the same one. -/
theorem repeats_document_failed :
    let paging : Secret :=
      { name := some Cluster.pagerdutySecret
        data := some (Dict.insert Cluster.pagerdutyKey (Bytes.ofString "k") {}) }
    let old : Secret := { name := some Cluster.alertmanagerSecret }
    let w : World :=
      { secrets := [paging], job := some ⟨some { failed := some 1 }⟩, created := some ⟨0, 0⟩ }
    let x : Round := ⟨{}, w, ⟨60, 0⟩, ⟨"openshift-monitoring", Cluster.pagerdutySecret⟩⟩
    let z : Round :=
      ⟨{}, { w with secrets := [old, { paging with ns := some "n" }], job := none }, ⟨60, 0⟩,
        ⟨"openshift-monitoring", Cluster.alertmanagerSecret⟩⟩
    ∃ y : Round, y.request = z.request ∧ y.world.job = none ∧ x.Follows y ∧
      (∃ secret, x.Writes secret ∧ y.Writes secret) ∧ y.left = x.left ∧
      ∃ secret, x.Writes secret ∧ z.Writes secret := by
  intro paging old w x z
  obtain ⟨⟨result, o, s⟩, houtcome⟩ := Option.isSome_iff_exists.1 (show x.outcome.isSome by decide)
  have hns : o.settings.ns = "openshift-monitoring" := by
    have h : x.outcome.map (·.2.1.settings.ns) = some "openshift-monitoring" := by decide
    rw [houtcome] at h
    exact Option.some.inj h
  have hjob : s.world.job = none := by
    have h : x.outcome.map (·.2.2.world.job) = some none := by decide
    rw [houtcome] at h
    exact Option.some.inj h
  let y : Round := ⟨o, s.world, x.present, z.request⟩
  have hfollows : x.Follows y := by
    refine ⟨result, o, s, houtcome, .rfl, rfl, rfl, ?_⟩
    exact Operator.concerns_iff.2 ⟨hns.symm, show Cluster.alertmanagerSecret ∈ _ by decide⟩
  have hrepeats := repeats_document.2 x y (by decide) (fun _ ↦ rfl) nofun
    (by rw [houtcome]; exact nofun) (.single hfollows)
  have hreads : ∀ p ∈ secretPlaces, p.find? x.world.secrets = p.find? z.world.secrets := by decide
  exact ⟨y, rfl, hjob, hfollows, hrepeats.1, hrepeats.2,
    repeats_document.1 x z false ⟨by decide, _, _, rfl⟩ ⟨by decide, _, _, rfl⟩ rfl rfl
      ⟨hreads, fun _ _ ↦ rfl, rfl, rfl, fun _ _ ↦ rfl⟩⟩

end Round

end AlertOperator
