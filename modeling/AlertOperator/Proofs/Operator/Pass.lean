import AlertOperator.Operator.Pass
import AlertOperator.Proofs.Alertmanager.Build
import AlertOperator.Proofs.Readiness
import Mathlib.Data.List.Dedup

/-!
# What a pass leads to

A pass for a request that needs one is a check of the gate and, unless that ends in an error, an
update with what the check has said. The update finds what the calls that read are answered, where
a failing one finds nothing, and writes one secret, with the configuration for what was found. It is
written twice if there was none whose place it could take. Of the operator a pass changes the gate
and the metrics.
-/

namespace AlertOperator

open Cluster (Call Operation Secret Session StoreError World replaceFirst)
open Retry (Requeue)
open Time (Instant)

/-! ## Secrets that are written -/

namespace Cluster

/-- The secrets that were to be written, in order, whether or not the calls failed. -/
def Session.written (s : Session) : List Secret := s.calls.filterMap Call.written?

/-- How often a secret is written: once more if there is none whose place it can take. -/
def World.attempts (w : World) (secret : Secret) : Nat :=
  match w.failing .replaceSecret with
  | some (.notFound _) => 2
  | some _ => 1
  | none => if (replaceFirst secret w.secrets).isNone then 2 else 1

/-- The operation reads what a configuration is made of. -/
def Operation.reads : Operation → Bool
  | listSecrets | listConfigMaps | clusterId | clusterProxy => true
  | _ => false

/-- What a call finds that is answered by `answer`. -/
def World.found {α : Type} (w : World) (operation : Operation) (nothing answer : α) : α :=
  match w.failing operation with
  | some _ => nothing
  | none => answer

theorem World.found_of_works {α : Type} {w : World} {operation : Operation}
    (h : w.failing operation = none) (nothing answer : α) :
    w.found operation nothing answer = answer := by
  rw [found, h]

theorem World.attempts_eq (secret : Secret) (w : World) :
    w.attempts secret = if w.misses secret then 2 else 1 := by
  rcases hfailing : w.failing .replaceSecret with _ | e
  · rcases hfirst : replaceFirst secret w.secrets with _ | secrets
    all_goals simp [attempts, misses, replaceAnswer, Session.replaceSecret, Session.request,
      Call.operation, StoreError.isNotFound, hfailing, hfirst]
  · cases e with
    | _ => simp [attempts, misses, replaceAnswer, Session.replaceSecret, Session.request,
        Call.operation, StoreError.isNotFound, hfailing]

theorem World.attempts_pos (secret : Secret) (w : World) : 0 < w.attempts secret := by
  rw [attempts_eq]
  cases w.misses secret with
  | true => exact Nat.succ_pos 1
  | false => exact Nat.one_pos

namespace Session

variable {s s' : Session}

theorem Spares.written_eq (h : s.Spares s') : s'.written = s.written := by
  obtain ⟨calls, hcalls, hasks⟩ := h.calls
  have hnone : calls.filterMap Call.written? = [] :=
    List.filterMap_eq_nil_iff.2 fun call hcall ↦ Call.written?_of_asksReadiness (hasks call hcall)
  rw [written, hcalls, List.filterMap_append, hnone, List.append_nil, written]

theorem written_upsertSecret (secret : Secret) (s : Session) : (s.upsertSecret secret).2.written
    = s.written ++ List.replicate (s.world.attempts secret) secret := by
  rw [written, (s.upserts_upsertSecret secret).1.calls, List.filterMap_append, ← written,
    World.attempts_eq]
  cases s.world.misses secret with
  | true => rfl
  | false => rfl

end Session

end Cluster

namespace Operator

variable {o o' : Operator} {now : Instant} {r : Request} {ready : Bool} {s s' : Session}

/-! ## What stays as it is -/

/-- Nothing has changed but metrics and failures. -/
structure Keeps (o o' : Operator) : Prop where
  settings : o'.settings = o.settings
  assumed : o'.assumed = o.assumed
  gate : o'.gate = o.gate

theorem Keeps.rfl : o.Keeps o := ⟨Eq.refl _, Eq.refl _, Eq.refl _⟩

theorem Keeps.requeue (h : o.Keeps o') : o'.requeue = o.requeue := by
  rw [Operator.requeue, h.assumed, h.gate, Operator.requeue]

/-! ## Updates -/

/-- What a pass finds in a cluster. -/
def finds (o : Operator) (ready : Bool) (w : World) : Findings where
  secrets := w.found .listSecrets [] w.secrets
  configMaps := w.found .listConfigMaps [] w.configMaps
  clusterProxy := w.found .clusterProxy "" w.proxy
  clusterId := w.found .clusterId "" w.clusterId
  ready := ready
  fedramp := o.settings.fedramp

theorem orNothing_inquire {α : Type} (call : Call) (nothing : α) (answer : World → α)
    (s : Session) : orNothing nothing (s.inquire call fun w ↦ .ok (answer w)).1
      = s.world.found call.operation nothing (answer s.world) := by
  rw [Session.inquire, Session.request, World.found]
  cases s.world.failing call.operation <;> rfl

/-- The calls that read what a configuration is made of, in order. -/
def lookups (o : Operator) : List Call :=
  [.listSecrets o.settings.ns, .listConfigMaps o.settings.ns, .clusterProxy, .clusterId]

theorem gather_eq (ready : Bool) (o : Operator) (s : Session) :
    o.gather ready s = (o.finds ready s.world, ⟨s.world, s.calls ++ o.lookups⟩) := by
  refine Prod.ext ?_ ?_
  · simp only [gather, finds, Session.listSecrets, Session.listConfigMaps, Session.clusterProxy,
      Session.clusterId, orNothing_inquire, Session.world_inquire, Call.operation]
  · simp only [gather, Session.listSecrets, Session.listConfigMaps, Session.clusterProxy,
      Session.clusterId, Session.snd_inquire, lookups, List.append_assoc, List.cons_append,
      List.nil_append]

/-- The secret that a pass wants to be there. -/
def desired (o : Operator) (ready : Bool) (w : World) : Secret :=
  alertmanagerSecret o.settings.ns (o.finds ready w).inputs.config.tree.render

theorem writeConfig_eq (found : Findings) (ns : String) (s : Session) :
    let secret := alertmanagerSecret ns found.inputs.config.tree.render
    writeConfig ns found.inputs.config s
      = (s.world.accepts secret, (s.upsertSecret secret).2) := by
  intro secret
  have hanswer := (s.upserts_upsertSecret secret).2
  rw [writeConfig, found.inputs.toYaml_config]
  dsimp only
  rcases hupsert : s.upsertSecret secret with ⟨e | ⟨⟩, s'⟩
  · rw [hupsert] at hanswer
    rw [Bool.eq_false_iff.2 fun haccepts ↦ nomatch hanswer.2 haccepts]
  · rw [hupsert] at hanswer
    rw [hanswer.1 rfl]

/-- The operator after an update that did or did not write the configuration. -/
def updated (ready written : Bool) (o : Operator) (w : World) : Operator :=
  (if written then o else o.record Metrics.addWriteError).complete (o.finds ready w)
    (o.finds ready w).inputs.config

theorem update_eq (ready : Bool) (o : Operator) (s : Session) :
    o.update ready s =
      (o.updated ready (s.world.accepts (o.desired ready s.world)) s.world,
        (Session.upsertSecret (o.desired ready s.world) ⟨s.world, s.calls ++ o.lookups⟩).2) := by
  rw [update, gather_eq]
  dsimp only
  rw [write, writeConfig_eq, desired]
  cases s.world.accepts _ with
  | true => rfl
  | false => rfl

theorem keeps_updated (ready written : Bool) (o : Operator) (w : World) :
    o.Keeps (o.updated ready written w) := by
  cases written with
  | true => exact ⟨rfl, rfl, rfl⟩
  | false => exact ⟨rfl, rfl, rfl⟩

theorem update_spec (ready : Bool) (o : Operator) (s : Session) :
    o.Keeps (o.update ready s).1 ∧ (o.update ready s).2.written = s.written ++
      List.replicate (s.world.attempts (o.desired ready s.world)) (o.desired ready s.world) := by
  have hlookups : o.lookups.filterMap Call.written? = [] := rfl
  rw [update_eq]
  refine ⟨keeps_updated _ _ _ _, ?_⟩
  rw [Session.written_upsertSecret, Session.written, List.filterMap_append, hlookups,
    List.append_nil, Session.written]

/-! ## Passes -/

theorem concerns_iff :
    o.concerns r = true ↔ r.ns = o.settings.ns ∧ r.name ∈ Cluster.watchedNames := by
  rw [concerns, Bool.and_eq_true, beq_iff_eq, Cluster.isWatched, List.contains_iff_mem]

/-- A pass is over at once if its request needs none. Otherwise the gate is asked, and what it says
is an error, which ends the pass, or whether the cluster is ready, which the update goes by. -/
theorem reconcile_cases {result : Except PassError Requeue} (hassumed : o.assumed = none)
    (h : o.reconcile now r s = some (result, o', s')) :
    (o.concerns r = false ∧ result = .ok .never ∧ o' = o ∧ s' = s) ∨
    (o.concerns r = true ∧ ∃ c, o.gate.check o.settings.maxAgeMinutes now s = some c ∧
      { o with gate := c.gate }.Keeps o' ∧
      ((∃ e, c.ready = .error e ∧ result = .error ⟨e, c.gate.requeue⟩ ∧
          o' = { o with gate := c.gate } ∧ s' = c.session) ∨
        ∃ ready, c.ready = .ok ready ∧ result = .ok c.gate.requeue ∧
          { o with gate := c.gate }.update ready c.session = (o', s'))) := by
  rw [reconcile] at h
  by_cases hc : o.concerns r = true
  · rw [if_pos hc, checkReady_eq hassumed, Option.map_map] at h
    obtain ⟨c, hcheck, heq⟩ := Option.map_eq_some_iff.1 h
    refine .inr ⟨hc, c, hcheck, ?_⟩
    rw [Function.comp_apply] at heq
    rcases hready : c.ready with e | ready
    · rw [hready] at heq
      obtain ⟨⟩ := heq
      have hwish : requeue { o with gate := c.gate } = c.gate.requeue := requeue_eq hassumed
      exact ⟨.rfl, .inl ⟨e, rfl, by rw [hwish], rfl, rfl⟩⟩
    · have hkeeps := (update_spec ready { o with gate := c.gate } c.session).1
      rcases hupdate : update ready { o with gate := c.gate } c.session with ⟨o₁, s₁⟩
      rw [hupdate] at hkeeps
      rw [hready] at heq
      dsimp only at heq
      rw [hupdate] at heq
      obtain ⟨⟩ := heq
      refine ⟨hkeeps, .inr ⟨ready, rfl, ?_, hupdate⟩⟩
      rw [requeue_eq (hkeeps.assumed.trans hassumed), hkeeps.gate]
  · rw [if_neg hc] at h
    obtain ⟨⟩ := h
    exact .inl ⟨Bool.eq_false_iff.2 hc, rfl, rfl, rfl⟩

/-! ## Behind the gate -/

section Check

variable {answer : Except ReadinessError Bool} {o₁ : Operator} {s₁ : Session}

/-- A check of the gate makes no difference to what is to be written, since the job is nothing that
an update reads. -/
theorem desired_of_check (h : o.checkReady now s = some (answer, o₁, s₁)) (ready : Bool) :
    o₁.desired ready s₁.world = o.desired ready s.world := by
  obtain ⟨hsame, hspares⟩ := checkReady_spares h
  obtain ⟨job, hworld⟩ := hspares.world
  rw [hsame, hworld]
  rfl

/-- Neither does it make a difference to whether a secret gets into the cluster. -/
theorem accepts_of_check (h : o.checkReady now s = some (answer, o₁, s₁)) (secret : Secret) :
    s₁.world.accepts secret = s.world.accepts secret := by
  obtain ⟨job, hworld⟩ := (checkReady_spares h).2.world
  exact World.accepts_congr _ _ (by rw [hworld]) (by rw [hworld])

end Check

/-! ## What is to be seen of a pass -/

/-- The result of a pass and the secrets that it was to write, each once. -/
def answer (outcome : Except PassError Requeue × Operator × Session) :
    Except PassError Requeue × List Secret :=
  (outcome.1, outcome.2.2.written.dedup)

/-- What is to be seen of a pass over the cluster `w` once the gate has answered and has a wish for
the next pass. -/
def answerAfter (o : Operator) (w : World) :
    Except ReadinessError Bool → Requeue → Except PassError Requeue × List Secret
  | .error e, requeue => (.error ⟨e, requeue⟩, [])
  | .ok ready, requeue => (.ok requeue, [o.desired ready w])

/-- The gate and what the cluster holds decide all that is to be seen of a pass. -/
theorem answer_reconcile (hc : o.concerns r = true) (w : World) :
    (o.reconcile now r { world := w }).map answer
      = (o.checkReady now { world := w }).map fun c ↦ o.answerAfter w c.1 c.2.1.requeue := by
  rw [reconcile, if_pos hc, Option.map_map]
  rcases hcheck : o.checkReady now { world := w } with _ | ⟨result, o₁, s₁⟩
  · rfl
  have hwritten : s₁.written = [] := (checkReady_spares hcheck).2.written_eq
  rw [Option.map_some, Option.map_some, Function.comp_apply]
  cases result with
  | error e =>
    dsimp only [answer, answerAfter]
    rw [hwritten, List.dedup_nil]
  | ok ready =>
    obtain ⟨hkeeps, hupdate⟩ := update_spec ready o₁ s₁
    have hdesired : o₁.desired ready s₁.world = o.desired ready w := desired_of_check hcheck ready
    dsimp only [answer, answerAfter]
    rw [hkeeps.requeue, hupdate, hwritten, List.nil_append, hdesired,
      List.replicate_dedup (World.attempts_pos _ _).ne']

theorem written_reconcile {w : World} {requeue : Requeue} (hc : o.concerns r = true)
    (h : o.reconcile now r { world := w } = some (.ok requeue, o', s')) :
    ∃ ready, s'.written.dedup = [o.desired ready w] := by
  have hanswer : (o.reconcile now r { world := w }).map answer = _ := answer_reconcile hc w
  rw [h, Option.map_some, eq_comm, Option.map_eq_some_iff] at hanswer
  obtain ⟨⟨answer₁, o₁, s₁⟩, -, hsame⟩ := hanswer
  cases answer₁ with
  | error e => exact nomatch congrArg Prod.fst hsame
  | ok ready => exact ⟨ready, (congrArg Prod.snd hsame).symm⟩

end Operator

end AlertOperator
