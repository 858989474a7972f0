import AlertOperator.Proofs.Alertmanager.Integrity
import AlertOperator.Proofs.Operator.Pass
import AlertOperator.Proofs.Operator.Unseen

/-!
# Calls that fail make the configuration smaller

Four calls of a pass read what the configuration is made of. Whichever of them fail, and with
whatever errors, a pass ends as if they had been answered and the parts of the cluster that they
would have read were empty. So a failure in one part shows in no other, and whoever asked for the
pass is told the same as without failures.

The gate makes none of these calls. That is said through two changes of the cluster which it does
not see, `World.withReads` and `World.emptied`. They leave the same to be found, and so the same to
be written.
-/

namespace AlertOperator

open Alertmanager (Config Inputs)
open Cluster (Call Operation Session StoreError World)
open Retry (Requeue)
open Time (Instant)

/-! ## Reads that fail -/

namespace Cluster

theorem Call.reads_of_asksReadiness {call : Call} (h : call.asksReadiness = true) :
    call.operation.reads = false := by
  cases call with
  | readinessJob | deleteReadinessJob | createdAt => rfl
  | _ => exact nomatch h

namespace World

variable (errors : Operation → Option StoreError) (w : World)

/-- The cluster in which reads are answered with the given errors, and other calls as before. -/
def withReads : World :=
  { w with failing := fun operation ↦
      if operation.reads then errors operation else w.failing operation }

/-- The cluster in which every part is empty whose read is given an error, and in which no read
fails. -/
def emptied : World :=
  { w.withReads fun _ ↦ none with
    secrets := if (errors .listSecrets).isSome then [] else w.secrets
    configMaps := if (errors .listConfigMaps).isSome then [] else w.configMaps
    clusterId := if (errors .clusterId).isSome then "" else w.clusterId
    proxy := if (errors .clusterProxy).isSome then "" else w.proxy }

variable {operation : Operation}

theorem failing_withReads (h : operation.reads = true) :
    (w.withReads errors).failing operation = errors operation :=
  if_pos h

theorem failing_withReads_of_not (h : operation.reads = false) :
    (w.withReads errors).failing operation = w.failing operation :=
  if_neg (ne_true_of_eq_false h)

theorem found_withReads {α : Type} (h : operation.reads = true) (nothing answer : α) :
    (w.withReads errors).found operation nothing answer
      = if (errors operation).isSome then nothing else answer := by
  rw [found, failing_withReads errors w h]
  cases errors operation with
  | none => rfl
  | some e => rfl

theorem found_emptied {α : Type} (h : operation.reads = true) (nothing answer : α) :
    (w.emptied errors).found operation nothing answer = answer :=
  found_of_works (failing_withReads (fun _ ↦ none) w h) nothing answer

theorem unseen_withReads (errors : Operation → Option StoreError) : Unseen (withReads errors) where
  job _ := rfl
  created _ := rfl
  failing w _ hcall := failing_withReads_of_not errors w (Call.reads_of_asksReadiness hcall)
  withJob _ _ := rfl

theorem unseen_emptied (errors : Operation → Option StoreError) : Unseen (emptied errors) where
  job _ := rfl
  created _ := rfl
  failing := (unseen_withReads fun _ ↦ none).failing
  withJob _ _ := rfl

end World

end Cluster

/-! ## Passes -/

namespace Operator

variable {o : Operator} {r : Request} {f f' : World → World} {w : World}

theorem answer_reconcile_under (hf : World.Unseen f) (hc : o.concerns r = true)
    (now : Instant) (w : World) : (o.reconcile now r { world := f w }).map answer
      = (o.checkReady now { world := w }).map fun c ↦ o.answerAfter (f w) c.1 c.2.1.requeue := by
  have hcheck := checkReady_under hf o now { world := w }
  change o.checkReady now { world := f w } = _ at hcheck
  rw [answer_reconcile hc, hcheck, Option.map_map]
  rfl

theorem fst_answerAfter (o : Operator) (w w' : World) (ready : Except ReadinessError Bool)
    (requeue : Requeue) :
    (o.answerAfter w ready requeue).1 = (o.answerAfter w' ready requeue).1 := by
  cases ready with
  | error e => rfl
  | ok ready => rfl

theorem fst_reconcile_under (hf : World.Unseen f) (hf' : World.Unseen f')
    (hc : o.concerns r = true) (now : Instant) (w : World) :
    (o.reconcile now r { world := f w }).map (·.1)
      = (o.reconcile now r { world := f' w }).map (·.1) := by
  have hfst : ∀ {g : World → World}, World.Unseen g →
      (o.reconcile now r { world := g w }).map (·.1)
        = (o.checkReady now { world := w }).map fun c ↦
          (o.answerAfter w c.1 c.2.1.requeue).1 := by
    intro g hg
    have hanswer := congrArg (Option.map Prod.fst) (answer_reconcile_under hg hc now w)
    rw [Option.map_map, Option.map_map] at hanswer
    refine hanswer.trans (Option.map_congr fun c _ ↦ ?_)
    exact o.fst_answerAfter _ _ _ _
  rw [hfst hf, hfst hf']

/-- What is found if some reads fail is what is found in the cluster without their parts. -/
theorem finds_withReads (o : Operator) (ready : Bool) (errors : Operation → Option StoreError)
    (w : World) : o.finds ready (w.withReads errors) = o.finds ready (w.emptied errors) := by
  have hfound : ∀ {α : Type} {operation : Operation}, operation.reads = true →
      ∀ nothing answer : α, (w.withReads errors).found operation nothing answer
        = (w.emptied errors).found operation nothing
          (if (errors operation).isSome then nothing else answer) := by
    intro α operation h nothing answer
    rw [World.found_withReads errors w h, World.found_emptied errors w h]
  rw [finds, finds, Findings.mk.injEq]
  exact ⟨hfound rfl _ _, hfound rfl _ _, hfound rfl _ _, hfound rfl _ _, rfl, rfl⟩

/-- Whichever reads of a pass fail, and with whatever errors:

* the pass has the result that it has if no read fails;
* it writes what a pass writes that can read everything, in the cluster in which each part is empty
  that could not be read;
* unless the gate keeps it from its end, that is one document, for what is there in that cluster.
  If the config maps could not be read, its namespaces are the default ones, and no alert goes to
  the agent for managed notifications. -/
theorem failures_degrade (o : Operator) (now : Instant) (r : Request) (w : World)
    (errors : Operation → Option StoreError) (hc : o.concerns r = true) :
    let pass (w : World) := o.reconcile now r { world := w }
    (pass (w.withReads errors)).map (·.1) = (pass (w.withReads fun _ ↦ none)).map (·.1) ∧
    (pass (w.withReads errors)).map answer = (pass (w.emptied errors)).map answer ∧
    ∀ requeue o₁ s₁, pass (w.withReads errors) = some (.ok requeue, o₁, s₁) →
      ∃ ready document, let i := (o.finds ready (w.emptied errors)).inputs
        i.config.toYaml = .ok document ∧
        s₁.written.dedup = [alertmanagerSecret o.settings.ns document] ∧
        (errors .listConfigMaps ≠ none →
          i.namespaces = ["^openshift-.*$", "^redhat-.*$", "^kube-.*$"] ∧
          ∀ root ∈ i.config.route, ¬root.SendsTo Alertmanager.ReceiverName.ocmAgent) := by
  intro pass
  have hreads : World.Unseen (World.withReads errors) := World.unseen_withReads errors
  have hemptied : World.Unseen (World.emptied errors) := World.unseen_emptied errors
  refine ⟨fst_reconcile_under hreads (World.unseen_withReads _) hc now w, ?_, ?_⟩
  · change (o.reconcile now r { world := w.withReads errors }).map answer
      = (o.reconcile now r { world := w.emptied errors }).map answer
    rw [answer_reconcile_under hreads hc, answer_reconcile_under hemptied hc]
    refine Option.map_congr fun c _ ↦ ?_
    rcases c.1 with e | ready
    · rfl
    · rw [answerAfter, desired, finds_withReads]
      rfl
  · intro requeue o₁ s₁ hpass
    obtain ⟨ready, hwritten⟩ := written_reconcile hc hpass
    rw [desired, finds_withReads] at hwritten
    refine ⟨ready, _, Inputs.toYaml_config _, hwritten, fun hmaps ↦ ?_⟩
    have hnone : (o.finds ready (w.emptied errors)).configMaps = [] := by
      rw [finds, World.found_emptied errors w rfl]
      exact if_pos (Option.isSome_iff_ne_none.2 hmaps)
    refine ⟨?_, ?_⟩
    · change pagingNamespaces (o.finds ready (w.emptied errors)).configMaps = _
      rw [hnone]
      decide
    · rintro _ ⟨⟩
      refine Inputs.not_sendsTo_ocmAgent _ ?_
      change ocmAgentUrl (o.finds ready (w.emptied errors)).configMaps = ""
      rw [hnone]
      decide

/-- The address of the agent for managed notifications is known, but the config maps cannot be read.
Then no alert goes to the agent, and all else is as in the cluster without config maps. -/
theorem failures_degrade_unlisted :
    let o : Operator := { assumed := some ⟨.ok true, .never⟩ }
    let r : Request := ⟨o.settings.ns, Cluster.ocmAgentMap⟩
    let w : World :=
      { secrets := [{ name := some Cluster.pagerdutySecret
                      data := some (Dict.insert Cluster.pagerdutyKey (Bytes.ofString "k") {}) }]
        configMaps := [{ name := some Cluster.ocmAgentMap
                         data := some (Dict.insert Cluster.ocmAgentUrlKey "http://agent" {}) }] }
    let errors : Operation → Option StoreError := fun operation ↦
      if operation = .listConfigMaps then some .refused else none
    o.concerns r = true ∧ ocmAgentUrl w.configMaps = "http://agent" ∧
    (w.emptied errors).configMaps = [] ∧ (w.emptied errors).secrets = w.secrets ∧
    (o.reconcile ⟨0, 0⟩ r { world := w.withReads errors }).map answer
      = (o.reconcile ⟨0, 0⟩ r { world := w.emptied errors }).map answer ∧
    ∃ (s₁ : Session) (config : Config) (document : String),
      (o.reconcile ⟨0, 0⟩ r { world := w.withReads errors }).map (·.2.2) = some s₁ ∧
      s₁.written.dedup = [alertmanagerSecret o.settings.ns document] ∧
      config.toYaml = .ok document ∧
      ∀ root ∈ config.route, ¬root.SendsTo Alertmanager.ReceiverName.ocmAgent := by
  intro o r w errors
  have hc : o.concerns r = true := by decide
  obtain ⟨-, hanswer, hdocument⟩ := failures_degrade o ⟨0, 0⟩ r w errors hc
  obtain ⟨ready, document, hyaml, hwritten, hunlisted⟩ := hdocument _ _ _ rfl
  exact ⟨hc, by decide, rfl, rfl, hanswer, _, _, document, rfl, hwritten, hyaml,
    (hunlisted nofun).2⟩

end Operator

end AlertOperator
