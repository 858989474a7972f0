import AlertOperator.Proofs.Alertmanager.Redaction
import AlertOperator.Proofs.Operator.Pass
import AlertOperator.Proofs.Operator.Unseen

/-!
# Nothing tells which cluster a FedRAMP environment is

In FedRAMP environments a pass does the same whatever the id of the cluster is, and whether or not
it can be asked for. Two passes are compared through a third one, over the cluster without an id:
each of them ends as that one does, except that the cluster still has its id, which is
`Operator.reconcile_withoutId`. It is shown for the steps of a pass in turn. The gate does not see
whether the cluster has an id. Only the update behind it asks for the id, and what is made of it no
longer shows in the configuration.
-/

namespace AlertOperator

open Alertmanager (Inputs)
open Cluster (Call Operation Secret Session StoreError World)
open Retry (Requeue)
open Time (Instant)

/-! ## Clusters without their ids -/

namespace Cluster

namespace World

variable (w : World)

/-- The cluster without its id, for which it can always be asked. -/
def withoutId : World :=
  { w with
    clusterId := ""
    failing := fun operation ↦ if operation = .clusterId then none else w.failing operation }

/-- The clusters differ in their ids at most, and in what is answered if the id cannot be asked
for. -/
structure SameButId (w w' : World) : Prop where
  rest : w' = { w with clusterId := w'.clusterId, failing := w'.failing }
  failing : ∀ operation, operation ≠ .clusterId → w'.failing operation = w.failing operation

@[simp] theorem secrets_withoutId : w.withoutId.secrets = w.secrets := rfl

theorem unseen_withoutId : Unseen withoutId where
  job _ := rfl
  created _ := rfl
  failing w call hcall := by
    refine if_neg ?_
    cases call with
    | clusterId => exact nomatch hcall
    | _ => exact nofun
  withJob _ _ := rfl

variable {w} {w' : World}

theorem SameButId.withoutId_eq (h : w.SameButId w') : w'.withoutId = w.withoutId := by
  rw [h.rest]
  simp only [withoutId, mk.injEq, true_and]
  funext operation
  by_cases hoperation : operation = .clusterId
  · rw [if_pos hoperation, if_pos hoperation]
  · rw [if_neg hoperation, if_neg hoperation, h.failing operation hoperation]

end World

namespace Session

/-- The cluster without its id, and the calls that were made to it. -/
def withoutId (s : Session) : Session := { s with world := s.world.withoutId }

variable {α : Type} {call : Call} (s : Session)

theorem request_withoutId {answer : World → Except StoreError α × World}
    (hcall : call.operation ≠ .clusterId)
    (hanswer : ∀ w, answer w.withoutId = Prod.map id World.withoutId (answer w)) :
    s.withoutId.request call answer = Prod.map id withoutId (s.request call answer) :=
  s.request_under (fun _ ↦ if_neg hcall) hanswer

theorem replaceSecret_withoutId (secret : Secret) :
    s.withoutId.replaceSecret secret = Prod.map id withoutId (s.replaceSecret secret) := by
  refine s.request_withoutId (by simp [Call.operation]) fun w ↦ ?_
  rw [World.secrets_withoutId]
  cases replaceFirst secret w.secrets with
  | none => rfl
  | some secrets => rfl

theorem createSecret_withoutId (secret : Secret) :
    s.withoutId.createSecret secret = Prod.map id withoutId (s.createSecret secret) :=
  s.request_withoutId (by simp [Call.operation]) fun _ ↦ rfl

theorem upsertSecret_withoutId (secret : Secret) :
    s.withoutId.upsertSecret secret = Prod.map id withoutId (s.upsertSecret secret) := by
  rw [upsertSecret, upsertSecret, replaceSecret_withoutId]
  rcases s.replaceSecret secret with ⟨e | _, s'⟩
  · cases e with
    | notFound text => exact s'.createSecret_withoutId secret
    | _ => rfl
  · rfl

end Session

theorem World.accepts_withoutId (secret : Secret) (w : World) :
    w.withoutId.accepts secret = w.accepts secret := by
  have hreplace := congrArg Prod.fst (Session.replaceSecret_withoutId { world := w } secret)
  have hanswer : w.withoutId.replaceAnswer secret = w.replaceAnswer secret := hreplace
  rw [accepts, accepts, hanswer]
  rfl

end Cluster

/-! ## Passes -/

namespace Operator

variable {o : Operator} {now : Instant} {r : Request} {ready : Bool} {s : Session}

theorem checkReady_withoutId (o : Operator) (now : Instant) (s : Session) :
    o.checkReady now s.withoutId
      = (o.checkReady now s).map (Prod.map id (Prod.map id Session.withoutId)) :=
  checkReady_under World.unseen_withoutId o now s

theorem finds_withoutId (ready : Bool) (o : Operator) (w : World) :
    o.finds ready w.withoutId = { o.finds ready w with clusterId := "" } := rfl

theorem config_finds_withoutId (hfedramp : o.settings.fedramp = true) (ready : Bool) (w : World) :
    (o.finds ready w.withoutId).inputs.config = (o.finds ready w).inputs.config :=
  Inputs.config_of_fedramp (i := (o.finds ready w).inputs) hfedramp ""

theorem desired_withoutId (hfedramp : o.settings.fedramp = true) (ready : Bool) (w : World) :
    o.desired ready w.withoutId = o.desired ready w := by
  rw [desired, config_finds_withoutId hfedramp, desired]

theorem update_withoutId (hfedramp : o.settings.fedramp = true) (ready : Bool) (s : Session) :
    o.update ready s.withoutId = Prod.map id Session.withoutId (o.update ready s) := by
  have hdesired : o.desired ready s.withoutId.world = o.desired ready s.world :=
    desired_withoutId hfedramp ready s.world
  have haccepts : ∀ secret, s.withoutId.world.accepts secret = s.world.accepts secret :=
    fun secret ↦ World.accepts_withoutId secret s.world
  rw [update_eq, update_eq, hdesired, haccepts]
  refine Prod.ext ?_ ?_
  · -- the metrics go by the objects that were found and by the configuration
    have hconfig := config_finds_withoutId hfedramp ready s.world
    change updated _ _ _ s.world.withoutId = updated _ _ _ s.world
    rw [updated, hconfig, finds_withoutId]
    rfl
  · have hupsert := congrArg Prod.snd
      (Session.upsertSecret_withoutId ⟨s.world, s.calls ++ o.lookups⟩ (o.desired ready s.world))
    exact hupsert

/-- In FedRAMP environments a pass ends alike over a cluster without its id. -/
theorem reconcile_withoutId (hfedramp : o.settings.fedramp = true) (now : Instant) (r : Request)
    (s : Session) : o.reconcile now r s.withoutId
      = (o.reconcile now r s).map (Prod.map id (Prod.map id Session.withoutId)) := by
  rw [reconcile, reconcile]
  by_cases hconcerns : o.concerns r = true
  · rw [if_pos hconcerns, if_pos hconcerns, checkReady_withoutId, Option.map_map, Option.map_map]
    rcases hcheck : o.checkReady now s with _ | ⟨answer, o₁, s₁⟩
    · rfl
    · cases answer with
      | error e => rfl
      | ok ready =>
        have hsame : o₁.settings.fedramp = true := by
          rw [(checkReady_spares hcheck).1]
          exact hfedramp
        simp only [Option.map_some, Function.comp_apply, Prod.map_apply, Prod.map_fst, Prod.map_snd,
          id_eq, update_withoutId hsame]
  · rw [if_neg hconcerns, if_neg hconcerns]
    rfl

/-- What there is to be seen of a pass: its result, what the operator keeps of it, the calls, with
the secrets that were to be written, and the secrets that are there after it. -/
def shown (outcome : Except PassError Requeue × Operator × Session) :
    Except PassError Requeue × Operator × List Call × List Secret :=
  (outcome.1, outcome.2.1, outcome.2.2.calls, outcome.2.2.world.secrets)

/-- In FedRAMP environments nothing tells which cluster it is:

* the configuration, and so its document, is the same for every id;
* two passes over clusters that differ in their ids at most, or in whether these can be asked for,
  have the same result, make the same calls with the same secrets, and leave the same secrets.

In other environments with PagerDuty the id can be read off the configuration, which is another one
for every id. -/
theorem fedramp_hides_id :
    (∀ (i : Inputs) (id : String), i.fedramp = true →
      { i with clusterId := id }.config = i.config ∧
      ∃ text, i.config.toYaml = .ok text ∧ { i with clusterId := id }.config.toYaml = .ok text) ∧
    (∀ (o : Operator) (now : Instant) (r : Request) (calls : List Call) (w w' : World),
      o.settings.fedramp = true → w.SameButId w' →
      (o.reconcile now r ⟨w, calls⟩).map shown = (o.reconcile now r ⟨w', calls⟩).map shown) ∧
    ∀ i : Inputs, i.fedramp = false → i.pagerdutyKey ≠ "" →
      i.config.clusterId? = some i.clusterId ∧
      ∀ id, id ≠ i.clusterId → { i with clusterId := id }.config ≠ i.config := by
  refine ⟨fun i id hfedramp ↦ ?_, fun o now r calls w w' hfedramp hsame ↦ ?_,
    fun i hfedramp hkey ↦ ?_⟩
  · have hconfig := Inputs.config_of_fedramp hfedramp id
    exact ⟨hconfig, _, i.toYaml_config, by rw [hconfig, i.toYaml_config]⟩
  · -- neither the calls nor the secrets show whether the id was left out
    have hshown : ∀ w : World, (o.reconcile now r (Session.withoutId ⟨w, calls⟩)).map shown
        = (o.reconcile now r ⟨w, calls⟩).map shown := by
      intro w
      rw [reconcile_withoutId hfedramp, Option.map_map]
      rfl
    rw [← hshown w, ← hshown w', Session.withoutId, Session.withoutId, hsame.withoutId_eq]
  · have hid := Inputs.clusterId?_config hfedramp hkey
    refine ⟨hid, fun id hne heq ↦ ?_⟩
    have hid' := Inputs.clusterId?_config (i := { i with clusterId := id }) hfedramp hkey
    rw [heq, hid] at hid'
    exact hne (Option.some.inj hid').symm

/-- The key of PagerDuty is known, and the cluster is ready. Then a pass over a cluster with an id
is like one in which the id cannot be asked for, but without redaction the configuration tells
it. -/
theorem fedramp_hides_id_paging :
    let settings : Settings := { fedramp := true }
    let o : Operator := { settings := settings, assumed := some ⟨.ok true, .never⟩ }
    let r : Request := ⟨settings.ns, Cluster.pagerdutySecret⟩
    let w : World :=
      { clusterId := "5"
        secrets := [{ name := some Cluster.pagerdutySecret
                      data := some (Dict.insert Cluster.pagerdutyKey (Bytes.ofString "k") {}) }] }
    let w' : World := { w with failing := fun op ↦ if op = .clusterId then some .refused else none }
    let i : Inputs := { pagerdutyKey := "k", clusterId := "5" }
    (o.reconcile ⟨0, 0⟩ r ⟨w, []⟩).isSome = true ∧
    (o.reconcile ⟨0, 0⟩ r ⟨w, []⟩).map shown = (o.reconcile ⟨0, 0⟩ r ⟨w', []⟩).map shown ∧
    i.config.clusterId? = some "5" ∧ { i with clusterId := "" }.config ≠ i.config ∧
    { i with fedramp := true, clusterId := "" }.config = { i with fedramp := true }.config := by
  intro settings o r w w' i
  have hsame : w.SameButId w' := ⟨rfl, fun _ hoperation ↦ if_neg hoperation⟩
  have htold := fedramp_hides_id.2.2 i rfl (by decide)
  exact ⟨rfl, fedramp_hides_id.2.1 o _ r [] w w' rfl hsame, htold.1, htold.2 "" (by decide),
    (fedramp_hides_id.1 { i with fedramp := true } "" rfl).1⟩

end Operator

end AlertOperator
