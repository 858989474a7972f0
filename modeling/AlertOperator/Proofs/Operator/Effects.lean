import AlertOperator.Proofs.Operator.Pass

/-!
# What a pass does to the cluster

A pass that no request is in need of does nothing. Any other pass first asks the gate, and an error
of the gate is the only thing that stops it. What follows is the same whichever calls fail: four
calls that read and one that writes a secret, and one more that adds the secret if there is none to
replace. So the secret of Alertmanager is written as a whole or not at all, and nothing else in the
cluster is touched.

Operators with a gate and operators that go by an assumed verdict are treated alike here. Of the
gate it is only used that a check of it leaves secrets and config maps alone.
-/

namespace AlertOperator

open Cluster (Call Secret Session StoreError World)
open Retry (Requeue)
open Time (Instant)

/-- The secret is that of Alertmanager in the namespace `ns`, with the document `text` and with
nothing else in it. -/
structure HoldsDocument (ns text : String) (secret : Secret) : Prop where
  name : secret.name = some Cluster.alertmanagerSecret
  ns : secret.ns = some ns
  data : ∃ d, secret.data = some d ∧ d.entries = [(Cluster.configKey, Bytes.ofString text)]

namespace Operator

/-- Between the two states an update has been made that was to write `secret`. -/
structure Updates (secret : Secret) (o : Operator) (s : Session) (o' : Operator) (s' : Session) :
    Prop where
  /-- Each call is made once, in this order, and the last one only if there is no secret to
  replace. -/
  calls : s'.calls = s.calls ++ [.listSecrets o.settings.ns, .listConfigMaps o.settings.ns,
    .clusterProxy, .clusterId, .replaceSecret secret] ++
      if s.world.misses secret then [.createSecret secret] else []
  /-- Nothing but secrets is changed. -/
  rest : s'.world = { s.world with secrets := s'.world.secrets }
  /-- Secrets of other names stay as they are, in their order. -/
  others : s'.world.secrets.filter (·.name ≠ some Cluster.alertmanagerSecret)
    = s.world.secrets.filter (·.name ≠ some Cluster.alertmanagerSecret)
  /-- The secret is replaced or added, or all secrets stay as they are. -/
  secrets : s.world.Upserted secret s'.world.secrets
  /-- It is counted if they do. -/
  writeErrors : o'.metrics.writeErrors
    = o.metrics.writeErrors + if s.world.accepts secret then 0 else 1

variable (ready : Bool) (o : Operator) (s : Session)

theorem holdsDocument_desired (w : World) :
    HoldsDocument o.settings.ns (o.finds ready w).inputs.config.tree.render (o.desired ready w) :=
  ⟨rfl, rfl, _, rfl, rfl⟩

theorem updates_update :
    o.Updates (o.desired ready s.world) s (o.update ready s).1 (o.update ready s).2 := by
  obtain ⟨hcalls, hrest, hsecrets⟩ :=
    (Session.upserts_upsertSecret (o.desired ready s.world) ⟨s.world, s.calls ++ o.lookups⟩).1
  rw [update_eq]
  refine ⟨?_, hrest, ?_, hsecrets, ?_⟩
  · rw [hcalls, lookups]
    simp
  · exact Session.Upserts.others ⟨hcalls, hrest, hsecrets⟩
  · cases s.world.accepts (o.desired ready s.world) with
    | true => rfl
    | false => rfl

/-- What a pass does, for any request, whatever the gate says and whichever calls fail:

* a request for another namespace or for an object that is not in use is answered at once, and
  neither the gate is asked nor the cluster;
* otherwise the gate is asked, by calls of its own that change no more than the readiness job, and
  if it ends in an error, so does the pass, with the wish of the gate and without any other call;
* if it has an answer, the pass ends without an error, whatever fails, with the wish of the gate,
  and makes an update with the document of the configuration for what it finds.

There is no result only where the gate has none. -/
theorem reconcile_effects (now : Instant) (r : Request) :
    ((r.ns ≠ o.settings.ns ∨ r.name ∉ Cluster.watchedNames) →
      o.reconcile now r s = some (.ok .never, o, s)) ∧
    (r.ns = o.settings.ns ∧ r.name ∈ Cluster.watchedNames →
      (o.checkReady now s = none → o.reconcile now r s = none) ∧
      ∀ answer o₁ s₁, o.checkReady now s = some (answer, o₁, s₁) →
        o₁ = { o with gate := o₁.gate } ∧ s.Spares s₁ ∧
        match answer with
        | .error e => o.reconcile now r s = some (.error ⟨e, o₁.requeue⟩, o₁, s₁)
        | .ok ready => ∃ text secret o₂ s₂,
          o.reconcile now r s = some (.ok o₁.requeue, o₂, s₂) ∧
          (o₁.finds ready s₁.world).inputs.config.toYaml = .ok text ∧
          HoldsDocument o.settings.ns text secret ∧ o₁.Updates secret s₁ o₂ s₂) := by
  refine ⟨fun hskip ↦ ?_, fun hconcerns ↦ ?_⟩
  · rw [reconcile, if_neg]
    rw [concerns_iff, not_and_or]
    exact hskip
  · rw [reconcile, if_pos (concerns_iff.2 hconcerns)]
    refine ⟨fun hnone ↦ by rw [hnone]; rfl, fun answer o₁ s₁ hcheck ↦ ?_⟩
    obtain ⟨hsame, hspares⟩ := checkReady_spares hcheck
    refine ⟨hsame, hspares, ?_⟩
    rw [hcheck]
    cases answer with
    | error e => rfl
    | ok ready =>
      have hkeeps := (update_spec ready o₁ s₁).1
      have hupdates := o₁.updates_update ready s₁
      have hns : o₁.settings = o.settings := by rw [hsame]
      rcases hupdate : o₁.update ready s₁ with ⟨o₂, s₂⟩
      rw [hupdate] at hkeeps hupdates
      refine ⟨_, _, o₂, s₂, ?_, (o₁.finds ready s₁.world).inputs.toYaml_config,
        hns ▸ o₁.holdsDocument_desired ready s₁.world, hupdates⟩
      simp only [Option.map_some, hupdate, hkeeps.requeue]

/-- Secrets can be neither listed nor added, and there is none to replace. The pass ends as the
operator wishes all the same, and it is counted that nothing was written. -/
theorem reconcile_effects_refused :
    let o : Operator := { assumed := some ⟨.ok true, .immediately⟩ }
    let w : World :=
      { failing := fun op ↦ if op = .listSecrets ∨ op = .createSecret then some .refused else none }
    let r (name : String) : Request := ⟨o.settings.ns, name⟩
    o.reconcile ⟨0, 0⟩ (r "other") { world := w } = some (.ok .never, o, { world := w }) ∧
    ∃ o₂ s₂, o.reconcile ⟨0, 0⟩ (r Cluster.alertmanagerSecret) { world := w }
        = some (.ok .immediately, o₂, s₂) ∧
      s₂.calls.length = 6 ∧ s₂.world.secrets = [] ∧ o₂.metrics.writeErrors = 1 := by
  intro o w r
  have hother := o.reconcile_effects { world := w } ⟨0, 0⟩ (r "other")
  have hwatched := o.reconcile_effects { world := w } ⟨0, 0⟩ (r Cluster.alertmanagerSecret)
  refine ⟨hother.1 (.inr (by decide)), ?_⟩
  obtain ⟨-, -, text, secret, o₂, s₂, hresult, -, -, hupdates⟩ :=
    (hwatched.2 ⟨rfl, by decide⟩).2 _ o { world := w } rfl
  refine ⟨o₂, s₂, hresult, ?_, ?_, hupdates.writeErrors⟩
  · rw [hupdates.calls]
    rfl
  · have hsecrets := hupdates.secrets
    generalize s₂.world.secrets = ss at hsecrets ⊢
    cases hsecrets with
    | replaced hanswer => exact nomatch hanswer
    | created _ hworks => exact nomatch hworks
    | failed => rfl

end Operator

end AlertOperator
