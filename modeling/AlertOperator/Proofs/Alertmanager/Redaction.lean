import AlertOperator.Proofs.Alertmanager.Paging
import AlertOperator.Proofs.Dict

/-!
# What a configuration tells of its cluster

The id of the cluster enters a configuration in one place only, the details of an incident, and
there under two keys. In FedRAMP environments both are among the details that are made blank, so the
configuration is the same for every id. Everywhere else the id stands under one of the keys as it
is, and can be read off.
-/

namespace AlertOperator.Alertmanager

/-! ## The details of an incident -/

namespace Pagerduty

/-- The details in which the id of the cluster stands. -/
def identifyingDetails : List String := ["ocm_link", "cluster_id"]

theorem identifyingDetails_subset : identifyingDetails ⊆ sensitiveDetails := by decide

theorem get?_fullDetails {key : String} (hkey : key ∉ identifyingDetails) (id id' : String) :
    (fullDetails id).get? key = (fullDetails id').get? key := by
  rw [identifyingDetails, List.mem_cons, List.mem_singleton, not_or] at hkey
  simp only [fullDetails, Dict.ofList, List.foldl_cons, List.foldl_nil, Dict.get?_insert,
    if_neg hkey.1, if_neg hkey.2]

theorem get?_fullDetails_clusterId (id : String) :
    (fullDetails id).get? "cluster_id" = some id := by
  rw [fullDetails, Dict.ofList]
  simp only [List.foldl_cons, List.foldl_nil, Dict.get?_insert, if_true]

theorem redactedDetails_eq (id id' : String) : redactedDetails id = redactedDetails id' := by
  refine Dict.ext_get? fun key ↦ ?_
  rw [redactedDetails, redactedDetails, Dict.get?_foldl_insert, Dict.get?_foldl_insert]
  by_cases hkey : key ∈ sensitiveDetails
  · rw [if_pos hkey, if_pos hkey]
  · rw [if_neg hkey, if_neg hkey]
    exact get?_fullDetails (fun h ↦ hkey (identifyingDetails_subset h)) id id'

end Pagerduty

theorem Receiver.forPagerduty_fedramp (routingKey proxy id id' : String) :
    forPagerduty routingKey id proxy true = forPagerduty routingKey id' proxy true := by
  simp only [forPagerduty, Pagerduty.notifier, if_true, Pagerduty.redactedDetails_eq id id']

/-! ## Configurations -/

/-- The id of the cluster that the first incident notifier of a configuration tells, if there is
one that tells any. -/
def Config.clusterId? (c : Config) : Option String :=
  (c.receivers.flatMap (·.pagerduty)).head?.bind (·.details.get? "cluster_id")

namespace Inputs

variable {i : Inputs}

theorem config_of_fedramp (hfedramp : i.fedramp = true) (id : String) :
    { i with clusterId := id }.config = i.config := by
  have hpagerduty : { i with clusterId := id }.pagerduty = i.pagerduty := by
    rw [pagerduty, pagerduty, hfedramp, Receiver.forPagerduty_fedramp _ _ id i.clusterId]
  have hcontributions : { i with clusterId := id }.contributions = i.contributions := by
    rw [contributions, hpagerduty]
    rfl
  rw [config, hcontributions, config]

/-- Where nothing is redacted, the id can be read off every configuration that opens incidents. -/
theorem clusterId?_config (hfedramp : i.fedramp = false) (hkey : i.pagerdutyKey ≠ "") :
    i.config.clusterId? = some i.clusterId := by
  have hnone : ∀ {c : Contribution}, c.Silent → c.receivers.flatMap (·.pagerduty) = [] :=
    fun h ↦ List.flatMap_eq_nil_iff.2 fun r hr ↦ (h.receivers r hr).2
  rw [Config.clusterId?, receivers_config, List.flatMap_append, List.flatMap_append,
    List.flatMap_append, hnone i.silent_watchdog, hnone i.silent_ocmAgent, receivers_pagerduty hkey,
    Receiver.forPagerduty, if_neg hkey, hfedramp]
  exact Pagerduty.get?_fullDetails_clusterId i.clusterId

end Inputs

end AlertOperator.Alertmanager
