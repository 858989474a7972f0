import AlertOperator.Proofs.Alertmanager.Build

/-!
# Configurations that page

A configuration pages if it has a receiver of PagerDuty or GoAlert, or a route that sends to one,
however deep below the root. A built configuration does so only if the key of PagerDuty or an
address of GoAlert is configured: the watchdog and the agent for managed notifications have one
route each, which has none below, and the root itself sends to the receiver that drops alerts.
-/

namespace AlertOperator.Alertmanager

/-- The names of the receivers that page. -/
def ReceiverName.paging : List String :=
  [pagerduty, makeItWarning, makeItError, makeItCritical, goalert, goalertLow, goalertHigh,
    goalertHeartbeat]

/-- The route or one below it sends to the receiver with the given name. -/
inductive Route.SendsTo (name : String) : Route → Prop
  | here {r : Route} (h : r.receiver = name) : SendsTo name r
  | under {r s : Route} (hs : s ∈ r.routes) (h : SendsTo name s) : SendsTo name r

/-- Somebody can be paged. -/
inductive Config.Pages (c : Config) : Prop
  | receiver {r : Receiver} (hr : r ∈ c.receivers) (h : r.name ∈ ReceiverName.paging)
  /-- A receiver of whatever name opens incidents at PagerDuty. -/
  | notifier {r : Receiver} (hr : r ∈ c.receivers) (h : r.pagerduty ≠ [])
  | route {root : Route} {name : String} (hroot : c.route = some root)
    (hname : name ∈ ReceiverName.paging) (h : root.SendsTo name)

/-! ## Notifiers that do not page -/

/-- The contribution of a notifier has nothing that pages. -/
structure Contribution.Silent (c : Contribution) : Prop where
  receivers : ∀ r ∈ c.receivers, r.name ∉ ReceiverName.paging ∧ r.pagerduty = []
  route : ∀ route ∈ c.route, ∀ name ∈ ReceiverName.paging, ¬route.SendsTo name

theorem Contribution.silent_empty : Silent {} := ⟨nofun, nofun⟩

theorem Route.SendsTo.receiver_eq {r : Route} {name : String} (h : r.SendsTo name)
    (hleaf : r.routes = []) : r.receiver = name := by
  rcases h with h | ⟨hs, -⟩
  · exact h
  · rw [hleaf] at hs
    exact absurd hs List.not_mem_nil

/-- One route with none below and a webhook do not page, if none of them has the name of a receiver
that does. -/
theorem Contribution.silent_when {condition : Bool} {route : Route} {receivers : List Receiver}
    {name url proxy : String} (hleaf : route.routes = [])
    (hroute : route.receiver ∉ ReceiverName.paging) (hname : name ∉ ReceiverName.paging)
    (hreceivers : receivers = if url = "" then [] else [Receiver.webhook name url proxy]) :
    (Contribution.when condition route receivers).Silent := by
  cases condition with
  | false => exact silent_empty
  | true =>
    constructor
    · intro r hr
      change r ∈ receivers at hr
      rw [hreceivers] at hr
      split at hr
      · exact absurd hr List.not_mem_nil
      · rw [List.mem_singleton.1 hr]
        exact ⟨hname, rfl⟩
    · rintro _ ⟨⟩ paged hpaged hsends
      rw [hsends.receiver_eq hleaf] at hroute
      exact hroute hpaged

namespace Inputs

variable {i : Inputs}

theorem not_pages_of_silent (h : ∀ c ∈ i.contributions, c.Silent) : ¬i.config.Pages := by
  have hnull : ReceiverName.null ∉ ReceiverName.paging := by decide
  have hreceiver : ∀ r ∈ i.config.receivers, r.name ∉ ReceiverName.paging ∧ r.pagerduty = [] := by
    intro r hr
    rcases List.mem_append.1 hr with hr | hr
    · obtain ⟨c, hc, hrc⟩ := List.mem_flatMap.1 hr
      exact (h c hc).receivers r hrc
    · rw [List.mem_singleton.1 hr]
      exact ⟨hnull, rfl⟩
  rintro (⟨hr, hpaged⟩ | ⟨hr, hpaged⟩ | ⟨⟨⟩, hpaged, hsends⟩)
  · exact (hreceiver _ hr).1 hpaged
  · exact hpaged (hreceiver _ hr).2
  · rcases hsends with hroot | ⟨hs, hbelow⟩
    · rw [← hroot] at hpaged
      exact hnull hpaged
    · obtain ⟨c, hc, hroute⟩ := List.mem_filterMap.1 hs
      exact (h c hc).route _ hroute _ hpaged hbelow

theorem silent_watchdog (i : Inputs) : i.watchdog.Silent :=
  Contribution.silent_when rfl (by decide) (by decide) rfl

theorem silent_ocmAgent (i : Inputs) : i.ocmAgent.Silent :=
  Contribution.silent_when rfl (by decide) (by decide) rfl

theorem not_pages_config (hkey : i.pagerdutyKey = "") (hlow : i.goalertLowUrl = "")
    (hheartbeat : i.goalertHeartbeatUrl = "") : ¬i.config.Pages := by
  have hpagerduty : i.pagerduty = {} := by
    rw [pagerduty, hkey]
    rfl
  have hbeat : i.heartbeat = {} := by
    rw [heartbeat, hheartbeat, bne_self_eq_false, Bool.and_false]
    rfl
  have hgoalert : i.goalert = {} := by
    rw [goalert, hlow, bne_self_eq_false, Bool.and_false, Bool.false_and]
    rfl
  apply not_pages_of_silent
  intro c hc
  rw [contributions, hpagerduty, hbeat, hgoalert] at hc
  simp only [List.mem_cons, List.not_mem_nil, or_false] at hc
  rcases hc with rfl | rfl | rfl | rfl | rfl
  · exact i.silent_watchdog
  · exact i.silent_ocmAgent
  all_goals exact Contribution.silent_empty

theorem receivers_pagerduty (hkey : i.pagerdutyKey ≠ "") : i.pagerduty.receivers
    = Receiver.forPagerduty i.pagerdutyKey i.clusterId i.clusterProxy i.fedramp := by
  rw [pagerduty, bne_iff_ne.2 hkey]
  rfl

theorem pages_config (hkey : i.pagerdutyKey ≠ "") : i.config.Pages := by
  obtain ⟨r, hr, hname⟩ : ∃ r ∈ i.pagerduty.receivers, r.name = ReceiverName.pagerduty := by
    rw [receivers_pagerduty hkey, Receiver.forPagerduty, if_neg hkey]
    exact ⟨_, List.mem_cons_self .., rfl⟩
  have hmem : r ∈ i.config.receivers := by
    rw [receivers_config]
    simp [hr]
  exact .receiver hmem (by rw [hname]; decide)

end Inputs

end AlertOperator.Alertmanager
