import AlertOperator.Proofs.Alertmanager.PagingTree

/-!
# Managed notifications

Alerts that ask to be sent as managed notifications go to the agent for these, and page nobody. Two
independent arrangements see to this. If there is an agent, its route comes before all trees that
page, and ends the search. If there is none, the trees are reached, and a rule near the top of their
table drops such alerts. Only the rules for machines of the control plane come before that rule, so
an alert on one of these still pages.

The trees and the other routes below the root are few, so what the root delivers is written out
once, `Inputs.deliverBelow_contributions`.
-/

namespace AlertOperator.Alertmanager

variable {matching : Matching} {alert : Alert}

/-- The receivers by which somebody is paged for an alert. The heartbeat of GoAlert is not one of
them: it is told of the alert that always fires, so as to notice when it stops. -/
def ReceiverName.pagers : List String :=
  [pagerduty, makeItWarning, makeItError, makeItCritical, goalert, goalertLow, goalertHigh]

/-! ## What the root delivers -/

namespace Route

theorem takes_heartbeatTo {receiver : String} :
    (heartbeatTo receiver).takes matching alert = true ↔ alert "alertname" = "Watchdog" := by
  rw [takes_iff rfl (show _ = Dict.ofList [] from rfl) (by simp)]
  simp

theorem takes_ocmAgent : ocmAgent.takes matching alert = true ↔ alert managedLabel = "true" := by
  rw [takes_iff rfl (show _ = Dict.ofList [] from rfl) (by simp)]
  simp

theorem mem_deliver_root {routes : List Route} {name : String} (hname : name ≠ ReceiverName.null) :
    name ∈ (root routes).deliver matching alert ↔ name ∈ deliverBelow matching alert routes := by
  rw [deliver_eq]
  change name ∈ (if deliverBelow matching alert routes = [] then [ReceiverName.null] else _) ↔ _
  split_ifs with hnil
  · rw [hnil, List.mem_singleton]
    exact iff_of_false hname List.not_mem_nil
  · rfl

theorem deliver_root_of_ne_nil {routes : List Route}
    (h : deliverBelow matching alert routes ≠ []) :
    (root routes).deliver matching alert = deliverBelow matching alert routes := by
  rw [deliver_eq]
  exact if_neg h

end Route

namespace Contribution

variable {condition : Bool} {route : Route} {receivers : List Receiver} {cs : List Contribution}

theorem deliverBelow_when :
    Route.deliverBelow matching alert ((when condition route receivers :: cs).filterMap (·.route))
      = if condition = true ∧ route.takes matching alert = true then
          route.deliver matching alert ++
            (if route.continues then Route.deliverBelow matching alert (cs.filterMap (·.route))
              else [])
        else Route.deliverBelow matching alert (cs.filterMap (·.route)) := by
  cases condition with
  | false => rfl
  | true =>
    have hroute : (when true route receivers).route = some route := rfl
    rw [List.filterMap_cons_some hroute, Route.deliverBelow]
    simp only [true_and]

theorem deliverBelow_when_continues (h : route.continues = true) :
    Route.deliverBelow matching alert ((when condition route receivers :: cs).filterMap (·.route))
      = (if condition = true ∧ route.takes matching alert = true then route.deliver matching alert
          else []) ++ Route.deliverBelow matching alert (cs.filterMap (·.route)) := by
  rw [deliverBelow_when, if_pos h]
  split_ifs
  · rfl
  · rfl

theorem deliverBelow_when_ends (h : route.continues = false) :
    Route.deliverBelow matching alert ((when condition route receivers :: cs).filterMap (·.route))
      = if condition = true ∧ route.takes matching alert = true then route.deliver matching alert
        else Route.deliverBelow matching alert (cs.filterMap (·.route)) := by
  rw [deliverBelow_when, if_neg (ne_true_of_eq_false h), List.append_nil]

end Contribution

namespace Inputs

variable (i : Inputs)

/-- What is delivered below the root: to the watchdog, and then either to the agent for managed
notifications alone or to the notifiers that page. -/
theorem deliverBelow_contributions :
    Route.deliverBelow matching alert (i.contributions.filterMap (·.route))
      = (if i.watchdogUrl ≠ "" ∧ alert "alertname" = "Watchdog" then [ReceiverName.watchdog]
          else []) ++
        if i.ocmAgentUrl ≠ "" ∧ alert managedLabel = "true" then [ReceiverName.ocmAgent]
        else
          (if i.pagerdutyKey ≠ "" then
              (Route.pagerduty i.namespaces i.fedramp).deliver matching alert
            else []) ++
          ((if (i.fedramp = true ∧ i.goalertHeartbeatUrl ≠ "") ∧ alert "alertname" = "Watchdog" then
              [ReceiverName.goalertHeartbeat]
            else []) ++
          if (i.fedramp = true ∧ i.goalertLowUrl ≠ "") ∧ i.goalertHighUrl ≠ "" then
            (Route.goalert i.namespaces i.fedramp).deliver matching alert
          else []) := by
  have hpaging : ∀ {tiers : Tiers},
      (Route.paging tiers i.namespaces i.fedramp).takes matching alert = true := rfl
  have hheartbeat : ∀ {receiver : String},
      (Route.heartbeatTo receiver).deliver matching alert = [receiver] := Route.deliver_leaf rfl
  have hagent : Route.ocmAgent.deliver matching alert = [ReceiverName.ocmAgent] :=
    Route.deliver_leaf rfl
  rw [contributions, watchdog, Contribution.deliverBelow_when_continues rfl, ocmAgent,
    Contribution.deliverBelow_when_ends rfl, pagerduty,
    Contribution.deliverBelow_when_continues rfl, heartbeat,
    Contribution.deliverBelow_when_continues rfl, goalert,
    Contribution.deliverBelow_when_continues rfl, List.filterMap_nil, Route.deliverBelow,
    List.append_nil]
  simp only [Route.watchdog, Route.heartbeat, Route.pagerduty, Route.goalert,
    Route.takes_heartbeatTo, Route.takes_ocmAgent, hpaging, hheartbeat, hagent, bne_iff_ne,
    Bool.and_eq_true, and_true]

end Inputs

/-! ## Managed notifications in the trees that page -/

/-- The rules at the head of the table, for machines of the control plane that are gone. -/
def Rule.machineRules : List Rule := baseRules.take 2

/-- The alert is about a machine of the control plane that is gone. -/
def MachineGone (matching : Matching) (alert : Alert) : Prop :=
  ∃ rule ∈ Rule.machineRules, rule.takes matching alert = true

instance : Decidable (MachineGone matching alert) :=
  inferInstanceAs (Decidable (∃ rule ∈ Rule.machineRules, rule.takes matching alert = true))

/-- Right after the rules for machines comes the one that drops managed notifications. -/
theorem Route.exists_rulesFor_eq (fedramp : Bool) :
    ∃ rest, rulesFor fedramp = Rule.machineRules ++ .drop [(managedLabel, "true")] :: rest := by
  cases fedramp with
  | false => exact ⟨_, rfl⟩
  | true => exact ⟨_, rfl⟩

/-- A managed notification is dropped, unless a machine of the control plane is gone. -/
theorem Route.deliver_paging_managed (hmanaged : alert managedLabel = "true") (tiers : Tiers)
    (namespaces : List String) (fedramp : Bool) :
    (paging tiers namespaces fedramp).deliver matching alert
      = [if MachineGone matching alert then tiers.critical else ReceiverName.null] := by
  obtain ⟨rest, hrules⟩ := exists_rulesFor_eq fedramp
  have htakes : (Rule.drop [(managedLabel, "true")]).takes matching alert = true := by
    simp [Rule.takes, Rule.drop, hmanaged]
  rw [deliver_paging, hrules, List.find?_append, List.find?_cons_of_pos htakes]
  rcases hmachine : Rule.machineRules.find? (Rule.takes matching alert) with _ | rule
  · have hnot : ¬MachineGone matching alert := by
      rintro ⟨rule, hrule, h⟩
      exact List.find?_eq_none.1 hmachine rule hrule h
    rw [if_neg hnot]
    rfl
  · have hrule := List.mem_of_find?_eq_some hmachine
    have hgone : MachineGone matching alert := ⟨rule, hrule, List.find?_some hmachine⟩
    have htarget : ∀ rule ∈ Rule.machineRules, rule.target = .critical := by decide
    rw [if_pos hgone, Option.or_some, Option.elim_some, Option.getD_some, htarget rule hrule]
    rfl

namespace Inputs

variable (i : Inputs)

/-- Where managed notifications go, whatever other labels they have and whatever it means to match a
pattern. If there is an agent for them, they go to it, and besides only to the watchdog. If there is
none, those about a machine of the control plane that is gone page as critical, wherever paging is
configured, and the others page nobody. -/
theorem deliver_managed (matching : Matching) (alert : Alert)
    (hmanaged : alert managedLabel = "true") :
    ∃ root, i.config.route = some root ∧ root.takes matching alert = true ∧
      (i.ocmAgentUrl ≠ "" → root.deliver matching alert
        = (if i.watchdogUrl ≠ "" ∧ alert "alertname" = "Watchdog" then [ReceiverName.watchdog]
            else []) ++ [ReceiverName.ocmAgent]) ∧
      (i.ocmAgentUrl = "" → ∀ name ∈ ReceiverName.pagers,
        (name ∈ root.deliver matching alert ↔ MachineGone matching alert ∧
          ((i.pagerdutyKey ≠ "" ∧ name = ReceiverName.makeItCritical) ∨
            ((i.fedramp = true ∧ i.goalertLowUrl ≠ "") ∧ i.goalertHighUrl ≠ "" ∧
              name = ReceiverName.goalertHigh)))) := by
  refine ⟨_, rfl, rfl, fun hagent ↦ ?_, fun hagent name hname ↦ ?_⟩
  · have hends : i.ocmAgentUrl ≠ "" ∧ alert managedLabel = "true" := ⟨hagent, hmanaged⟩
    rw [Route.deliver_root_of_ne_nil, deliverBelow_contributions, if_pos hends]
    rw [deliverBelow_contributions, if_pos hends]
    exact List.append_ne_nil_of_right_ne_nil _ (List.cons_ne_nil _ _)
  · have hpasses : ¬(i.ocmAgentUrl ≠ "" ∧ alert managedLabel = "true") := fun h ↦ h.1 hagent
    have hne : ∀ other ∉ ReceiverName.pagers, name ≠ other := fun other hother h ↦
      hother (h ▸ hname)
    have hnull : name ≠ ReceiverName.null := hne _ (by decide)
    have hwatchdog : name ≠ ReceiverName.watchdog := hne _ (by decide)
    have hheartbeat : name ≠ ReceiverName.goalertHeartbeat := hne _ (by decide)
    rw [Route.mem_deliver_root hnull, deliverBelow_contributions, if_neg hpasses, Route.pagerduty,
      Route.goalert, Route.deliver_paging_managed hmanaged, Route.deliver_paging_managed hmanaged]
    simp only [List.mem_append, List.mem_ite_nil_right, List.mem_singleton, hwatchdog, hheartbeat,
      and_false, false_or]
    by_cases hgone : MachineGone matching alert
    · simp only [hgone, if_true, true_and, and_assoc]
      rfl
    · simp only [hgone, if_false, hnull, and_false, or_false, false_and]

/-- A managed notification about a machine of the control plane that is gone. -/
def managedMachine : Alert := fun label ↦
  if label = managedLabel then "true"
  else if label = "alertname" then "MachineWithoutValidNode"
  else if label = "namespace" then "openshift-machine-api"
  else if label = "name" then "prod-master-1"
  else ""

/-- Such a notification pages as critical without an agent, and goes to the agent alone with one. -/
theorem deliver_managed_machine :
    managedMachine managedLabel = "true" ∧
    (∃ root, ({ pagerdutyKey := "key" } : Inputs).config.route = some root ∧
      ReceiverName.makeItCritical ∈ root.deliver (fun _ _ ↦ true) managedMachine ∧
      ReceiverName.pagerduty ∉ root.deliver (fun _ _ ↦ true) managedMachine) ∧
    ∃ root, ({ pagerdutyKey := "key", ocmAgentUrl := "http://agent" } : Inputs).config.route
        = some root ∧
      root.deliver (fun _ _ ↦ true) managedMachine = [ReceiverName.ocmAgent] := by
  have hmanaged : managedMachine managedLabel = "true" := by decide
  have hgone : MachineGone (fun _ _ ↦ true) managedMachine := by decide
  refine ⟨hmanaged, ?_, ?_⟩
  · obtain ⟨root, hroot, -, -, hpages⟩ :=
      deliver_managed { pagerdutyKey := "key" } (fun _ _ ↦ true) managedMachine hmanaged
    refine ⟨root, hroot, ?_, ?_⟩
    · exact (hpages rfl _ (by decide)).2 ⟨hgone, .inl ⟨by decide, rfl⟩⟩
    · rw [hpages rfl _ (by decide)]
      decide
  · obtain ⟨root, hroot, -, hagent, -⟩ :=
      deliver_managed { pagerdutyKey := "key", ocmAgentUrl := "http://agent" } (fun _ _ ↦ true)
        managedMachine hmanaged
    exact ⟨root, hroot, hagent (by decide)⟩

end Inputs

end AlertOperator.Alertmanager
