import AlertOperator.Proofs.Alertmanager.Paging

/-!
# Routes and receivers of a built configuration

Alertmanager refuses a document in which a route names a receiver that is not defined, or in which
two receivers share a name. The routes of a configuration and its receivers are made apart from each
other, under conditions of their own, so it has to be shown that they go together.

What carries this is a property of each notifier by itself, `Contribution.Coherent`: leaving aside
the receiver that drops alerts, which is always there, the route of a notifier sends to the
receivers of that notifier and to no other, and uses all of them. For the trees of PagerDuty and
GoAlert this comes down to the table of rules: every treatment has a rule in it, so the receivers in
use are those of the `Tiers`, whichever namespaces page.
-/

namespace AlertOperator.Alertmanager

/-- How many notifiers a receiver has. -/
def Receiver.notifierCount (r : Receiver) : Nat :=
  r.pagerduty.length + r.webhooks.length + r.emails.length

/-! ## Receivers of a routing tree -/

namespace Route

variable {r : Route} {name : String}

theorem sendsTo_iff : r.SendsTo name ↔ r.receiver = name ∨ ∃ s ∈ r.routes, s.SendsTo name := by
  constructor
  · rintro (h | ⟨hs, h⟩)
    · exact .inl h
    · exact .inr ⟨_, hs, h⟩
  · rintro (h | ⟨s, hs, h⟩)
    · exact .here h
    · exact .under hs h

theorem sendsTo_leaf (hleaf : r.routes = []) : r.SendsTo name ↔ r.receiver = name :=
  ⟨fun h ↦ h.receiver_eq hleaf, .here⟩

theorem exists_rule (fedramp : Bool) (target : Target) :
    ∃ rule ∈ rulesFor fedramp, rule.target = target := by
  have hbase : ∃ rule ∈ baseRules, rule.target = target := by
    cases target <;> decide
  obtain ⟨rule, hrule, htarget⟩ := hbase
  refine ⟨rule, ?_, htarget⟩
  cases fedramp with
  | false => exact hrule
  | true => exact List.mem_append_left _ hrule

theorem sendsTo_paging {tiers : Tiers} {namespaces : List String} {fedramp : Bool} :
    (paging tiers namespaces fedramp).SendsTo name ↔
      tiers.root = name ∨ ∃ target, tiers.receiver target = name := by
  rw [sendsTo_iff]
  refine or_congr_right ⟨?_, ?_⟩
  · rintro ⟨s, hs, h⟩
    obtain ⟨hleaf, -, target, htarget⟩ := leaf_of_mem_paging hs
    exact ⟨target, htarget.trans ((sendsTo_leaf hleaf).1 h)⟩
  · rintro ⟨target, h⟩
    obtain ⟨rule, hrule, rfl⟩ := exists_rule fedramp target
    exact ⟨rule.route tiers, List.mem_append_left _ (List.mem_map_of_mem hrule), .here h⟩

end Route

theorem Target.exists_iff {p : Target → Prop} :
    (∃ target, p target) ↔ p .drop ∨ p .page ∨ p .warning ∨ p .error ∨ p .critical := by
  constructor
  · rintro ⟨_ | _ | _ | _ | _, h⟩
    all_goals simp only [h, true_or, or_true]
  · rintro (h | h | h | h | h)
    all_goals exact ⟨_, h⟩

/-! ## What a notifier contributes -/

namespace Contribution

/-- Leaving aside the receiver that drops alerts, the route of the notifier sends to the receivers
of the notifier and to no other, and uses all of them. -/
structure Coherent (c : Contribution) : Prop where
  used : ∀ name, name ≠ ReceiverName.null →
    ((∃ route ∈ c.route, route.SendsTo name) ↔ name ∈ c.receivers.map (·.name))
  single : ∀ r ∈ c.receivers, r.notifierCount = 1

theorem coherent_when {condition : Bool} {route : Route} {receivers : List Receiver}
    (h : condition = true → Coherent ⟨some route, receivers⟩) :
    (when condition route receivers).Coherent := by
  cases condition with
  | false => exact ⟨fun name _ ↦ by simp [when], nofun⟩
  | true => exact h rfl

theorem coherent_leaf {route : Route} {name url proxy : String} (hleaf : route.routes = [])
    (hreceiver : route.receiver = name) :
    Coherent ⟨some route, [Receiver.webhook name url proxy]⟩ where
  used other _ := by
    simp [Route.sendsTo_leaf hleaf, hreceiver, Receiver.webhook, eq_comm]
  single r hr := by
    rw [List.mem_singleton.1 hr]
    rfl

/-- The tree of a paging notifier goes together with receivers for all treatments but dropping, if
its root has one of these or drops what no rule takes. -/
theorem coherent_paging {tiers : Tiers} {namespaces : List String} {fedramp : Bool}
    {receivers : List Receiver} (hroot : ∃ target, tiers.receiver target = tiers.root)
    (hnames : ∀ name, name ≠ ReceiverName.null →
      ((∃ target, tiers.receiver target = name) ↔ name ∈ receivers.map (·.name)))
    (hsingle : ∀ r ∈ receivers, r.notifierCount = 1) :
    Coherent ⟨some (Route.paging tiers namespaces fedramp), receivers⟩ where
  used name hname := by
    rw [← hnames name hname]
    simp only [Option.mem_def, Option.some.injEq, exists_eq_left', Route.sendsTo_paging]
    refine or_iff_right_of_imp ?_
    rintro rfl
    exact hroot
  single := hsingle

end Contribution

namespace Inputs

variable (i : Inputs)

theorem coherent_watchdog : i.watchdog.Coherent := by
  refine Contribution.coherent_when fun hurl ↦ ?_
  rw [Receiver.watchdog, if_neg (bne_iff_ne.1 hurl)]
  exact Contribution.coherent_leaf rfl rfl

theorem coherent_ocmAgent : i.ocmAgent.Coherent := by
  refine Contribution.coherent_when fun hurl ↦ ?_
  rw [Receiver.ocmAgent, if_neg (bne_iff_ne.1 hurl)]
  exact Contribution.coherent_leaf rfl rfl

theorem coherent_heartbeat : i.heartbeat.Coherent := by
  refine Contribution.coherent_when fun hcondition ↦ ?_
  rw [Bool.and_eq_true, bne_iff_ne] at hcondition
  rw [Receiver.heartbeat, if_neg hcondition.2]
  exact Contribution.coherent_leaf rfl rfl

theorem coherent_pagerduty : i.pagerduty.Coherent := by
  refine Contribution.coherent_when fun hkey ↦ ?_
  rw [Receiver.forPagerduty, if_neg (bne_iff_ne.1 hkey)]
  refine Contribution.coherent_paging ⟨.drop, rfl⟩ ?_ ?_
  · intro name hname
    simp [Target.exists_iff, Tiers.receiver, Tiers.pagerduty, hname, eq_comm]
  · simp [Receiver.notifierCount]

theorem coherent_goalert : i.goalert.Coherent := by
  refine Contribution.coherent_when fun hcondition ↦ ?_
  simp only [Bool.and_eq_true, bne_iff_ne] at hcondition
  obtain ⟨⟨-, hlow⟩, hhigh⟩ := hcondition
  rw [Receiver.goalert, if_neg (not_or_intro hlow hhigh)]
  refine Contribution.coherent_paging ⟨.page, rfl⟩ ?_ ?_
  · intro name hname
    simp [Target.exists_iff, Tiers.receiver, Tiers.goalert, Receiver.webhook, hname, eq_comm]
  · simp [Receiver.notifierCount, Receiver.webhook]

theorem coherent_of_mem {c : Contribution} (h : c ∈ i.contributions) : c.Coherent := by
  simp only [contributions, List.mem_cons, List.not_mem_nil, or_false] at h
  rcases h with rfl | rfl | rfl | rfl | rfl
  · exact i.coherent_watchdog
  · exact i.coherent_ocmAgent
  · exact i.coherent_pagerduty
  · exact i.coherent_heartbeat
  · exact i.coherent_goalert

/-! ## The whole configuration -/

/-- The receivers to which the tree of a built configuration sends are those that it defines. -/
theorem sendsTo_root_iff {name : String} :
    (Route.root (i.contributions.filterMap (·.route))).SendsTo name ↔
      name ∈ i.config.receivers.map (·.name) := by
  rw [Route.sendsTo_iff, config, List.map_append, List.mem_append]
  by_cases hname : name = ReceiverName.null
  · subst hname
    exact iff_of_true (.inl rfl) (.inr (List.mem_singleton_self _))
  · have hused : (∃ s ∈ i.contributions.filterMap (·.route), s.SendsTo name) ↔
        ∃ c ∈ i.contributions, name ∈ c.receivers.map (·.name) := by
      simp only [List.mem_filterMap]
      constructor
      · rintro ⟨s, ⟨c, hc, hroute⟩, h⟩
        exact ⟨c, hc, ((i.coherent_of_mem hc).used name hname).1 ⟨s, hroute, h⟩⟩
      · rintro ⟨c, hc, h⟩
        obtain ⟨s, hroute, hsends⟩ := ((i.coherent_of_mem hc).used name hname).2 h
        exact ⟨s, ⟨c, hc, hroute⟩, hsends⟩
    have hroot : ReceiverName.null ≠ name := fun h ↦ hname h.symm
    have hlast : name ∉ [Receiver.blackhole ReceiverName.null].map (·.name) := by
      rw [List.map_singleton, List.mem_singleton]
      exact hname
    rw [or_iff_left hlast, List.map_flatMap, List.mem_flatMap, ← hused]
    exact or_iff_right hroot

theorem not_sendsTo_ocmAgent (hurl : i.ocmAgentUrl = "") :
    ¬(Route.root (i.contributions.filterMap (·.route))).SendsTo ReceiverName.ocmAgent := by
  have hnone : i.ocmAgent.receivers = [] := by
    rw [ocmAgent, hurl]
    rfl
  have hnames : (i.config.receivers.map (·.name)).Sublist
      (ReceiverName.all.erase ReceiverName.ocmAgent) := by
    rw [receivers_config, hnone, List.nil_append]
    simp only [List.map_append]
    exact i.names_watchdog_sublist.append <| i.names_pagerduty_sublist.append <|
      i.names_heartbeat_sublist.append <| i.names_goalert_sublist.append (List.Sublist.refl _)
  rw [i.sendsTo_root_iff]
  intro h
  exact absurd (hnames.subset h) (by decide)

/-- Whatever the inputs are, Alertmanager finds the receivers of a configuration in order:

* no two receivers share a name, so the configuration is valid;
* no route is without a receiver, and the receivers to which routes send, at any depth, are exactly
  those that are defined;
* the last receiver drops what it is sent, and each of the others has another name and one
  notifier. -/
theorem coherent_config :
    ((i.config.receivers.map (·.name)).Nodup ∧ i.config.validate = .ok ()) ∧
    (∃ root, i.config.route = some root ∧ ¬root.SendsTo "" ∧
      ∀ name, root.SendsTo name ↔ name ∈ i.config.receivers.map (·.name)) ∧
    ∃ rs last, i.config.receivers = rs ++ [last] ∧
      last.name = ReceiverName.null ∧ last.notifierCount = 0 ∧
      ∀ r ∈ rs, r.name ≠ ReceiverName.null ∧ r.notifierCount = 1 := by
  have hnodup := i.nodup_names_config
  refine ⟨⟨hnodup, Config.validate_eq_ok_iff.2 hnodup⟩, ⟨_, rfl, ?_, fun name ↦ i.sendsTo_root_iff⟩,
    i.contributions.flatMap (·.receivers), _, rfl, rfl, rfl, fun r hr ↦ ⟨?_, ?_⟩⟩
  · rw [i.sendsTo_root_iff]
    intro h
    exact absurd (i.names_config_sublist.subset h) (by decide)
  · -- the last receiver already has that name
    rw [config, List.map_append] at hnodup
    exact (List.nodup_append.1 hnodup).2.2 _ (List.mem_map_of_mem hr) _ (List.mem_singleton_self _)
  · obtain ⟨c, hc, hrc⟩ := List.mem_flatMap.1 hr
    exact (i.coherent_of_mem hc).single r hrc

end Inputs

end AlertOperator.Alertmanager
