import AlertOperator.Alertmanager.Build
import AlertOperator.Proofs.Alertmanager.RoundTrip

/-!
# Built configurations

The receivers of a built configuration have different names, whatever the inputs are: each notifier
has its own names, and contributes each of them once at most. So a built configuration can always be
written. Its routes are three deep, so what is written is read back.
-/

namespace AlertOperator.Alertmanager

/-! ## Names of receivers -/

/-- The names of all receivers, in the order in which a configuration that has them all lists
them. -/
def ReceiverName.all : List String :=
  [watchdog, ocmAgent, pagerduty, makeItWarning, makeItError, makeItCritical, goalertHeartbeat,
    goalert, goalertLow, goalertHigh, null]

theorem ReceiverName.nodup_all : ReceiverName.all.Nodup := by decide

/-- A notifier contributes its receivers once at most. -/
theorem Contribution.names_sublist {p : Prop} [Decidable p] (condition : Bool) (route : Route)
    (receivers : List Receiver) :
    ((Contribution.when condition route (if p then [] else receivers)).receivers.map
      (·.name)).Sublist (receivers.map (·.name)) := by
  apply List.Sublist.map
  cases condition with
  | false => exact List.nil_sublist _
  | true =>
    change (if p then [] else receivers).Sublist receivers
    split
    · exact List.nil_sublist _
    · exact List.Sublist.refl _

/-! ## The depth of routes -/

namespace Route

variable (namespaces : List String) (fedramp : Bool)

theorem depth_leaf_le {r : Route} (h : r.routes = []) : r.tree.depth ≤ 2 := by
  apply depth_tree_le
  rw [h]
  exact nofun

/-- Below the root of a paging notifier all routes are leaves that end the search, and send to the
receiver of some treatment. -/
theorem leaf_of_mem_paging {tiers : Tiers} {namespaces : List String} {fedramp : Bool} {r : Route}
    (h : r ∈ (paging tiers namespaces fedramp).routes) :
    r.routes = [] ∧ r.continues = false ∧ ∃ target, tiers.receiver target = r.receiver := by
  rcases List.mem_append.1 h with h | h
  · obtain ⟨rule, -, rfl⟩ := List.mem_map.1 h
    exact ⟨rfl, rfl, rule.target, rfl⟩
  · obtain ⟨pattern, -, h⟩ := List.mem_flatMap.1 h
    rw [forNamespace, List.mem_cons, List.mem_singleton] at h
    rcases h with rfl | rfl
    all_goals exact ⟨rfl, rfl, .page, rfl⟩

theorem depth_paging_le (tiers : Tiers) : (paging tiers namespaces fedramp).tree.depth ≤ 4 := by
  apply depth_tree_le
  intro r hr
  exact depth_leaf_le (leaf_of_mem_paging hr).1

end Route

theorem Contribution.route_when {condition : Bool} {route r : Route} {receivers : List Receiver}
    (h : (Contribution.when condition route receivers).route = some r) : r = route := by
  cases condition with
  | true => exact (Option.some.inj h).symm
  | false => exact nomatch h

namespace Inputs

variable (i : Inputs)

theorem receivers_config :
    i.config.receivers = i.watchdog.receivers ++ (i.ocmAgent.receivers ++
      (i.pagerduty.receivers ++ (i.heartbeat.receivers ++ (i.goalert.receivers ++
        [Receiver.blackhole ReceiverName.null])))) := by
  simp [config, contributions]

theorem names_watchdog_sublist :
    (i.watchdog.receivers.map (·.name)).Sublist [ReceiverName.watchdog] :=
  Contribution.names_sublist _ _ [.webhook ReceiverName.watchdog _ _]

theorem names_ocmAgent_sublist :
    (i.ocmAgent.receivers.map (·.name)).Sublist [ReceiverName.ocmAgent] :=
  Contribution.names_sublist _ _ [.webhook ReceiverName.ocmAgent _ _]

theorem names_pagerduty_sublist : (i.pagerduty.receivers.map (·.name)).Sublist
    [ReceiverName.pagerduty, ReceiverName.makeItWarning, ReceiverName.makeItError,
      ReceiverName.makeItCritical] :=
  Contribution.names_sublist _ _ _

theorem names_heartbeat_sublist :
    (i.heartbeat.receivers.map (·.name)).Sublist [ReceiverName.goalertHeartbeat] :=
  Contribution.names_sublist _ _ [.webhook ReceiverName.goalertHeartbeat _ _]

theorem names_goalert_sublist : (i.goalert.receivers.map (·.name)).Sublist
    [ReceiverName.goalert, ReceiverName.goalertLow, ReceiverName.goalertHigh] :=
  Contribution.names_sublist _ _ _

theorem names_config_sublist : (i.config.receivers.map (·.name)).Sublist ReceiverName.all := by
  rw [receivers_config, List.map_append, List.map_append, List.map_append, List.map_append,
    List.map_append]
  exact i.names_watchdog_sublist.append <| i.names_ocmAgent_sublist.append <|
    i.names_pagerduty_sublist.append <| i.names_heartbeat_sublist.append <|
      i.names_goalert_sublist.append (List.Sublist.refl _)

theorem nodup_names_config : (i.config.receivers.map (·.name)).Nodup :=
  ReceiverName.nodup_all.sublist i.names_config_sublist

theorem toYaml_config : i.config.toYaml = .ok i.config.tree.render := by
  rw [Config.toYaml, Config.validate_eq_ok_iff.2 i.nodup_names_config]
  rfl

theorem depth_root_le : (Route.root (i.contributions.filterMap (·.route))).tree.depth ≤ 6 := by
  have hleaf : ∀ {r : Route}, r.routes = [] → r.tree.depth ≤ 4 :=
    fun h ↦ (Route.depth_leaf_le h).trans (by decide)
  apply Route.depth_tree_le
  intro r hr
  obtain ⟨c, hc, hroute⟩ := List.mem_filterMap.1 hr
  simp only [contributions, List.mem_cons, List.not_mem_nil, or_false] at hc
  rcases hc with rfl | rfl | rfl | rfl | rfl
  all_goals rw [Contribution.route_when hroute]
  · exact hleaf rfl
  · exact hleaf rfl
  · exact Route.depth_paging_le _ _ _
  · exact hleaf rfl
  · exact Route.depth_paging_le _ _ _

theorem ofYaml_render : Config.ofYaml i.config.tree.render = .ok i.config := by
  have hdepth : i.config.tree.depth ≤ Yaml.maxDepth := by
    rw [← Nat.not_lt, i.config.lt_depth_tree (by decide)]
    rintro ⟨_, ⟨⟩, hdeep⟩
    exact absurd (hdeep.trans i.depth_root_le) (by decide)
  rw [Config.ofYaml, Config.decode?_render, if_pos hdepth]
  change (i.config.validate >>= fun _ ↦ pure i.config) = _
  rw [Config.validate_eq_ok_iff.2 i.nodup_names_config]
  rfl

end Inputs

end AlertOperator.Alertmanager
