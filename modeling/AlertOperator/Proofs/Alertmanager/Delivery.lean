import AlertOperator.Alertmanager.Delivery
import AlertOperator.Proofs.Alertmanager.Integrity
import Mathlib.Data.List.Forall2
import Mathlib.Data.List.Nodup

/-!
# Where a built configuration delivers alerts

No alert is lost: a route that takes an alert delivers it somewhere, since it has a receiver of its
own to fall back on, and the root takes every alert. And no notifier is told of an alert twice. Its
tree below the root delivers to one receiver, because the routes in it end the search, and the trees
of different notifiers have no receiver in common but the one that drops alerts.

Which route takes the alert plays no part in this, and neither does the order of the routes: what
siblings deliver is in any case some of what each of them would deliver by itself,
`deliverBelow_sublist`. So everything is said of the contributions of the notifiers, one by one.
-/

namespace AlertOperator.Alertmanager

/-! ## Delivery in any routing tree -/

namespace Route

variable {matching : Matching} {alert : Alert} {name : String} {r : Route} {rs : List Route}

theorem deliver_eq (r : Route) : r.deliver matching alert =
    if deliverBelow matching alert r.routes = [] then [r.receiver]
    else deliverBelow matching alert r.routes := by
  obtain ⟨receiver, _, _, _, _, routes, _, _, _⟩ := r
  rw [deliver]
  split
  · rename_i hnil
    rw [if_pos hnil]
  · rename_i hne
    rw [if_neg hne]

theorem deliver_leaf (hleaf : r.routes = []) : r.deliver matching alert = [r.receiver] := by
  rw [deliver_eq, hleaf, deliverBelow, if_pos rfl]

theorem deliver_ne_nil (r : Route) : r.deliver matching alert ≠ [] := by
  rw [deliver_eq]
  split
  · exact List.cons_ne_nil _ _
  · assumption

theorem deliverBelow_sublist (rs : List Route) :
    (deliverBelow matching alert rs).Sublist (rs.flatMap (deliver matching alert)) := by
  induction rs with
  | nil => exact List.Sublist.refl _
  | cons r rs ih =>
    rw [deliverBelow, List.flatMap_cons]
    split
    · refine (List.Sublist.refl _).append ?_
      split
      · exact ih
      · exact List.nil_sublist _
    · exact ih.trans (List.sublist_append_right _ _)

theorem deliverBelow_of_leaves (h : ∀ r ∈ rs, r.routes = [] ∧ r.continues = false) :
    deliverBelow matching alert rs
      = ((rs.find? (takes matching alert)).map (·.receiver)).toList := by
  induction rs with
  | nil => rfl
  | cons r rs ih =>
    obtain ⟨⟨hleaf, hends⟩, hrest⟩ := List.forall_mem_cons.1 h
    rw [deliverBelow, deliver_leaf hleaf, hends, ih hrest, List.find?_cons]
    cases r.takes matching alert with
    | false => rfl
    | true => rfl

theorem deliver_of_leaves (h : ∀ s ∈ r.routes, s.routes = [] ∧ s.continues = false) :
    r.deliver matching alert
      = [((r.routes.find? (takes matching alert)).map (·.receiver)).getD r.receiver] := by
  rw [deliver_eq, deliverBelow_of_leaves h]
  cases r.routes.find? (takes matching alert) with
  | none => rfl
  | some s => rfl

mutual

theorem sendsTo_of_mem_deliver : (r : Route) → name ∈ r.deliver matching alert → r.SendsTo name
  | ⟨receiver, _, _, _, _, routes, _, _, _⟩, h => by
    rw [deliver_eq] at h
    split at h
    · exact .here (List.mem_singleton.1 h).symm
    · obtain ⟨s, hs, hsends⟩ := exists_sendsTo_of_mem_deliverBelow routes h
      exact .under hs hsends

theorem exists_sendsTo_of_mem_deliverBelow :
    (rs : List Route) → name ∈ deliverBelow matching alert rs → ∃ r ∈ rs, r.SendsTo name
  | [], h => by
    rw [deliverBelow] at h
    exact absurd h List.not_mem_nil
  | r :: rs, h => by
    rw [deliverBelow] at h
    split at h
    · rcases List.mem_append.1 h with h | h
      · exact ⟨r, List.mem_cons_self .., sendsTo_of_mem_deliver r h⟩
      · split at h
        · obtain ⟨s, hs, hsends⟩ := exists_sendsTo_of_mem_deliverBelow rs h
          exact ⟨s, List.mem_cons_of_mem _ hs, hsends⟩
        · exact absurd h List.not_mem_nil
    · obtain ⟨s, hs, hsends⟩ := exists_sendsTo_of_mem_deliverBelow rs h
      exact ⟨s, List.mem_cons_of_mem _ hs, hsends⟩

end

/-- What the root delivers is part of what the routes below it would deliver, unless the alert is
dropped. -/
theorem deliver_root (routes : List Route) :
    (root routes).deliver matching alert = [ReceiverName.null] ∨
      ((root routes).deliver matching alert).Sublist (routes.flatMap (deliver matching alert)) := by
  rw [deliver_eq]
  split
  · exact .inl rfl
  · exact .inr (deliverBelow_sublist routes)

theorem leaves_paging {tiers : Tiers} {namespaces : List String} {fedramp : Bool} :
    ∀ r ∈ (paging tiers namespaces fedramp).routes, r.routes = [] ∧ r.continues = false := by
  intro r hr
  obtain ⟨hleaf, hends, -⟩ := leaf_of_mem_paging hr
  exact ⟨hleaf, hends⟩

theorem exists_deliver_paging (tiers : Tiers) (namespaces : List String) (fedramp : Bool) :
    ∃ name, (paging tiers namespaces fedramp).deliver matching alert = [name] :=
  ⟨_, deliver_of_leaves leaves_paging⟩

end Route

/-! ## Deliveries by notifier -/

/-- The receivers of each notifier, in the order of the contributions. -/
def ReceiverName.families : List (List String) := [
  [watchdog],
  [ocmAgent],
  [pagerduty, makeItWarning, makeItError, makeItCritical],
  [goalertHeartbeat],
  [goalert, goalertLow, goalertHigh]]

theorem ReceiverName.disjoint_families : families.Pairwise List.Disjoint :=
  (List.nodup_flatten.1 (by decide)).2

/-- At most one receiver, which is of the given family or drops alerts. -/
structure Single (names family : List String) : Prop where
  length_le : names.length ≤ 1
  mem : ∀ name ∈ names, name = ReceiverName.null ∨ name ∈ family

theorem mem_families_of_mem_flatten {xss families : List (List String)}
    (h : List.Forall₂ Single xss families) {name : String} (hname : name ∈ xss.flatten) :
    name = ReceiverName.null ∨ ∃ family ∈ families, name ∈ family := by
  induction h with
  | nil => exact absurd hname List.not_mem_nil
  | cons hsingle _ ih =>
    rw [List.flatten_cons, List.mem_append] at hname
    rcases hname with hname | hname
    · exact (hsingle.mem name hname).imp_right fun h ↦ ⟨_, List.mem_cons_self .., h⟩
    · refine (ih hname).imp_right ?_
      rintro ⟨family, hfamily, h⟩
      exact ⟨family, List.mem_cons_of_mem _ hfamily, h⟩

/-- If each list has at most one receiver, of a family of its own, no family has more than one
receiver in all lists together. -/
theorem countP_flatten_le_one {xss families : List (List String)}
    (h : List.Forall₂ Single xss families) (hdisjoint : families.Pairwise List.Disjoint)
    (hnull : ∀ family ∈ families, ReceiverName.null ∉ family) :
    ∀ family ∈ families, xss.flatten.countP (· ∈ family) ≤ 1 := by
  induction h with
  | nil => exact nofun
  | @cons xs first xss rest hsingle hrest ih =>
    obtain ⟨hfirst, hdisjoint⟩ := List.pairwise_cons.1 hdisjoint
    obtain ⟨hnullFirst, hnullRest⟩ := List.forall_mem_cons.1 hnull
    intro family hfamily
    rw [List.flatten_cons, List.countP_append]
    rcases List.mem_cons.1 hfamily with rfl | hfamily
    · -- the other lists have nothing of this family
      have hother : xss.flatten.countP (· ∈ family) = 0 := by
        rw [List.countP_eq_zero]
        intro name hname
        rw [decide_eq_true_eq]
        rcases mem_families_of_mem_flatten hrest hname with rfl | ⟨other, hother, hmem⟩
        · exact hnullFirst
        · exact fun h ↦ hfirst other hother h hmem
      rw [hother, Nat.add_zero]
      exact List.countP_le_length.trans hsingle.length_le
    · -- and this list has nothing of theirs
      have hown : xs.countP (· ∈ family) = 0 := by
        rw [List.countP_eq_zero]
        intro name hname
        rw [decide_eq_true_eq]
        rcases hsingle.mem name hname with rfl | hmem
        · exact hnullRest family hfamily
        · exact fun h ↦ hfirst family hfamily hmem h
      rw [hown, Nat.zero_add]
      exact ih hdisjoint hnullRest family hfamily

namespace Contribution

variable (matching : Matching) (alert : Alert)

/-- The receivers to which the route of a notifier delivers an alert that it takes. -/
def deliver (c : Contribution) : List String := c.route.elim [] (Route.deliver matching alert)

variable {matching alert}

theorem flatMap_deliver (cs : List Contribution) :
    (cs.filterMap (·.route)).flatMap (Route.deliver matching alert)
      = (cs.map (deliver matching alert)).flatten := by
  induction cs with
  | nil => rfl
  | cons c cs ih =>
    rw [List.map_cons, List.flatten_cons, ← ih, deliver]
    cases hroute : c.route with
    | none => rw [List.filterMap_cons_none hroute]; rfl
    | some route => rw [List.filterMap_cons_some hroute]; rfl

theorem Coherent.single_deliver {c : Contribution} {family : List String} (h : c.Coherent)
    (hnames : (c.receivers.map (·.name)).Sublist family)
    (hone : ∀ route ∈ c.route, ∃ name, route.deliver matching alert = [name]) :
    Single (c.deliver matching alert) family := by
  rcases hroute : c.route with _ | route
  · rw [deliver, hroute]
    exact ⟨Nat.zero_le 1, nofun⟩
  · have hdeliver : c.deliver matching alert = route.deliver matching alert := by
      rw [deliver, hroute]
      rfl
    obtain ⟨name, hname⟩ := hone route hroute
    rw [hdeliver]
    refine ⟨by rw [hname]; exact Nat.le_refl 1, fun other hother ↦ ?_⟩
    by_cases hnull : other = ReceiverName.null
    · exact .inl hnull
    · have hsends := Route.sendsTo_of_mem_deliver route hother
      exact .inr (hnames.subset ((h.used other hnull).1 ⟨route, hroute, hsends⟩))

end Contribution

namespace Inputs

variable {matching : Matching} {alert : Alert} (i : Inputs)

theorem single_deliver :
    List.Forall₂ Single (i.contributions.map (Contribution.deliver matching alert))
      ReceiverName.families := by
  have hleaf : ∀ {condition : Bool} {route : Route} {receivers : List Receiver},
      route.routes = [] → ∀ r ∈ (Contribution.when condition route receivers).route,
        ∃ name, r.deliver matching alert = [name] := by
    intro condition route receivers hroutes r hr
    rw [Contribution.route_when hr]
    exact ⟨_, Route.deliver_leaf hroutes⟩
  have hpaging : ∀ {condition : Bool} {tiers : Tiers} {receivers : List Receiver},
      ∀ r ∈ (Contribution.when condition (.paging tiers i.namespaces i.fedramp) receivers).route,
        ∃ name, r.deliver matching alert = [name] := by
    intro condition tiers receivers r hr
    rw [Contribution.route_when hr]
    exact Route.exists_deliver_paging _ _ _
  refine .cons ?_ (.cons ?_ (.cons ?_ (.cons ?_ (.cons ?_ .nil))))
  · exact i.coherent_watchdog.single_deliver i.names_watchdog_sublist (hleaf rfl)
  · exact i.coherent_ocmAgent.single_deliver i.names_ocmAgent_sublist (hleaf rfl)
  · exact i.coherent_pagerduty.single_deliver i.names_pagerduty_sublist hpaging
  · exact i.coherent_heartbeat.single_deliver i.names_heartbeat_sublist (hleaf rfl)
  · exact i.coherent_goalert.single_deliver i.names_goalert_sublist hpaging

/-! ## The whole configuration -/

/-- Whatever the inputs are, whatever labels an alert has, and whatever it means to match a pattern:
the root takes the alert, and the alert is delivered

* to somebody, if only to the receiver that drops it;
* to receivers that are defined;
* to at most one receiver of each notifier. -/
theorem deliver_config (matching : Matching) (alert : Alert) :
    ∃ root, i.config.route = some root ∧ root.takes matching alert = true ∧
      root.deliver matching alert ≠ [] ∧
      (∀ name ∈ root.deliver matching alert, name ∈ i.config.receivers.map (·.name)) ∧
      ∀ family ∈ ReceiverName.families,
        (root.deliver matching alert).countP (· ∈ family) ≤ 1 := by
  refine ⟨_, rfl, rfl, Route.deliver_ne_nil _, fun name hname ↦ ?_, fun family hfamily ↦ ?_⟩
  · exact i.sendsTo_root_iff.1 (Route.sendsTo_of_mem_deliver _ hname)
  · rcases Route.deliver_root (i.contributions.filterMap (·.route)) with hdrop | hsub
    · rw [hdrop]
      exact List.countP_le_length
    · rw [Contribution.flatMap_deliver] at hsub
      exact hsub.countP_le.trans
        (countP_flatten_le_one i.single_deliver ReceiverName.disjoint_families (by decide)
          family hfamily)

/-- A severe latency pages as a warning, at PagerDuty as well as at GoAlert. -/
example : (Route.root [.pagerduty [] true, .heartbeat, .goalert [] true]).deliver (fun _ _ ↦ false)
    (fun label ↦ if label = "alertname" then "KubeAPILatencyHigh"
      else if label = "severity" then "critical" else "")
      = [ReceiverName.makeItWarning, ReceiverName.goalertLow] := by
  decide

end Inputs

end AlertOperator.Alertmanager
