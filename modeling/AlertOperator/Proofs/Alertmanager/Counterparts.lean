import AlertOperator.Proofs.Alertmanager.PagingTree

/-!
# The two trees that page, side by side

PagerDuty and GoAlert have a tree each, made from the same rules and the same namespaces. Position
by position their routes differ in nothing but the receiver, and the two receivers are those for one
treatment, `Route.Counterpart`. Since a route takes alerts by its labels and patterns alone, both
trees find the same position for every alert. They part only where there is no such position: what
no route takes, PagerDuty drops and GoAlert keeps.

GoAlert has fewer receivers than PagerDuty, so which receiver of PagerDuty an alert would have gone
to cannot be told from that of GoAlert; that it is dropped can.
-/

namespace AlertOperator.Alertmanager

/-- The receivers of PagerDuty, and with each the one of GoAlert for the same treatment. -/
def ReceiverName.counterparts : List (String × String) := [
  (null, null),
  (pagerduty, goalert),
  (makeItWarning, goalertLow),
  (makeItError, goalertHigh),
  (makeItCritical, goalertHigh)]

theorem ReceiverName.eq_null_iff_of_mem_counterparts {p g : String} (h : (p, g) ∈ counterparts) :
    p = null ↔ g = null := by
  have hall : ∀ pair ∈ counterparts, pair.1 = null ↔ pair.2 = null := by decide
  exact hall (p, g) h

theorem Target.mem_counterparts (target : Target) :
    (Tiers.pagerduty.receiver target, Tiers.goalert.receiver target)
      ∈ ReceiverName.counterparts := by
  cases target <;> decide

namespace Route

/-- A route of PagerDuty and one of GoAlert that are the same but for the receiver, which is for
both the one for some treatment. -/
structure Counterpart (p g : Route) : Prop where
  same : g = { p with receiver := g.receiver }
  role : ∃ target, p.receiver = Tiers.pagerduty.receiver target ∧
    g.receiver = Tiers.goalert.receiver target
  receivers : (p.receiver, g.receiver) ∈ ReceiverName.counterparts

/-- The position of the first route below that takes the alert. -/
def position (matching : Matching) (alert : Alert) (r : Route) : Option Nat :=
  r.routes.findIdx? (takes matching alert)

variable {matching : Matching} {alert : Alert} {p g : Route}

theorem counterpart_of_target (target : Target) (p : Route)
    (h : p.receiver = Tiers.pagerduty.receiver target) :
    Counterpart p { p with receiver := Tiers.goalert.receiver target } where
  same := rfl
  role := ⟨target, h, rfl⟩
  receivers := by
    rw [h]
    exact target.mem_counterparts

theorem Counterpart.takes_eq (h : Counterpart p g) :
    g.takes matching alert = p.takes matching alert := by
  rw [h.same]
  rfl

theorem forall₂_counterpart (namespaces : List String) (fedramp : Bool) :
    List.Forall₂ Counterpart (pagerduty namespaces fedramp).routes
      (goalert namespaces fedramp).routes := by
  have hrules : ∀ rules : List Rule, List.Forall₂ Counterpart
      (rules.map (·.route Tiers.pagerduty)) (rules.map (·.route Tiers.goalert)) := by
    intro rules
    rw [List.forall₂_map_left_iff, List.forall₂_map_right_iff, List.forall₂_same]
    exact fun rule _ ↦ counterpart_of_target rule.target (rule.route Tiers.pagerduty) rfl
  have hnamespace : ∀ pattern, List.Forall₂ Counterpart
      (forNamespace Tiers.pagerduty.page pattern) (forNamespace Tiers.goalert.page pattern) :=
    fun pattern ↦ .cons (counterpart_of_target .page _ rfl)
      (.cons (counterpart_of_target .page _ rfl) .nil)
  have hnamespaces : List.Forall₂ Counterpart
      (namespaces.flatMap (forNamespace Tiers.pagerduty.page))
      (namespaces.flatMap (forNamespace Tiers.goalert.page)) := by
    induction namespaces with
    | nil => exact .nil
    | cons pattern rest ih => exact List.rel_append (hnamespace pattern) ih
  exact List.rel_append (hrules _) hnamespaces

/-! ## The same position -/

/-- Lists of counterparts have their first routes for an alert at the same position. -/
theorem position_of_forall₂ {ps gs : List Route} (h : List.Forall₂ Counterpart ps gs) :
    (ps.findIdx? (takes matching alert) = none ∧ gs.findIdx? (takes matching alert) = none) ∨
      ∃ k p g, (ps.findIdx? (takes matching alert) = some k ∧ ps[k]? = some p) ∧
        (gs.findIdx? (takes matching alert) = some k ∧ gs[k]? = some g) ∧ Counterpart p g := by
  induction h with
  | nil => exact .inl ⟨rfl, rfl⟩
  | @cons p g ps gs hpg _ ih =>
    rw [List.findIdx?_cons, List.findIdx?_cons, hpg.takes_eq]
    cases p.takes matching alert with
    | true => exact .inr ⟨0, p, g, ⟨rfl, rfl⟩, ⟨rfl, rfl⟩, hpg⟩
    | false =>
      rcases ih with ⟨hp, hg⟩ | ⟨k, p', g', ⟨hp, hp'⟩, ⟨hg, hg'⟩, hpg'⟩
      · rw [hp, hg]
        exact .inl ⟨rfl, rfl⟩
      · rw [hp, hg]
        exact .inr ⟨k + 1, p', g', ⟨rfl, hp'⟩, ⟨rfl, hg'⟩, hpg'⟩

/-- The route delivers the alert to the receiver of the route `s` at position `k` below it, which is
the first to take the alert. -/
structure Chooses (matching : Matching) (alert : Alert) (r : Route) (k : Nat) (s : Route) :
    Prop where
  position : r.position matching alert = some k
  route : r.routes[k]? = some s
  deliver : r.deliver matching alert = [s.receiver]

theorem deliver_paging_position (tiers : Tiers) (namespaces : List String) (fedramp : Bool) :
    (paging tiers namespaces fedramp).deliver matching alert
      = [((((paging tiers namespaces fedramp).position matching alert).bind
          ((paging tiers namespaces fedramp).routes[·]?)).map (·.receiver)).getD tiers.root] := by
  rw [deliver_of_leaves leaves_paging, List.find?_eq_bind_findIdx?_getElem?]
  rfl

theorem chooses_paging {tiers : Tiers} {namespaces : List String} {fedramp : Bool} {k : Nat}
    {s : Route} (hposition : (paging tiers namespaces fedramp).position matching alert = some k)
    (hroute : (paging tiers namespaces fedramp).routes[k]? = some s) :
    (paging tiers namespaces fedramp).Chooses matching alert k s := by
  refine ⟨hposition, hroute, ?_⟩
  rw [deliver_paging_position, hposition, Option.bind_some, hroute]
  rfl

theorem deliver_paging_of_none {tiers : Tiers} {namespaces : List String} {fedramp : Bool}
    (hposition : (paging tiers namespaces fedramp).position matching alert = none) :
    (paging tiers namespaces fedramp).deliver matching alert = [tiers.root] := by
  rw [deliver_paging_position, hposition]
  rfl

/-- Whichever namespaces page, in FedRAMP environments and in others: the trees of PagerDuty and
GoAlert have equally many routes, and those at the same position are counterparts. So whatever
labels an alert has, and whatever it means to match a pattern, both trees find the same position for
it:

* at that position they choose counterparts, so either both drop the alert or neither does;
* where there is none, PagerDuty drops the alert, and GoAlert sends it to its receiver for
  paging. -/
theorem paging_trees_agree (namespaces : List String) (fedramp : Bool) :
    ((pagerduty namespaces fedramp).routes.length = (goalert namespaces fedramp).routes.length ∧
      List.Forall₂ Counterpart (pagerduty namespaces fedramp).routes
        (goalert namespaces fedramp).routes) ∧
    ∀ (matching : Matching) (alert : Alert),
      (∃ k p g, (pagerduty namespaces fedramp).Chooses matching alert k p ∧
        (goalert namespaces fedramp).Chooses matching alert k g ∧ Counterpart p g ∧
        (p.receiver = ReceiverName.null ↔ g.receiver = ReceiverName.null)) ∨
      ((pagerduty namespaces fedramp).position matching alert = none ∧
        (goalert namespaces fedramp).position matching alert = none ∧
        (pagerduty namespaces fedramp).deliver matching alert = [ReceiverName.null] ∧
        (goalert namespaces fedramp).deliver matching alert = [ReceiverName.goalert]) := by
  have hroutes := forall₂_counterpart namespaces fedramp
  refine ⟨⟨hroutes.length_eq, hroutes⟩, fun matching alert ↦ ?_⟩
  rcases position_of_forall₂ hroutes with ⟨hp, hg⟩ | ⟨k, p, g, ⟨hp, hp'⟩, ⟨hg, hg'⟩, hpg⟩
  · exact .inr ⟨hp, hg, deliver_paging_of_none hp, deliver_paging_of_none hg⟩
  · exact .inl ⟨k, p, g, chooses_paging hp hp', chooses_paging hg hg', hpg,
      ReceiverName.eq_null_iff_of_mem_counterparts hpg.receivers⟩

end Route

end AlertOperator.Alertmanager
