import AlertOperator.Proofs.Alertmanager.Delivery
import AlertOperator.Proofs.Dict
import Mathlib.Data.List.Find

/-!
# What the tree of a paging notifier decides

The tree of a paging notifier is a long list of leaves that end the search, so it delivers an alert
to the receiver of the first leaf that takes it, `Route.deliverBelow_of_leaves`. The leaves come in
two parts. Those of the table stand for the rules, and the first rule that takes the alert decides.
After them come two routes for each namespace, all of them to the same receiver. So it does not
matter which of these is the first, only whether one of them takes the alert: that is a condition on
the set of the namespaces, `PagesByNamespace`, and no order or repetition in their list counts.

The one equation for all of this is `deliver_paging`.
-/

namespace AlertOperator.Alertmanager

variable {matching : Matching} {alert : Alert}

/-! ## Rules and namespaces -/

/-- The rule takes the alert. -/
def Rule.takes (matching : Matching) (alert : Alert) (rule : Rule) : Bool :=
  (rule.labels.all fun e ↦ alert e.1 == e.2) && rule.patterns.all fun e ↦ matching e.2 (alert e.1)

/-- The alert is one of the platform itself, about one of the given namespaces: its exported
namespace, or its own one if no other is exported. -/
def PagesByNamespace (matching : Matching) (alert : Alert) (namespaces : List String) : Prop :=
  alert "prometheus" = platformPrometheus ∧
    ((∃ pattern ∈ namespaces, matching pattern (alert "exported_namespace") = true) ∨
      (alert "exported_namespace" = "" ∧
        ∃ pattern ∈ namespaces, matching pattern (alert "namespace") = true))

instance (namespaces : List String) : Decidable (PagesByNamespace matching alert namespaces) :=
  inferInstanceAs (Decidable (_ ∧ (_ ∨ (_ ∧ _))))

theorem pagesByNamespace_congr {namespaces others : List String}
    (h : ∀ pattern, pattern ∈ namespaces ↔ pattern ∈ others) :
    PagesByNamespace matching alert namespaces ↔ PagesByNamespace matching alert others := by
  simp only [PagesByNamespace, h]

namespace Route

variable {tiers : Tiers} {namespaces : List String} {fedramp : Bool}

/-! ## Routes and what they ask for -/

theorem takes_iff {r : Route} {labels patterns : List (String × String)}
    (hlabels : r.labels = Dict.ofList labels) (hpatterns : r.patterns = Dict.ofList patterns)
    (hnodup : (labels.map (·.1)).Nodup ∧ (patterns.map (·.1)).Nodup) :
    r.takes matching alert = true ↔
      (∀ e ∈ labels, alert e.1 = e.2) ∧ ∀ e ∈ patterns, matching e.2 (alert e.1) = true := by
  simp only [takes, hlabels, hpatterns, Bool.and_eq_true, List.all_eq_true, beq_iff_eq,
    Dict.mem_entries_ofList hnodup.1, Dict.mem_entries_ofList hnodup.2]

theorem nodup_rule {rule : Rule} (h : rule ∈ rulesFor fedramp) :
    (rule.labels.map (·.1)).Nodup ∧ (rule.patterns.map (·.1)).Nodup := by
  have hall : ∀ rule ∈ rulesFor true,
      (rule.labels.map (·.1)).Nodup ∧ (rule.patterns.map (·.1)).Nodup := by decide
  refine hall rule ?_
  cases fedramp with
  | false => exact List.mem_append_left _ h
  | true => exact h

theorem takes_route {rule : Rule} (h : rule ∈ rulesFor fedramp) :
    (rule.route tiers).takes matching alert = rule.takes matching alert := by
  rw [Bool.eq_iff_iff, takes_iff rfl rfl (nodup_rule h), Rule.takes, Bool.and_eq_true,
    List.all_eq_true, List.all_eq_true]
  simp only [beq_iff_eq]

theorem exists_takes_forNamespace {page pattern : String} :
    (∃ r ∈ forNamespace page pattern, r.takes matching alert = true) ↔
      alert "prometheus" = platformPrometheus ∧
        (matching pattern (alert "exported_namespace") = true ∨
          (alert "exported_namespace" = "" ∧ matching pattern (alert "namespace") = true)) := by
  have hexported : ({ receiver := page
                      labels := Dict.ofList [("prometheus", platformPrometheus)]
                      patterns := Dict.ofList [("exported_namespace", pattern)] } : Route).takes
        matching alert = true ↔ _ := takes_iff rfl rfl (by simp)
  have hown : ({ receiver := page
                 labels := Dict.ofList
                   [("exported_namespace", ""), ("prometheus", platformPrometheus)]
                 patterns := Dict.ofList [("namespace", pattern)] } : Route).takes
        matching alert = true ↔ _ := takes_iff rfl rfl (by simp)
  simp only [forNamespace, List.exists_mem_cons_iff, hexported, hown, List.forall_mem_cons,
    List.not_mem_nil, IsEmpty.forall_iff, implies_true, and_true, false_and, exists_false, or_false]
  constructor
  · rintro (⟨hplatform, hpattern⟩ | ⟨⟨hnone, hplatform⟩, hpattern⟩)
    · exact ⟨hplatform, .inl hpattern⟩
    · exact ⟨hplatform, .inr ⟨hnone, hpattern⟩⟩
  · rintro ⟨hplatform, hpattern | ⟨hnone, hpattern⟩⟩
    · exact .inl ⟨hplatform, hpattern⟩
    · exact .inr ⟨⟨hnone, hplatform⟩, hpattern⟩

theorem exists_takes_namespaces (page : String) :
    (∃ r ∈ namespaces.flatMap (forNamespace page), r.takes matching alert = true) ↔
      PagesByNamespace matching alert namespaces := by
  have hsome : (∃ r ∈ namespaces.flatMap (forNamespace page), r.takes matching alert = true) ↔
      ∃ pattern ∈ namespaces, ∃ r ∈ forNamespace page pattern, r.takes matching alert = true := by
    simp only [List.mem_flatMap]
    constructor
    · rintro ⟨r, ⟨pattern, hpattern, hr⟩, htakes⟩
      exact ⟨pattern, hpattern, r, hr, htakes⟩
    · rintro ⟨pattern, hpattern, r, hr, htakes⟩
      exact ⟨r, ⟨pattern, hpattern, hr⟩, htakes⟩
  simp only [hsome, exists_takes_forNamespace, PagesByNamespace]
  constructor
  · rintro ⟨pattern, hpattern, hplatform, hmatch | ⟨hnone, hmatch⟩⟩
    · exact ⟨hplatform, .inl ⟨pattern, hpattern, hmatch⟩⟩
    · exact ⟨hplatform, .inr ⟨hnone, pattern, hpattern, hmatch⟩⟩
  · rintro ⟨hplatform, ⟨pattern, hpattern, hmatch⟩ | ⟨hnone, pattern, hpattern, hmatch⟩⟩
    · exact ⟨pattern, hpattern, hplatform, .inl hmatch⟩
    · exact ⟨pattern, hpattern, hplatform, .inr ⟨hnone, hmatch⟩⟩

/-- Whichever route for a namespace comes first, the receiver is the same. -/
theorem receiver_find?_namespaces (page : String) (namespaces : List String) :
    ((namespaces.flatMap (forNamespace page)).find? (takes matching alert)).map (·.receiver)
      = if PagesByNamespace matching alert namespaces then some page else none := by
  have hreceiver : ∀ r ∈ namespaces.flatMap (forNamespace page), r.receiver = page := by
    intro r hr
    obtain ⟨pattern, -, hr⟩ := List.mem_flatMap.1 hr
    rw [forNamespace, List.mem_cons, List.mem_singleton] at hr
    rcases hr with rfl | rfl
    all_goals rfl
  split_ifs with h
  · obtain ⟨r, hr⟩ := Option.isSome_iff_exists.1
      (List.find?_isSome.2 ((exists_takes_namespaces page).2 h))
    rw [hr, Option.map_some, hreceiver r (List.mem_of_find?_eq_some hr)]
  · rw [Option.map_eq_none_iff, List.find?_eq_none]
    exact fun r hr htakes ↦ h ((exists_takes_namespaces page).1 ⟨r, hr, htakes⟩)

/-! ## Delivery -/

/-- Where a paging notifier sends an alert: the first rule that takes it decides, then the
namespaces. -/
theorem deliver_paging (tiers : Tiers) (namespaces : List String) (fedramp : Bool) :
    (paging tiers namespaces fedramp).deliver matching alert
      = [((rulesFor fedramp).find? (Rule.takes matching alert)).elim
          (if PagesByNamespace matching alert namespaces then tiers.page else tiers.root)
          fun rule ↦ tiers.receiver rule.target] := by
  have htable : ((rulesFor fedramp).map (·.route tiers)).find? (takes matching alert)
      = ((rulesFor fedramp).find? (Rule.takes matching alert)).map (·.route tiers) := by
    rw [List.find?_map]
    exact congrArg _ (List.find?_congr fun rule hrule ↦ takes_route hrule)
  rw [deliver_of_leaves leaves_paging, paging, List.find?_append, htable, Option.map_or,
    receiver_find?_namespaces]
  cases (rulesFor fedramp).find? (Rule.takes matching alert) with
  | none => split_ifs <;> rfl
  | some rule => rfl

theorem exists_takes_paging (h : ∀ rule ∈ rulesFor fedramp, rule.takes matching alert = false) :
    (∃ r ∈ (paging tiers namespaces fedramp).routes, r.takes matching alert = true) ↔
      PagesByNamespace matching alert namespaces := by
  rw [← exists_takes_namespaces tiers.page]
  constructor
  · rintro ⟨r, hr, htakes⟩
    rcases List.mem_append.1 hr with hr | hr
    · obtain ⟨rule, hrule, rfl⟩ := List.mem_map.1 hr
      rw [takes_route hrule, h rule hrule] at htakes
      exact absurd htakes Bool.false_ne_true
    · exact ⟨r, hr, htakes⟩
  · rintro ⟨r, hr, htakes⟩
    exact ⟨r, List.mem_append_right _ hr, htakes⟩

theorem deliver_paging_congr {others : List String}
    (h : ∀ pattern, pattern ∈ others ↔ pattern ∈ namespaces) :
    (paging tiers others fedramp).deliver matching alert
      = (paging tiers namespaces fedramp).deliver matching alert := by
  rw [deliver_paging, deliver_paging]
  simp only [pagesByNamespace_congr h]

/-! ## Trees that differ below the root -/

theorem deliverBelow_congr {rs ss : List Route}
    (h : List.Forall₂ (fun r s ↦ s.takes matching alert = r.takes matching alert ∧
      s.deliver matching alert = r.deliver matching alert ∧ s.continues = r.continues) rs ss) :
    deliverBelow matching alert ss = deliverBelow matching alert rs := by
  induction h with
  | nil => rfl
  | cons hsame _ ih =>
    obtain ⟨htakes, hdeliver, hcontinues⟩ := hsame
    rw [deliverBelow, deliverBelow, htakes, hdeliver, hcontinues, ih]

end Route

namespace Inputs

/-- With other namespaces the routes below the root are the same, up to the trees of the paging
notifiers. -/
theorem forall₂_routes {R : Route → Route → Prop} (i : Inputs) (others : List String)
    (hrefl : ∀ r, R r r)
    (hpaging : ∀ tiers, R (.paging tiers i.namespaces i.fedramp) (.paging tiers others i.fedramp)) :
    List.Forall₂ R (i.contributions.filterMap (·.route))
      ({ i with namespaces := others }.contributions.filterMap fun c : Contribution ↦ c.route) := by
  have hwhen : ∀ {condition : Bool} {r s : Route} {receivers : List Receiver}, R r s →
      Option.Rel R (Contribution.when condition r receivers).route
        (Contribution.when condition s receivers).route := by
    intro condition r s receivers h
    cases condition with
    | false => exact .none
    | true => exact .some h
  have hcontributions : List.Forall₂ (fun c d : Contribution ↦ Option.Rel R c.route d.route)
      i.contributions { i with namespaces := others }.contributions :=
    .cons (hwhen (hrefl _)) <| .cons (hwhen (hrefl _)) <| .cons (hwhen (hpaging _)) <|
      .cons (hwhen (hrefl _)) <| .cons (hwhen (hpaging _)) .nil
  exact List.rel_filterMap (fun _ _ h ↦ h) hcontributions

theorem deliver_config_congr (i : Inputs) {others : List String}
    (h : ∀ pattern, pattern ∈ others ↔ pattern ∈ i.namespaces) :
    { i with namespaces := others }.config.route.map (Route.deliver matching alert)
      = i.config.route.map (Route.deliver matching alert) := by
  have hbelow : Route.deliverBelow matching alert
        ({ i with namespaces := others }.contributions.filterMap fun c : Contribution ↦ c.route)
      = Route.deliverBelow matching alert (i.contributions.filterMap (·.route)) :=
    Route.deliverBelow_congr <| i.forall₂_routes others (fun _ ↦ ⟨rfl, rfl, rfl⟩)
      fun _ ↦ ⟨rfl, Route.deliver_paging_congr h, rfl⟩
  refine congrArg some ?_
  rw [Route.deliver_eq, Route.deliver_eq, Route.root, Route.root, hbelow]

end Inputs

/-- Whatever receivers a paging notifier has, whatever labels an alert has, and whatever it means to
match a pattern:

* an alert that some rule takes goes to the receiver for the first such rule, whichever namespaces
  page;
* for any other alert the tree has a route exactly if the alert pages by its namespace. It goes then
  to the receiver for paging, and else to that of the root; where these are two, the receiver tells
  which was the case;
* listing the same namespaces in another order, or some of them more often, changes neither where
  the tree sends the alert nor where a configuration does. -/
theorem deliver_by_namespace (tiers : Tiers) (namespaces : List String) (fedramp : Bool)
    (matching : Matching) (alert : Alert) :
    (∀ rule, (Route.rulesFor fedramp).find? (Rule.takes matching alert) = some rule →
      (Route.paging tiers namespaces fedramp).deliver matching alert
        = [tiers.receiver rule.target]) ∧
    ((∀ rule ∈ Route.rulesFor fedramp, rule.takes matching alert = false) →
      ((∃ r ∈ (Route.paging tiers namespaces fedramp).routes, r.takes matching alert = true) ↔
        PagesByNamespace matching alert namespaces) ∧
      (Route.paging tiers namespaces fedramp).deliver matching alert
        = [if PagesByNamespace matching alert namespaces then tiers.page else tiers.root] ∧
      (tiers.page ≠ tiers.root →
        ((Route.paging tiers namespaces fedramp).deliver matching alert = [tiers.page] ↔
          PagesByNamespace matching alert namespaces))) ∧
    ∀ others, (∀ pattern, pattern ∈ others ↔ pattern ∈ namespaces) →
      (Route.paging tiers others fedramp).deliver matching alert
          = (Route.paging tiers namespaces fedramp).deliver matching alert ∧
        ∀ i : Inputs, i.namespaces = namespaces →
          { i with namespaces := others }.config.route.map (Route.deliver matching alert)
            = i.config.route.map (Route.deliver matching alert) := by
  refine ⟨fun rule hrule ↦ ?_, fun hnone ↦ ?_, fun others hsame ↦ ⟨?_, ?_⟩⟩
  · rw [Route.deliver_paging, hrule, Option.elim_some]
  · have hdeliver : (Route.paging tiers namespaces fedramp).deliver matching alert
        = [if PagesByNamespace matching alert namespaces then tiers.page else tiers.root] := by
      rw [Route.deliver_paging, List.find?_eq_none.2 fun rule hrule ↦ by simp [hnone rule hrule],
        Option.elim_none]
    refine ⟨Route.exists_takes_paging hnone, hdeliver, fun hne ↦ ?_⟩
    rw [hdeliver, List.singleton_inj]
    exact hne.ite_eq_left_iff
  · exact Route.deliver_paging_congr hsame
  · rintro i rfl
    exact i.deliver_config_congr hsame

/-- An alert about an exported namespace does not page by the namespace that exports it. -/
example : (Route.pagerduty ["b", "a"] false).deliver (fun pattern value ↦ pattern == value)
    (fun label ↦ if label = "prometheus" then platformPrometheus
      else if label = "exported_namespace" then "c" else if label = "namespace" then "a" else "")
      = [ReceiverName.null] := by
  decide

end AlertOperator.Alertmanager
