import AlertOperator.Proofs.Alertmanager.Integrity
import Mathlib.Data.List.Basic

/-!
# Configuring one feature more

Each feature of a configuration can be configured by itself. What it adds is one block of routes and
one block of receivers; everything else in the configuration stays as it is without the feature, and
in the same order.

The bridge is `Feature.contribution_clear`: with the settings of a feature cleared, that feature
contributes nothing and every other contributes what it did. A configuration lists what the features
contribute, in a fixed order of the features, so `List.exists_flatMap_insert` gives the two blocks.
-/

namespace List

/-- Lists joined for the members of `l` are extended in one place if only the list for `a`, which
was empty, changes. -/
theorem exists_flatMap_insert {α β : Type} {l : List α} {a : α} {f g : α → List β} (hl : l.Nodup)
    (ha : a ∈ l) (hself : f a = []) (hother : ∀ b, b ≠ a → f b = g b) :
    ∃ before after, l.flatMap f = before ++ after ∧ l.flatMap g = before ++ g a ++ after := by
  obtain ⟨xs, ys, rfl⟩ := append_of_mem ha
  obtain ⟨-, hcons, hdisjoint⟩ := nodup_append.1 hl
  have hxs : xs.flatMap f = xs.flatMap g :=
    flatMap_congr fun b hb ↦ hother b (hdisjoint b hb a mem_cons_self)
  have hys : ys.flatMap f = ys.flatMap g :=
    flatMap_congr fun b hb ↦ hother b fun h ↦ (nodup_cons.1 hcons).1 (h ▸ hb)
  refine ⟨xs.flatMap g, ys.flatMap g, ?_, ?_⟩
  · rw [flatMap_append, flatMap_cons, hself, nil_append, hxs, hys]
  · rw [flatMap_append, flatMap_cons, append_assoc]

end List

namespace AlertOperator.Alertmanager

theorem Contribution.when_congr {condition : Bool} {route : Route}
    {receivers others : List Receiver} (h : condition = true → receivers = others) :
    when condition route receivers = when condition route others := by
  cases condition with
  | false => rfl
  | true => rw [h rfl]

/-- What can be configured by itself. -/
inductive Feature
  | watchdog
  | ocmAgent
  | pagerduty
  | heartbeat
  | goalert
  deriving DecidableEq

namespace Feature

variable {i : Inputs} {f : Feature}

/-- The features in the order in which a configuration lists them. -/
def all : List Feature := [watchdog, ocmAgent, pagerduty, heartbeat, goalert]

theorem nodup_all : all.Nodup := by decide

theorem mem_all (f : Feature) : f ∈ all := by
  cases f <;> decide

/-- The inputs without the settings of a feature. -/
def clear (i : Inputs) : Feature → Inputs
  | watchdog => { i with watchdogUrl := "" }
  | ocmAgent => { i with ocmAgentUrl := "" }
  | pagerduty => { i with pagerdutyKey := "" }
  | heartbeat => { i with goalertHeartbeatUrl := "" }
  | goalert => { i with goalertLowUrl := "", goalertHighUrl := "" }

/-- No setting of a feature is there. -/
def Unset (i : Inputs) : Feature → Prop
  | watchdog => i.watchdogUrl = ""
  | ocmAgent => i.ocmAgentUrl = ""
  | pagerduty => i.pagerdutyKey = ""
  | heartbeat => i.goalertHeartbeatUrl = ""
  | goalert => i.goalertLowUrl = "" ∧ i.goalertHighUrl = ""

/-- A feature is off: it is unset, or is one of those for FedRAMP and the environment is another
one, or is GoAlert with only one of its two addresses. -/
def Off (i : Inputs) (f : Feature) : Prop :=
  f.Unset i ∨ (i.fedramp = false ∧ (f = heartbeat ∨ f = goalert)) ∨
    (f = goalert ∧ ¬(i.goalertLowUrl = "" ↔ i.goalertHighUrl = ""))

/-- The names of the receivers of a feature. -/
def names : Feature → List String
  | watchdog => [ReceiverName.watchdog]
  | ocmAgent => [ReceiverName.ocmAgent]
  | pagerduty => [ReceiverName.pagerduty, ReceiverName.makeItWarning, ReceiverName.makeItError,
      ReceiverName.makeItCritical]
  | heartbeat => [ReceiverName.goalertHeartbeat]
  | goalert => [ReceiverName.goalert, ReceiverName.goalertLow, ReceiverName.goalertHigh]

theorem null_notMem_names (f : Feature) : ReceiverName.null ∉ f.names := by
  cases f <;> decide

theorem notMem_names {g : Feature} (h : g ≠ f) : ∀ name ∈ g.names, name ∉ f.names := by
  cases f <;> cases g <;> first | exact absurd rfl h | decide

/-! ## What a feature contributes -/

/-- The contribution of a feature. -/
def contribution (i : Inputs) : Feature → Contribution
  | watchdog => i.watchdog
  | ocmAgent => i.ocmAgent
  | pagerduty => i.pagerduty
  | heartbeat => i.heartbeat
  | goalert => i.goalert

/-- The routes of a feature, one at most. -/
def routes (i : Inputs) (f : Feature) : List Route := (f.contribution i).route.toList

/-- The receivers of a feature. -/
def receivers (i : Inputs) (f : Feature) : List Receiver := (f.contribution i).receivers

theorem contribution_mem (i : Inputs) (f : Feature) : f.contribution i ∈ i.contributions :=
  List.mem_map_of_mem (f := contribution i) f.mem_all

/-- The condition under which a feature contributes. -/
def condition (i : Inputs) : Feature → Bool
  | watchdog => i.watchdogUrl != ""
  | ocmAgent => i.ocmAgentUrl != ""
  | pagerduty => i.pagerdutyKey != ""
  | heartbeat => i.fedramp && i.goalertHeartbeatUrl != ""
  | goalert => i.fedramp && i.goalertLowUrl != "" && i.goalertHighUrl != ""

theorem off_iff : f.Off i ↔ f.condition i = false := by
  cases f with
  | watchdog | ocmAgent | pagerduty => simp [Off, Unset, condition]
  | heartbeat =>
    cases hfedramp : i.fedramp <;> simp [Off, Unset, condition, hfedramp]
  | goalert =>
    by_cases hlow : i.goalertLowUrl = "" <;> by_cases hhigh : i.goalertHighUrl = ""
    all_goals simp [Off, Unset, condition, hlow, hhigh]

/-- The route of a feature that is on. -/
def tree (namespaces : List String) (fedramp : Bool) : Feature → Route
  | watchdog => .watchdog
  | ocmAgent => .ocmAgent
  | pagerduty => .pagerduty namespaces fedramp
  | heartbeat => .heartbeat
  | goalert => .goalert namespaces fedramp

/-- A receiver of PagerDuty, which opens incidents with the severity `severity`. -/
def incidents (i : Inputs) (name severity : String) : Receiver :=
  { name := name
    pagerduty := [.notifier i.pagerdutyKey i.clusterId i.clusterProxy i.fedramp severity] }

/-- The receivers of a feature that is on. -/
def built (i : Inputs) : Feature → List Receiver
  | watchdog => [.webhook ReceiverName.watchdog i.watchdogUrl i.clusterProxy]
  | ocmAgent => [.webhook ReceiverName.ocmAgent i.ocmAgentUrl ""]
  | pagerduty => [
    incidents i ReceiverName.pagerduty Pagerduty.ownSeverity,
    incidents i ReceiverName.makeItWarning "warning",
    incidents i ReceiverName.makeItError "error",
    incidents i ReceiverName.makeItCritical "critical"]
  | heartbeat => [.webhook ReceiverName.goalertHeartbeat i.goalertHeartbeatUrl i.clusterProxy]
  | goalert => [
    .webhook ReceiverName.goalert i.goalertLowUrl i.clusterProxy,
    .webhook ReceiverName.goalertLow i.goalertLowUrl i.clusterProxy,
    .webhook ReceiverName.goalertHigh i.goalertHighUrl i.clusterProxy]

theorem names_built (i : Inputs) (f : Feature) : (f.built i).map (·.name) = f.names := by
  cases f <;> rfl

/-- A feature contributes nothing, or its route and all of its receivers. -/
theorem contribution_eq (i : Inputs) (f : Feature) :
    f.contribution i = .when (f.condition i) (f.tree i.namespaces i.fedramp) (f.built i) := by
  cases f with
  | watchdog => exact Contribution.when_congr fun h ↦ if_neg (bne_iff_ne.1 h)
  | ocmAgent => exact Contribution.when_congr fun h ↦ if_neg (bne_iff_ne.1 h)
  | pagerduty => exact Contribution.when_congr fun h ↦ if_neg (bne_iff_ne.1 h)
  | heartbeat =>
    refine Contribution.when_congr fun h ↦ ?_
    rw [Bool.and_eq_true, bne_iff_ne] at h
    exact if_neg h.2
  | goalert =>
    refine Contribution.when_congr fun h ↦ ?_
    simp only [Bool.and_eq_true, bne_iff_ne] at h
    exact if_neg (not_or_intro h.1.2 h.2)

theorem routes_eq (i : Inputs) (f : Feature) :
    f.routes i = if f.condition i then [f.tree i.namespaces i.fedramp] else [] := by
  rw [routes, contribution_eq]
  cases f.condition i <;> rfl

theorem receivers_eq (i : Inputs) (f : Feature) :
    f.receivers i = if f.condition i then f.built i else [] := by
  rw [receivers, contribution_eq]
  cases f.condition i <;> rfl

theorem receivers_subset_built (i : Inputs) (f : Feature) : f.receivers i ⊆ f.built i := by
  rw [receivers_eq]
  split_ifs
  · exact List.Subset.refl _
  · exact List.nil_subset _

theorem contribution_of_off (h : f.Off i) : f.contribution i = {} := by
  rw [contribution_eq, off_iff.1 h]
  rfl

theorem contribution_of_on (h : ¬f.Off i) :
    (∃ route, f.routes i = [route]) ∧ (f.receivers i).map (·.name) = f.names := by
  have hon : f.condition i = true := by rwa [off_iff, Bool.not_eq_false] at h
  rw [routes_eq, receivers_eq, if_pos hon, if_pos hon]
  exact ⟨⟨_, rfl⟩, f.names_built i⟩

theorem routes_eq_nil_iff : f.routes i = [] ↔ f.Off i := by
  by_cases hoff : f.Off i
  · exact iff_of_true (by rw [routes, contribution_of_off hoff]; rfl) hoff
  · obtain ⟨⟨route, hroute⟩, -⟩ := contribution_of_on hoff
    rw [hroute]
    exact iff_of_false (List.cons_ne_nil _ _) hoff

theorem receivers_eq_nil_iff : f.receivers i = [] ↔ f.Off i := by
  by_cases hoff : f.Off i
  · exact iff_of_true (by rw [receivers, contribution_of_off hoff]) hoff
  · obtain ⟨-, hnames⟩ := contribution_of_on hoff
    refine iff_of_false (fun hnil ↦ ?_) hoff
    rw [hnil] at hnames
    cases f <;> exact absurd hnames (by decide)

theorem name_mem_names {r : Receiver} (hr : r ∈ f.receivers i) : r.name ∈ f.names := by
  rw [← f.names_built i]
  exact List.mem_map_of_mem (f.receivers_subset_built i hr)

/-! ## Clearing a feature -/

theorem off_clear (i : Inputs) (f : Feature) : f.Off (f.clear i) := by
  left
  cases f with
  | watchdog | ocmAgent | pagerduty | heartbeat => rfl
  | goalert => exact ⟨rfl, rfl⟩

theorem contribution_clear (i : Inputs) (f g : Feature) :
    g.contribution (f.clear i) = if g = f then {} else g.contribution i := by
  split_ifs with h
  · rw [h, contribution_of_off (f.off_clear i)]
  · cases f <;> cases g <;> first | exact absurd rfl h | rfl

theorem notMem_names_clear (i : Inputs) (f : Feature) {r : Receiver}
    (hr : r ∈ (f.clear i).config.receivers) : r.name ∉ f.names := by
  rcases List.mem_append.1 hr with hr | hr
  · obtain ⟨c, hc, hr⟩ := List.mem_flatMap.1 hr
    obtain ⟨g, -, rfl⟩ := List.mem_map.1 (show c ∈ all.map (contribution (f.clear i)) from hc)
    by_cases h : g = f
    · rw [h, contribution_of_off (f.off_clear i)] at hr
      exact absurd hr List.not_mem_nil
    · exact notMem_names h _ (name_mem_names hr)
  · rw [List.mem_singleton.1 hr]
    exact f.null_notMem_names

end Feature

/-! ## The whole configuration -/

/-- The configuration `c` is `base` with one block of routes among those below the root, with one
block of receivers before the one that drops alerts, and with nothing else changed. -/
def Config.Adds (base : Config) (routes : List Route) (receivers : List Receiver) (c : Config) :
    Prop :=
  ∃ root before after first rest,
    base.route = some root ∧ root.routes = before ++ after ∧
    base.receivers = first ++ rest ++ [Receiver.blackhole ReceiverName.null] ∧
    c = { base with
      route := some { root with routes := before ++ routes ++ after }
      receivers := first ++ receivers ++ rest ++ [Receiver.blackhole ReceiverName.null] }

namespace Inputs

variable (i : Inputs)

theorem routes_eq_flatMap :
    i.contributions.filterMap (·.route) = Feature.all.flatMap (Feature.routes i) := by
  rw [List.filterMap_eq_flatMap_toList]
  rfl

theorem receivers_eq_flatMap :
    i.contributions.flatMap (·.receivers) = Feature.all.flatMap (Feature.receivers i) := rfl

theorem hasReceiver_config {f : Feature} {name : String} (h : name ∈ f.names) :
    i.config.hasReceiver name = f.condition i := by
  have hreceivers : i.config.receivers
    = Feature.all.flatMap (Feature.receivers i) ++ [.blackhole ReceiverName.null] := rfl
  rw [Bool.eq_iff_iff, Config.hasReceiver, Config.receiver?, List.find?_isSome, hreceivers]
  constructor
  · rintro ⟨r, hr, hname⟩
    obtain rfl := beq_iff_eq.1 hname
    rcases List.mem_append.1 hr with hr | hr
    · obtain ⟨g, -, hr⟩ := List.mem_flatMap.1 hr
      -- no other feature has a receiver of this name
      obtain rfl : g = f := by
        by_contra hne
        exact Feature.notMem_names hne _ (Feature.name_mem_names hr) h
      rw [Feature.receivers_eq] at hr
      by_contra hoff
      rw [if_neg hoff] at hr
      exact absurd hr List.not_mem_nil
    · rw [List.mem_singleton.1 hr] at h
      exact absurd h f.null_notMem_names
  · intro hon
    rw [← f.names_built i] at h
    obtain ⟨r, hr, rfl⟩ := List.mem_map.1 h
    refine ⟨r, List.mem_append_left _ (List.mem_flatMap.2 ⟨f, f.mem_all, ?_⟩), beq_self_eq_true _⟩
    rwa [Feature.receivers_eq, if_pos hon]

/-- The settings of a feature insert its routes and its receivers. -/
theorem adds_config (f : Feature) :
    (f.clear i).config.Adds (f.routes i) (f.receivers i) i.config := by
  have hother : ∀ g, g ≠ f → g.contribution (f.clear i) = g.contribution i := fun g hg ↦ by
    rw [Feature.contribution_clear, if_neg hg]
  obtain ⟨before, after, hroutes', hroutes⟩ := List.exists_flatMap_insert (g := Feature.routes i)
    Feature.nodup_all f.mem_all (Feature.routes_eq_nil_iff.2 (f.off_clear i))
    fun g hg ↦ congrArg (·.route.toList) (hother g hg)
  obtain ⟨first, rest, hreceivers', hreceivers⟩ :=
    List.exists_flatMap_insert (g := Feature.receivers i) Feature.nodup_all f.mem_all
      (Feature.receivers_eq_nil_iff.2 (f.off_clear i))
      fun g hg ↦ congrArg (·.receivers) (hother g hg)
  refine ⟨_, before, after, first, rest, rfl, ?_, ?_, ?_⟩
  · rw [← hroutes', ← routes_eq_flatMap]
    rfl
  · rw [← hreceivers', ← receivers_eq_flatMap]
    rfl
  · rw [← hroutes, ← hreceivers, ← routes_eq_flatMap, ← receivers_eq_flatMap]
    rfl

/-- Whatever the inputs are, a configuration is the one without the settings of a feature, with one
block of routes and one block of receivers added:

* the blocks are empty exactly if the feature is off;
* leaving aside the receiver that drops alerts, the routes of the block send to the receivers of the
  block, and these have the names of the feature;
* in the configuration without the settings nothing has one of these names, or sends to one. -/
theorem config_adds_feature (f : Feature) :
    (f.clear i).config.Adds (f.routes i) (f.receivers i) i.config ∧
    ((f.routes i = [] ↔ f.Off i) ∧ (f.receivers i = [] ↔ f.Off i)) ∧
    ((∀ name, name ≠ ReceiverName.null →
        ((∃ r ∈ f.routes i, r.SendsTo name) ↔ name ∈ (f.receivers i).map (·.name))) ∧
      ∀ r ∈ f.receivers i, r.name ∈ f.names) ∧
    ∀ name ∈ f.names, name ∉ (f.clear i).config.receivers.map (·.name) ∧
      ∀ root ∈ (f.clear i).config.route, ¬root.SendsTo name := by
  refine ⟨i.adds_config f, ⟨Feature.routes_eq_nil_iff, Feature.receivers_eq_nil_iff⟩,
    ⟨fun name hname ↦ ?_, fun r ↦ Feature.name_mem_names⟩, fun name hname ↦ ?_⟩
  · rw [Feature.receivers, ← (i.coherent_of_mem (f.contribution_mem i)).used name hname,
      Feature.routes]
    simp only [Option.mem_toList, Option.mem_def]
  · have hclear : name ∉ (f.clear i).config.receivers.map (·.name) := by
      intro hmem
      obtain ⟨r, hr, rfl⟩ := List.mem_map.1 hmem
      exact f.notMem_names_clear i hr hname
    refine ⟨hclear, ?_⟩
    rintro _ ⟨⟩ hsends
    exact hclear ((f.clear i).sendsTo_root_iff.1 hsends)

end Inputs

end AlertOperator.Alertmanager
