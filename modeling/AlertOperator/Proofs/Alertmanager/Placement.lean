import AlertOperator.Proofs.Alertmanager.Additivity
import AlertOperator.Proofs.Alertmanager.PagingTree
import AlertOperator.Proofs.Alertmanager.Redaction

/-!
# Where the inputs stand in a configuration

Keys, addresses, the id of the cluster and its proxy are all texts, so nothing in their types keeps
one from standing where another belongs. Each has its places: certain entries of the notifiers of
certain receivers. `TextField.blank` empties the places of one text and nothing else. That a text
stands in its own places only is then a statement about two configurations: with another text for
it, and these places empty, they are the same.

Two facts carry this. Which features are on depends on whether a text is empty, not on which text it
is, so the routes do not change. And the receivers of a feature that is on are written out in
`Feature.built`, where the places can be seen.
-/

namespace AlertOperator.Alertmanager

/-- The HTTP settings of the notifiers of a receiver. -/
def Receiver.https (r : Receiver) : List (Option HttpSettings) :=
  r.pagerduty.map (·.http) ++ r.webhooks.map (·.http)

/-! ## The texts and their places -/

/-- The inputs that are texts. -/
inductive TextField
  | pagerdutyKey
  | watchdogUrl
  | ocmAgentUrl
  | goalertLowUrl
  | goalertHighUrl
  | goalertHeartbeatUrl
  | clusterId
  | clusterProxy
  deriving DecidableEq

namespace TextField

variable {i : Inputs} {s : TextField} {v : String}

/-- The text. -/
def get (i : Inputs) : TextField → String
  | pagerdutyKey => i.pagerdutyKey
  | watchdogUrl => i.watchdogUrl
  | ocmAgentUrl => i.ocmAgentUrl
  | goalertLowUrl => i.goalertLowUrl
  | goalertHighUrl => i.goalertHighUrl
  | goalertHeartbeatUrl => i.goalertHeartbeatUrl
  | clusterId => i.clusterId
  | clusterProxy => i.clusterProxy

/-- The inputs with `v` for the text. -/
def set (v : String) (i : Inputs) : TextField → Inputs
  | pagerdutyKey => { i with pagerdutyKey := v }
  | watchdogUrl => { i with watchdogUrl := v }
  | ocmAgentUrl => { i with ocmAgentUrl := v }
  | goalertLowUrl => { i with goalertLowUrl := v }
  | goalertHighUrl => { i with goalertHighUrl := v }
  | goalertHeartbeatUrl => { i with goalertHeartbeatUrl := v }
  | clusterId => { i with clusterId := v }
  | clusterProxy => { i with clusterProxy := v }

theorem get_set (s t : TextField) (v : String) (i : Inputs) :
    t.get (s.set v i) = if t = s then v else t.get i := by
  cases s <;> cases t <;> rfl

theorem namespaces_set (s : TextField) : (s.set v i).namespaces = i.namespaces := by
  cases s <;> rfl

theorem fedramp_set (s : TextField) : (s.set v i).fedramp = i.fedramp := by
  cases s <;> rfl

/-- The texts that are addresses. -/
def urls : List TextField :=
  [watchdogUrl, ocmAgentUrl, goalertLowUrl, goalertHighUrl, goalertHeartbeatUrl]

/-- The receivers in which the text has a place. The agent for managed notifications runs inside the
cluster and needs no proxy. -/
def holders : TextField → List String
  | pagerdutyKey | clusterId => Feature.pagerduty.names
  | watchdogUrl => [ReceiverName.watchdog]
  | ocmAgentUrl => [ReceiverName.ocmAgent]
  | goalertLowUrl => [ReceiverName.goalert, ReceiverName.goalertLow]
  | goalertHighUrl => [ReceiverName.goalertHigh]
  | goalertHeartbeatUrl => [ReceiverName.goalertHeartbeat]
  | clusterProxy => (Feature.all.erase .ocmAgent).flatMap Feature.names

/-- The receiver with the places of the text empty. -/
def blank (r : Receiver) (s : TextField) : Receiver :=
  if r.name ∈ s.holders then
    match s with
    | pagerdutyKey => { r with pagerduty := r.pagerduty.map ({ · with routingKey := "" }) }
    | clusterId =>
      { r with pagerduty := r.pagerduty.map fun p ↦ { p with
          details := Pagerduty.identifyingDetails.foldl (fun d key ↦ d.insert key "") p.details } }
    | clusterProxy =>
      { r with
        pagerduty := r.pagerduty.map fun p ↦
          { p with http := p.http.map ({ · with proxyUrl := "" }) }
        webhooks := r.webhooks.map fun w ↦
          { w with http := w.http.map ({ · with proxyUrl := "" }) } }
    | watchdogUrl | ocmAgentUrl | goalertLowUrl | goalertHighUrl | goalertHeartbeatUrl =>
      { r with webhooks := r.webhooks.map ({ · with url := "" }) }
  else r

/-- What stands in the places of the text. Of the two places of the id, this is the one in which it
stands alone. -/
def readings (r : Receiver) : TextField → List String
  | pagerdutyKey => r.pagerduty.map (·.routingKey)
  | clusterId => r.pagerduty.filterMap (·.details.get? "cluster_id")
  | clusterProxy => (r.https.filterMap id).map (·.proxyUrl)
  | watchdogUrl | ocmAgentUrl | goalertLowUrl | goalertHighUrl | goalertHeartbeatUrl =>
    r.webhooks.map (·.url)

end TextField

/-- The configuration with the places of a text empty in all receivers. -/
def Config.blank (s : TextField) (c : Config) : Config :=
  { c with receivers := c.receivers.map s.blank }

theorem HttpSettings.forProxy_of_ne {proxy : String} (h : proxy ≠ "") :
    forProxy proxy = some ⟨proxy⟩ :=
  if_neg h

/-- With the places of the id empty, the details of an incident are the same for every cluster. -/
theorem Pagerduty.blank_details (fedramp : Bool) (id id' : String) :
    identifyingDetails.foldl (fun d key ↦ d.insert key "")
        (if fedramp then redactedDetails id else fullDetails id)
      = identifyingDetails.foldl (fun d key ↦ d.insert key "")
        (if fedramp then redactedDetails id' else fullDetails id') := by
  cases fedramp with
  | true => rw [if_pos rfl, if_pos rfl, redactedDetails_eq id id']
  | false =>
    rw [if_neg Bool.false_ne_true, if_neg Bool.false_ne_true]
    refine Dict.ext_get? fun key ↦ ?_
    rw [Dict.get?_foldl_insert, Dict.get?_foldl_insert]
    by_cases hkey : key ∈ identifyingDetails
    · rw [if_pos hkey, if_pos hkey]
    · rw [if_neg hkey, if_neg hkey]
      exact get?_fullDetails hkey id id'

/-! ## Another text -/

namespace Feature

variable {i : Inputs} {f : Feature} {s : TextField} {v : String}

/-- Which features are on does not depend on what the texts are, only on whether they are given. -/
theorem condition_congr {i j : Inputs} (hfedramp : i.fedramp = j.fedramp)
    (h : ∀ s : TextField, s.get i = "" ↔ s.get j = "") (f : Feature) :
    f.condition i = f.condition j := by
  have hset : ∀ s : TextField, (s.get i != "") = (s.get j != "") := by
    intro s
    rw [Bool.eq_iff_iff, bne_iff_ne, bne_iff_ne, Ne, Ne, h s]
  cases f with
  | watchdog => exact hset .watchdogUrl
  | ocmAgent => exact hset .ocmAgentUrl
  | pagerduty => exact hset .pagerdutyKey
  | heartbeat => exact congrArg₂ (· && ·) hfedramp (hset .goalertHeartbeatUrl)
  | goalert =>
    exact congrArg₂ (· && ·) (congrArg₂ (· && ·) hfedramp (hset .goalertLowUrl))
      (hset .goalertHighUrl)

theorem condition_set (h : s.get i ≠ "") (hv : v ≠ "") (f : Feature) :
    f.condition (s.set v i) = f.condition i := by
  refine condition_congr s.fedramp_set (fun t ↦ ?_) f
  rw [TextField.get_set]
  split_ifs with hts
  · exact iff_of_false hv (hts ▸ h)
  · rfl

theorem blank_incidents {name : String} (hname : name ∈ Feature.pagerduty.names)
    (severity id : String) :
    TextField.clusterId.blank (incidents { i with clusterId := id } name severity)
      = TextField.clusterId.blank (incidents i name severity) := by
  have hholder : name ∈ TextField.clusterId.holders := hname
  simp only [TextField.blank, incidents, if_pos hholder, List.map_cons, List.map_nil,
    Pagerduty.notifier, Pagerduty.blank_details i.fedramp id i.clusterId]

theorem map_blank_built (h : s.get i ≠ "") (hv : v ≠ "") (f : Feature) :
    (f.built (s.set v i)).map s.blank = (f.built i).map s.blank := by
  cases s with
  | clusterId =>
    cases f with
    | pagerduty =>
      refine congrArg₂ List.cons ?_ <| congrArg₂ List.cons ?_ <|
        congrArg₂ List.cons ?_ <| congrArg₂ List.cons ?_ rfl
      all_goals exact blank_incidents (by decide) _ v
    | watchdog | ocmAgent | heartbeat | goalert => rfl
  | clusterProxy =>
    -- both proxies are there, so both are given to the notifiers
    have hproxy : HttpSettings.forProxy i.clusterProxy = some ⟨i.clusterProxy⟩ :=
      HttpSettings.forProxy_of_ne h
    have hother : HttpSettings.forProxy v = some ⟨v⟩ := HttpSettings.forProxy_of_ne hv
    cases f with
    | ocmAgent => rfl
    | pagerduty =>
      simp only [built, incidents, Pagerduty.notifier, TextField.set, hproxy, hother]
      rfl
    | watchdog | heartbeat | goalert =>
      simp only [built, Receiver.webhook, Webhook.to, TextField.set, hproxy, hother]
      rfl
  | _ => cases f <;> rfl

theorem routes_set (h : s.get i ≠ "") (hv : v ≠ "") (f : Feature) :
    f.routes (s.set v i) = f.routes i := by
  rw [routes_eq, routes_eq, condition_set h hv, s.namespaces_set, s.fedramp_set]

theorem map_blank_receivers (h : s.get i ≠ "") (hv : v ≠ "") (f : Feature) :
    (f.receivers (s.set v i)).map s.blank = (f.receivers i).map s.blank := by
  rw [receivers_eq, receivers_eq, condition_set h hv]
  split_ifs
  · exact map_blank_built h hv f
  · rfl

/-! ## What the receivers hold -/

theorem readings_proxy {r : Receiver} (h : i.clusterProxy ≠ "")
    (hr : r.https = [HttpSettings.forProxy i.clusterProxy]) :
    TextField.clusterProxy.readings r = [i.clusterProxy] := by
  rw [TextField.readings, hr, HttpSettings.forProxy_of_ne h]
  rfl

theorem readings_webhook {name : String} {u : TextField} (h : s.get i ≠ "")
    (hurl : u ∈ TextField.urls) (hholder : name ∈ u.holders) (hname : name ∈ s.holders) :
    s.readings (.webhook name (u.get i) i.clusterProxy) = [s.get i] := by
  have hboth : ∀ u ∈ TextField.urls, ∀ name ∈ u.holders, name ∈ s.holders →
      s = u ∨ s = .clusterProxy := by
    cases s <;> decide
  rcases hboth u hurl name hholder hname with rfl | rfl
  · cases s with
    | pagerdutyKey | clusterId | clusterProxy => exact absurd hurl (by decide)
    | _ => rfl
  · exact readings_proxy h rfl

theorem readings_incidents {name severity : String} (h : s.get i ≠ "")
    (hid : s = .clusterId → i.fedramp = false) (hkey : name ∈ Feature.pagerduty.names)
    (hname : name ∈ s.holders) : s.readings (incidents i name severity) = [s.get i] := by
  have hall : ∀ name ∈ Feature.pagerduty.names, name ∈ s.holders →
      s = .pagerdutyKey ∨ s = .clusterId ∨ s = .clusterProxy := by
    cases s <;> decide
  rcases hall name hkey hname with rfl | rfl | rfl
  · rfl
  · have hdetails : (Pagerduty.notifier i.pagerdutyKey i.clusterId i.clusterProxy i.fedramp
        severity).details = Pagerduty.fullDetails i.clusterId := by
      rw [Pagerduty.notifier, hid rfl]
      rfl
    rw [TextField.readings, incidents, List.filterMap_cons, hdetails,
      Pagerduty.get?_fullDetails_clusterId]
    rfl
  · exact readings_proxy h rfl

/-- A text that is given stands in its places as it is, apart from the id of the cluster in FedRAMP
environments. -/
theorem readings_built (h : s.get i ≠ "") (hid : s = .clusterId → i.fedramp = false) :
    ∀ r ∈ f.built i, r.name ∈ s.holders → s.readings r = [s.get i] := by
  intro r hr hname
  cases f with
  | watchdog =>
    obtain rfl := List.mem_singleton.1 hr
    exact readings_webhook (u := .watchdogUrl) h (by decide) (by decide) hname
  | ocmAgent =>
    obtain rfl := List.mem_singleton.1 hr
    change ReceiverName.ocmAgent ∈ _ at hname
    cases s with
    | ocmAgentUrl => rfl
    | _ => exact absurd hname (by decide)
  | pagerduty =>
    simp only [built, List.mem_cons, List.not_mem_nil, or_false] at hr
    rcases hr with rfl | rfl | rfl | rfl
    all_goals exact readings_incidents h hid (by decide) hname
  | heartbeat =>
    obtain rfl := List.mem_singleton.1 hr
    exact readings_webhook (u := .goalertHeartbeatUrl) h (by decide) (by decide) hname
  | goalert =>
    simp only [built, List.mem_cons, List.not_mem_nil, or_false] at hr
    rcases hr with rfl | rfl | rfl
    · exact readings_webhook (u := .goalertLowUrl) h (by decide) (by decide) hname
    · exact readings_webhook (u := .goalertLowUrl) h (by decide) (by decide) hname
    · exact readings_webhook (u := .goalertHighUrl) h (by decide) (by decide) hname

/-- Each receiver has one notifier, which uses the proxy, apart from that of the agent for managed
notifications. -/
theorem https_built : ∀ r ∈ f.built i, r.emails = [] ∧ r.https =
    [if r.name = ReceiverName.ocmAgent then none
      else HttpSettings.forProxy i.clusterProxy] := by
  cases f with
  | watchdog | ocmAgent | heartbeat =>
    exact List.forall_mem_singleton.2 ⟨rfl, rfl⟩
  | pagerduty =>
    simp only [built, List.forall_mem_cons]
    exact ⟨⟨rfl, rfl⟩, ⟨rfl, rfl⟩, ⟨rfl, rfl⟩, ⟨rfl, rfl⟩, nofun⟩
  | goalert =>
    simp only [built, List.forall_mem_cons]
    exact ⟨⟨rfl, rfl⟩, ⟨rfl, rfl⟩, ⟨rfl, rfl⟩, nofun⟩

end Feature

/-! ## The whole configuration -/

/-- The route `r` is the tree of a paging notifier, and `s` is the same tree with other routes after
those of the rules of the table. -/
def Route.DiffersAfterTable (fedramp : Bool) (r s : Route) : Prop :=
  ∃ tiers namespaces tail tail', r = paging tiers namespaces fedramp ∧
    r.routes = (rulesFor fedramp).map (·.route tiers) ++ tail ∧
    s = { r with routes := (rulesFor fedramp).map (·.route tiers) ++ tail' }

namespace Inputs

variable {i : Inputs}

theorem mem_receivers_config {r : Receiver} (hr : r ∈ i.config.receivers) :
    (∃ f : Feature, r ∈ f.receivers i) ∨ r = Receiver.blackhole ReceiverName.null := by
  rw [config, receivers_eq_flatMap] at hr
  rcases List.mem_append.1 hr with hr | hr
  · obtain ⟨f, -, hr⟩ := List.mem_flatMap.1 hr
    exact .inl ⟨f, hr⟩
  · exact .inr (List.mem_singleton.1 hr)

theorem blank_config_set {s : TextField} {v : String} (h : s.get i ≠ "") (hv : v ≠ "") :
    (s.set v i).config.blank s = i.config.blank s := by
  have hroutes : (s.set v i).contributions.filterMap (·.route)
      = i.contributions.filterMap (·.route) := by
    rw [routes_eq_flatMap, routes_eq_flatMap]
    exact List.flatMap_congr fun f _ ↦ Feature.routes_set h hv f
  have hreceivers : ((s.set v i).contributions.flatMap (·.receivers)).map s.blank
      = (i.contributions.flatMap (·.receivers)).map s.blank := by
    rw [receivers_eq_flatMap, receivers_eq_flatMap, List.map_flatMap, List.map_flatMap]
    exact List.flatMap_congr fun f _ ↦ Feature.map_blank_receivers h hv f
  simp only [Config.blank, config, hroutes, List.map_append, hreceivers]

theorem names_subset_config {f : Feature} (hon : ¬f.Off i) :
    f.names ⊆ i.config.receivers.map (·.name) := by
  intro name hname
  rw [← (Feature.contribution_of_on hon).2] at hname
  obtain ⟨r, hr, rfl⟩ := List.mem_map.1 hname
  refine List.mem_map_of_mem (List.mem_append_left _ ?_)
  rw [receivers_eq_flatMap]
  exact List.mem_flatMap.2 ⟨f, f.mem_all, hr⟩

theorem readings_config {s : TextField} (h : s.get i ≠ "")
    (hid : s = .clusterId → i.fedramp = false) {r : Receiver} (hr : r ∈ i.config.receivers)
    (hname : r.name ∈ s.holders) : s.readings r = [s.get i] := by
  rcases mem_receivers_config hr with ⟨f, hr⟩ | rfl
  · exact Feature.readings_built h hid r (f.receivers_subset_built i hr) hname
  · have hnull : ReceiverName.null ∉ s.holders := by
      cases s <;> decide
    exact absurd hname hnull

theorem https_config {r : Receiver} (hr : r ∈ i.config.receivers) :
    r.emails = [] ∧ r.https = if r.name = ReceiverName.null then []
      else if r.name = ReceiverName.ocmAgent ∨ i.clusterProxy = "" then [none]
      else [some ⟨i.clusterProxy⟩] := by
  rcases mem_receivers_config hr with ⟨f, hr⟩ | rfl
  · have hnull : r.name ≠ ReceiverName.null := fun h ↦
      f.null_notMem_names (h ▸ Feature.name_mem_names hr)
    obtain ⟨hemails, hhttps⟩ := Feature.https_built r (f.receivers_subset_built i hr)
    refine ⟨hemails, ?_⟩
    rw [hhttps, if_neg hnull, HttpSettings.forProxy]
    by_cases hagent : r.name = ReceiverName.ocmAgent
    · rw [if_pos hagent, if_pos (.inl hagent)]
    · by_cases hproxy : i.clusterProxy = ""
      · rw [if_neg hagent, if_pos hproxy, if_pos (.inr hproxy)]
      · rw [if_neg hagent, if_neg hproxy, if_neg (not_or_intro hagent hproxy)]
  · exact ⟨rfl, rfl⟩

/-- With other namespaces the routes after the table differ, in the trees of the paging notifiers,
and nothing else does. -/
theorem config_namespaces (i : Inputs) (others : List String) :
    ∃ routes routes', i.config.route = some (.root routes) ∧
      { i with namespaces := others }.config = { i.config with route := some (.root routes') } ∧
      List.Forall₂ (fun r s ↦ r = s ∨ r.DiffersAfterTable i.fedramp s) routes routes' := by
  have hreceivers : { i with namespaces := others }.contributions.flatMap
        (fun c : Contribution ↦ c.receivers)
      = i.contributions.flatMap (·.receivers) := by
    rw [receivers_eq_flatMap, receivers_eq_flatMap]
    refine List.flatMap_congr fun f _ ↦ ?_
    rw [Feature.receivers_eq, Feature.receivers_eq]
    cases f <;> rfl
  refine ⟨_, _, rfl, ?_, i.forall₂_routes others (fun _ ↦ .inl rfl)
    fun tiers ↦ .inr ⟨tiers, _, _, _, rfl, rfl, rfl⟩⟩
  rw [config, hreceivers, config]

/-- Whatever the inputs are, each text among them stands in its own places of the configuration:

* with another text in its stead, neither being empty, the configuration differs in these places
  alone;
* each feature that is on has its receivers, and where a receiver has places for a text, that text
  stands in them as it is. The id of the cluster is left out in FedRAMP environments;
* all notifiers have the proxy if there is one, and none has one if there is none, apart from that
  of the agent for managed notifications, which never has one.

With other namespaces, routes after the table of rules change in the trees of the paging notifiers,
and nothing else. -/
theorem config_placement (i : Inputs) :
    (∀ (s : TextField) (v : String), s.get i ≠ "" → v ≠ "" →
      (s.set v i).config.blank s = i.config.blank s) ∧
    ((∀ f : Feature, ¬f.Off i → f.names ⊆ i.config.receivers.map (·.name)) ∧
      ∀ s : TextField, s.get i ≠ "" → (s = .clusterId → i.fedramp = false) →
        ∀ r ∈ i.config.receivers, r.name ∈ s.holders → s.readings r = [s.get i]) ∧
    (∀ r ∈ i.config.receivers, r.emails = [] ∧
      r.https = if r.name = ReceiverName.null then []
        else if r.name = ReceiverName.ocmAgent ∨ i.clusterProxy = "" then [none]
        else [some ⟨i.clusterProxy⟩]) ∧
    ∀ others, ∃ routes routes', i.config.route = some (.root routes) ∧
      { i with namespaces := others }.config = { i.config with route := some (.root routes') } ∧
      List.Forall₂ (fun r s ↦ r = s ∨ r.DiffersAfterTable i.fedramp s) routes routes' := by
  refine ⟨fun s v ↦ blank_config_set, ⟨fun f ↦ names_subset_config, ?_⟩, fun r ↦ https_config,
    i.config_namespaces⟩
  intro s h hid r hr hname
  exact readings_config h hid hr hname

end Inputs

end AlertOperator.Alertmanager
