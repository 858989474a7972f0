import AlertOperator.Findings
import AlertOperator.Proofs.Cluster.World
import AlertOperator.Proofs.Text.Bytes

/-!
# What a configuration depends on

Of all secrets and config maps only a few are read, these by their names, and of each of them only
the values under a few keys. So two passes that find the same values in these places build the same
configuration, whatever else is there and in whatever order. An object that is missing makes no
difference to one that lacks the value.
-/

namespace AlertOperator

open Cluster (Secret ConfigMap Object)

/-- The secrets that values are taken from. -/
def secretInputs : List String :=
  [Cluster.goalertSecret, Cluster.pagerdutySecret, Cluster.watchdogSecret]

/-- The config maps that values are taken from. -/
def mapInputs : List String :=
  [Cluster.managedNamespaces, Cluster.platformNamespaces, Cluster.ocmAgentMap]

theorem secretInputs_subset : secretInputs ⊆ Cluster.watchedNames := by decide

theorem mapInputs_subset : mapInputs ⊆ Cluster.watchedNames := by decide

/-- The same objects are found under the given names. -/
def SameObjects {β : Type} (names : List String) (os os' : List (Object β)) : Prop :=
  ∀ n ∈ names, Object.find? n os = Object.find? n os'

theorem SameObjects.mono {β : Type} {names names' : List String} {os os' : List (Object β)}
    (h : SameObjects names os os') (hsub : names' ⊆ names) : SameObjects names' os os' :=
  fun n hn ↦ h n (hsub hn)

theorem SameObjects.trans {β : Type} {names : List String} {os os' os'' : List (Object β)}
    (h : SameObjects names os os') (h' : SameObjects names os' os'') : SameObjects names os os'' :=
  fun n hn ↦ (h n hn).trans (h' n hn)

theorem SameObjects.symm {β : Type} {names : List String} {os os' : List (Object β)}
    (h : SameObjects names os os') : SameObjects names os' os :=
  fun n hn ↦ (h n hn).symm

theorem secretText_congr {ss ss' : List Secret} {n : String}
    (h : Object.find? n ss = Object.find? n ss') (key : String) :
    secretText ss n key = secretText ss' n key := by
  rw [secretText, h, secretText]

/-! ## Values and their places -/

/-- Where a value is looked up: the name of an object, and a key in it. -/
structure Place where
  name : String
  key : String

/-- The value in the given place, in the first object of that name. -/
def Place.find? {β : Type} (p : Place) (os : List (Object β)) : Option β :=
  (Object.find? p.name os).bind (·.value? p.key)

/-- There are bytes in the given place. -/
def Place.Filled (p : Place) (ss : List Secret) : Prop :=
  ∃ bytes, p.find? ss = some bytes ∧ bytes ≠ []

/-- A text is taken from a secret exactly if there are bytes in its place. -/
theorem secretText_ne_empty_iff {ss : List Secret} {name key : String} :
    secretText ss name key ≠ "" ↔ Place.Filled ⟨name, key⟩ ss := by
  have htext : secretText ss name key
      = ((Place.find? ⟨name, key⟩ ss).map Bytes.toStringLossy).getD "" := rfl
  rw [htext, Place.Filled]
  rcases Place.find? ⟨name, key⟩ ss with _ | bytes
  · simp
  · simp [Bytes.toStringLossy_eq_empty_iff]

theorem paging_ne_empty_iff {ss : List Secret} {ready : Bool} {name key : String} :
    (if ready then secretText ss name key else "") ≠ "" ↔
      ready = true ∧ Place.Filled ⟨name, key⟩ ss := by
  rw [← secretText_ne_empty_iff]
  cases ready with
  | true => simp
  | false => simp

/-- Where values are taken from secrets. -/
def secretPlaces : List Place :=
  [⟨Cluster.pagerdutySecret, Cluster.pagerdutyKey⟩, ⟨Cluster.watchdogSecret, Cluster.watchdogKey⟩,
    ⟨Cluster.goalertSecret, Cluster.goalertLowKey⟩, ⟨Cluster.goalertSecret, Cluster.goalertHighKey⟩,
    ⟨Cluster.goalertSecret, Cluster.goalertHeartbeatKey⟩]

/-- Where values are taken from config maps. -/
def mapPlaces : List Place :=
  [⟨Cluster.managedNamespaces, Cluster.namespacesKey⟩,
    ⟨Cluster.platformNamespaces, Cluster.namespacesKey⟩,
    ⟨Cluster.ocmAgentMap, Cluster.ocmAgentUrlKey⟩]

/-- The same values are found in the given places. -/
def SameValues {β : Type} (places : List Place) (os os' : List (Object β)) : Prop :=
  ∀ p ∈ places, p.find? os = p.find? os'

theorem SameObjects.values {β : Type} {names : List String} {places : List Place}
    {os os' : List (Object β)} (h : SameObjects names os os')
    (hplaces : places.map (·.name) ⊆ names) : SameValues places os os' := by
  intro p hp
  rw [Place.find?, Place.find?, h p.name (hplaces (List.mem_map_of_mem hp))]

theorem Credentials.ofSecrets_congr {ss ss' : List Secret} (h : SameValues secretPlaces ss ss')
    (ready : Bool) : Credentials.ofSecrets ss ready = Credentials.ofSecrets ss' ready := by
  simp only [SameValues, secretPlaces, List.forall_mem_cons] at h
  obtain ⟨hpagerduty, hwatchdog, hlow, hhigh, hheartbeat, -⟩ := h
  have htext : ∀ {name key : String}, Place.find? ⟨name, key⟩ ss = Place.find? ⟨name, key⟩ ss' →
      secretText ss name key = secretText ss' name key := fun h ↦
    congrArg (fun value ↦ (value.map Bytes.toStringLossy).getD "") h
  simp only [Credentials.ofSecrets, htext hpagerduty, htext hwatchdog, htext hlow, htext hhigh,
    htext hheartbeat]

/-- A list of namespaces is read from a value; a missing one has none, like an empty text. -/
theorem listedNamespaces_eq (ms : List ConfigMap) (name : String) :
    listedNamespaces ms name
      = ((Place.find? ⟨name, Cluster.namespacesKey⟩ ms).bind
          (Yaml.decode? readNamespaces)).getD [] := by
  have hempty : (Yaml.decode? readNamespaces "").getD [] = [] := by decide
  rw [listedNamespaces, mapText, Place.find?]
  rcases Object.find? name ms with _ | m
  · rfl
  · rw [Option.map_some, Option.bind_some, Option.bind_some]
    rcases m.value? Cluster.namespacesKey with _ | text
    · exact hempty
    · rfl

theorem pagingNamespaces_congr {ms ms' : List ConfigMap} (h : SameValues mapPlaces ms ms') :
    pagingNamespaces ms = pagingNamespaces ms' := by
  simp only [SameValues, mapPlaces, List.forall_mem_cons] at h
  simp only [pagingNamespaces, listedNamespaces_eq, h.1, h.2.1]

theorem ocmAgentUrl_eq (ms : List ConfigMap) : ocmAgentUrl ms =
    let url := (Place.find? ⟨Cluster.ocmAgentMap, Cluster.ocmAgentUrlKey⟩ ms).getD ""
    if isAbsoluteUrl url then url else "" := by
  rw [ocmAgentUrl, mapText, Place.find?]
  cases Object.find? Cluster.ocmAgentMap ms with
  | none => rfl
  | some m => rfl

theorem ocmAgentUrl_congr {ms ms' : List ConfigMap} (h : SameValues mapPlaces ms ms') :
    ocmAgentUrl ms = ocmAgentUrl ms' := by
  simp only [SameValues, mapPlaces, List.forall_mem_cons] at h
  simp only [ocmAgentUrl_eq, h.2.2.1]

theorem Findings.inputs_congr_values {f f' : Findings}
    (hsecrets : SameValues secretPlaces f.secrets f'.secrets)
    (hmaps : SameValues mapPlaces f.configMaps f'.configMaps)
    (hproxy : f.clusterProxy = f'.clusterProxy) (hid : f.clusterId = f'.clusterId)
    (hready : f.ready = f'.ready) (hfedramp : f.fedramp = f'.fedramp) : f.inputs = f'.inputs := by
  rw [inputs, Credentials.ofSecrets_congr hsecrets, ocmAgentUrl_congr hmaps,
    pagingNamespaces_congr hmaps, hproxy, hid, hready, hfedramp]
  rfl

theorem Findings.inputs_congr {f f' : Findings}
    (hsecrets : SameObjects secretInputs f.secrets f'.secrets)
    (hmaps : SameObjects mapInputs f.configMaps f'.configMaps)
    (hproxy : f.clusterProxy = f'.clusterProxy) (hid : f.clusterId = f'.clusterId)
    (hready : f.ready = f'.ready) (hfedramp : f.fedramp = f'.fedramp) : f.inputs = f'.inputs :=
  inputs_congr_values (hsecrets.values (by decide)) (hmaps.values (by decide)) hproxy hid hready
    hfedramp

end AlertOperator
