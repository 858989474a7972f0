import AlertOperator.Alertmanager.Build
import AlertOperator.Cluster.Names
import AlertOperator.Cluster.Object
import AlertOperator.Text.Blank
import AlertOperator.Url.Parse
import AlertOperator.Yaml.Decode
import AlertOperator.Yaml.Tree

/-!
# What the operator finds in the cluster

From the secrets and config maps of its namespace the operator takes the values that a configuration
is made of. Nothing here fails: an object or key that is missing, or a value that cannot be used,
means that something is not configured.

The keys and addresses of the paging services are taken only when the cluster is ready, so that
nobody is paged while it is being installed.
-/

namespace AlertOperator

open Alertmanager (Inputs)
open Cluster (Secret ConfigMap Object)
open Yaml (Tree Node Source Decode field required)

/-! ## Secrets -/

/-- The values taken from secrets; an empty text means that something is not configured. -/
structure Credentials where
  pagerdutyKey : String := ""
  watchdogUrl : String := ""
  goalertLowUrl : String := ""
  goalertHighUrl : String := ""
  goalertHeartbeatUrl : String := ""
  deriving DecidableEq, Inhabited, Repr

/-- The text under a key of the first secret with the given name. -/
def secretText (secrets : List Secret) (name key : String) : String :=
  (((Object.find? name secrets).bind (·.value? key)).map Bytes.toStringLossy).getD ""

/-- The values in the secrets of a cluster that is or is not ready. -/
def Credentials.ofSecrets (secrets : List Secret) (ready : Bool) : Credentials :=
  let paging (name key : String) : String := if ready then secretText secrets name key else ""
  { pagerdutyKey := paging Cluster.pagerdutySecret Cluster.pagerdutyKey
    watchdogUrl := secretText secrets Cluster.watchdogSecret Cluster.watchdogKey
    goalertLowUrl := paging Cluster.goalertSecret Cluster.goalertLowKey
    goalertHighUrl := paging Cluster.goalertSecret Cluster.goalertHighKey
    goalertHeartbeatUrl := paging Cluster.goalertSecret Cluster.goalertHeartbeatKey }

/-! ## Namespaces -/

/-- The written form of a list of namespaces. -/
def namespacesTree (names : List String) : Tree :=
  .map [("Resources", .map [("Namespace", .seq (names.map fun n ↦ .map [("name", .text n)]))])]

/-- Reads one namespace. -/
def readNamespace (src : Source) (depth : Nat) (n : Node) : Decode String := do
  required (← src.entries depth n) "name" src.text

/-- Reads a list of namespaces. -/
def readNamespaces (src : Source) (depth : Nat) (n : Node) : Decode (List String) := do
  field (← src.entries depth n) "Resources" [] fun n ↦ do
    field (← src.entries (depth - 1) n) "Namespace" [] (src.list (readNamespace src) (depth - 2))

/-- The value under a key of the first config map with the given name, empty if there is none. -/
def mapText (maps : List ConfigMap) (name key : String) : Option String :=
  (Object.find? name maps).map fun m ↦ (m.value? key).getD ""

/-- The names in the document of a config map with namespaces; none if it cannot be read. -/
def listedNamespaces (maps : List ConfigMap) (name : String) : List String :=
  ((mapText maps name Cluster.namespacesKey).bind (Yaml.decode? readNamespaces)).getD []

/-- The pattern that only the name itself matches. -/
def exactly (name : String) : String := "^" ++ name ++ "$"

/-- The patterns used where the lists of namespaces are not complete. -/
def defaultNamespaces : List String := ["^openshift-.*$", "^redhat-.*$", "^kube-.*$"]

/-- The patterns of the namespaces whose alerts page: those of both lists if each has entries, and
otherwise the default ones. -/
def pagingNamespaces (maps : List ConfigMap) : List String :=
  let managed := listedNamespaces maps Cluster.managedNamespaces
  let platform := listedNamespaces maps Cluster.platformNamespaces
  if managed.isEmpty || platform.isEmpty then defaultNamespaces
  else (managed ++ platform).map exactly

/-! ## The agent for managed notifications -/

/-- The text is an absolute address as it stands, without white space or control characters. -/
def isAbsoluteUrl (s : String) : Bool :=
  !s.toList.any (fun c ↦ Text.isBlank c || Text.isControl c) && (Url.read s).isSome

/-- The address of the agent, empty if there is none that can be used. -/
def ocmAgentUrl (maps : List ConfigMap) : String :=
  let url := (mapText maps Cluster.ocmAgentMap Cluster.ocmAgentUrlKey).getD ""
  if isAbsoluteUrl url then url else ""

/-! ## All inputs -/

/-- What a pass finds in the cluster. -/
structure Findings where
  secrets : List Secret := []
  configMaps : List ConfigMap := []
  clusterProxy : String := ""
  clusterId : String := ""
  ready : Bool := false
  fedramp : Bool := false
  deriving DecidableEq, Inhabited

/-- The inputs of the configuration for what a pass finds. -/
def Findings.inputs (f : Findings) : Inputs :=
  let credentials := Credentials.ofSecrets f.secrets f.ready
  { pagerdutyKey := credentials.pagerdutyKey
    watchdogUrl := credentials.watchdogUrl
    ocmAgentUrl := ocmAgentUrl f.configMaps
    goalertLowUrl := credentials.goalertLowUrl
    goalertHighUrl := credentials.goalertHighUrl
    goalertHeartbeatUrl := credentials.goalertHeartbeatUrl
    clusterId := f.clusterId
    clusterProxy := f.clusterProxy
    namespaces := pagingNamespaces f.configMaps
    fedramp := f.fedramp }

end AlertOperator
