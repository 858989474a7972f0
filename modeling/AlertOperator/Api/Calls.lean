import AlertOperator.Api.Exchange
import AlertOperator.Api.Resource

/-!
# The calls of the operator

How the operator asks the API for what it needs to know, and how it tells the API what to change. A
secret is written only if it says where it belongs.
-/

namespace AlertOperator.Api

open Cluster (Secret ConfigMap Job StoreError)
open Time (Instant)

/-! ## Paths -/

/-- The path of the objects of a kind in a namespace. -/
def objectsPath (ns kinds : String) : String := "/api/v1/namespaces/" ++ ns ++ "/" ++ kinds

/-- The path of the readiness job. -/
def jobPath (ns : String) : String :=
  "/apis/batch/v1/namespaces/" ++ ns ++ "/jobs/osd-cluster-ready"

/-- The path of a resource of the platform. -/
def resourcePath (kinds name : String) : String :=
  "/apis/" ++ resourceVersion ++ "/" ++ kinds ++ "/" ++ name

/-! ## Reading -/

def listSecrets (ns : String) : Exchange (List Secret) :=
  .get (objectsPath ns "secrets") (list? secret?)

def listConfigMaps (ns : String) : Exchange (List ConfigMap) :=
  .get (objectsPath ns "configmaps") (list? configMap?)

/-- Asks for the version of the cluster. -/
def clusterVersion : Exchange ClusterVersion :=
  .get (resourcePath "clusterversions" "version") ClusterVersion.ofJson?

def clusterId : Exchange String :=
  .get (resourcePath "clusterversions" "version") fun j ↦
    (ClusterVersion.ofJson? j).map (·.spec.clusterId)

/-- Asks for the address of the proxy in use, which is empty if there is none. -/
def clusterProxy : Exchange String :=
  .get (resourcePath "proxies" "cluster") fun j ↦
    (Proxy.ofJson? j).map fun p ↦ (p.status.getD {}).httpsProxy

/-- Asks for the readiness job; one that the API does not find is missing. -/
def readinessJob (ns : String) : Exchange (Option Job) where
  request := message .get (jobPath ns) none
  read := fun j ↦ (job? j).map some
  onError := fun e ↦ if e.reason = "NotFound" then .ok none else .error e.toStore

/-- When a cluster was created, to the millisecond, as its version tells. -/
def ClusterVersion.createdAt (v : ClusterVersion) : Except StoreError Instant :=
  match v.metadata.created.filter Instant.inCalendar with
  | some t => .ok t.toMillis
  | none => .error (.notFound "ClusterVersion has no creationTimestamp")

/-- What is sent to learn when the cluster was created, and the result for what comes back. -/
def createdAt (reply : Reply) : Option Message × Except StoreError Instant :=
  let (sent, result) := clusterVersion.run reply
  (sent, result.bind ClusterVersion.createdAt)

/-! ## Writing -/

/-- The namespace and the name of a secret that says where it belongs. -/
def location (s : Secret) : Except StoreError (String × String) :=
  match s.ns, s.name with
  | some ns, some name => .ok (ns, name)
  | _, _ => .error (.invalidObject "secret is missing a name or namespace")

/-- What is read from a reply whose content does not matter. -/
def ignored {α : Type} (read : Json → Option α) (j : Json) : Option Unit := (read j).map fun _ ↦ ()

def replaceSecret (s : Secret) : Exchange Unit where
  request := do
    let (ns, name) ← location s
    if name = "" then .error .refused
    else message .put (objectsPath ns "secrets" ++ "/" ++ name) (some (ofSecret s))
  read := ignored secret?

def createSecret (s : Secret) : Exchange Unit where
  request := do
    let (ns, _) ← location s
    message .post (objectsPath ns "secrets") (some (ofSecret s))
  read := ignored secret?

/-- The word for how an operation went, if there is one. -/
def outcomeWord? : Option Json → Option Unit
  | none => some ()
  | some .null => some ()
  | some (.str "Success") => some ()
  | some (.str "Failure") => some ()
  | some _ => none

/-- A reply about an operation and not about an object. -/
def outcome? (j : Json) : Option Unit := do
  let field ← Json.fieldsOf? ["status", "code", "message", "reason", "details"] 0 j
  outcomeWord? (field "status")
  let _ ← Json.textOrEmpty? (field "message")
  let _ ← Json.textOrEmpty? (field "reason")
  guard ((field "details").all detailsShape.accepts)
  match field "code" with
  | none => pure ()
  | some (.int n) => guard (0 ≤ n ∧ n < 0x10000)
  | some _ => failure

/-- Deletes the readiness job and leaves it to the API to clean up after it. -/
def deleteReadinessJob (ns : String) : Exchange Unit where
  request := message .delete (jobPath ns)
    (some (.obj [("propagationPolicy", .str "Background")]))
  read := fun j ↦
    if j.get? "kind" == some (.str "Status") then outcome? j else ignored job? j

/-! ## Descriptions -/

/-- The access to secrets and resources as descriptions of the operator show it. -/
def describeStore : String := "KubeClusterStore \x7b .. \x7d"

/-- The access to the readiness job as descriptions of the operator show it. -/
def describeReadiness (ns : String) : String :=
  "KubeReadinessSource \x7b namespace: " ++ Text.quote ns ++ ", .. \x7d"

end AlertOperator.Api
