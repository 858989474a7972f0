import AlertOperator.Cluster.Object
import AlertOperator.Cluster.StoreError
import AlertOperator.Time.Instant

/-!
# The cluster and the calls to it

The cluster holds what the operator can ask for, and says of each operation whether it fails at
present. Every call is recorded before it is answered, so the record has the failing calls too. An
operation that fails leaves the cluster as it was.

The cluster is seen through the namespace of the operator: its lists are those of that namespace,
and a secret is found by its name.
-/

namespace AlertOperator.Cluster

open Time (Instant)

/-! ## Operations -/

/-- What the cluster can be asked for. -/
inductive Operation where
  | listSecrets
  | listConfigMaps
  | clusterId
  | clusterProxy
  | replaceSecret
  | createSecret
  | readinessJob
  | deleteReadinessJob
  | createdAt
  deriving DecidableEq, Repr

/-- A call that was made. -/
inductive Call where
  | listSecrets (ns : String)
  | listConfigMaps (ns : String)
  | clusterId
  | clusterProxy
  | replaceSecret (secret : Secret)
  | createSecret (secret : Secret)
  | readinessJob
  | deleteReadinessJob
  | createdAt
  deriving DecidableEq

/-- The operation that a call asks for. -/
def Call.operation : Call → Operation
  | listSecrets _ => .listSecrets
  | listConfigMaps _ => .listConfigMaps
  | clusterId => .clusterId
  | clusterProxy => .clusterProxy
  | replaceSecret _ => .replaceSecret
  | createSecret _ => .createSecret
  | readinessJob => .readinessJob
  | deleteReadinessJob => .deleteReadinessJob
  | createdAt => .createdAt

/-- The secret that a call writes. -/
def Call.written? : Call → Option Secret
  | replaceSecret secret => some secret
  | createSecret secret => some secret
  | _ => none

/-! ## The cluster -/

/-- The state of the cluster. -/
structure World where
  secrets : List Secret := []
  configMaps : List ConfigMap := []
  clusterId : String := ""
  /-- The address of the proxy for outgoing connections, empty if there is none. -/
  proxy : String := ""
  /-- The job that tells whether the cluster has become ready. -/
  job : Option Job := none
  /-- When the cluster was created. -/
  created : Option Instant := none
  /-- The error with which an operation fails at present. -/
  failing : Operation → Option StoreError := fun _ ↦ none

instance : Inhabited World := ⟨{}⟩

/-- The secrets with `secret` in the place of the first one of its name; none if there is none. -/
def replaceFirst (secret : Secret) : List Secret → Option (List Secret)
  | [] => none
  | s :: ss =>
    if s.name = secret.name then some (secret :: ss)
    else (replaceFirst secret ss).map (s :: ·)

/-- The cluster and the calls that were made to it, in order. -/
structure Session where
  world : World := {}
  calls : List Call := []
  deriving Inhabited

namespace Session

/-- Records a call and answers it: with the error of its operation if that fails, and otherwise as
`answer` says. -/
def request {α : Type} (call : Call) (answer : World → Except StoreError α × World)
    (s : Session) : Except StoreError α × Session :=
  let calls := s.calls ++ [call]
  match s.world.failing call.operation with
  | some e => (.error e, { s with calls := calls })
  | none =>
    let (result, world) := answer s.world
    (result, ⟨world, calls⟩)

/-- A call that changes nothing. -/
def inquire {α : Type} (call : Call) (answer : World → Except StoreError α) (s : Session) :
    Except StoreError α × Session :=
  s.request call fun w ↦ (answer w, w)

/-! ## Reading -/

def listSecrets (ns : String) (s : Session) : Except StoreError (List Secret) × Session :=
  s.inquire (.listSecrets ns) fun w ↦ .ok w.secrets

def listConfigMaps (ns : String) (s : Session) : Except StoreError (List ConfigMap) × Session :=
  s.inquire (.listConfigMaps ns) fun w ↦ .ok w.configMaps

def clusterId (s : Session) : Except StoreError String × Session :=
  s.inquire .clusterId fun w ↦ .ok w.clusterId

def clusterProxy (s : Session) : Except StoreError String × Session :=
  s.inquire .clusterProxy fun w ↦ .ok w.proxy

def readinessJob (s : Session) : Except StoreError (Option Job) × Session :=
  s.inquire .readinessJob fun w ↦ .ok w.job

def createdAt (s : Session) : Except StoreError Instant × Session :=
  s.inquire .createdAt fun w ↦
    match w.created with
    | some t => .ok t
    | none => .error (.notFound "no creation time")

/-! ## Writing -/

/-- Replaces the secret of the same name. -/
def replaceSecret (secret : Secret) (s : Session) : Except StoreError Unit × Session :=
  s.request (.replaceSecret secret) fun w ↦
    match replaceFirst secret w.secrets with
    | some secrets => (.ok (), { w with secrets := secrets })
    | none => (.error (.notFound "no such secret"), w)

/-- Adds a secret after all others. -/
def createSecret (secret : Secret) (s : Session) : Except StoreError Unit × Session :=
  s.request (.createSecret secret) fun w ↦ (.ok (), { w with secrets := w.secrets ++ [secret] })

def deleteReadinessJob (s : Session) : Except StoreError Unit × Session :=
  s.request .deleteReadinessJob fun w ↦ (.ok (), { w with job := none })

/-- Replaces the secret of the same name, and adds it if there is none. -/
def upsertSecret (secret : Secret) (s : Session) : Except StoreError Unit × Session :=
  match s.replaceSecret secret with
  | (.error (.notFound _), s) => s.createSecret secret
  | other => other

end Session

end AlertOperator.Cluster
