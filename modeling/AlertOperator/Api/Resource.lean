import AlertOperator.Api.Objects

/-!
# Resources of the platform

The two objects of the platform that the operator reads: the version of the cluster, whose
specification has the identifier of the cluster, and its proxy, whose status has the addresses in
use. Both belong to the whole cluster. Of their fields only those that are read are known; the
others are passed over, and so are the API and the kind.
-/

namespace AlertOperator.Api

open Time (Instant)

/-- The API of the resources. -/
def resourceVersion : String := "config.openshift.io/v1"

/-! ## Specifications -/

/-- The specification of the version of a cluster. -/
structure ClusterVersionSpec where
  clusterId : String := ""
  channel : Option String := none
  deriving DecidableEq, Inhabited, Repr

def ClusterVersionSpec.ofJson? (j : Json) : Option ClusterVersionSpec := do
  let field ← Json.fieldsOf? ["clusterID", "channel"] 0 j
  return {
    clusterId := ← Json.textOrEmpty? (field "clusterID")
    channel := ← Json.optionalText? (field "channel") }

def ClusterVersionSpec.toJson (s : ClusterVersionSpec) : Json :=
  .obj (("clusterID", .str s.clusterId) :: optionalMember "channel" s.channel)

/-- The specification of a proxy: the addresses that are asked for. -/
structure ProxySpec where
  httpProxy : Option String := none
  httpsProxy : Option String := none
  noProxy : Option String := none
  deriving DecidableEq, Inhabited, Repr

/-- The names of the addresses of a proxy. -/
def proxyFields : List String := ["httpProxy", "httpsProxy", "noProxy"]

def ProxySpec.ofJson? (j : Json) : Option ProxySpec := do
  let field ← Json.fieldsOf? proxyFields 0 j
  return {
    httpProxy := ← Json.optionalText? (field "httpProxy")
    httpsProxy := ← Json.optionalText? (field "httpsProxy")
    noProxy := ← Json.optionalText? (field "noProxy") }

def ProxySpec.toJson (s : ProxySpec) : Json :=
  .obj (optionalMember "httpProxy" s.httpProxy ++ optionalMember "httpsProxy" s.httpsProxy ++
    optionalMember "noProxy" s.noProxy)

/-- The status of a proxy: the addresses in use. -/
structure ProxyStatus where
  httpProxy : String := ""
  httpsProxy : String := ""
  noProxy : String := ""
  deriving DecidableEq, Inhabited, Repr

def ProxyStatus.ofJson? (j : Json) : Option ProxyStatus := do
  let field ← Json.fieldsOf? proxyFields 0 j
  return {
    httpProxy := ← Json.textOrEmpty? (field "httpProxy")
    httpsProxy := ← Json.textOrEmpty? (field "httpsProxy")
    noProxy := ← Json.textOrEmpty? (field "noProxy") }

def ProxyStatus.toJson (s : ProxyStatus) : Json :=
  .obj [("httpProxy", .str s.httpProxy), ("httpsProxy", .str s.httpsProxy),
    ("noProxy", .str s.noProxy)]

/-! ## Resources -/

/-- The metadata of a resource, as far as it is looked at. -/
structure Metadata where
  name : Option String := none
  created : Option Instant := none
  deriving DecidableEq, Inhabited, Repr

/-- The metadata in a field that has to be there. -/
def Metadata.ofField? (field : Option Json) : Option Metadata :=
  field.bind (checked metadataShape fun j ↦
    { name := textMember "name" j
      created := (textMember "creationTimestamp" j).bind Instant.read })

/-- The metadata of a resource with a name. -/
def Metadata.toJson (m : Metadata) : Json := .obj (optionalMember "name" m.name)

/-- The version of a cluster. -/
structure ClusterVersion where
  metadata : Metadata := {}
  spec : ClusterVersionSpec := {}
  deriving DecidableEq, Inhabited, Repr

def ClusterVersion.ofJson? (j : Json) : Option ClusterVersion := do
  let field ← Json.fieldsOf? ["metadata", "spec"] 2 j
  return {
    metadata := ← Metadata.ofField? (field "metadata")
    spec := ← (field "spec").bind ClusterVersionSpec.ofJson? }

/-- The proxy of a cluster. -/
structure Proxy where
  metadata : Metadata := {}
  spec : ProxySpec := {}
  status : Option ProxyStatus := none
  deriving DecidableEq, Inhabited, Repr

/-- The status in a field that may be missing or null. -/
def Proxy.statusOf? : Option Json → Option (Option ProxyStatus)
  | none => some none
  | some .null => some none
  | some j => (ProxyStatus.ofJson? j).map some

def Proxy.ofJson? (j : Json) : Option Proxy := do
  let field ← Json.fieldsOf? ["metadata", "spec", "status"] 3 j
  return {
    metadata := ← Metadata.ofField? (field "metadata")
    spec := ← (field "spec").bind ProxySpec.ofJson?
    status := ← Proxy.statusOf? (field "status") }

/-- A resource of the given kind with the parts that follow its metadata. -/
def resourceJson (kind : String) (m : Metadata) (parts : List (String × Json)) : Json :=
  .obj ([("apiVersion", .str resourceVersion), ("kind", .str kind), ("metadata", m.toJson)] ++
    parts)

def ClusterVersion.toJson (v : ClusterVersion) : Json :=
  resourceJson "ClusterVersion" v.metadata [("spec", v.spec.toJson)]

def Proxy.toJson (p : Proxy) : Json :=
  resourceJson "Proxy" p.metadata
    (("spec", p.spec.toJson) :: (p.status.map fun s ↦ ("status", s.toJson)).toList)

end AlertOperator.Api
