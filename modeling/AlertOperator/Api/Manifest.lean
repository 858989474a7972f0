import AlertOperator.Json.Basic

/-!
# Manifests of the resources

The definitions by which a cluster would be told of the two resources of the platform: their names
and the schemas of their objects.
-/

namespace AlertOperator.Api

/-- A property that holds a text, with further members of its schema. -/
def textProperty (name : String) (more : List (String × Json)) : String × Json :=
  (name, .obj (("type", .str "string") :: more))

/-- A property that holds a text or null. -/
def optionalProperty (name : String) : String × Json :=
  textProperty name [("nullable", .bool true)]

/-- A property that holds a text, empty by default. -/
def emptyProperty (name : String) (more : List (String × Json)) : String × Json :=
  textProperty name (("default", .str "") :: more)

/-- The schema of an object with properties. -/
def objectSchema (description : String) (properties more : List (String × Json)) : Json :=
  .obj ([("description", .str description), ("type", .str "object"),
    ("properties", .obj properties)] ++ more)

/-- What tells a resource from others. -/
structure ResourceNames where
  kind : String
  plural : String
  singular : String

/-- The manifest of a resource with the given parts, which may have subresources. -/
def manifest (names : ResourceNames) (parts subresources : List (String × Json)) : Json :=
  let group := "config.openshift.io"
  let schema := objectSchema
    ("Auto-generated derived type for " ++ names.kind ++ "Spec via \x60CustomResource\x60") parts
    [("required", .arr [.str "spec"]), ("title", .str names.kind)]
  let version := Json.obj [
    ("additionalPrinterColumns", .arr []),
    ("name", .str "v1"),
    ("schema", .obj [("openAPIV3Schema", schema)]),
    ("served", .bool true),
    ("storage", .bool true),
    ("subresources", .obj subresources)]
  .obj [
    ("apiVersion", .str "apiextensions.k8s.io/v1"),
    ("kind", .str "CustomResourceDefinition"),
    ("metadata", .obj [("name", .str (names.plural ++ "." ++ group))]),
    ("spec", .obj [
      ("group", .str group),
      ("names", .obj [
        ("categories", .arr []),
        ("kind", .str names.kind),
        ("plural", .str names.plural),
        ("shortNames", .arr []),
        ("singular", .str names.singular)]),
      ("scope", .str "Cluster"),
      ("versions", .arr [version])])]

/-- The description of the version of a cluster, with an example. -/
def clusterVersionText : String := String.intercalate "\n " [
  "ClusterVersion singleton (\x60version\x60)\n",
  "# Example\n",
  "\x60\x60\x60yaml",
  "apiVersion: config.openshift.io/v1",
  "kind: ClusterVersion",
  "metadata:",
  "  name: version",
  "spec:",
  "  clusterID: 3a9c1f0e-5d2b-4f6e-8a0b-7c1d2e3f4a5b",
  "  channel: stable-4.14",
  "\x60\x60\x60"]

/-- The manifest of the version of a cluster. -/
def clusterVersionManifest : Json :=
  manifest ⟨"ClusterVersion", "clusterversions", "clusterversion"⟩
    [("spec", objectSchema clusterVersionText
      [optionalProperty "channel",
        emptyProperty "clusterID" [("description",
          .str "Unique identifier of the cluster, shown in the OCM console URL")]] [])]
    []

/-- The manifest of a proxy. -/
def proxyManifest : Json :=
  manifest ⟨"Proxy", "proxies", "proxy"⟩
    [("spec", objectSchema "Cluster-wide egress proxy (\x60cluster\x60)"
        (["httpProxy", "httpsProxy", "noProxy"].map optionalProperty) []),
      ("status", objectSchema
        "Proxy settings as observed by the cluster; the spec is only a request"
        [emptyProperty "httpProxy" [],
          emptyProperty "httpsProxy" [("description", .str
            "Only the HTTPS proxy matters; every external notifier is reached over HTTPS")],
          emptyProperty "noProxy" []]
        [("nullable", .bool true)])]
    [("status", .obj [])]

end AlertOperator.Api
