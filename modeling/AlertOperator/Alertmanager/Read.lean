import AlertOperator.Alertmanager.Config
import AlertOperator.Yaml.Decode

/-!
# Reading configurations

Every entry may be absent, apart from the name of a receiver and the address of a webhook, and an
absent one is empty. An unknown entry is passed over; an entry given twice is refused. The notifiers
take the option they share, whether resolved alerts are reported, from the entries they do not know
themselves.
-/

namespace AlertOperator.Alertmanager

open Yaml (Source Node Decode field required)

variable (src : Source)

/-- A dictionary of texts, in which a later entry replaces an earlier one. -/
def readDict (depth : Nat) (n : Node) : Decode (Dict String) := do
  return Dict.ofList (← src.textEntries depth n)

/-- The text under a key, empty if it is absent. -/
def textField (es : List (String × Node)) (key : String) : Decode String :=
  field es key "" src.text

/-- The dictionary under a key, empty if it is absent. -/
def dictField (depth : Nat) (es : List (String × Node)) (key : String) : Decode (Dict String) :=
  field es key {} (readDict src depth)

/-- The texts under a key, empty if they are absent. -/
def textsField (depth : Nat) (es : List (String × Node)) (key : String) : Decode (List String) :=
  field es key [] (src.texts depth)

/-- Reads global settings. -/
def GlobalSettings.read (depth : Nat) (n : Node) : Decode GlobalSettings := do
  let es ← src.entries depth n
  return {
    resolveTimeout := ← textField src es "resolve_timeout"
    pagerdutyUrl := ← textField src es "pagerduty_url" }

/-- Reads a routing tree, whose routes below are read by `below`. -/
def Route.readWith (below : Node → Decode (List Route)) (depth : Nat) (n : Node) :
    Decode Route := do
  let es ← src.entries depth n
  let inner := depth - 1
  return {
    receiver := ← textField src es "receiver"
    groupBy := ← textsField src inner es "group_by"
    labels := ← dictField src inner es "match"
    patterns := ← dictField src inner es "match_re"
    continues := ← field es "continue" false src.flag
    routes := ← field es "routes" [] below
    groupWait := ← textField src es "group_wait"
    groupInterval := ← textField src es "group_interval"
    repeatInterval := ← textField src es "repeat_interval" }

/-- Reads a routing tree. A route uses up one level and the list of the routes below it another. -/
def Route.read : Nat → Node → Decode Route
  | 0 => Route.readWith src (fun _ ↦ failure) 0
  | 1 => Route.readWith src (src.list (fun _ _ ↦ failure) 0) 1
  | depth + 2 => Route.readWith src (src.list (fun _ ↦ Route.read depth) (depth + 1)) (depth + 2)

/-- Reads HTTP settings. -/
def HttpSettings.read (depth : Nat) (n : Node) : Decode HttpSettings := do
  let es ← src.entries depth n
  return { proxyUrl := ← textField src es "proxy_url" }

/-- The HTTP settings of a notifier, if it has any. -/
def httpField (depth : Nat) (es : List (String × Node)) : Decode (Option HttpSettings) :=
  field es "http_config" none (src.optional (HttpSettings.read src depth))

/-- Whether a notifier reports resolved alerts, taken from the entries whose keys are not
`known`. -/
def sendResolvedField (depth : Nat) (es : List (String × Node)) (known : List String) :
    Decode Bool :=
  src.gathered depth es known "send_resolved" false

/-- Reads a webhook. -/
def Webhook.read (depth : Nat) (n : Node) : Decode Webhook := do
  let es ← src.entries depth n
  let inner := depth - 1
  return {
    sendResolved := ← sendResolvedField src inner es ["http_config", "url"]
    http := ← httpField src inner es
    url := ← required es "url" src.text }

/-- Reads a PagerDuty notifier. -/
def Pagerduty.read (depth : Nat) (n : Node) : Decode Pagerduty := do
  let es ← src.entries depth n
  let inner := depth - 1
  return {
    sendResolved := ← sendResolvedField src inner es
      ["http_config", "routing_key", "url", "client", "client_url", "description", "details",
        "severity", "class", "component", "group"]
    http := ← httpField src inner es
    routingKey := ← textField src es "routing_key"
    url := ← textField src es "url"
    client := ← textField src es "client"
    clientUrl := ← textField src es "client_url"
    description := ← textField src es "description"
    details := ← dictField src inner es "details"
    severity := ← textField src es "severity"
    eventClass := ← textField src es "class"
    component := ← textField src es "component"
    group := ← textField src es "group" }

/-- Reads a mail notifier. -/
def Email.read (depth : Nat) (n : Node) : Decode Email := do
  let es ← src.entries depth n
  let inner := depth - 1
  return {
    sendResolved := ← sendResolvedField src inner es
      ["to", "from", "hello", "smarthost", "auth_username", "auth_identity", "headers", "html",
        "text", "require_tls"]
    recipient := ← textField src es "to"
    sender := ← textField src es "from"
    hello := ← textField src es "hello"
    smarthost := ← textField src es "smarthost"
    authUsername := ← textField src es "auth_username"
    authIdentity := ← textField src es "auth_identity"
    headers := ← dictField src inner es "headers"
    html := ← textField src es "html"
    text := ← textField src es "text"
    requireTls := ← field es "require_tls" none (src.optional src.flag) }

/-- Reads a receiver. -/
def Receiver.read (depth : Nat) (n : Node) : Decode Receiver := do
  let es ← src.entries depth n
  let inner := depth - 1
  return {
    name := ← required es "name" src.text
    pagerduty := ← field es "pagerduty_configs" [] (src.list (Pagerduty.read src) inner)
    webhooks := ← field es "webhook_configs" [] (src.list (Webhook.read src) inner)
    emails := ← field es "email_configs" [] (src.list (Email.read src) inner) }

/-- Reads an inhibition rule. -/
def InhibitRule.read (depth : Nat) (n : Node) : Decode InhibitRule := do
  let es ← src.entries depth n
  let inner := depth - 1
  return {
    sourceLabels := ← dictField src inner es "source_match"
    sourcePatterns := ← dictField src inner es "source_match_re"
    targetLabels := ← dictField src inner es "target_match"
    targetPatterns := ← dictField src inner es "target_match_re"
    equal := ← textsField src inner es "equal" }

/-- Reads a configuration. -/
def Config.read (depth : Nat) (n : Node) : Decode Config := do
  let es ← src.entries depth n
  let inner := depth - 1
  return {
    global := ← field es "global" none (src.optional (GlobalSettings.read src inner))
    route := ← field es "route" none (src.optional (Route.read src inner))
    inhibitRules := ← field es "inhibit_rules" [] (src.list (InhibitRule.read src) inner)
    receivers := ← field es "receivers" [] (src.list (Receiver.read src) inner)
    templates := ← textsField src inner es "templates" }

end AlertOperator.Alertmanager
