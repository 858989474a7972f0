import AlertOperator.Alertmanager.Route

/-!
# Alertmanager configurations

A configuration is a routing tree, the receivers that its routes name, and the rules by which some
alerts mute others. A receiver bundles any number of notifiers; one without notifiers drops what is
sent to it. Empty texts, lists and label sets mean that nothing is configured.
-/

namespace AlertOperator.Alertmanager

/-- Settings that hold for all notifiers. -/
structure GlobalSettings where
  /-- The time after which an alert that is not repeated counts as resolved. -/
  resolveTimeout : String := ""
  pagerdutyUrl : String := ""
  deriving DecidableEq, Inhabited, Repr

/-- How a notifier reaches its service over HTTP. -/
structure HttpSettings where
  proxyUrl : String := ""
  deriving DecidableEq, Inhabited, Repr

/-- The settings for a proxy; none at all if there is no proxy. -/
def HttpSettings.forProxy (proxyUrl : String) : Option HttpSettings :=
  if proxyUrl = "" then none else some ⟨proxyUrl⟩

/-- A notifier that posts to an address. -/
structure Webhook where
  /-- Whether the end of an alert is notified too. -/
  sendResolved : Bool := false
  http : Option HttpSettings := none
  url : String := ""
  deriving DecidableEq, Inhabited, Repr

/-- A notifier that opens incidents at PagerDuty. -/
structure Pagerduty where
  /-- Whether the end of an alert is notified too. -/
  sendResolved : Bool := false
  http : Option HttpSettings := none
  routingKey : String := ""
  url : String := ""
  client : String := ""
  clientUrl : String := ""
  description : String := ""
  details : Dict String := {}
  severity : String := ""
  eventClass : String := ""
  component : String := ""
  group : String := ""
  deriving DecidableEq, Inhabited, Repr

/-- A notifier that sends mail. -/
structure Email where
  /-- Whether the end of an alert is notified too. -/
  sendResolved : Bool := false
  recipient : String := ""
  sender : String := ""
  hello : String := ""
  smarthost : String := ""
  authUsername : String := ""
  authIdentity : String := ""
  headers : Dict String := {}
  html : String := ""
  text : String := ""
  requireTls : Option Bool := none
  deriving DecidableEq, Inhabited, Repr

/-- A named bundle of notifiers. -/
structure Receiver where
  name : String := ""
  pagerduty : List Pagerduty := []
  webhooks : List Webhook := []
  emails : List Email := []
  deriving DecidableEq, Inhabited, Repr

namespace Receiver

/-- The receiver that drops every alert. -/
def blackhole (name : String) : Receiver := { name := name }

/-- The receiver has no notifier. -/
def isBlackhole (r : Receiver) : Bool :=
  r.pagerduty.isEmpty && r.webhooks.isEmpty && r.emails.isEmpty

end Receiver

/-- While an alert that the source part takes is firing, alerts that the target part takes are muted
if they agree with it on the labels `equal`. -/
structure InhibitRule where
  sourceLabels : Labels := {}
  sourcePatterns : Labels := {}
  targetLabels : Labels := {}
  targetPatterns : Labels := {}
  equal : List String := []
  deriving DecidableEq, Inhabited, Repr

/-- A configuration. -/
structure Config where
  global : Option GlobalSettings := none
  route : Option Route := none
  inhibitRules : List InhibitRule := []
  receivers : List Receiver := []
  templates : List String := []
  deriving DecidableEq, Inhabited, Repr

namespace Config

/-- The first receiver with the given name. -/
def receiver? (name : String) (c : Config) : Option Receiver :=
  c.receivers.find? fun r ↦ r.name == name

/-- Some receiver has the given name. -/
def hasReceiver (name : String) (c : Config) : Bool := (c.receiver? name).isSome

end Config

/-- The first text in the list that also stands earlier in it, or in `seen`. -/
def firstRepeat (seen : List String) : List String → Option String
  | [] => none
  | x :: xs => if x ∈ seen then some x else firstRepeat (x :: seen) xs

/-- The first receiver name that an earlier receiver already has. -/
def Config.repeatedReceiver (c : Config) : Option String :=
  firstRepeat [] (c.receivers.map (·.name))

end AlertOperator.Alertmanager
