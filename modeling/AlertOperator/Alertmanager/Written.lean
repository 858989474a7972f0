import AlertOperator.Alertmanager.Config
import AlertOperator.Yaml.Tree

/-!
# The written form of configurations

Each part becomes a mapping with its entries in a fixed order. What is empty is left out, with a few
exceptions: the templates of a configuration, the timeout of its global settings, the name of a
receiver, the address of a webhook, and whether a notifier reports resolved alerts.
-/

namespace AlertOperator.Alertmanager

open Yaml (Tree)

/-! ## Entries that are left out when empty -/

/-- The entry of a text, unless it is empty. -/
def textEntry (key s : String) : List (String × Tree) :=
  if s = "" then [] else [(key, .text s)]

/-- The entry of a list of texts, unless it is empty. -/
def textsEntry (key : String) (ss : List String) : List (String × Tree) :=
  if ss.isEmpty then [] else [(key, .seq (ss.map .text))]

/-- A dictionary of texts as a mapping. -/
def dictTree (d : Dict String) : Tree := .map (d.entries.map fun e ↦ (e.1, .text e.2))

/-- The entry of a dictionary, unless it is empty. -/
def dictEntry (key : String) (d : Dict String) : List (String × Tree) :=
  if d.isEmpty then [] else [(key, dictTree d)]

/-- The entry of a list of parts, unless it is empty. -/
def listEntry {α : Type} (key : String) (tree : α → Tree) (xs : List α) : List (String × Tree) :=
  if xs.isEmpty then [] else [(key, .seq (xs.map tree))]

/-- The entry of a part that may be absent. -/
def optionEntry {α : Type} (key : String) (tree : α → Tree) : Option α → List (String × Tree)
  | none => []
  | some x => [(key, tree x)]

/-! ## Parts -/

/-- The written form of global settings. -/
def GlobalSettings.tree (g : GlobalSettings) : Tree :=
  .map (("resolve_timeout", .text g.resolveTimeout) :: textEntry "pagerduty_url" g.pagerdutyUrl)

mutual

/-- The written form of a routing tree. -/
def Route.tree : Route → Tree
  | ⟨receiver, groupBy, labels, patterns, continues, routes, wait, interval, again⟩ =>
    .map (textEntry "receiver" receiver ++ textsEntry "group_by" groupBy ++
      dictEntry "match" labels ++ dictEntry "match_re" patterns ++
      (if continues then [("continue", .flag true)] else []) ++
      (match routes with
        | [] => []
        | r :: rs => [("routes", .seq (r.tree :: Route.trees rs))]) ++
      textEntry "group_wait" wait ++ textEntry "group_interval" interval ++
      textEntry "repeat_interval" again)

/-- The written forms of routing trees. -/
def Route.trees : List Route → List Tree
  | [] => []
  | r :: rs => r.tree :: Route.trees rs

end

/-- The written form of HTTP settings. -/
def HttpSettings.tree (h : HttpSettings) : Tree := .map (textEntry "proxy_url" h.proxyUrl)

/-- The written form of a webhook. -/
def Webhook.tree (w : Webhook) : Tree :=
  .map ([("send_resolved", .flag w.sendResolved)] ++
    optionEntry "http_config" HttpSettings.tree w.http ++ [("url", .text w.url)])

/-- The written form of a PagerDuty notifier. -/
def Pagerduty.tree (p : Pagerduty) : Tree :=
  .map ([("send_resolved", .flag p.sendResolved)] ++
    optionEntry "http_config" HttpSettings.tree p.http ++
    textEntry "routing_key" p.routingKey ++ textEntry "url" p.url ++
    textEntry "client" p.client ++ textEntry "client_url" p.clientUrl ++
    textEntry "description" p.description ++ dictEntry "details" p.details ++
    textEntry "severity" p.severity ++ textEntry "class" p.eventClass ++
    textEntry "component" p.component ++ textEntry "group" p.group)

/-- The written form of a mail notifier. -/
def Email.tree (e : Email) : Tree :=
  .map ([("send_resolved", .flag e.sendResolved)] ++ textEntry "to" e.recipient ++
    textEntry "from" e.sender ++ textEntry "hello" e.hello ++ textEntry "smarthost" e.smarthost ++
    textEntry "auth_username" e.authUsername ++ textEntry "auth_identity" e.authIdentity ++
    dictEntry "headers" e.headers ++ textEntry "html" e.html ++ textEntry "text" e.text ++
    optionEntry "require_tls" Tree.flag e.requireTls)

/-- The written form of a receiver. -/
def Receiver.tree (r : Receiver) : Tree :=
  .map ([("name", .text r.name)] ++ listEntry "pagerduty_configs" Pagerduty.tree r.pagerduty ++
    listEntry "webhook_configs" Webhook.tree r.webhooks ++
    listEntry "email_configs" Email.tree r.emails)

/-- The written form of an inhibition rule. -/
def InhibitRule.tree (i : InhibitRule) : Tree :=
  .map (dictEntry "source_match" i.sourceLabels ++ dictEntry "source_match_re" i.sourcePatterns ++
    dictEntry "target_match" i.targetLabels ++ dictEntry "target_match_re" i.targetPatterns ++
    textsEntry "equal" i.equal)

/-- The written form of a configuration. -/
def Config.tree (c : Config) : Tree :=
  .map (optionEntry "global" GlobalSettings.tree c.global ++
    optionEntry "route" Route.tree c.route ++
    listEntry "inhibit_rules" InhibitRule.tree c.inhibitRules ++
    listEntry "receivers" Receiver.tree c.receivers ++
    [("templates", .seq (c.templates.map .text))])

end AlertOperator.Alertmanager
