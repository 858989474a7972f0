import AlertOperator.Alertmanager.Route

/-!
# Where a routing tree delivers an alert

A route takes an alert if the labels of the alert have the values, and match the patterns, that the
route asks for; a label that the alert lacks counts as empty. The routes below a route are tried in
order up to the first that takes the alert and does not continue. Where none takes it, the alert
goes to the receiver of the route itself.

What it means for a value to match a pattern is left open: it is a parameter of every definition
here.
-/

namespace AlertOperator.Alertmanager

/-- The labels of an alert: the value under each name, empty where there is none. -/
abbrev Alert := String → String

/-- Whether a value matches a pattern. -/
abbrev Matching := (pattern value : String) → Bool

namespace Route

variable (matching : Matching) (alert : Alert)

/-- The route takes the alert. -/
def takes (r : Route) : Bool :=
  (r.labels.entries.all fun e ↦ alert e.1 == e.2) &&
    r.patterns.entries.all fun e ↦ matching e.2 (alert e.1)

mutual

/-- The receivers to which a route delivers an alert that it takes. -/
def deliver : Route → List String
  | ⟨receiver, _, _, _, _, routes, _, _, _⟩ =>
    match deliverBelow routes with
    | [] => [receiver]
    | names => names

/-- The receivers to which sibling routes deliver an alert. -/
def deliverBelow : List Route → List String
  | [] => []
  | r :: rs =>
    if r.takes matching alert then
      deliver r ++ (if r.continues then deliverBelow rs else [])
    else deliverBelow rs

end

end Route

end AlertOperator.Alertmanager
