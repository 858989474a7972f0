import AlertOperator.Dict

/-!
# Routing trees

A route says which alerts it takes, by the exact values and the patterns of labels, and which
receiver they go to; routes below it take some of them elsewhere. Sibling routes are tried in order,
and the first one that takes an alert ends the search unless it continues.
-/

namespace AlertOperator.Alertmanager

/-- Values, or patterns, for labels by name. -/
abbrev Labels := Dict String

/-- A node of a routing tree. -/
structure Route where
  /-- The receiver of the alerts that no route below takes. -/
  receiver : String := ""
  /-- The labels by which alerts are grouped into one notification. -/
  groupBy : List String := []
  /-- The values that labels must have. -/
  labels : Labels := {}
  /-- The patterns that labels must match. -/
  patterns : Labels := {}
  /-- Whether the siblings after this route are tried too. -/
  continues : Bool := false
  /-- The routes below, in the order in which they are tried. -/
  routes : List Route := []
  groupWait : String := ""
  groupInterval : String := ""
  repeatInterval : String := ""
  deriving Inhabited, Repr

mutual

/-- Equality of routing trees is decidable. -/
def Route.decEq : (r s : Route) → Decidable (r = s)
  | ⟨a₁, a₂, a₃, a₄, a₅, a₆, a₇, a₈, a₉⟩, ⟨b₁, b₂, b₃, b₄, b₅, b₆, b₇, b₈, b₉⟩ =>
    have := Route.decEqList a₆ b₆
    decidable_of_iff
      (a₁ = b₁ ∧ a₂ = b₂ ∧ a₃ = b₃ ∧ a₄ = b₄ ∧ a₅ = b₅ ∧ a₆ = b₆ ∧ a₇ = b₇ ∧ a₈ = b₈ ∧ a₉ = b₉)
      (by simp only [Route.mk.injEq])

/-- Equality of lists of routing trees is decidable. -/
def Route.decEqList : (rs ss : List Route) → Decidable (rs = ss)
  | [], [] => .isTrue rfl
  | [], _ :: _ => .isFalse nofun
  | _ :: _, [] => .isFalse nofun
  | r :: rs, s :: ss =>
    have := Route.decEq r s
    have := Route.decEqList rs ss
    decidable_of_iff (r = s ∧ rs = ss) (by simp only [List.cons.injEq])

end

instance : DecidableEq Route := Route.decEq

end AlertOperator.Alertmanager
