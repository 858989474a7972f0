/-!
# JSON values

The values that the Kubernetes API exchanges. Members of an object keep their order and may repeat
a name, since a reader of a typed object has to notice repeats. A number is an integer of any size
or a number with a fraction or an exponent, which keeps its text.
-/

namespace AlertOperator

/-- A JSON value. -/
inductive Json where
  | null
  | bool (b : Bool)
  /-- A number written without fraction and exponent. -/
  | int (n : Int)
  /-- A number written with a fraction or an exponent, or as `-0`; `text` is its spelling. -/
  | real (text : String)
  | str (s : String)
  | arr (items : List Json)
  | obj (members : List (String × Json))
  deriving Inhabited, Repr

namespace Json

mutual

/-- Equality of values, member order included. -/
protected def beq : Json → Json → Bool
  | null, null => true
  | bool a, bool b => a == b
  | int a, int b => a == b
  | real a, real b => a == b
  | str a, str b => a == b
  | arr a, arr b => beqItems a b
  | obj a, obj b => beqMembers a b
  | _, _ => false

/-- Equality of items, one by one. -/
def beqItems : List Json → List Json → Bool
  | [], [] => true
  | a :: as, b :: bs => Json.beq a b && beqItems as bs
  | _, _ => false

/-- Equality of members, one by one. -/
def beqMembers : List (String × Json) → List (String × Json) → Bool
  | [], [] => true
  | (k, a) :: as, (l, b) :: bs => k == l && Json.beq a b && beqMembers as bs
  | _, _ => false

end

instance : BEq Json := ⟨Json.beq⟩

/-- The members of an object; any other value has none. -/
def members : Json → List (String × Json)
  | obj ms => ms
  | _ => []

/-- The values of the members named `name`, in order. -/
def valuesOf (name : String) (ms : List (String × Json)) : List Json :=
  (ms.filter fun m ↦ m.1 == name).map (·.2)

/-- The member of an object with the given name; the last one where it is repeated. -/
def get? (name : String) (j : Json) : Option Json := (valuesOf name j.members).getLast?

/-- The text of a string value. -/
def asString? : Json → Option String
  | str s => some s
  | _ => none

/-- `text` as a string value, and null for none. -/
def ofOption : Option String → Json
  | some s => str s
  | none => null

end Json

end AlertOperator
