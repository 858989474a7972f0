import AlertOperator.Json.Basic

/-!
# Shapes of JSON values

What the value of a known field has to look like. Shapes are checked before a value is read, so that
reading takes what it needs and need not look at the rest. A record says nothing of members that it
does not name, and of a member that is repeated the last one counts, though all are checked.
-/

namespace AlertOperator.Json

/-- What a value has to look like. -/
inductive Shape where
  | anything
  /-- A string that passes a test. -/
  | text (test : String → Bool)
  | flag
  /-- An integer within bounds. -/
  | integer (least most : Int)
  | list (item : Shape)
  /-- An object whose values all have one shape. -/
  | dict (value : Shape)
  /-- An object whose members have shapes by their names. -/
  | record (fields : List (String × Shape))
  /-- The given shape, or null. -/
  | nullable (shape : Shape)

namespace Shape

mutual

/-- The value has the shape. -/
def accepts : Shape → Json → Bool
  | anything, _ => true
  | text test, .str s => test s
  | flag, .bool _ => true
  | integer least most, .int n => least ≤ n && n ≤ most
  | list item, .arr items => items.all fun j ↦ item.accepts j
  | dict value, .obj ms => ms.all fun m ↦ value.accepts m.2
  | record fields, .obj ms => ms.all fun m ↦ acceptsMember fields m.1 m.2
  | nullable shape, j =>
    match j with
    | .null => true
    | j => shape.accepts j
  | _, _ => false

/-- The value has the shape of the field with the given name, if there is such a field. -/
def acceptsMember : List (String × Shape) → String → Json → Bool
  | [], _, _ => true
  | (field, shape) :: fields, name, j =>
    if field = name then shape.accepts j else acceptsMember fields name j

end

/-- Any string. -/
def string : Shape := text fun _ ↦ true

/-- An integer of 32 bits. -/
def int32 : Shape := integer (-0x80000000) 0x7FFFFFFF

/-- An integer of 64 bits. -/
def int64 : Shape := integer (-0x8000000000000000) 0x7FFFFFFFFFFFFFFF

/-- A record whose fields may all be null. -/
def fields (fs : List (String × Shape)) : Shape := record (fs.map fun f ↦ (f.1, nullable f.2))

end Shape

/-- The fields of a value that gives them by name, none of them twice, or by position, at least the
first `least` of them. -/
def fieldsOf? (names : List String) (least : Nat) : Json → Option (String → Option Json)
  | obj ms =>
    if names.all fun name ↦ (valuesOf name ms).length ≤ 1 then
      some fun name ↦ (valuesOf name ms).head?
    else none
  | arr items =>
    if least ≤ items.length ∧ items.length ≤ names.length then
      some fun name ↦ (names.zip items).lookup name
    else none
  | _ => none

/-- The text of a field, empty if it is missing. -/
def textOrEmpty? : Option Json → Option String
  | none => some ""
  | some (str s) => some s
  | some _ => none

/-- The text of a field that may be missing or null. -/
def optionalText? : Option Json → Option (Option String)
  | none => some none
  | some null => some none
  | some (str s) => some (some s)
  | some _ => none

end AlertOperator.Json
