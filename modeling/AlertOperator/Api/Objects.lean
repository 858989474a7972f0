import AlertOperator.Api.Schema
import AlertOperator.Cluster.Object
import AlertOperator.Json.Reader

/-!
# Objects of the API

Reading the objects that the API sends, and writing those that are sent to it. A list names its
items exactly once, null for none, and is no list if one of its items is not what it should be.
-/

namespace AlertOperator.Api

open Cluster (Object Secret ConfigMap Job JobCounts)
open Json (Shape)

/-! ## Reading -/

/-- A member of an object that is a text. -/
def textMember (name : String) (j : Json) : Option String := (j.get? name).bind Json.asString?

/-- The metadata of an object, null if it has none. -/
def metadata (j : Json) : Json := (j.get? "metadata").getD .null

/-- An object that has been checked, with its values read by `value`. -/
def readObject {β : Type} (value : Json → β) (j : Json) : Object β where
  name := textMember "name" (metadata j)
  ns := textMember "namespace" (metadata j)
  generateName := textMember "generateName" (metadata j)
  data :=
    match j.get? "data" with
    | some (.obj ms) => some (Dict.ofList (ms.map fun m ↦ (m.1, value m.2)))
    | _ => none

/-- The bytes that a value holds; null holds none. -/
def readBytes (j : Json) : Bytes :=
  (j.asString?.bind fun s ↦ Base64.decode s.toList).getD []

/-- What is read from a value of the given shape. -/
def checked {α : Type} (shape : Shape) (read : Json → α) (j : Json) : Option α :=
  if shape.accepts j then some (read j) else none

def secret? : Json → Option Secret := checked secretShape (readObject readBytes)

def configMap? : Json → Option ConfigMap :=
  checked configMapShape (readObject fun j ↦ j.asString?.getD "")

/-- A number of pods. -/
def readCount (name : String) (j : Json) : Option Int :=
  match j.get? name with
  | some (.int n) => some n
  | _ => none

def job? : Json → Option Job :=
  checked jobShape fun j ↦
    match j.get? "status" with
    | some (.obj ms) =>
      let status := Json.obj ms
      ⟨some ⟨readCount "succeeded" status, readCount "active" status, readCount "failed" status⟩⟩
    | _ => {}

/-- The items of a list. -/
def list? {α : Type} (item : Json → Option α) (j : Json) : Option (List α) :=
  match j with
  | .obj ms =>
    match Json.valuesOf "metadata" ms, Json.valuesOf "items" ms with
    | [], [items] => readItems items
    | [m], [items] => if listMetadataShape.accepts m then readItems items else none
    | _, _ => none
  | _ => none
where
  readItems : Json → Option (List α)
    | .null => some []
    | .arr items => items.mapM item
    | _ => none

/-! ## Writing -/

/-- A member for a text that may be missing. -/
def optionalMember (name : String) (value : Option String) : List (String × Json) :=
  (value.map fun s ↦ (name, Json.str s)).toList

/-- A secret as it is sent. -/
def ofSecret (s : Secret) : Json :=
  let data := match s.data with
    | some d => [("data", Json.obj (d.entries.map fun e ↦
        (e.1, Json.str (String.ofList (Base64.encode e.2)))))]
    | none => []
  .obj ([("apiVersion", .str "v1"), ("kind", .str "Secret"),
    ("metadata", .obj (optionalMember "generateName" s.generateName ++
      optionalMember "name" s.name ++ optionalMember "namespace" s.ns))] ++ data)

end AlertOperator.Api
