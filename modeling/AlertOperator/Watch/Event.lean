import AlertOperator.Cluster.Object
import AlertOperator.Operator.Basic

/-!
# Events of a watch

A watch lists the objects that are there, one by one between a beginning and an end, and then tells
of every change. Each event that is about an object is a request to look at it.
-/

namespace AlertOperator.Watch

open Cluster (Object)

/-- What a watch tells. -/
inductive Event (β : Type) where
  /-- The object is new or has changed. -/
  | apply (object : Object β)
  | delete (object : Object β)
  /-- The objects that are there follow. -/
  | init
  /-- The object is there. -/
  | initApply (object : Object β)
  | initDone

/-- The request to look at an object. One without a name goes by the beginning of its name. -/
def requestOf {β : Type} (o : Object β) : Request where
  ns := o.ns.getD ""
  name := (o.name <|> o.generateName).getD ""

/-- The request that follows from an event, if it is about an object. -/
def Event.request? {β : Type} : Event β → Option Request
  | apply o => some (requestOf o)
  | delete o => some (requestOf o)
  | initApply o => some (requestOf o)
  | init => none
  | initDone => none

end AlertOperator.Watch
