import AlertOperator.Operator.Basic

/-!
# Feeds of changes

A feed tells the loop of the objects of one kind: first of all that are there, and then of each that
changes. It may come to an error, and then pauses. After the error that what it has seen is too far
back, it begins with all objects again; after any other one it goes on with changes, and those that
fall into the pause are lost to it. Beginning again may fail, which leads to the next pause.

The first pause after something was told takes 0.8 seconds; each further one takes twice as long as
the one before, up to 30 seconds.
-/

namespace AlertOperator.Watch

/-- What happens to an object. -/
inductive Change where
  | added
  | modified
  | deleted
  deriving DecidableEq, Repr

/-- What follows a pause. -/
inductive Resumption where
  /-- Telling of all objects. -/
  | list
  /-- Telling of changes. -/
  | follow
  deriving DecidableEq, Repr

/-- The code of the error that what was seen is too far back. -/
def goneCode : Nat := 410

/-- The feed of one kind of object. -/
structure Feed where
  /-- The objects that are there, as the requests to look at them. -/
  objects : List Request := []
  /-- All objects cannot be told of at present. -/
  listFails : Bool := false
  /-- The end of the pause, in milliseconds since the start, and what follows it. -/
  pause : Option (Nat × Resumption) := none
  /-- The number of pauses since something was told. -/
  failures : Nat := 0
  deriving DecidableEq, Inhabited, Repr

namespace Feed

/-- The length in milliseconds of the pause after a number of others. -/
def pauseAfter (failures : Nat) : Nat := min (800 * Nat.pow 2 failures) 30000

/-- Pauses, and goes on as told. -/
def suspend (now : Nat) (next : Resumption) (f : Feed) : Feed :=
  { f with
    pause := some (now + pauseAfter f.failures, next)
    failures := f.failures + 1 }

/-- Tells of all objects, or pauses if that fails. -/
def list (now : Nat) (f : Feed) : List Request × Feed :=
  if f.listFails then ([], f.suspend now .list)
  else (f.objects, { f with pause := none, failures := 0 })

/-- The objects that are there after a change. -/
def changed (change : Change) (r : Request) (objects : List Request) : List Request :=
  match change with
  | .deleted => objects.filter (· ≠ r)
  | _ => if r ∈ objects then objects else objects ++ [r]

/-- Changes an object, and tells of it unless there is a pause. -/
def change (c : Change) (r : Request) (f : Feed) : List Request × Feed :=
  let f := { f with objects := changed c r f.objects }
  match f.pause with
  | none => ([r], { f with failures := 0 })
  | some _ => ([], f)

/-- Comes to an error with a code, unless there is a pause already. -/
def fail (now code : Nat) (f : Feed) : Feed :=
  match f.pause with
  | none => f.suspend now (if code = goneCode then .list else .follow)
  | some _ => f

/-- Goes on if the pause is over. -/
def wake (now : Nat) (f : Feed) : List Request × Feed :=
  match f.pause with
  | some (due, next) =>
    if due ≤ now then
      match next with
      | .list => f.list now
      | .follow => ([], { f with pause := none })
    else ([], f)
  | none => ([], f)

end Feed

end AlertOperator.Watch
