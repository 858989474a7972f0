/-!
# Errors of a watch

A watch that ends in an error says so only in words. What it means is told by the words: the first
kind of error that has one of its signs in the text is the one.
-/

namespace AlertOperator.Watch

/-- What an error of a watch means. -/
inductive ErrorKind where
  | notFound
  /-- The operator may not watch, or no longer. -/
  | unauthorized
  /-- What was seen last is too far back. -/
  | expired
  /-- The cluster cannot answer for now. -/
  | tooManyRequests
  | other
  deriving DecidableEq, Repr

namespace ErrorKind

/-- The kinds with their signs. What does not exist comes first, since a text about it may have the
signs of other kinds too. -/
def signs : List (ErrorKind × List String) := [
  (notFound, ["ObjectNotFound", "404", "not found"]),
  (unauthorized, ["401", "Unauthorized"]),
  (expired, ["410", "too old resource version", "Expired", "Gone"]),
  (tooManyRequests, ["429", "storage is (re)initializing", "TooManyRequests"])]

/-- `part` occurs in the text. -/
def occurs (part : List Char) : List Char → Bool
  | [] => part.isEmpty
  | c :: s => part.isPrefixOf (c :: s) || occurs part s

/-- What the text of an error means. -/
def ofText (text : String) : ErrorKind :=
  let has (part : String) : Bool := occurs part.toList text.toList
  ((signs.find? fun e ↦ e.2.any has).map (·.1)).getD other

end ErrorKind

end AlertOperator.Watch
