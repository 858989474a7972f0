/-!
# Errors of the cluster

Why a call to the cluster did not succeed. Only an object that does not exist is told apart by what
the operator does; of an error of the API itself the details are not told.
-/

namespace AlertOperator.Cluster

/-- Why a call to the cluster did not succeed. -/
inductive StoreError where
  /-- The object does not exist. -/
  | notFound (text : String)
  /-- The object given cannot be addressed. -/
  | invalidObject (text : String)
  /-- The API could not be asked. -/
  | unreachable (text : String)
  /-- The API refused, or its answer could not be understood. -/
  | refused
  deriving DecidableEq, Repr

namespace StoreError

/-- The error is that the object does not exist. -/
def isNotFound : StoreError → Bool
  | notFound _ => true
  | _ => false

/-- The error for an answer of the API with an error code. -/
def ofCode (code : Nat) (text : String) : StoreError :=
  if code = 404 then notFound text else refused

/-- The message of an error, where it is told. -/
def message? : StoreError → Option String
  | notFound text => some ("not found: " ++ text)
  | invalidObject text => some ("invalid object: " ++ text)
  | unreachable text => some ("Kubernetes API error: ServiceError: " ++ text)
  | refused => none

end StoreError

end AlertOperator.Cluster
