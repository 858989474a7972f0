import AlertOperator.Cluster.StoreError
import AlertOperator.Json.Reader
import AlertOperator.Json.Shape
import AlertOperator.Text.Quoted

/-!
# Requests and replies

A call to the API is one request and one reply. A request that has no valid target is not sent. A
reply with an error code is an error of the API, which describes itself; if it does not, its code is
that of the reply, and its message the quoted text of the reply. Any other reply is read as what was
asked for.
-/

namespace AlertOperator.Api

open Cluster (StoreError)

/-! ## Requests -/

/-- What a request does. -/
inductive Method where
  | get
  | put
  | post
  | delete
  deriving DecidableEq, Repr

def Method.word : Method → String
  | get => "GET"
  | put => "PUT"
  | post => "POST"
  | delete => "DELETE"

/-- A request as it is sent. -/
structure Message where
  method : Method
  path : String
  query : String
  body : Option Json := none

/-- A character that the path of a target may have. -/
def isPathChar (c : Char) : Bool :=
  let n := c.toNat
  n == 0x21 || n == 0x22 || (0x24 ≤ n && n ≤ 0x3B) || n == 0x3D || (0x40 ≤ n && n ≤ 0x5F) ||
    0x61 ≤ n

/-- A character that the query of a target may have. -/
def isQueryChar (c : Char) : Bool :=
  let n := c.toNat
  n == 0x21 || (0x24 ≤ n && n ≤ 0x3B) || n == 0x3D || 0x3F ≤ n

/-- The longest target in bytes. -/
def maxTarget : Nat := 65534

/-- The path and the query of a target. What follows a number sign does not belong to it. -/
def splitTarget (target : String) : Option (String × String) :=
  let s := target.toList.takeWhile (· != '#')
  let path := s.takeWhile (· != '?')
  let query := (s.dropWhile (· != '?')).drop 1
  if target.utf8ByteSize ≤ maxTarget && path.all isPathChar && query.all isQueryChar then
    some (String.ofList path, String.ofList query)
  else none

/-- A request to the given path, without parameters. -/
def message (method : Method) (path : String) (body : Option Json) : Except StoreError Message :=
  match splitTarget (path ++ "?") with
  | some (path, query) => .ok ⟨method, path, query, body⟩
  | none => .error .refused

/-! ## Replies -/

/-- What comes back. -/
inductive Reply where
  | answered (code : Nat) (body : String)
  /-- The API was not reached. -/
  | unreached (text : String)

/-- An error that the API answers with. -/
structure ApiError where
  message : String
  reason : String
  code : Nat
  deriving DecidableEq, Repr

namespace ApiError

/-- The error that a value describes. -/
def ofJson? (j : Json) : Option ApiError := do
  let field ← Json.fieldsOf? ["status", "message", "reason", "code"] 4 j
  let _ ← (field "status").bind Json.asString?
  let message ← Json.textOrEmpty? (field "message")
  let reason ← Json.textOrEmpty? (field "reason")
  match field "code" with
  | some (.int n) => if 0 ≤ n ∧ n < 0x10000 then return ⟨message, reason, n.toNat⟩ else none
  | _ => none

/-- The error of a reply with an error code. -/
def ofReply (code : Nat) (body : String) : ApiError :=
  ((Json.read body).bind ofJson?).getD ⟨Text.quote body, "Failed to parse error data", code⟩

/-- The error that the operator sees. -/
def toStore (e : ApiError) : StoreError := .ofCode e.code e.message

end ApiError

/-- The code of a reply says that it is an error. -/
def isErrorCode (code : Nat) : Bool := 400 ≤ code && code < 600

/-! ## Exchanges -/

/-- A call to the API. -/
structure Exchange (α : Type) where
  request : Except StoreError Message
  /-- What is read from a reply, if it is what was asked for. -/
  read : Json → Option α
  /-- What an error of the API means for the call. -/
  onError : ApiError → Except StoreError α := fun e ↦ .error e.toStore

namespace Exchange

variable {α β : Type}

/-- The result of a call for what comes back. -/
def result (x : Exchange α) : Reply → Except StoreError α
  | .unreached text => .error (.unreachable text)
  | .answered code body =>
    if isErrorCode code then x.onError (ApiError.ofReply code body)
    else
      match (Json.read body).bind x.read with
      | some a => .ok a
      | none => .error .refused

/-- What is sent, and the result for what comes back. -/
def run (x : Exchange α) (reply : Reply) : Option Message × Except StoreError α :=
  match x.request with
  | .error e => (none, .error e)
  | .ok m => (some m, x.result reply)

/-- A call that reads the value at a path. -/
def get (path : String) (read : Json → Option α) : Exchange α where
  request := message .get path none
  read := read

end Exchange

end AlertOperator.Api
