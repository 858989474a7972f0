import AlertOperator.Metrics.Page

/-!
# The server for metrics and probes

Three addresses answer: the page of metrics, a probe that always succeeds, and a probe that succeeds
while the operator is ready. The operator is ready once its server listens, and no longer when it is
about to stop. Only reading is allowed, with or without the content.
-/

namespace AlertOperator

/-- The answer to a request. -/
structure Response where
  code : Nat
  contentType : Option String := none
  /-- The methods that are allowed, where another one was used. -/
  allow : Option String := none
  body : String := ""
  deriving DecidableEq, Repr

/-- What the server has to tell. -/
inductive Resource where
  | metrics
  /-- The operator runs. -/
  | health
  /-- The operator is ready. -/
  | readiness
  deriving DecidableEq, Repr

/-- The resource at a path. -/
def Resource.atPath : String → Option Resource
  | "/metrics" => some metrics
  | "/healthz" => some health
  | "/readyz" => some readiness
  | _ => none

/-- The server. -/
structure Server where
  ready : Bool := false
  deriving DecidableEq, Inhabited, Repr

namespace Server

/-- The path of a target, without query and fragment. -/
def pathOf (target : String) : String :=
  String.ofList (target.toList.takeWhile fun c ↦ c != '?' && c != '#')

/-- The answer to a request that reads a resource. -/
def read (metrics : Metrics) (s : Server) : Resource → Response
  | .metrics =>
    { code := 200
      contentType := some "text/plain; version=0.0.4; charset=utf-8"
      body := String.join (metrics.page.map (· ++ "\n")) }
  | .health => { code := 200 }
  | .readiness => { code := if s.ready then 200 else 503 }

/-- The answer to a request. -/
def respond (metrics : Metrics) (method target : String) (s : Server) : Response :=
  match Resource.atPath (pathOf target) with
  | none => { code := 404 }
  | some resource =>
    if method = "GET" then s.read metrics resource
    else if method = "HEAD" then { s.read metrics resource with body := "" }
    else { code := 405, allow := some "GET,HEAD" }

/-- Starts to listen on a port, and says whether that succeeds: it does if the port is free. -/
def listen (free : Bool) (s : Server) : Bool × Server :=
  if free then (true, { s with ready := true }) else (false, s)

end Server

end AlertOperator
