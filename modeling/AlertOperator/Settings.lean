import AlertOperator.Text.Blank
import AlertOperator.Text.Bytes
import AlertOperator.Text.Digits
import AlertOperator.Time.Duration

/-!
# Settings

The operator takes its settings from variables. Two of them change who is paged and are strict: a
value that cannot be read is an error. The others fall back to their defaults. A variable whose
value is not text counts as unset.
-/

namespace AlertOperator

open Time (Duration)

/-- A value of a strict variable that cannot be read. -/
inductive SettingsError where
  | invalidBool (key value : String)
  | invalidInt (key value : String)
  deriving DecidableEq, Repr

/-- The message of an error. -/
def SettingsError.message : SettingsError → String
  | invalidBool key value =>
    "invalid value for env var " ++ key ++ "=" ++ value ++ " (expected bool)"
  | invalidInt key value =>
    "invalid value for env var " ++ key ++ "=" ++ value ++ " (expected int)"

/-- The settings of the operator. -/
structure Settings where
  /-- The namespace of the objects that are read and written. -/
  ns : String := "openshift-monitoring"
  /-- Whether the environment is a FedRAMP one. -/
  fedramp : Bool := false
  /-- The age from which a cluster counts as ready in any case. -/
  maxAgeMinutes : Int := 120
  /-- The shortest time between two passes. -/
  immediate : Duration := .ofMillis 1000
  /-- The first delay after an error. -/
  backoffStart : Duration := .ofMillis 1000
  /-- The longest delay after an error. -/
  backoffMax : Duration := .ofMillis 60000
  /-- The pause before a watch that has ended starts again. -/
  watchRestart : Duration := .ofSeconds 5
  deriving DecidableEq

/-- The settings of the server for metrics and probes. -/
structure ServerSettings where
  port : Nat := 8080
  /-- How long the server may take to start. -/
  startTimeout : Duration := .ofSeconds 10
  /-- How often it is checked whether it has started. -/
  pollInterval : Duration := .ofMillis 50
  deriving DecidableEq

/-- The values of variables. -/
abbrev Environment := String → Option Bytes

namespace Settings

/-! ## Single values -/

/-- The text of a variable that is set to one. -/
def text? (env : Environment) (key : String) : Option String :=
  (env key).bind Bytes.toString?

/-- A truth value; unset or empty is false. -/
def readBool (key : String) : Option String → Except SettingsError Bool
  | none => .ok false
  | some value =>
    if value = "" then .ok false
    else if value ∈ ["1", "t", "T", "TRUE", "true", "True"] then .ok true
    else if value ∈ ["0", "f", "F", "FALSE", "false", "False"] then .ok false
    else .error (.invalidBool key value)

/-- An integer of 64 bits with white space around it; unset or empty is `absent`. -/
def readInt (key : String) (absent : Int) : Option String → Except SettingsError Int
  | none => .ok absent
  | some value =>
    if value = "" then .ok absent
    else
      match Text.readIntBetween (-0x8000000000000000) 0x7FFFFFFFFFFFFFFF
          (Text.trim value.toList) with
      | some n => .ok n
      | none => .error (.invalidInt key value)

/-- A natural number of at most `most`; anything else is `absent`. -/
def readNatD (most absent : Nat) (value : Option String) : Nat :=
  (value.bind fun v ↦ Text.readNatUpTo most v.toList).getD absent

/-- The largest number in 64 bits. -/
def max64 : Nat := 0xFFFFFFFFFFFFFFFF

/-! ## All settings -/

/-- The settings that an environment gives. -/
def ofEnvironment (env : Environment) : Except SettingsError Settings := do
  let value := text? env
  let millis (key : String) (absent : Nat) : Duration :=
    .ofMillis (readNatD max64 absent (value key))
  let fedramp ← readBool "FEDRAMP" (value "FEDRAMP")
  let maxAge ← readInt "MAX_CLUSTER_AGE_MINUTES" 120 (value "MAX_CLUSTER_AGE_MINUTES")
  return {
    ns := (value "OPERATOR_NAMESPACE").getD "openshift-monitoring"
    fedramp := fedramp
    maxAgeMinutes := maxAge
    immediate := millis "IMMEDIATE_REQUEUE_MS" 1000
    backoffStart := millis "BACKOFF_START_MS" 1000
    backoffMax := millis "BACKOFF_MAX_MS" 60000
    watchRestart := .ofSeconds (readNatD max64 5 (value "WATCH_RESTART_DELAY_SECS")) }

end Settings

/-- The settings of the server that an environment gives. -/
def ServerSettings.ofEnvironment (env : Environment) : ServerSettings :=
  let value := Settings.text? env
  { port := Settings.readNatD 0xFFFF 8080 (value "METRICS_PORT")
    startTimeout :=
      .ofSeconds (Settings.readNatD Settings.max64 10 (value "SERVER_STARTUP_TIMEOUT_SECS"))
    pollInterval :=
      .ofMillis (Settings.readNatD Settings.max64 50 (value "SERVER_POLL_INTERVAL_MS")) }

end AlertOperator
