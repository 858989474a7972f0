import AlertOperator.Alertmanager.Read
import AlertOperator.Alertmanager.Written
import AlertOperator.Text.Quoted
import AlertOperator.Yaml.Layout

/-!
# Configurations as documents

Alertmanager loads its configuration from a YAML document and refuses one in which two receivers
share a name. So neither direction lets such a configuration through: it is not written, and a
document with one is not read.
-/

namespace AlertOperator.Alertmanager

/-- Why a configuration is not written or a document not read. -/
inductive ConfigError where
  /-- A second receiver has the name. -/
  | duplicateReceiver (name : String)
  /-- The text is not a document with a configuration. -/
  | decode
  deriving DecidableEq, Repr

/-- The message of an error. What is wrong with a text that is not a document is not told. -/
def ConfigError.message? : ConfigError → Option String
  | duplicateReceiver name =>
    some ("notification config name " ++ Text.quote name ++ " is not unique")
  | decode => none

namespace Config

/-- Refuses a configuration in which two receivers share a name. -/
def validate (c : Config) : Except ConfigError Unit :=
  match c.repeatedReceiver with
  | some name => .error (.duplicateReceiver name)
  | none => .ok ()

/-- The document of a configuration. -/
def toYaml (c : Config) : Except ConfigError String := do
  c.validate
  return c.tree.render

/-- The configuration in a document. -/
def ofYaml (s : String) : Except ConfigError Config :=
  match Yaml.decode? Config.read s with
  | none => .error .decode
  | some c => do
    c.validate
    return c

end Config

end AlertOperator.Alertmanager
