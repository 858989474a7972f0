/-!
# Documents as they are written

The values that a written document is made of: truth values, texts, sequences and mappings with
text keys. Entries keep their order.
-/

namespace AlertOperator.Yaml

/-- A value to be written. -/
inductive Tree where
  | flag (b : Bool)
  | text (s : String)
  | seq (items : List Tree)
  | map (entries : List (String × Tree))
  deriving Inhabited, Repr

end AlertOperator.Yaml
