import AlertOperator.Text.Digits
import AlertOperator.Text.Visible

/-!
# Quoted text in messages

Error messages show a text between double quotes. Inside, NUL, tab, carriage return, newline, the
quote and the backslash have escapes of their own; any other character without a visible form is
written by its number in lower-case hexadecimal between braces; everything else stands for itself.
-/

namespace AlertOperator.Text

/-- The written form of one character between quotes. -/
def quoteChar (c : Char) : List Char :=
  if c = '\x00' then ['\\', '0']
  else if c = '\t' then ['\\', 't']
  else if c = '\r' then ['\\', 'r']
  else if c = '\n' then ['\\', 'n']
  else if c = '\x22' then ['\\', '\x22']
  else if c = '\\' then ['\\', '\\']
  else if isInvisible c then ['\\', 'u', '\x7b'] ++ Nat.toDigits 16 c.toNat ++ ['\x7d']
  else [c]

/-- `s` as messages show it, between double quotes. -/
def quote (s : String) : String :=
  "\"" ++ String.ofList (s.toList.flatMap quoteChar) ++ "\""

end AlertOperator.Text
