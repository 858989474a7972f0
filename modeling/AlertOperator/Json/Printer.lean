import AlertOperator.Json.Basic
import AlertOperator.Text.Digits

/-!
# Writing JSON text

The compact form: no blanks between the parts, members in the order of the object. In a string the
quote, the backslash and the control characters below U+0020 are escaped and nothing else is.
-/

namespace AlertOperator.Json

/-- The written form of a character inside a string. -/
def escapeChar (c : Char) : List Char :=
  if c = '\x22' then ['\\', '\x22']
  else if c = '\\' then ['\\', '\\']
  else if c = '\x08' then ['\\', 'b']
  else if c = '\x0c' then ['\\', 'f']
  else if c = '\n' then ['\\', 'n']
  else if c = '\r' then ['\\', 'r']
  else if c = '\t' then ['\\', 't']
  else if c.toNat < 0x20 then ['\\', 'u'] ++ Text.hexPadded 'a' 4 c.toNat
  else [c]

/-- A string between quotes. -/
def renderString (s : String) : List Char :=
  '\x22' :: (s.toList.flatMap escapeChar ++ ['\x22'])

mutual

/-- The compact text of a value. -/
def chars : Json → List Char
  | null => "null".toList
  | bool true => "true".toList
  | bool false => "false".toList
  | int n => (toString n).toList
  | real text => text.toList
  | str s => renderString s
  | arr items => '[' :: (itemChars items ++ [']'])
  | obj ms => '\x7b' :: (memberChars ms ++ ['\x7d'])

/-- Items with commas between them. -/
def itemChars : List Json → List Char
  | [] => []
  | [j] => j.chars
  | j :: k :: rest => j.chars ++ ',' :: itemChars (k :: rest)

/-- Members with commas between them. -/
def memberChars : List (String × Json) → List Char
  | [] => []
  | [(name, j)] => renderString name ++ ':' :: j.chars
  | (name, j) :: m :: rest =>
    renderString name ++ ':' :: (j.chars ++ ',' :: memberChars (m :: rest))

end

/-- The compact text of a value. -/
def render (j : Json) : String := String.ofList j.chars

end AlertOperator.Json
