import AlertOperator.Json.Basic
import AlertOperator.Text.Digits

/-!
# Reading JSON text

A text is one value between blanks. Strings hold no bare control character, and an escaped
surrogate only as the first half of a pair. Numbers have no leading zeros and no sign but a minus.
-/

namespace AlertOperator.Json

/-- The text without the blanks at its start. -/
def skipBlanks (s : List Char) : List Char :=
  s.dropWhile fun c ↦ c = ' ' || c = '\n' || c = '\t' || c = '\r'

/-! ## Strings -/

/-- Where the reader stands inside a string. -/
inductive StringState where
  /-- Between characters. -/
  | text
  /-- After the first half of a surrogate pair, which only another escape may follow. -/
  | half (high : Nat)
  /-- After a backslash, and before that perhaps the first half of a pair. -/
  | escape (high : Option Nat)
  /-- Inside the four digits of a numeric escape. -/
  | digits (high : Option Nat) (left value : Nat)

/-- The character that a backslash followed by `c` stands for. -/
def simpleEscape (c : Char) : Option Char :=
  if c = '\x22' ∨ c = '\\' ∨ c = '/' then some c
  else if c = 'b' then some '\x08'
  else if c = 'f' then some '\x0c'
  else if c = 'n' then some '\n'
  else if c = 'r' then some '\r'
  else if c = 't' then some '\t'
  else none

/-- What the unit `v` of a numeric escape adds after `high`: a character, or the wait for the
second half of a pair. -/
def endUnit (high : Option Nat) (v : Nat) : Option (Char ⊕ Nat) :=
  match high with
  | some h =>
    if 0xDC00 ≤ v ∧ v ≤ 0xDFFF then
      some (.inl (Char.ofNat (0x10000 + (h - 0xD800) * 0x400 + (v - 0xDC00))))
    else none
  | none =>
    if 0xD800 ≤ v ∧ v ≤ 0xDBFF then some (.inr v)
    else if 0xDC00 ≤ v ∧ v ≤ 0xDFFF then none
    else some (.inl (Char.ofNat v))

/-- The rest of a string, up to its closing quote: its characters, after those of `acc` in reverse,
and what follows the quote. -/
def readString : StringState → List Char → List Char → Option (String × List Char)
  | _, _, [] => none
  | .text, acc, c :: s =>
    if c = '\x22' then some (String.ofList acc.reverse, s)
    else if c = '\\' then readString (.escape none) acc s
    else if c.toNat < 0x20 then none
    else readString .text (c :: acc) s
  | .half h, acc, c :: s => if c = '\\' then readString (.escape (some h)) acc s else none
  | .escape high, acc, c :: s =>
    if c = 'u' then readString (.digits high 4 0) acc s
    else if high.isSome then none
    else (simpleEscape c).bind fun d ↦ readString .text (d :: acc) s
  | .digits high left value, acc, c :: s =>
    (Text.hexValue c).bind fun d ↦
      if 1 < left then readString (.digits high (left - 1) (value * 16 + d)) acc s
      else
        (endUnit high (value * 16 + d)).bind fun
          | .inl e => readString .text (e :: acc) s
          | .inr h => readString (.half h) acc s

/-! ## Numbers -/

/-- The digits at the start of a text, of which there is at least one, and the rest. -/
def digitRun (s : List Char) : Option (List Char × List Char) :=
  let run := s.takeWhile Text.isDigit
  if run.isEmpty then none else some (run, s.dropWhile Text.isDigit)

/-- The fraction at the start of a text, if there is one, and the rest. -/
def readFraction : List Char → Option (List Char × List Char)
  | '.' :: s => (digitRun s).map fun r ↦ ('.' :: r.1, r.2)
  | s => some ([], s)

/-- The exponent at the start of a text, if there is one, and the rest. -/
def readExponent : List Char → Option (List Char × List Char)
  | c :: s =>
    if c = 'e' ∨ c = 'E' then
      match s with
      | '+' :: t => (digitRun t).map fun r ↦ (c :: '+' :: r.1, r.2)
      | '-' :: t => (digitRun t).map fun r ↦ (c :: '-' :: r.1, r.2)
      | t => (digitRun t).map fun r ↦ (c :: r.1, r.2)
    else some ([], c :: s)
  | [] => some ([], [])

/-- A number without its sign. -/
def readMagnitude (negative : Bool) (s : List Char) : Option (Json × List Char) := do
  let (whole, s) ← digitRun s
  guard (whole.length = 1 ∨ whole.head? ≠ some '0')
  let (fraction, s) ← readFraction s
  let (exponent, s) ← readExponent s
  let n ← Text.readNat 10 whole
  if fraction.isEmpty && exponent.isEmpty && !(negative && n = 0) then
    return (int (if negative then -(n : Int) else n), s)
  else
    let sign := if negative then ['-'] else []
    return (real (String.ofList (sign ++ whole ++ fraction ++ exponent)), s)

/-- A number. -/
def readNumber : List Char → Option (Json × List Char)
  | '-' :: s => readMagnitude true s
  | s => readMagnitude false s

/-! ## Values -/

/-- `s` without `word` at its start. -/
def afterWord (word : String) (s : List Char) : Option (List Char) :=
  if word.toList.isPrefixOf s then some (s.drop word.length) else none

mutual

/-- A value and the text after it. The first argument bounds the calls that nest; the length of the
text is always enough. -/
def readValue : Nat → List Char → Option (Json × List Char)
  | 0, _ => none
  | n + 1, s =>
    match skipBlanks s with
    | [] => none
    | c :: t =>
      if c = '\x22' then (readString .text [] t).map fun r ↦ (str r.1, r.2)
      else if c = '[' then
        match skipBlanks t with
        | ']' :: u => some (arr [], u)
        | u => (readItems n u []).map fun r ↦ (arr r.1, r.2)
      else if c = '\x7b' then
        match skipBlanks t with
        | '\x7d' :: u => some (obj [], u)
        | u => (readMembers n u []).map fun r ↦ (obj r.1, r.2)
      else if c = 'n' then (afterWord "ull" t).map fun r ↦ (null, r)
      else if c = 't' then (afterWord "rue" t).map fun r ↦ (bool true, r)
      else if c = 'f' then (afterWord "alse" t).map fun r ↦ (bool false, r)
      else readNumber (c :: t)

/-- The items of an array from one item to its closing bracket, after those of `acc` in reverse. -/
def readItems : Nat → List Char → List Json → Option (List Json × List Char)
  | 0, _, _ => none
  | n + 1, s, acc =>
    match readValue n s with
    | none => none
    | some (v, t) =>
      match skipBlanks t with
      | ',' :: u => readItems n u (v :: acc)
      | ']' :: u => some ((v :: acc).reverse, u)
      | _ => none

/-- The members of an object from one member to its closing brace, after those of `acc` in
reverse. -/
def readMembers : Nat → List Char → List (String × Json) →
    Option (List (String × Json) × List Char)
  | 0, _, _ => none
  | n + 1, s, acc =>
    match skipBlanks s with
    | '\x22' :: s =>
      match readString .text [] s with
      | none => none
      | some (k, t) =>
        match skipBlanks t with
        | ':' :: t =>
          match readValue n t with
          | none => none
          | some (v, t) =>
            match skipBlanks t with
            | ',' :: u => readMembers n u ((k, v) :: acc)
            | '\x7d' :: u => some (((k, v) :: acc).reverse, u)
            | _ => none
        | _ => none
    | _ => none

end

/-- The value that a whole text writes. -/
def read (s : String) : Option Json :=
  let cs := s.toList
  match readValue (cs.length + 1) cs with
  | some (v, rest) => if (skipBlanks rest).isEmpty then some v else none
  | none => none

end AlertOperator.Json
