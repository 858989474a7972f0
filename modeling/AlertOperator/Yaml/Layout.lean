import AlertOperator.Yaml.Chars
import AlertOperator.Yaml.Scalar
import AlertOperator.Yaml.Tree

/-!
# Writing documents

A document is laid out in block form, two columns to a level, with the items of a sequence in a
mapping at the column of their key. Only the empty sequence and the empty mapping are written in
brackets.

## Choice of style

A text with a newline is written as a literal block. Any other text that would be read as null, a
truth value or a number is quoted. Everything else is plain. A style that cannot carry the text
gives way: a plain text to single quotes, single quotes and literal blocks to double quotes, in
which any character can be written.

Every piece of layout ends its line, so pieces can be put one after another: the text of an entry
is closed by `endLine`, which adds a newline unless a literal block has already ended the line.
-/

namespace AlertOperator.Yaml

/-- `n` spaces. -/
def spaces (n : Nat) : List Char := List.replicate n ' '

/-! ## What a text allows -/

/-- `p` holds of two neighbouring characters of the text. -/
def anyPair (p : Char → Char → Bool) : List Char → Bool
  | a :: b :: s => p a b || anyPair p (b :: s)
  | _ => false

/-- The first characters that plain text cannot begin with, whatever follows. -/
def isIndicator (c : Char) : Bool :=
  "#,[]\x7b\x7d&*!|>'\"%@\x60".toList.contains c

/-- The text begins like a document mark, or with a character that announces something other than
plain text. -/
def opensOtherwise (s : List Char) : Bool :=
  "---".toList.isPrefixOf s || "...".toList.isPrefixOf s ||
    match s with
    | [] => false
    | c :: t => isIndicator c || ((c == '?' || c == ':' || c == '-') && atSpacing t)

/-- Inside the text stands a colon before a blank or the end, or a number sign after a blank. The
argument `previous` is the character before the text. -/
def breaksOffAfter (previous : Char) : List Char → Bool
  | [] => false
  | c :: s =>
    (c == ':' && atSpacing s) || (c == '#' && isSpacing previous) || breaksOffAfter c s

/-- Plain text would end inside `s` or not begin. -/
def isCutShort (s : List Char) : Bool :=
  opensOtherwise s ||
    match s with
    | [] => false
    | c :: t => breaksOffAfter c t

/-- The first or the last character satisfies `p`. -/
def hasEnd (p : Char → Bool) (s : List Char) : Bool := s.head?.any p || s.getLast?.any p

/-- Only double quotes can carry `s`: a character needs an escape, or a space stands before a line
break, where it would be lost. -/
def needsEscapes (s : List Char) : Bool :=
  s.any (fun c ↦ !isPrintable c) || anyPair (fun a b ↦ a == ' ' && isBreak b) s

/-- `s` has more than one line. -/
def isMultiline (s : List Char) : Bool := s.any isBreak

/-- `s` can be written without quotes. -/
def plainAllowed (s : List Char) : Bool :=
  !needsEscapes s && !isMultiline s && !hasEnd (· == ' ') s && !isCutShort s

/-- `s` can be written between single quotes. -/
def singleAllowed (s : List Char) : Bool :=
  !needsEscapes s && !anyPair (fun a b ↦ isBreak a && b == ' ') s

/-- `s` can be written as a literal block. -/
def literalAllowed (s : List Char) : Bool :=
  !needsEscapes s && !s.getLast?.any (· == ' ')

/-- The style that suits the content of `s`, before it is known whether the style can carry it. -/
def wantedStyle (s : List Char) : Style :=
  if s.contains '\n' then .literal
  else if resolve s != .text || isZeroLed s then .singleQuoted
  else .plain

/-- The style in which `s` is written. -/
def style (s : List Char) : Style :=
  match wantedStyle s with
  | .literal => if literalAllowed s then .literal else .doubleQuoted
  | .plain =>
    if plainAllowed s then .plain else if singleAllowed s then .singleQuoted else .doubleQuoted
  | _ => if singleAllowed s then .singleQuoted else .doubleQuoted

/-! ## Scalars -/

/-- A text of one or more lines, with `indent` spaces before the first character of each line that
has one. `fresh` says that nothing has been written on the current line. -/
def indented (indent : Nat) (fresh : Bool) : List Char → List Char
  | [] => []
  | c :: s =>
    if isBreak c then c :: indented indent true s
    else if fresh then spaces indent ++ c :: indented indent false s
    else c :: indented indent false s

/-- Ends the line of `s`, unless `s` has already done so. -/
def endLine (s : List Char) : List Char :=
  if s.getLast?.any isBreak then s else s ++ ['\n']

/-- The text between single quotes, in which a quote is written twice. A text that ends with a line
break has its closing quote on a line of its own. -/
def singleQuoted (indent : Nat) (s : List Char) : List Char :=
  let body := indented indent false (s.flatMap fun c ↦ if c == '\'' then ['\'', '\''] else [c])
  '\'' :: (body ++ (if s.getLast?.any isBreak then spaces indent else []) ++ ['\''])

/-- The escape of a character that has a name, without its backslash. -/
def namedEscape (c : Char) : Option Char :=
  match c.toNat with
  | 0x00 => some '0'
  | 0x07 => some 'a'
  | 0x08 => some 'b'
  | 0x09 => some 't'
  | 0x0A => some 'n'
  | 0x0B => some 'v'
  | 0x0C => some 'f'
  | 0x0D => some 'r'
  | 0x1B => some 'e'
  | 0x22 => some '\x22'
  | 0x5C => some '\\'
  | 0x85 => some 'N'
  | 0xA0 => some '_'
  | 0x2028 => some 'L'
  | 0x2029 => some 'P'
  | _ => none

/-- One character between double quotes. -/
def doubleQuotedChar (c : Char) : List Char :=
  if isPrintable c && !isBreak c && c != '\x22' && c != '\\' then [c]
  else
    match namedEscape c with
    | some e => ['\\', e]
    | none =>
      if c.toNat ≤ 0xFF then '\\' :: 'x' :: Text.hexPadded 'A' 2 c.toNat
      else if c.toNat ≤ 0xFFFF then '\\' :: 'u' :: Text.hexPadded 'A' 4 c.toNat
      else '\\' :: 'U' :: Text.hexPadded 'A' 8 c.toNat

/-- The text between double quotes, on one line. -/
def doubleQuoted (s : List Char) : List Char :=
  '\x22' :: (s.flatMap doubleQuotedChar ++ ['\x22'])

/-- The marks after the bar of a literal block: the width of a level if the text itself begins with
a space or a line break, and how the breaks at its end are to be read. -/
def literalMarks (s : List Char) : List Char :=
  let width := if s.head?.any (fun c ↦ c == ' ' || isBreak c) then ['2'] else []
  let keep := match s.reverse with
    | [] => ['-']
    | c :: t =>
      if !isBreak c then ['-']
      else match t with
        | [] => ['+']
        | d :: _ => if isBreak d then ['+'] else []
  width ++ keep

/-- The text as a literal block. -/
def literalBlock (indent : Nat) (s : List Char) : List Char :=
  '|' :: (literalMarks s ++ '\n' :: indented indent true s)

/-- The text in its style. Lines after the first are indented by `indent`. -/
def scalar (indent : Nat) (text : String) : List Char :=
  let s := text.toList
  match style s with
  | .plain => s
  | .singleQuoted => singleQuoted indent s
  | .literal | .folded => literalBlock indent s
  | .doubleQuoted => doubleQuoted s

/-- The word for a truth value. -/
def flagChars (b : Bool) : List Char := if b then "true".toList else "false".toList

/-! ## Collections -/

/-- A key that can stand on one line with its value: one line of at most 128 bytes. -/
def isSimpleKey (key : String) : Bool := !isMultiline key.toList && key.utf8ByteSize ≤ 128

mutual

/-- What follows the colon of a key that stands at column `n`. -/
def Tree.afterKey (n : Nat) : Tree → List Char
  | .flag b => ' ' :: (flagChars b ++ ['\n'])
  | .text s => ' ' :: endLine (scalar (n + 2) s)
  | .seq [] => " []\n".toList
  | .seq (t :: ts) => '\n' :: (spaces n ++ Tree.items n (t :: ts))
  | .map [] => " \x7b\x7d\n".toList
  | .map (e :: es) => '\n' :: (spaces (n + 2) ++ Tree.entries (n + 2) (e :: es))

/-- What follows a dash at column `n`. -/
def Tree.afterDash (n : Nat) : Tree → List Char
  | .flag b => ' ' :: (flagChars b ++ ['\n'])
  | .text s => ' ' :: endLine (scalar (n + 2) s)
  | .seq [] => " []\n".toList
  | .seq (t :: ts) => ' ' :: Tree.items (n + 2) (t :: ts)
  | .map [] => " \x7b\x7d\n".toList
  | .map (e :: es) => ' ' :: Tree.entries (n + 2) (e :: es)

/-- The items of a sequence at column `n`, the first one at the place already reached. -/
def Tree.items (n : Nat) : List Tree → List Char
  | [] => []
  | [t] => '-' :: t.afterDash n
  | t :: u :: ts => '-' :: (t.afterDash n ++ spaces n ++ Tree.items n (u :: ts))

/-- One entry of a mapping at column `n`. A key that cannot share a line with its value is
announced by a question mark. -/
def Tree.entry (n : Nat) : String × Tree → List Char
  | (key, t) =>
    if isSimpleKey key then scalar (n + 2) key ++ ':' :: t.afterKey n
    else '?' :: ' ' :: (endLine (scalar (n + 2) key) ++ spaces n ++ ':' :: t.afterDash n)

/-- The entries of a mapping at column `n`, the first one at the place already reached. -/
def Tree.entries (n : Nat) : List (String × Tree) → List Char
  | [] => []
  | [e] => Tree.entry n e
  | e :: f :: es => Tree.entry n e ++ spaces n ++ Tree.entries n (f :: es)

end

/-- The document of a value. -/
def Tree.chars : Tree → List Char
  | .flag b => flagChars b ++ ['\n']
  | .text s => endLine (scalar 2 s)
  | .seq [] => "[]\n".toList
  | .seq (t :: ts) => Tree.items 0 (t :: ts)
  | .map [] => "\x7b\x7d\n".toList
  | .map (e :: es) => Tree.entries 0 (e :: es)

/-- The document of a value. -/
def Tree.render (t : Tree) : String := String.ofList t.chars

end AlertOperator.Yaml
