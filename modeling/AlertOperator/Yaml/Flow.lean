import AlertOperator.Yaml.Cursor
import AlertOperator.Text.Digits

/-!
# Plain and quoted scalars

Scalars whose lines are folded: between two words on one line stand the blanks as written; between
words on different lines stands one space, or, if empty lines lie between them, one newline for
each of these. A break that is not a newline is kept.

The readers take a bound on their steps. Each step passes a character, so the size of the document
is always enough.
-/

namespace AlertOperator.Yaml

/-! ## What lies between words -/

/-- Blanks and line breaks between two words. -/
structure Gap where
  /-- The blanks on the line of the first word. -/
  blanks : List Char := []
  /-- Whether the line has ended. -/
  broken : Bool := false
  /-- The line break that ended it. -/
  firstBreak : List Char := []
  /-- The line breaks after that. -/
  laterBreaks : List Char := []

/-- What the gap contributes to the text. -/
def Gap.fold (g : Gap) : List Char :=
  if g.broken then
    if g.firstBreak == ['\n'] then
      if g.laterBreaks.isEmpty then [' '] else g.laterBreaks
    else g.firstBreak ++ g.laterBreaks
  else g.blanks

/-- The blanks and line breaks from here on, added to `g`, and the place after them. On a new line
no tab may stand before the column `margin`. -/
def Gap.read (margin : Nat) : Nat → Gap → Cursor → Option (Gap × Cursor)
  | 0, g, c => some (g, c)
  | fuel + 1, g, c =>
    match c.head? with
    | none => some (g, c)
    | some x =>
      if isBlank x then
        if g.broken && x == '\t' && c.column < margin then none
        else if g.broken then Gap.read margin fuel g (c.skip 1)
        else Gap.read margin fuel { g with blanks := g.blanks ++ [x] } (c.skip 1)
      else if isBreak x then
        let (b, c) := c.readBreak
        if g.broken then Gap.read margin fuel { g with laterBreaks := g.laterBreaks ++ b } c
        else Gap.read margin fuel { g with blanks := [], broken := true, firstBreak := b } c
      else some (g, c)

/-! ## Plain scalars -/

/-- The characters of a plain scalar up to the next blank, line break or end of the scalar. Inside
brackets a colon must not be followed by an indicator. -/
def plainRun (inFlow : Bool) : List Char → Option (List Char)
  | [] => some []
  | c :: s =>
    if isSpacing c then some []
    else if inFlow && c == ':' && s.head?.any ",?[]\x7b\x7d".toList.contains then none
    else if c == ':' && atSpacing s then some []
    else if inFlow && ",[]\x7b\x7d".toList.contains c then some []
    else (plainRun inFlow s).map (c :: ·)

/-- A plain scalar as read: its text, the place after it, and whether that place is on a later line
than the last word. -/
structure PlainScalar where
  text : List Char
  after : Cursor
  brokenOff : Bool

/-- The rest of a plain scalar, after the words of `text` and the gap `g`. Outside brackets it ends
before a line indented less than `margin`. -/
def readPlainFrom (size : Nat) (inFlow : Bool) (margin : Nat) :
    Nat → List Char → Gap → Cursor → Option PlainScalar
  | 0, _, _, _ => none
  | fuel + 1, text, g, c =>
    if c.atDocumentMark || c.startsWith '#' then some ⟨text, c, g.broken⟩
    else
      match plainRun inFlow c.rest with
      | none => none
      | some [] => some ⟨text, c, g.broken⟩
      | some (x :: run) =>
        let text := text ++ g.fold ++ x :: run
        let c := c.skip (run.length + 1)
        if !c.next isSpacing then some ⟨text, c, false⟩
        else
          match Gap.read margin size {} c with
          | none => none
          | some (g, c) =>
            if !inFlow && c.column < margin then some ⟨text, c, g.broken⟩
            else readPlainFrom size inFlow margin fuel text g c

/-- The plain scalar that starts here, in a document of at most `size` characters. -/
def readPlain (size : Nat) (inFlow : Bool) (margin : Nat) (c : Cursor) : Option PlainScalar :=
  readPlainFrom size inFlow margin (size + 1) [] {} c

/-! ## Quoted scalars -/

/-- The character that an escape of one letter stands for. -/
def escapedChar (c : Char) : Option Char :=
  match c with
  | '0' => some '\x00'
  | 'a' => some '\x07'
  | 'b' => some '\x08'
  | 't' | '\t' => some '\t'
  | 'n' => some '\n'
  | 'v' => some '\x0b'
  | 'f' => some '\x0c'
  | 'r' => some '\r'
  | 'e' => some '\x1b'
  | ' ' => some ' '
  | '\x22' => some '\x22'
  | '/' => some '/'
  | '\\' => some '\\'
  | 'N' => some '\x85'
  | '_' => some '\xa0'
  | 'L' => some '\u2028'
  | 'P' => some '\u2029'
  | _ => none

/-- How many digits follow the letter of a numeric escape. -/
def escapeWidth (c : Char) : Option Nat :=
  match c with
  | 'x' => some 2
  | 'u' => some 4
  | 'U' => some 8
  | _ => none

/-- The character with the number that `width` hexadecimal digits at the start of `s` write. -/
def numberedChar (width : Nat) (s : List Char) : Option Char := do
  let digits := s.take width
  guard (digits.length = width)
  let n ← Text.readNat 16 digits
  guard (n < 0xD800 ∨ (0xDFFF < n ∧ n ≤ 0x10FFFF))
  return Char.ofNat n

/-- The characters of a quoted scalar up to the next blank, line break, closing quote or escaped
line break, in reverse after `acc`, the place after them and whether a line break was escaped. -/
def quotedRun (single : Bool) : Nat → List Char → Cursor → Option (List Char × Cursor × Bool)
  | 0, _, _ => none
  | fuel + 1, acc, c =>
    match c.rest with
    | [] => some (acc, c, false)
    | x :: s =>
      if isSpacing x then some (acc, c, false)
      else if single then
        if x == '\'' then
          if s.head? == some '\'' then quotedRun single fuel ('\'' :: acc) (c.skip 2)
          else some (acc, c, false)
        else quotedRun single fuel (x :: acc) (c.skip 1)
      else if x == '\x22' then some (acc, c, false)
      else if x == '\\' then
        match s with
        | [] => none
        | e :: t =>
          if isBreak e then some (acc, (c.skip 1).skipBreak, true)
          else
            match escapedChar e with
            | some d => quotedRun single fuel (d :: acc) (c.skip 2)
            | none => do
              let width ← escapeWidth e
              let d ← numberedChar width t
              quotedRun single fuel (d :: acc) (c.skip (2 + width))
      else quotedRun single fuel (x :: acc) (c.skip 1)

/-- The rest of a quoted scalar, up to and with its closing quote, after the text `acc` in
reverse. -/
def readQuotedFrom (size : Nat) (single : Bool) :
    Nat → List Char → Cursor → Option (List Char × Cursor)
  | 0, _, _ => none
  | fuel + 1, acc, c =>
    if c.atDocumentMark || c.atEnd then none
    else
      match quotedRun single (size + 1) acc c with
      | none => none
      | some (acc, c, escaped) =>
        if c.startsWith (if single then '\'' else '\x22') then
          some (acc.reverse, c.skip 1)
        else
          match Gap.read 0 size { broken := escaped } c with
          | none => none
          | some (g, c) => readQuotedFrom size single fuel (g.fold.reverse ++ acc) c

/-- The text of the quoted scalar that starts here with its opening quote, and the place after it,
in a document of at most `size` characters. A document mark at the start of a line cannot stand
inside. -/
def readQuoted (size : Nat) (single : Bool) (c : Cursor) : Option (List Char × Cursor) :=
  readQuotedFrom size single (size + 1) [] (c.skip 1)

end AlertOperator.Yaml
