import AlertOperator.Yaml.Chars

/-!
# A place in a document

The rest of a document together with its place: how many characters have been passed, on which line
it is and at which column. Passing a line break moves to the first column of the next line.
-/

namespace AlertOperator.Yaml

/-- A place in a document. -/
structure Cursor where
  /-- The characters still to come. -/
  rest : List Char
  /-- The number of characters passed. -/
  index : Nat := 0
  /-- The number of lines passed. -/
  line : Nat := 0
  /-- The number of characters passed on this line. -/
  column : Nat := 0
  deriving Repr

namespace Cursor

/-- The next character. -/
def head? (c : Cursor) : Option Char := c.rest.head?

/-- The character `i` places on. -/
def at? (c : Cursor) (i : Nat) : Option Char := c.rest[i]?

/-- No character is left. -/
def atEnd (c : Cursor) : Bool := c.rest.isEmpty

/-- The next character is `x`. -/
def startsWith (c : Cursor) (x : Char) : Bool := c.head? == some x

/-- The next character satisfies `p`. -/
def next (c : Cursor) (p : Char → Bool) : Bool := c.head?.any p

/-- The document ends `i` places on, or has a blank or a line break there. -/
def spacingAt (c : Cursor) (i : Nat) : Bool := atSpacing (c.rest.drop i)

/-- The place after `n` more characters, none of which is a line break. -/
def skip (n : Nat) (c : Cursor) : Cursor :=
  { c with rest := c.rest.drop n, index := c.index + n, column := c.column + n }

/-- The characters from here on that satisfy `p`, which holds of no line break, and the place after
them. -/
def span (p : Char → Bool) (c : Cursor) : List Char × Cursor :=
  let run := c.rest.takeWhile p
  (run, c.skip run.length)

/-- The line break that comes next, and the place after it. A carriage return, alone or before a
newline, and U+0085 count as a newline. -/
def readBreak (c : Cursor) : List Char × Cursor :=
  let after (n : Nat) : Cursor :=
    { rest := c.rest.drop n, index := c.index + n, line := c.line + 1, column := 0 }
  match c.rest with
  | '\r' :: '\n' :: _ => (['\n'], after 2)
  | x :: _ =>
    if x == '\r' || x == '\n' || x == '\x85' then (['\n'], after 1)
    else if isBreak x then ([x], after 1)
    else ([], c)
  | [] => ([], c)

/-- The place after the line break that comes next. -/
def skipBreak (c : Cursor) : Cursor := c.readBreak.2

/-- At the start of a line stands `---` or `...`, alone or before a blank. -/
def atDocumentMark (c : Cursor) : Bool :=
  c.column == 0 && ("---".toList.isPrefixOf c.rest || "...".toList.isPrefixOf c.rest) &&
    c.spacingAt 3

/-- The place after the blanks that come next. -/
def skipBlanks (c : Cursor) : Cursor := (c.span isBlank).2

/-- The place after the blanks and the comment that may end a line; `none` if something else stands
on it. -/
def endOfLine? (c : Cursor) : Option Cursor :=
  let c := c.skipBlanks
  let c := if c.startsWith '#' then (c.span fun x ↦ !isBreak x).2 else c
  if c.atEnd || c.next isBreak then some c.skipBreak else none

end Cursor

end AlertOperator.Yaml
