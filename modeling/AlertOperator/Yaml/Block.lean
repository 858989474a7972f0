import AlertOperator.Yaml.Cursor
import AlertOperator.Text.Digits

/-!
# Literal and folded blocks

A block scalar begins with a bar or a greater-than sign and its marks; its lines are the following
ones that are indented at least as far as its first. A literal block keeps its line breaks, a folded
one joins neighbouring lines that are not empty and do not begin with a blank.

The readers take a bound on their steps, for which the size of the document is always enough.
-/

namespace AlertOperator.Yaml

/-- What happens to the line breaks at the end of a block. -/
inductive Chomping where
  /-- All are dropped. -/
  | strip
  /-- One is kept. -/
  | clip
  /-- All are kept. -/
  | keep
  deriving DecidableEq, Repr

/-- The marks of a block: how it ends, and how far it is indented if that is stated. -/
structure BlockMarks where
  chomping : Chomping := .clip
  width : Option Nat := none

/-- The mark for the end of a block. -/
def chompingMark (c : Cursor) : Option Chomping :=
  if c.startsWith '+' then some .keep else if c.startsWith '-' then some .strip else none

/-- The mark for the indentation of a block, a digit other than zero; `none` for a zero. -/
def widthMark (c : Cursor) : Option (Option Nat) :=
  match c.head? with
  | some x =>
    if Text.isDigit x then if x == '0' then none else some (some (x.toNat - 48)) else some none
  | none => some none

/-- The marks that come next, in either order, and the place after them. -/
def readMarks (c : Cursor) : Option (BlockMarks × Cursor) :=
  match chompingMark c with
  | some ch => do
    let c := c.skip 1
    let width ← widthMark c
    return (⟨ch, width⟩, if width.isSome then c.skip 1 else c)
  | none => do
    let width ← widthMark c
    match width with
    | none => return ({}, c)
    | some _ =>
      let c := c.skip 1
      match chompingMark c with
      | some ch => return (⟨ch, width⟩, c.skip 1)
      | none => return (⟨.clip, width⟩, c)

/-- Passes the spaces that come next, up to the column `indent` if that is known. -/
def skipIndent (indent : Option Nat) : Nat → Cursor → Cursor
  | 0, c => c
  | fuel + 1, c =>
    if indent.all (c.column < ·) && c.startsWith ' ' then skipIndent indent fuel (c.skip 1) else c

/-- Empty lines, as read: the line breaks in `breaks`, the largest column reached, and the place
where the next line begins. -/
structure EmptyLines where
  breaks : List Char
  widest : Nat
  after : Cursor

/-- Passes the indentation and the empty lines that come next. While the indentation is not reached
or not known, no tab may stand in its place. -/
def readEmptyLines (size : Nat) (indent : Option Nat) :
    Nat → List Char → Nat → Cursor → Option EmptyLines
  | 0, _, _, _ => none
  | fuel + 1, breaks, widest, c =>
    let c := skipIndent indent size c
    let widest := max widest c.column
    if indent.all (c.column < ·) && c.startsWith '\t' then none
    else if c.next isBreak then
      let (b, c) := c.readBreak
      readEmptyLines size indent fuel (breaks ++ b) widest c
    else some ⟨breaks, widest, c⟩

/-- The lines of a block from one that holds text on. `text` is what has been read, `last` the break
that ended the line before and `empty` the breaks of the empty lines after it. The answer is the
text, the last break, the breaks of the empty lines at the end and the place after the block. -/
def readLines (size : Nat) (folded : Bool) (indent : Nat) :
    Nat → Bool → List Char → List Char → List Char → Cursor →
      Option (List Char × List Char × List Char × Cursor)
  | 0, _, _, _, _, _ => none
  | fuel + 1, blankBefore, text, last, empty, c =>
    if c.column != indent || c.atEnd then some (text, last, empty, c)
    else
      let blankHere := c.next isBlank
      let join :=
        if folded && last == ['\n'] && !blankBefore && !blankHere then
          if empty.isEmpty then [' '] else empty
        else last ++ empty
      let (line, c) := c.span fun x ↦ !isBreak x
      let (b, c) := c.readBreak
      match readEmptyLines size (some indent) (size + 1) [] 0 c with
      | none => none
      | some e =>
        let text := text ++ join ++ line
        readLines size folded indent fuel blankHere text b e.breaks e.after

/-- The text of the block that starts here with its bar or greater-than sign, and the place after
it, in a document of at most `size` characters. `parent` is the column of the collection around it,
if there is one. -/
def readBlock (size : Nat) (folded : Bool) (parent : Option Nat) (c : Cursor) :
    Option (List Char × Cursor) := do
  let (marks, c) ← readMarks (c.skip 1)
  let c ← c.endOfLine?
  let stated := marks.width.map (parent.getD 0 + ·)
  let e ← readEmptyLines size stated (size + 1) [] 0 c
  let least := match parent with
    | some n => n + 1
    | none => 1
  let indent := stated.getD (max e.widest least)
  let (text, last, empty, c) ←
    readLines size folded indent (size + 1) false [] [] e.breaks e.after
  let ending := match marks.chomping with
    | .strip => []
    | .clip => last
    | .keep => last ++ empty
  return (text ++ ending, c)

end AlertOperator.Yaml
