import AlertOperator.Yaml.Cursor
import AlertOperator.Text.Bytes
import AlertOperator.Text.Digits

/-!
# Tags, anchors and directives

The small notations that begin with `!`, `&`, `*` or `%`. A tag is a handle and a suffix, or,
between angle brackets, written out in full with an empty handle. In the suffix a percent sign and
two hexadecimal digits stand for a byte.
-/

namespace AlertOperator.Yaml

/-- A character that a tag may hold besides percent escapes; some only inside angle brackets. -/
def isTagChar (verbatim : Bool) (c : Char) : Bool :=
  isNameChar c || ";/?:@&=+$.!~*'()".toList.contains c || (verbatim && ",[]".toList.contains c)

/-- The byte of the percent escape that comes next, and the place after it. -/
def readEscapedByte (c : Cursor) : Option (UInt8 × Cursor) :=
  match c.rest with
  | '%' :: h :: l :: _ => do
    let h ← Text.hexValue h
    let l ← Text.hexValue l
    return (UInt8.ofNat (h * 16 + l), c.skip 3)
  | _ => none

/-- How many bytes a character has that begins with `b`, zero if none does. -/
def charWidth (b : UInt8) : Nat :=
  let n := b.toNat
  if n < 0x80 then 1 else if n / 0x20 = 6 then 2 else if n / 0x10 = 14 then 3
    else if n / 8 = 30 then 4 else 0

/-- The next bytes of a character, all as percent escapes. -/
def readFollowing : Nat → Cursor → Option (Bytes × Cursor)
  | 0, c => some ([], c)
  | left + 1, c => do
    let (b, c) ← readEscapedByte c
    guard (b.toNat / 0x40 = 2)
    let (bs, c) ← readFollowing left c
    return (b :: bs, c)

/-- The bytes that the percent escapes from here on stand for, up to the end of one character. -/
def readEscapedBytes (c : Cursor) : Option (Bytes × Cursor) := do
  let (b, c) ← readEscapedByte c
  guard (charWidth b ≠ 0)
  let (bs, c) ← readFollowing (charWidth b - 1) c
  return (b :: bs, c)

/-- The characters of a tag from here on, with escapes resolved, and the place after them. -/
def readTagChars (verbatim : Bool) : Nat → List Char → Cursor → Option (List Char × Cursor)
  | 0, _, _ => none
  | fuel + 1, acc, c =>
    match c.head? with
    | some '%' => do
      let (bs, c) ← readEscapedBytes c
      readTagChars verbatim fuel ((Bytes.toStringLossy bs).toList.reverse ++ acc) c
    | some x =>
      if isTagChar verbatim x then readTagChars verbatim fuel (x :: acc) (c.skip 1)
      else some (acc.reverse, c)
    | none => some (acc.reverse, c)

/-- A handle: an exclamation mark, name characters and perhaps a second exclamation mark. -/
def readHandle (c : Cursor) : Option (List Char × Cursor) :=
  if c.startsWith '!' then
    let (name, c) := (c.skip 1).span isNameChar
    if c.startsWith '!' then some ('!' :: (name ++ ['!']), c.skip 1) else some ('!' :: name, c)
  else none

/-- The handle and the suffix of the tag that starts here, and the place after it. Without a second
exclamation mark the name belongs to the suffix; the tag of a lone exclamation mark has an empty
handle. -/
def readTag (size : Nat) (inFlow : Bool) (c : Cursor) : Option (String × String × Cursor) := do
  let (handle, suffix, c) ←
    if c.at? 1 == some '<' then do
      let (suffix, c) ← readTagChars true (size + 1) [] (c.skip 2)
      guard (!suffix.isEmpty && c.startsWith '>')
      pure ([], suffix, c.skip 1)
    else do
      let (handle, c) ← readHandle c
      if 1 < handle.length && handle.getLast? == some '!' then do
        let (suffix, c) ← readTagChars false (size + 1) [] c
        guard (!suffix.isEmpty)
        pure (handle, suffix, c)
      else do
        let (suffix, c) ← readTagChars false (size + 1) (handle.drop 1).reverse c
        pure (if suffix.isEmpty then ([], ['!'], c) else (['!'], suffix, c))
  guard (c.spacingAt 0 || (inFlow && c.startsWith ','))
  return (String.ofList handle, String.ofList suffix, c)

/-- The name after the mark of an anchor or alias, and the place after it. -/
def readName (c : Cursor) : Option (String × Cursor) :=
  let (name, c) := (c.skip 1).span isNameChar
  if name.isEmpty || !(c.spacingAt 0 || c.next "?:,]\x7d%@\x60".toList.contains) then none
  else some (String.ofList name, c)

/-- What a directive says. -/
inductive Directive where
  | version (major minor : Nat)
  | tag (handle leader : String)
  deriving Repr

/-- A part of a version number: one to nine digits. -/
def readVersionPart (c : Cursor) : Option (Nat × Cursor) := do
  let (digits, c) := c.span Text.isDigit
  guard (digits.length ≤ 9)
  let n ← Text.readNat 10 digits
  return (n, c)

/-- The directive that starts here with its percent sign, and the place after its line. -/
def readDirective (size : Nat) (c : Cursor) : Option (Directive × Cursor) := do
  let (name, c) := (c.skip 1).span isNameChar
  guard (c.spacingAt 0)
  let (directive, c) ←
    if name == "YAML".toList then do
      let (major, c) ← readVersionPart c.skipBlanks
      guard (c.startsWith '.')
      let (minor, c) ← readVersionPart (c.skip 1)
      pure (Directive.version major minor, c)
    else if name == "TAG".toList then do
      let (handle, c) ← readHandle c.skipBlanks
      guard (handle == ['!'] || (1 < handle.length && handle.getLast? == some '!'))
      guard (c.next isBlank)
      let (leader, c) ← readTagChars true (size + 1) [] c.skipBlanks
      guard (!leader.isEmpty && c.spacingAt 0)
      pure (Directive.tag (String.ofList handle) (String.ofList leader), c)
    else none
  let c ← c.endOfLine?
  return (directive, c)

end AlertOperator.Yaml
