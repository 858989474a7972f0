/-!
# Character classes of documents

Blanks separate tokens within a line and line breaks end it. Besides carriage return and newline,
U+0085, U+2028 and U+2029 are line breaks. Only the printable characters, tab and the line breaks
may stand in a document at all.
-/

namespace AlertOperator.Yaml

/-- A space or a tab. -/
def isBlank (c : Char) : Bool := c == ' ' || c == '\t'

/-- A character that ends a line. -/
def isBreak (c : Char) : Bool :=
  c == '\n' || c == '\r' || c == '\x85' || c == '\u2028' || c == '\u2029'

/-- A blank or a line break. -/
def isSpacing (c : Char) : Bool := isBlank c || isBreak c

/-- The text is at its end, or a blank or line break comes next. -/
def atSpacing : List Char → Bool
  | [] => true
  | c :: _ => isSpacing c

/-- A character that may stand in a document. -/
def isAllowed (c : Char) : Bool :=
  let n := c.toNat
  n == 0x9 || n == 0xA || n == 0xD || (0x20 ≤ n && n ≤ 0x7E) || n == 0x85 ||
    (0xA0 ≤ n && n ≤ 0xFFFD) || 0x10000 ≤ n

/-- A character that may be written without an escape: newline, or one with a visible form or a
width of its own other than tab and the byte order mark. -/
def isPrintable (c : Char) : Bool :=
  let n := c.toNat
  n == 0xA || (0x20 ≤ n && n ≤ 0x7E) || (0xA0 ≤ n && n ≤ 0xFFFD && n != 0xFEFF) || 0x10000 ≤ n

/-- A letter, digit, underscore or hyphen: the characters of names of anchors and tag handles. -/
def isNameChar (c : Char) : Bool := c.isAlphanum || c == '_' || c == '-'

end AlertOperator.Yaml
