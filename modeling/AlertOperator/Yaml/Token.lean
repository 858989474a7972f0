import AlertOperator.Yaml.Block
import AlertOperator.Yaml.Flow
import AlertOperator.Yaml.Scalar
import AlertOperator.Yaml.Tag

/-!
# Tokens of a document

A document is cut into tokens from left to right. Indentation becomes tokens too: a collection in
block form opens at the column of its first entry and closes before the first token that stands
further left.

## Keys that are noticed late

A key of a mapping needs no mark in front of it; it is known for a key only when the colon after it
is met. So every place where such a key may begin is remembered, one for each depth of brackets,
and the colon puts the missing tokens in front of the key. The tokens are kept in reverse, and the
remembered place says how many tokens stood before the key, so that the insertion is a split of the
list at that number. A key has to end on its line and within 1024 characters; one that stands at
the column of its mapping cannot be anything else, and the document is in error when it turns out
not to be followed by a colon.
-/

namespace AlertOperator.Yaml

/-- A token. -/
inductive Token where
  | directive (d : Directive)
  | documentStart
  | documentEnd
  | blockSeqStart
  | blockMapStart
  | blockEnd
  | flowSeqStart
  | flowSeqEnd
  | flowMapStart
  | flowMapEnd
  | blockEntry
  | flowEntry
  | key
  | value
  | aliasOf (name : String)
  | anchor (name : String)
  | tag (handle suffix : String)
  | scalar (style : Style) (text : String)
  deriving Repr

/-- A place where a key without a mark may begin. -/
structure KeyPlace where
  /-- Whether what begins here can only be a key. -/
  required : Bool
  /-- The number of tokens before it. -/
  tokensBefore : Nat
  index : Nat
  line : Nat
  column : Nat

/-- The state of the scanner between two tokens. -/
structure Scanner where
  cursor : Cursor
  /-- The number of characters of the document. -/
  size : Nat
  /-- The tokens so far, the last one first. -/
  tokens : List Token := []
  /-- The number of tokens so far. -/
  count : Nat := 0
  /-- The columns of the open block collections, the innermost first. -/
  columns : List Nat := []
  /-- Whether a key without a mark may begin at the next token. -/
  keyAllowed : Bool := true
  /-- The place of a possible key outside all brackets. -/
  blockKey : Option KeyPlace := none
  /-- The places of possible keys inside the open brackets, the innermost first. -/
  flowKeys : List (Option KeyPlace) := []

namespace Scanner

/-- The scanner is inside brackets. -/
def inFlow (s : Scanner) : Bool := !s.flowKeys.isEmpty

/-- The column of the innermost block collection. -/
def column? (s : Scanner) : Option Nat := s.columns.head?

/-- Adds a token at the end. -/
def push (t : Token) (s : Scanner) : Scanner :=
  { s with tokens := t :: s.tokens, count := s.count + 1 }

/-- Adds tokens in front of the last `s.count - before` ones. -/
def insert (before : Nat) (ts : List Token) (s : Scanner) : Scanner :=
  let n := s.count - before
  { s with
    tokens := s.tokens.take n ++ ts.reverse ++ s.tokens.drop n
    count := s.count + ts.length }

/-- Adds a one-character token and passes the character. -/
def pushMark (t : Token) (s : Scanner) : Scanner :=
  { s.push t with cursor := s.cursor.skip 1 }

/-! ## Places of possible keys -/

/-- The place of a possible key at the present depth. -/
def currentKey (s : Scanner) : Option KeyPlace :=
  match s.flowKeys with
  | [] => s.blockKey
  | k :: _ => k

/-- Replaces the place of a possible key at the present depth. -/
def setKey (k : Option KeyPlace) (s : Scanner) : Scanner :=
  match s.flowKeys with
  | [] => { s with blockKey := k }
  | _ :: ks => { s with flowKeys := k :: ks }

/-- Gives up the possible key at the present depth; an error if it was required. -/
def dropKey (s : Scanner) : Option Scanner :=
  if s.currentKey.any (·.required) then none else some (s.setKey none)

/-- Remembers the present place, where a key may begin if one is allowed. -/
def saveKey (s : Scanner) : Option Scanner :=
  if s.keyAllowed then do
    let s ← s.dropKey
    let c := s.cursor
    let required := !s.inFlow && s.column? == some c.column
    return s.setKey (some ⟨required, s.count, c.index, c.line, c.column⟩)
  else some s

/-- A possible key that ends before its line does and has not grown too long; `none` for an error,
when a required key has. -/
def freshKey (c : Cursor) : Option KeyPlace → Option (Option KeyPlace)
  | none => some none
  | some k =>
    if k.line < c.line || k.index + 1024 < c.index then
      if k.required then none else some none
    else some (some k)

/-- Gives up the possible keys that have become too long. -/
def dropStaleKeys (s : Scanner) : Option Scanner := do
  let blockKey ← freshKey s.cursor s.blockKey
  let flowKeys ← s.flowKeys.mapM (freshKey s.cursor)
  return { s with blockKey := blockKey, flowKeys := flowKeys }

/-! ## Indentation -/

/-- Closes the block collections that begin to the right of `column`; without one, all of them. -/
def closeTo (column : Option Nat) (s : Scanner) : Scanner :=
  if s.inFlow then s
  else
    let closed := s.columns.takeWhile fun n ↦ column.all (· < n)
    { s with
      columns := s.columns.drop closed.length
      tokens := List.replicate closed.length .blockEnd ++ s.tokens
      count := s.count + closed.length }

/-- A block collection opens at `column` unless the innermost one is already there. -/
def opensAt (column : Nat) (s : Scanner) : Bool :=
  !s.inFlow && s.column?.all (· < column)

/-- Opens a block collection at `column` unless the innermost one is already there. -/
def openAt (column : Nat) (t : Token) (s : Scanner) : Scanner :=
  if s.opensAt column then { s.push t with columns := column :: s.columns } else s

/-! ## Between tokens -/

/-- Passes blanks, comments and line breaks up to the next token. Outside brackets a new line allows
a key, and tabs separate only where no key may begin. -/
def skipToToken : Nat → Scanner → Scanner
  | 0, s => s
  | fuel + 1, s =>
    let c := s.cursor
    let c := if c.column == 0 && c.startsWith '\uFEFF' then c.skip 1 else c
    let tabs := s.inFlow || !s.keyAllowed
    let c := (c.span fun x ↦ x == ' ' || (tabs && x == '\t')).2
    let c := if c.startsWith '#' then (c.span fun x ↦ !isBreak x).2 else c
    if c.next isBreak then
      skipToToken fuel { s with cursor := c.skipBreak, keyAllowed := s.keyAllowed || !s.inFlow }
    else { s with cursor := c }

/-! ## Tokens -/

/-- A directive. -/
def scanDirective (s : Scanner) : Option Scanner := do
  let s ← (s.closeTo none).dropKey
  let (d, c) ← readDirective s.size s.cursor
  return { s.push (.directive d) with cursor := c, keyAllowed := false }

/-- A document mark. -/
def scanDocumentMark (t : Token) (s : Scanner) : Option Scanner := do
  let s ← (s.closeTo none).dropKey
  return { s.push t with cursor := s.cursor.skip 3, keyAllowed := false }

/-- An opening bracket. -/
def scanFlowStart (t : Token) (s : Scanner) : Option Scanner := do
  let s ← s.saveKey
  return { s.pushMark t with flowKeys := none :: s.flowKeys, keyAllowed := true }

/-- A closing bracket. -/
def scanFlowEnd (t : Token) (s : Scanner) : Option Scanner := do
  let s ← s.dropKey
  return { s.pushMark t with flowKeys := s.flowKeys.tail, keyAllowed := false }

/-- A comma between the entries of a collection in brackets. -/
def scanFlowEntry (s : Scanner) : Option Scanner := do
  let s ← s.dropKey
  return { s.pushMark .flowEntry with keyAllowed := true }

/-- A dash before an item of a sequence. -/
def scanBlockEntry (s : Scanner) : Option Scanner := do
  guard (s.inFlow || s.keyAllowed)
  let s ← (s.openAt s.cursor.column .blockSeqStart).dropKey
  return { s.pushMark .blockEntry with keyAllowed := true }

/-- A question mark before a key. -/
def scanKey (s : Scanner) : Option Scanner := do
  guard (s.inFlow || s.keyAllowed)
  let s ← (s.openAt s.cursor.column .blockMapStart).dropKey
  return { s.pushMark .key with keyAllowed := !s.inFlow }

/-- A colon before a value. If a key may have begun before, that is where it was. -/
def scanValue (s : Scanner) : Option Scanner :=
  match s.currentKey with
  | some k =>
    let opens := s.opensAt k.column
    let s := s.insert k.tokensBefore (if opens then [.blockMapStart, .key] else [.key])
    let s := { s with columns := if opens then k.column :: s.columns else s.columns }
    some { (s.setKey none).pushMark .value with keyAllowed := false }
  | none => do
    guard (s.inFlow || s.keyAllowed)
    let s := s.openAt s.cursor.column .blockMapStart
    return { s.pushMark .value with keyAllowed := !s.inFlow }

/-- An anchor or an alias. -/
def scanName (t : String → Token) (s : Scanner) : Option Scanner := do
  let s ← s.saveKey
  let (name, c) ← readName s.cursor
  return { s.push (t name) with cursor := c, keyAllowed := false }

/-- A tag. -/
def scanTag (s : Scanner) : Option Scanner := do
  let s ← s.saveKey
  let (handle, suffix, c) ← readTag s.size s.inFlow s.cursor
  return { s.push (.tag handle suffix) with cursor := c, keyAllowed := false }

/-- A literal or folded block. -/
def scanBlock (folded : Bool) (s : Scanner) : Option Scanner := do
  let s ← s.dropKey
  let (text, c) ← readBlock s.size folded s.column? s.cursor
  let style := if folded then .folded else .literal
  return { s.push (.scalar style (String.ofList text)) with cursor := c, keyAllowed := true }

/-- A quoted scalar. -/
def scanQuoted (single : Bool) (s : Scanner) : Option Scanner := do
  let s ← s.saveKey
  let (text, c) ← readQuoted s.size single s.cursor
  let style := if single then .singleQuoted else .doubleQuoted
  return { s.push (.scalar style (String.ofList text)) with cursor := c, keyAllowed := false }

/-- A plain scalar. If it ends on an earlier line than the next token, a key may begin there. -/
def scanPlain (s : Scanner) : Option Scanner := do
  let s ← s.saveKey
  let margin := match s.column? with
    | some n => n + 1
    | none => 0
  let p ← readPlain s.size s.inFlow margin s.cursor
  return { s.push (.scalar .plain (String.ofList p.text)) with
    cursor := p.after, keyAllowed := p.brokenOff }

/-- A character with which no plain scalar begins. -/
def isMark (c : Char) : Bool :=
  "-?:,[]\x7b\x7d#&*!|>'\"%@\x60".toList.contains c

/-- The token that begins with `x`, which comes next. -/
def scanToken (x : Char) (s : Scanner) : Option Scanner :=
  let c := s.cursor
  if c.column == 0 && x == '%' then s.scanDirective
  else if c.atDocumentMark then
    s.scanDocumentMark (if x == '-' then .documentStart else .documentEnd)
  else if x == '[' then s.scanFlowStart .flowSeqStart
  else if x == '\x7b' then s.scanFlowStart .flowMapStart
  else if x == ']' then s.scanFlowEnd .flowSeqEnd
  else if x == '\x7d' then s.scanFlowEnd .flowMapEnd
  else if x == ',' then s.scanFlowEntry
  else if x == '-' && c.spacingAt 1 then s.scanBlockEntry
  else if x == '?' && (s.inFlow || c.spacingAt 1) then s.scanKey
  else if x == ':' && (s.inFlow || c.spacingAt 1) then s.scanValue
  else if x == '*' then s.scanName .aliasOf
  else if x == '&' then s.scanName .anchor
  else if x == '!' then s.scanTag
  else if x == '|' && !s.inFlow then s.scanBlock false
  else if x == '>' && !s.inFlow then s.scanBlock true
  else if x == '\'' then s.scanQuoted true
  else if x == '\x22' then s.scanQuoted false
  else if (!isSpacing x && !isMark x) || (x == '-' && !(c.at? 1).any isBlank) ||
      (!s.inFlow && (x == '?' || x == ':') && !c.spacingAt 1) then s.scanPlain
  else none

/-- All tokens from here on. -/
def run : Nat → Scanner → Option (List Token)
  | 0, _ => none
  | fuel + 1, s => do
    let s ← (s.skipToToken (s.size + 1)).dropStaleKeys
    match s.cursor.head? with
    | none => do
      let s ← (s.closeTo none).dropKey
      return s.tokens.reverse
    | some x => do
      let s ← (s.closeTo (some s.cursor.column)).scanToken x
      run fuel s

end Scanner

/-- The tokens of a document; `none` if it holds a character that no document may hold, or has no
tokens. -/
def tokens? (cs : List Char) : Option (List Token) :=
  if cs.all isAllowed then
    Scanner.run (cs.length + 1) { cursor := { rest := cs }, size := cs.length }
  else none

end AlertOperator.Yaml
