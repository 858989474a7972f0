import AlertOperator.Url.DomainChars
import AlertOperator.Url.Punycode

/-!
# Domain names

A domain name is valid if its characters, after those that stand for others have been replaced, are
all allowed, and each of its labels is well formed.

* Letters do not tell capital and small. Among the ASCII characters those with a meaning in
  addresses are refused.
* A label that begins with `xn--` is ASCII throughout and stands for a text with other characters,
  each of them valid as it is.
* A label with other characters does not begin with a mark, and in it the two joiners stand only
  where they have an effect: after a sign that suppresses a vowel, or, for the one that separates,
  between characters that would join.
* If any label has characters written from right to left, every label keeps to one direction: it
  begins with a letter, ends, apart from marks, with a letter or number, and does not mix letters of
  both directions or both kinds of numbers.
-/

namespace AlertOperator.Url

/-- A character of a domain name after replacement. -/
inductive Symbol where
  | ascii (c : Char)
  /-- A character other than ASCII, of which the direction is known, and the character itself if it
  was not replaced. -/
  | other (d : Direction) (c : Option Char)
  deriving DecidableEq

/-! ## Characters -/

/-- An ASCII character that no domain name may hold. -/
def isForbidden (c : Char) : Bool :=
  c.toNat ≤ 0x20 || c.toNat == 0x7F || "#/:<>?@[\\]^|%".toList.contains c

/-- A listed image as symbols. -/
def symbolsOfImage (s : List Char) : List Symbol :=
  s.map fun c ↦
    match Direction.ofLetter c with
    | some d => .other d none
    | none => .ascii c

/-- What a character becomes; `none` if it is refused. -/
def symbolsOf (c : Char) : Option (List Symbol) :=
  if c.toNat < 0x80 then some [.ascii c.toLower]
  else do
    let (letter, marked) ← lookUp statusRuns c
    if letter = '-' then none
    else if letter = '_' then some []
    else if letter = '=' then some (symbolsOfImage (imageAt marked images.toList))
    else if letter.isUpper then
      let d ← Direction.ofLetter letter
      some [.other d (some c)]
    else
      let d ← Direction.ofLetter letter.toUpper
      some [.other d none]

/-- The signs `<` and `>`, struck out by the mark U+0338, are signs of their own. -/
def struckOut : List Symbol → List Symbol
  | .ascii '<' :: .other .mark (some '\u0338') :: ss => .other .neutral (some '≮') :: struckOut ss
  | .ascii '>' :: .other .mark (some '\u0338') :: ss => .other .neutral (some '≯') :: struckOut ss
  | s :: ss => s :: struckOut ss
  | [] => []

/-- The symbol is not ASCII. -/
def Symbol.isWide : Symbol → Bool
  | ascii _ => false
  | other .. => true

/-- The symbol is a full stop. -/
def Symbol.isDot (s : Symbol) : Bool := s == .ascii '.'

/-- The direction of a symbol. -/
def Symbol.direction : Symbol → Direction
  | other d _ => d
  | ascii c =>
    if c.isAlpha then .left
    else if c.isDigit then .number
    else if c = '+' ∨ c = '-' then .numberSign
    else if c = ',' ∨ c = '.' ∨ c = '/' ∨ c = ':' then .separator
    else if c = '#' ∨ c = '$' ∨ c = '%' then .terminator
    else .neutral

/-! ## Labels -/

/-- The symbols between the full stops. -/
def labelsOf (ss : List Symbol) : List (List Symbol) := ss.splitOnP Symbol.isDot

/-- The text of a label of ASCII characters. -/
def asciiText? (label : List Symbol) : Option (List Char) :=
  label.mapM fun
    | .ascii c => some c
    | .other .. => none

/-- A character in the text that a label with the mark `xn--` stands for. It has to be valid as it
is. -/
def plainSymbol (c : Char) : Option Symbol :=
  if c.toNat < 0x80 then if isForbidden c then none else some (.ascii c.toLower)
  else do
    let (letter, _) ← lookUp statusRuns c
    guard letter.isUpper
    let d ← Direction.ofLetter letter
    return .other d (some c)

/-- A label with the mark `xn--` as the text it stands for, and any other label as it is. -/
def openLabel (label : List Symbol) : Option (List Symbol) :=
  if ("xn--".toList.map Symbol.ascii).isPrefixOf label then do
    let text ← asciiText? (label.drop 4)
    guard (text.getLast? ≠ none ∧ text.getLast? ≠ some '-')
    let decoded ← Punycode.decode text
    let symbols ← decoded.mapM plainSymbol
    guard (symbols.any Symbol.isWide)
    return symbols
  else some label

/-- The symbol is a mark. -/
def Symbol.isMark (s : Symbol) : Bool := s.direction == .mark || s.direction == .leftMark

/-- How a symbol joins its neighbours. -/
def Symbol.joining : Symbol → Char
  | other _ (some c) => Url.joining c
  | _ => 'U'

/-- The nearest symbol that its neighbours see joins on a side in `sides`. -/
def joinsOn (sides : List Char) (ss : List Symbol) : Bool :=
  match ss.find? (·.joining != 'T') with
  | some s => sides.contains s.joining
  | none => false

/-- Every joiner in a label has an effect. `before` is the label up to here in reverse. -/
def joinersAllowed (before : List Symbol) : List Symbol → Bool
  | [] => true
  | s :: ss =>
    let afterVirama := match before with
      | .other _ (some c) :: _ => isVirama c
      | _ => false
    let allowed := match s with
      | .other _ (some c) =>
        if c = '\u200D' then afterVirama
        else if c = '\u200C' then
          afterVirama || (joinsOn ['L', 'D'] before && joinsOn ['R', 'D'] ss)
        else true
      | _ => true
    allowed && joinersAllowed (s :: before) ss

/-- A label is well formed apart from directions. -/
def labelAllowed (label : List Symbol) : Bool :=
  !label.any Symbol.isWide ||
    (!label.head?.any Symbol.isMark && joinersAllowed [] label)

/-! ## Directions -/

/-- The symbol is written from right to left. -/
def Symbol.isRightToLeft (s : Symbol) : Bool :=
  s.direction == .right || s.direction == .arabic || s.direction == .arabicNumber

/-- A direction that any label may hold inside. -/
def isCommon (d : Direction) : Bool :=
  [.number, .numberSign, .separator, .terminator, .neutral, .boundary, .mark].contains d

/-- A label keeps to one direction. -/
def oneDirection (label : List Symbol) : Bool :=
  let ds := label.map Symbol.direction
  let last := (ds.reverse.dropWhile (· == .mark)).head?
  match ds.head? with
  | none => true
  | some first =>
    if first == .left then
      ds.all (fun d ↦ d == .left || d == .leftMark || isCommon d) &&
        last.all (fun d ↦ d == .left || d == .leftMark || d == .number)
    else if first == .right || first == .arabic then
      ds.all (fun d ↦ d == .right || d == .arabic || d == .arabicNumber || isCommon d) &&
        last.all (fun d ↦ d == .right || d == .arabic || d == .number || d == .arabicNumber) &&
        !(ds.contains .number && ds.contains .arabicNumber)
    else false

/-! ## Names -/

/-- The labels of a domain name, if it is valid. -/
def readDomain (s : List Char) : Option (List (List Symbol)) := do
  let symbols := struckOut (← s.mapM symbolsOf).flatten
  guard (symbols.all fun | .ascii c => !isForbidden c | .other .. => true)
  let labels ← (labelsOf symbols).mapM openLabel
  guard (labels.all labelAllowed)
  guard (!labels.any (·.any Symbol.isRightToLeft) || labels.all oneDirection)
  return labels

end AlertOperator.Url
