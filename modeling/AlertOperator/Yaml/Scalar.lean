import AlertOperator.Text.Digits

/-!
# What a plain scalar stands for

A scalar without quotes may stand for null, a truth value, a number or a text. The decision matters
twice: a writer has to quote a text that would be read as something else, and a reader of a typed
value has to know which kind a plain scalar is of.

Digits after a leading zero are a text, since neither octal nor decimal is certain to be meant.
A number may be an integer in base two, eight, ten or sixteen that fits 128 bits, or a decimal
fraction of a magnitude that a double can hold.
-/

namespace AlertOperator.Yaml

/-- How a scalar is written. -/
inductive Style where
  | plain
  | singleQuoted
  | doubleQuoted
  | literal
  | folded
  deriving DecidableEq, Repr

/-- What a plain scalar stands for. -/
inductive Reading where
  | null
  | flag (b : Bool)
  | integer (n : Int)
  | real
  | text
  deriving DecidableEq, Repr

/-! ## Words -/

/-- The words for null. -/
def isNullWord (s : List Char) : Bool :=
  s == "null".toList || s == "Null".toList || s == "NULL".toList || s == ['~']

/-- The truth value that a word stands for. -/
def flagWord (s : List Char) : Option Bool :=
  if s == "true".toList || s == "True".toList || s == "TRUE".toList then some true
  else if s == "false".toList || s == "False".toList || s == "FALSE".toList then some false
  else none

/-! ## Integers -/

/-- Two or more digits of which the first is a zero, after an optional sign. -/
def isZeroLed (s : List Char) : Bool :=
  let digits := match s with
    | '-' :: t => t
    | '+' :: t => t
    | t => t
  match digits with
  | '0' :: c :: t => (c :: t).all Text.isDigit
  | _ => false

/-- Digits in the base that a mark such as `0x` announces. -/
def markedNat : List Char → Option Nat
  | '0' :: 'x' :: t => Text.readNat 16 t
  | '0' :: 'o' :: t => Text.readNat 8 t
  | '0' :: 'b' :: t => Text.readNat 2 t
  | _ => none

/-- A magnitude: digits after a mark, or decimal digits not led by a zero. -/
def magnitude (s : List Char) : Option Nat :=
  (markedNat s).or (if isZeroLed s then none else Text.readNat 10 s)

/-- The integer that a scalar writes, if it fits 128 bits, signed or unsigned. -/
def integer (s : List Char) : Option Int :=
  match s with
  | '-' :: t => ((magnitude t).filter (· ≤ Nat.pow 2 127)).map fun n ↦ -(n : Int)
  | '+' :: t => ((magnitude t).filter (· < Nat.pow 2 128)).map Int.ofNat
  | t => ((magnitude t).filter (· < Nat.pow 2 128)).map Int.ofNat

/-! ## Decimal fractions -/

/-- A decimal number as its digits, of which the last `places` stand after the point, times a power
of ten. -/
structure Decimal where
  digits : List Char
  places : Nat
  exponent : Int

/-- The exponent that ends a decimal number. -/
def decimalExponent : List Char → Option Int
  | [] => some 0
  | c :: s => if c = 'e' ∨ c = 'E' then Text.readInt s else none

/-- The decimal number that a scalar writes, apart from its sign: digits with an optional point
before, among or after them, and an optional exponent. -/
def decimal (s : List Char) : Option Decimal := do
  let whole := s.takeWhile Text.isDigit
  let rest := s.dropWhile Text.isDigit
  let (fraction, rest) := match rest with
    | '.' :: t => (t.takeWhile Text.isDigit, t.dropWhile Text.isDigit)
    | t => ([], t)
  guard (whole ++ fraction ≠ [])
  let exponent ← decimalExponent rest
  return ⟨whole ++ fraction, fraction.length, exponent⟩

/-- The first number too large for a double: halfway between the largest double and the power of
two after it. -/
def doubleLimit : Nat := Nat.pow 2 1024 - Nat.pow 2 970

/-- `d` is below the first number too large for a double. Magnitudes far from the limit are told by
their number of digits, so that a huge exponent costs nothing. -/
def Decimal.fitsDouble (d : Decimal) : Bool :=
  let significant := d.digits.dropWhile (· = '0')
  let shift : Int := d.exponent - d.places
  let order : Int := significant.length + shift
  if significant.isEmpty || order < 300 then true
  else if 320 < order then false
  else
    let n := (Text.readNat 10 significant).getD 0
    if 0 ≤ shift then n * Nat.pow 10 shift.toNat < doubleLimit
    else n < doubleLimit * Nat.pow 10 (-shift).toNat

/-- A scalar that writes a number as a decimal fraction or by one of the names of infinity and
not-a-number. -/
def isReal (s : List Char) : Bool :=
  let infinity (t : List Char) : Bool :=
    t == ".inf".toList || t == ".Inf".toList || t == ".INF".toList
  let unsigned (t : List Char) : Bool := (decimal t).any Decimal.fitsDouble
  s == ".nan".toList || s == ".NaN".toList || s == ".NAN".toList ||
    match s with
    | '+' :: t => infinity t || unsigned t
    | '-' :: t => infinity t || unsigned t
    | t => infinity t || unsigned t

/-! ## The decision -/

/-- What a plain scalar stands for. -/
def resolve (s : List Char) : Reading :=
  if s.isEmpty || isNullWord s then .null
  else
    match flagWord s with
    | some b => .flag b
    | none =>
      match integer s with
      | some n => .integer n
      | none => if !isZeroLed s && isReal s then .real else .text

end AlertOperator.Yaml
