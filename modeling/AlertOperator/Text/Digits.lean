/-!
# Decimal and hexadecimal numbers in text

Reading: a run of digits is read by Horner's rule, whatever its length, and a bounded reader then
compares the value with its bounds, so no length of digits can wrap around. Writing: a number in
decimal, padded to a width with zeros on the left.
-/

namespace AlertOperator.Text

/-! ## Reading -/

/-- The value of `c` as a digit in a base up to sixteen, letters in either case. -/
def hexValue (c : Char) : Option Nat :=
  if '0' ≤ c ∧ c ≤ '9' then some (c.toNat - 48)
  else if 'a' ≤ c ∧ c ≤ 'f' then some (c.toNat - 87)
  else if 'A' ≤ c ∧ c ≤ 'F' then some (c.toNat - 55)
  else none

/-- The value of `c` as a digit below `base`. -/
def digitValue (base : Nat) (c : Char) : Option Nat :=
  (hexValue c).filter (· < base)

/-- `c` is one of the ten ASCII digits. -/
def isDigit (c : Char) : Bool := '0' ≤ c && c ≤ '9'

/-- The number that the digits `s` write in `base`, with `acc` read before them. -/
def natFrom (base : Nat) (acc : Nat) : List Char → Option Nat
  | [] => some acc
  | c :: s => (digitValue base c).bind fun d ↦ natFrom base (acc * base + d) s

/-- One or more digits of `base`, and nothing else. -/
def readNat (base : Nat) : List Char → Option Nat
  | [] => none
  | s => natFrom base 0 s

/-- One or more decimal digits after an optional sign. -/
def readInt : List Char → Option Int
  | '+' :: s => (readNat 10 s).map Int.ofNat
  | '-' :: s => (readNat 10 s).map fun n ↦ -(n : Int)
  | s => (readNat 10 s).map Int.ofNat

/-- Decimal digits after an optional `+`, with a value of at most `most`. -/
def readNatUpTo (most : Nat) : List Char → Option Nat
  | '+' :: s => (readNat 10 s).filter (· ≤ most)
  | s => (readNat 10 s).filter (· ≤ most)

/-- Decimal digits after an optional sign, with a value from `least` to `most`. -/
def readIntBetween (least most : Int) (s : List Char) : Option Int :=
  (readInt s).filter fun n ↦ least ≤ n ∧ n ≤ most

/-! ## Writing -/

/-- The decimal digits of `n`. -/
def decimal (n : Nat) : List Char := Nat.toDigits 10 n

/-- The decimal digits of `n`, with zeros on the left up to `width` places. -/
def padded (width n : Nat) : List Char :=
  let digits := decimal n
  List.replicate (width - digits.length) '0' ++ digits

/-- The hexadecimal digit of value `n`, which is below sixteen. -/
def hexDigit (letters : Char) (n : Nat) : Char :=
  if n < 10 then Char.ofNat (48 + n) else Char.ofNat (letters.toNat + (n - 10))

/-- `n` in hexadecimal with exactly `width` digits, the letters starting at `letters`. -/
def hexPadded (letters : Char) : Nat → Nat → List Char
  | 0, _ => []
  | width + 1, n => hexPadded letters width (n / 16) ++ [hexDigit letters (n % 16)]

end AlertOperator.Text
