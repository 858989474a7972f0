/-!
# Punycode

Labels of domain names that hold other characters than ASCII are written with ASCII letters and
digits. The ASCII characters come first, up to the last hyphen. After it the other characters follow
in increasing order, each as one number that says how far to go on from the one before, where a step
goes to the next position and, past the last position, to the next code point. Numbers are written
in base 36 with a threshold at each digit that says which values end the number; the thresholds
adapt to the size of the numbers seen so far.
-/

namespace AlertOperator.Url.Punycode

/-- The value of a digit: letters in either case, then the decimal digits. -/
def digitValue (c : Char) : Option Nat :=
  let n := c.toNat
  if 0x61 ≤ n ∧ n ≤ 0x7A then some (n - 0x61)
  else if 0x41 ≤ n ∧ n ≤ 0x5A then some (n - 0x41)
  else if 0x30 ≤ n ∧ n ≤ 0x39 then some (n - 0x30 + 26)
  else none

/-- The threshold of the digit at place `k`, which grows by 36 from digit to digit. -/
def threshold (k bias : Nat) : Nat := min 26 (max 1 (k - bias))

/-- Divides by 35 until at most 455 is left, and counts 36 for each division. The first argument
bounds the divisions. -/
def shrink : Nat → Nat → Nat → Nat × Nat
  | 0, delta, k => (delta, k)
  | fuel + 1, delta, k => if 455 < delta then shrink fuel (delta / 35) (k + 36) else (delta, k)

/-- The bias after a number `delta` that placed a character among `count` characters. -/
def adapt (delta count : Nat) (first : Bool) : Nat :=
  let delta := if first then delta / 700 else delta / 2
  let (delta, k) := shrink 32 (delta + delta / count) 0
  k + 36 * delta / (delta + 38)

/-- The number at the start of a text, and the text after it. -/
def readNumber (bias : Nat) : Nat → Nat → Nat → List Char → Option (Nat × List Char)
  | _, _, _, [] => none
  | value, weight, k, c :: s => do
    let d ← digitValue c
    let value := value + d * weight
    guard (value < 0x100000000)
    let t := threshold k bias
    if d < t then return (value, s)
    else do
      let weight := weight * (36 - t)
      guard (weight < 0x100000000)
      readNumber bias value weight (k + 36) s

/-- Puts the characters that the numbers describe into the text `out`, in which the code point `n`
was last put before position `i`. The first argument bounds the numbers. -/
def place : Nat → List Char → Nat → Nat → Nat → Bool → List Char → Option (List Char)
  | 0, _, _, _, _, _, _ => none
  | _ + 1, out, _, _, _, _, [] => some out
  | fuel + 1, out, n, i, bias, first, s => do
    let (delta, s) ← readNumber bias 0 1 36 s
    let count := out.length + 1
    let position := i + delta
    let n := n + position / count
    guard (n < 0xD800 ∨ (0xDFFF < n ∧ n ≤ 0x10FFFF))
    let i := position % count
    let out := out.take i ++ Char.ofNat n :: out.drop i
    place fuel out n (i + 1) (adapt delta count first) false s

/-- The text that a label without its mark stands for. -/
def decode (s : List Char) : Option (List Char) :=
  let tail := (s.reverse.takeWhile (· != '-')).reverse
  let base := s.take (s.length - tail.length - 1)
  if base.isEmpty then place (s.length + 1) [] 128 0 72 true s
  else if base.all (·.toNat < 0x80) then place (s.length + 1) base 128 0 72 true tail
  else none

end AlertOperator.Url.Punycode
