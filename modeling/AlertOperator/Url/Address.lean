import AlertOperator.Text.Digits

/-!
# Numeric addresses

IPv4 addresses have one to four numbers, in decimal, octal or hexadecimal, of which all but the last
stand for one byte and the last for the bytes that are left. IPv6 addresses have eight pieces of
sixteen bits, of which one run of zeros may be left out and the last two may be written as an IPv4
address with four decimal numbers.
-/

namespace AlertOperator.Url

/-! ## IPv4 -/

/-- A number of an IPv4 address. After `0x` it is hexadecimal, after any other `0` octal; the mark
alone is zero. -/
def ipv4Number : List Char → Option Nat
  | [] => none
  | ['0'] => some 0
  | '0' :: c :: s =>
    if c = 'x' ∨ c = 'X' then if s.isEmpty then some 0 else Text.readNat 16 s
    else Text.readNat 8 (c :: s)
  | s => Text.readNat 10 s

/-- The labels without an empty one at the end. -/
def dropEmptyEnd (labels : List (List Char)) : List (List Char) :=
  if 1 < labels.length && labels.getLast? == some [] then labels.dropLast else labels

/-- The last label, apart from an empty one at the end, is a number, so that the whole is meant as
an address. -/
def endsInNumber (labels : List (List Char)) : Bool :=
  match (dropEmptyEnd labels).getLast? with
  | none => false
  | some last => (!last.isEmpty && last.all Text.isDigit) || (ipv4Number last).isSome

/-- The address that the labels write. -/
def readIpv4 (labels : List (List Char)) : Option Nat := do
  let labels := dropEmptyEnd labels
  guard (labels.length ≤ 4)
  let numbers ← labels.mapM ipv4Number
  let last ← numbers.getLast?
  let leading := numbers.dropLast
  guard (leading.all (· ≤ 255))
  guard (last < Nat.pow 256 (4 - leading.length))
  return leading.zipIdx.foldl (fun sum n ↦ sum + n.1 * Nat.pow 256 (3 - n.2)) last

/-! ## IPv6 -/

/-- The four decimal numbers of an IPv4 address inside an IPv6 address, without leading zeros. -/
def readQuad (s : List Char) : Option (List Nat) := do
  let parts := s.splitOn '.'
  guard (parts.length = 4)
  let numbers ← parts.mapM fun p ↦ do
    guard (p.length = 1 ∨ p.head? ≠ some '0')
    Text.readNat 10 p
  guard (numbers.all (· ≤ 255))
  match numbers with
  | [a, b, c, d] => return [a * 256 + b, c * 256 + d]
  | _ => none

/-- The pieces from here on: those before the run of zeros that is left out, in reverse, if it has
been met, and the pieces since then, in reverse. The first argument bounds the pieces. -/
def readPieces : Nat → Option (List Nat) → List Nat → List Char →
    Option (Option (List Nat) × List Nat)
  | 0, _, _, _ => none
  | _ + 1, left, pieces, [] => some (left, pieces)
  | fuel + 1, left, pieces, ':' :: s =>
    if left.isSome then none else readPieces fuel (some pieces) [] s
  | fuel + 1, left, pieces, s => do
    let digits := (s.take 4).takeWhile fun c ↦ (Text.hexValue c).isSome
    let rest := s.drop digits.length
    match rest with
    | '.' :: _ => do
      guard (!digits.isEmpty)
      let quad ← readQuad s
      return (left, quad.reverse ++ pieces)
    | ':' :: t => do
      guard (!t.isEmpty)
      let n ← Text.readNat 16 digits
      readPieces fuel left (n :: pieces) t
    | [] => do
      let n ← Text.readNat 16 digits
      return (left, n :: pieces)
    | _ => none

/-- The eight pieces of the address that stands between square brackets. -/
def readIpv6 (s : List Char) : Option (List Nat) := do
  guard (2 ≤ s.length)
  let (left, pieces) ← match s with
    | ':' :: ':' :: t => readPieces 9 (some []) [] t
    | ':' :: _ => none
    | t => readPieces 9 none [] t
  match left with
  | none => do
    guard (pieces.length = 8)
    return pieces.reverse
  | some before => do
    let count := before.length + pieces.length
    guard (count < 8)
    return before.reverse ++ List.replicate (8 - count) 0 ++ pieces.reverse

end AlertOperator.Url
