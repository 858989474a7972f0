/-!
# Bytes and UTF-8

Secrets hold bytes and documents hold text. Text becomes bytes by UTF-8. The way back reads each
longest beginning of a character that the bytes still allow: a strict reader refuses bytes that
stop short of a character, a lenient one puts U+FFFD in the place of each such beginning.
-/

namespace AlertOperator

/-- A sequence of bytes. -/
abbrev Bytes := List UInt8

namespace Bytes

/-- The UTF-8 encoding of `s`. -/
def ofString (s : String) : Bytes := s.toList.flatMap String.utf8EncodeChar

/-- A character of which the first bytes have been read. -/
structure Partial where
  /-- The value of the bits read so far. -/
  bits : Nat
  /-- How many bytes are still to come. -/
  missing : Nat
  /-- The smallest value allowed for the next byte. -/
  least : Nat
  /-- The largest value allowed for the next byte. -/
  most : Nat

/-- What a byte at the start of a character says: a whole character, the beginning of a longer
one, or nothing that UTF-8 allows. -/
inductive Lead where
  | whole (c : Char)
  | start (p : Partial)
  | bad

/-- The reading of `b` as the first byte of a character. The bounds on the second byte exclude
overlong forms, surrogates and values past U+10FFFF. -/
def lead (b : UInt8) : Lead :=
  let n := b.toNat
  if n < 0x80 then .whole (Char.ofNat n)
  else if 0xC2 ≤ n && n ≤ 0xDF then .start ⟨n - 0xC0, 1, 0x80, 0xBF⟩
  else if n = 0xE0 then .start ⟨0, 2, 0xA0, 0xBF⟩
  else if n = 0xED then .start ⟨0xD, 2, 0x80, 0x9F⟩
  else if 0xE1 ≤ n && n ≤ 0xEF then .start ⟨n - 0xE0, 2, 0x80, 0xBF⟩
  else if n = 0xF0 then .start ⟨0, 3, 0x90, 0xBF⟩
  else if 0xF1 ≤ n && n ≤ 0xF3 then .start ⟨n - 0xF0, 3, 0x80, 0xBF⟩
  else if n = 0xF4 then .start ⟨4, 3, 0x80, 0x8F⟩
  else .bad

/-- The characters that the bytes spell after the beginning `p`, with `none` for each beginning
that is not carried through. -/
def scan : Option Partial → Bytes → List (Option Char)
  | none, [] => []
  | some _, [] => [none]
  | none, b :: bs =>
    match lead b with
    | .whole c => some c :: scan none bs
    | .start p => scan (some p) bs
    | .bad => none :: scan none bs
  | some p, b :: bs =>
    if p.least ≤ b.toNat && b.toNat ≤ p.most then
      let bits := p.bits * 64 + (b.toNat - 0x80)
      if p.missing ≤ 1 then some (Char.ofNat bits) :: scan none bs
      else scan (some ⟨bits, p.missing - 1, 0x80, 0xBF⟩) bs
    else
      none ::
        match lead b with
        | .whole c => some c :: scan none bs
        | .start p => scan (some p) bs
        | .bad => none :: scan none bs

/-- The text that the bytes spell, if they are UTF-8. -/
def toString? (bs : Bytes) : Option String :=
  ((scan none bs).mapM id).map String.ofList

/-- The text that the bytes spell, with U+FFFD for each part that is not UTF-8. -/
def toStringLossy (bs : Bytes) : String :=
  String.ofList ((scan none bs).map (·.getD '\uFFFD'))

end Bytes

end AlertOperator
