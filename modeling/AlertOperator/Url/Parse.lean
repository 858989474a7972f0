import AlertOperator.Text.Bytes
import AlertOperator.Url.Address
import AlertOperator.Url.Domain

/-!
# Absolute addresses

Reading an address from its scheme to its port; the path, query and fragment after that can hold
anything. Six schemes are special: `http`, `https`, `ws`, `wss` and `ftp` always name a host, with
any number of slashes or backslashes before it, and `file` may name one. Any other scheme names a
host after two slashes only, and its hosts are not domain names but any text without the characters
that divide an address.
-/

namespace AlertOperator.Url

/-- A host. -/
inductive Host where
  /-- A domain name, as written in the address. -/
  | domain (name : List Char)
  | ipv4 (address : Nat)
  | ipv6 (pieces : List Nat)
  /-- A host in an address whose scheme is not special. -/
  | opaqueName (name : List Char)
  deriving DecidableEq, Repr

/-- An absolute address, as far as its scheme, its host and its port. -/
structure Address where
  scheme : String
  host : Option Host := none
  port : Option Nat := none
  deriving DecidableEq, Repr

/-- How an address goes on after its scheme. -/
inductive SchemeKind where
  | special
  | file
  | other
  deriving DecidableEq, Repr

/-- The kind of a scheme. -/
def SchemeKind.of (scheme : String) : SchemeKind :=
  if ["http", "https", "ws", "wss", "ftp"].contains scheme then .special
  else if scheme = "file" then .file
  else .other

/-! ## Parts -/

/-- The scheme before the first colon, in small letters, and what follows the colon. A scheme begins
with a letter and goes on with letters, digits and the signs `+`, `-` and `.`. -/
def readScheme (s : List Char) : Option (String × List Char) :=
  let name := s.takeWhile (· != ':')
  let allowed (c : Char) : Bool := c.isAlphanum || c == '+' || c == '-' || c == '.'
  match s.drop name.length with
  | ':' :: rest =>
    if name.head?.any Char.isAlpha && name.all allowed then
      some (String.ofList (name.map Char.toLower), rest)
    else none
  | _ => none

/-- The character ends the part of an address that names a user, host and port. -/
def endsAuthority (kind : SchemeKind) (c : Char) : Bool :=
  c == '/' || c == '?' || c == '#' || (c == '\\' && kind != .other)

/-- The part with host and port behind the last `@` of `s`, and whether a user or password stands
before it. An `@` with nothing before it has to be followed by a host. -/
def afterUser (kind : SchemeKind) (s : List Char) : Option (Bool × List Char) :=
  let authority := s.takeWhile fun c ↦ !endsAuthority kind c
  let behind := (authority.reverse.takeWhile (· != '@')).length
  if behind = authority.length then some (false, s)
  else
    let count := authority.length - behind - 1
    let rest := s.drop (count + 1)
    if count = 0 then
      if rest.head?.any (endsAuthority kind) then none else some (false, rest)
    else some (authority.take count != [':'], rest)

/-- The text of a host up to a colon outside square brackets or the end of the part, and what
follows. -/
def splitHost (kind : SchemeKind) (inBrackets : Bool) : List Char → List Char × List Char
  | [] => ([], [])
  | c :: s =>
    if (c == ':' && !inBrackets) || endsAuthority kind c then ([], c :: s)
    else
      let (host, rest) := splitHost kind (c == '[' || (inBrackets && c != ']')) s
      (c :: host, rest)

/-- The bytes of a text in which a percent sign and two hexadecimal digits stand for a byte. -/
def percentDecode : Bytes → Bytes
  | [] => []
  | 0x25 :: h :: l :: bs =>
    match Text.hexValue (Char.ofNat h.toNat), Text.hexValue (Char.ofNat l.toNat) with
    | some h, some l => UInt8.ofNat (h * 16 + l) :: percentDecode bs
    | _, _ => 0x25 :: percentDecode (h :: l :: bs)
  | b :: bs => b :: percentDecode bs

/-- The text between square brackets. -/
def bracketed? : List Char → Option (List Char)
  | '[' :: s => if s.getLast? == some ']' then some s.dropLast else none
  | _ => none

/-- The text of a label, if it is ASCII, and otherwise the mark of labels that are not. -/
def labelText (label : List Symbol) : List Char := (asciiText? label).getD "xn--".toList

/-- The host in an address with a special scheme. -/
def readHost (s : List Char) : Option Host :=
  if s.head? == some '[' then do
    return .ipv6 (← readIpv6 (← bracketed? s))
  else do
    let decoded ← Bytes.toString? (percentDecode (Bytes.ofString (String.ofList s)))
    let labels ← readDomain decoded.toList
    let texts := labels.map labelText
    guard (texts ≠ [[]])
    if endsInNumber texts then return .ipv4 (← readIpv4 texts) else return .domain s

/-- A character that no host in an address with another scheme may hold. -/
def dividesAddress (c : Char) : Bool :=
  "\x00\t\n\r #/:<>?@[\\]^|".toList.contains c

/-- The host in an address whose scheme is not special. -/
def readOpaqueHost (s : List Char) : Option Host :=
  if s.head? == some '[' then do
    return .ipv6 (← readIpv6 (← bracketed? s))
  else if s.any dividesAddress then none
  else some (.opaqueName s)

/-- The port after a colon, which may be left out, up to the end of the part. A backslash ends it in
any address. -/
def readPort (s : List Char) : Option (Option Nat) :=
  let digits := s.takeWhile Text.isDigit
  let rest := s.drop digits.length
  if rest.head?.any fun c ↦ !(c == '/' || c == '\\' || c == '?' || c == '#') then none
  else if digits.isEmpty then some none
  else ((Text.readNat 10 digits).filter (· < 0x10000)).map some

/-- An address from where its user, host and port begin. -/
def readAuthority (scheme : String) (kind : SchemeKind) (s : List Char) : Option Address := do
  let (hasUser, s) ← afterUser kind s
  let (text, rest) := splitHost kind false s
  let port : Option (Option Nat) := match rest with
    | ':' :: t => readPort t
    | _ => some none
  if text.isEmpty then
    guard (kind = .other ∧ !hasUser ∧ rest.head? ≠ some ':')
    return { scheme := scheme }
  else
    let host ← if kind = .other then readOpaqueHost text else readHost text
    return { scheme := scheme, host := some host, port := ← port }

/-- The text is the name of a drive, a letter with a colon or a bar. -/
def isDrive (s : List Char) : Bool :=
  match s with
  | [c, d] => c.isAlpha && (d == ':' || d == '|')
  | _ => false

/-- A file address from behind its two slashes. -/
def readFileHost (s : List Char) : Option Address :=
  let text := s.takeWhile fun c ↦ !endsAuthority .file c
  if text.isEmpty || isDrive text then some { scheme := "file" }
  else do
    return { scheme := "file", host := some (← readHost text) }

/-! ## The whole -/

/-- The address that a text writes. A text that does not begin with a scheme is none. -/
def read (text : String) : Option Address := do
  let (scheme, s) ← readScheme text.toList
  match SchemeKind.of scheme with
  | .special => readAuthority scheme .special (s.dropWhile fun c ↦ c == '/' || c == '\\')
  | .file =>
    match s with
    | c :: d :: t =>
      if (c == '/' || c == '\\') && (d == '/' || d == '\\') then readFileHost t
      else return { scheme := scheme }
    | _ => return { scheme := scheme }
  | .other =>
    match s with
    | '/' :: '/' :: t => readAuthority scheme .other t
    | _ => return { scheme := scheme }

end AlertOperator.Url
