import AlertOperator.Text.Blank
import AlertOperator.Text.Digits
import AlertOperator.Time.Date
import AlertOperator.Time.Instant

/-!
# Timestamps

Points in time as text: a date, a time of day and the distance from universal time, as in
`2024-01-02T03:04:05Z`. The reader is lenient. It takes white space before each number and each sign
between numbers, numbers with fewer digits, years with a sign and then any number of digits, a blank
in the place of the `T`, and `UTC` for `Z`. It does not take dates or times that do not exist; only
a minute may have a sixty-first second, which is the first one of the next minute.
-/

namespace AlertOperator.Time

/-! ## Reading -/

/-- A reader of the beginning of a text. -/
abbrev Scan := StateT (List Char) Option

namespace Scan

/-- Skips white space. -/
def blanks : Scan Unit := modify (List.dropWhile Text.isBlank)

/-- The character that comes next. -/
def char : Scan Char := do
  match ← get with
  | [] => failure
  | c :: s => set s; return c

/-- A number of at most `most` digits. -/
def number (most : Nat) : Scan Nat := do
  let s ← get
  let digits := (s.take most).takeWhile Text.isDigit
  set (s.drop digits.length)
  Text.readNat 10 digits

/-- A number that may be as large as `most`, after white space. -/
def field (least most : Nat) : Scan Nat := do
  blanks
  let n ← number 2
  guard (least ≤ n ∧ n ≤ most)
  return n

/-- The character `c` after white space. -/
def sign (c : Char) : Scan Unit := do
  blanks
  guard ((← char) = c)

/-- A year of four digits at most, or with a sign and any number of digits. -/
def year : Scan Int := do
  blanks
  let s ← get
  match s with
  | '+' :: t => set t; return (← number t.length)
  | '-' :: t => set t; return -(← number t.length : Nat)
  | _ => return (← number 4)

def date : Scan Date := do
  let y ← year
  sign '-'
  let m ← field 1 12
  sign '-'
  let d ← field 1 31
  guard (Date.isValid ⟨y, m, d⟩)
  return ⟨y, m, d⟩

/-- The nanoseconds that a fraction of a second has; digits after the ninth do not count. -/
def fraction : Scan Nat := do
  match ← get with
  | '.' :: t =>
    let digits := t.takeWhile Text.isDigit
    set (t.dropWhile Text.isDigit)
    let n ← Text.readNat 10 (digits.take 9)
    return n * Nat.pow 10 (9 - digits.length)
  | _ => return 0

/-- The seconds since midnight, and the nanoseconds. -/
def timeOfDay : Scan (Nat × Nat) := do
  let hour ← field 0 23
  sign ':'
  let minute ← field 0 59
  sign ':'
  let second ← field 0 60
  let nanos ← fraction
  return (hour * 3600 + minute * 60 + second, nanos)

/-- Two digits, the first of which is at most `first`. -/
def twoDigits (first : Nat) : Scan Nat := do
  let tens ← Text.digitValue 10 (← char)
  let ones ← Text.digitValue 10 (← char)
  guard (tens ≤ first)
  return tens * 10 + ones

/-- Hours and minutes, in seconds. -/
def hoursAndMinutes : Scan Int := do
  let hours ← twoDigits 9
  modify (List.dropWhile fun c ↦ c = ':' || Text.isBlank c)
  let minutes ← twoDigits 5
  guard (hours < 24)
  return ((hours * 3600 + minutes * 60 : Nat) : Int)

/-- The distance from universal time in seconds. -/
def offset : Scan Int := do
  blanks
  let s ← get
  if (s.take 3).map Char.toUpper = ['U', 'T', 'C'] then
    set (s.drop 3)
    return 0
  match ← char with
  | 'Z' => return 0
  | 'z' => return 0
  | '+' => hoursAndMinutes
  | '-' => return -(← hoursAndMinutes)
  | '−' => return -(← hoursAndMinutes)
  | _ => failure

/-- A point in time. -/
def instant : Scan Instant := do
  let d ← date
  guard ((← char) ∈ ['T', 't', ' '])
  let (inDay, nanos) ← timeOfDay
  let off ← offset
  blanks
  guard (← get).isEmpty
  return ⟨d.toDays * 86400 + inDay - off, nanos⟩

end Scan

namespace Instant

/-- The calendar reaches to the instant. -/
def inCalendar (t : Instant) : Bool := firstSecond ≤ t.seconds && t.seconds ≤ lastSecond

/-- The instant that a text writes. A second after the calendar is left to a last minute that has
sixty-one of them. -/
def read (s : String) : Option Instant :=
  ((Scan.instant s.toList).map (·.1)).filter fun t ↦
    firstSecond ≤ t.seconds && t.seconds ≤ lastSecond + 1

/-- The instant without what is below a millisecond. -/
def toMillis (t : Instant) : Instant := { t with nanos := t.nanos / 1000000 * 1000000 }

/-! ## Writing -/

/-- A year as it is written: four digits, or more with a sign. -/
def yearText (year : Int) : List Char :=
  if 0 ≤ year ∧ year ≤ 9999 then Text.padded 4 year.toNat
  else (if year < 0 then '-' else '+') :: Text.padded 4 year.natAbs

/-- An instant as it is written, to the millisecond. -/
def toText (t : Instant) : String :=
  let d := Date.ofDays (t.seconds / 86400)
  let inDay := (t.seconds % 86400).toNat
  String.ofList (yearText d.year ++ '-' :: Text.padded 2 d.month ++ '-' :: Text.padded 2 d.day ++
    'T' :: Text.padded 2 (inDay / 3600) ++ ':' :: Text.padded 2 (inDay / 60 % 60) ++
    ':' :: Text.padded 2 (inDay % 60) ++ '.' :: Text.padded 3 (t.nanos / 1000000) ++ ['Z'])

end Instant

end AlertOperator.Time
