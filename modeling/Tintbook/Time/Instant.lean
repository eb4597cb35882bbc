import Tintbook.Text.Integer
/-!
# Instants

An instant is a moment of UTC time with nanoseconds: the seconds since the start of
1970-01-01 and the nanoseconds into the second. A leap second is held as a second that
lasts two: its nanoseconds run on from 10^9 past second 59 of a minute, so instants still
compare as pairs of seconds and nanoseconds.

Dates are proleptic Gregorian, with year 0 before year 1. An instant is written in the
form of RFC 3339: a four-digit year (or, outside years 0 to 9999, a signed year of at least
four digits), month, day, `T`, hours, minutes, seconds, a fraction with as few of 3, 6 or 9
digits as hold it exactly (none for a whole second), and the zone as `Z` or `+00:00`.

## What this module delivers

- `Instant`, with its order, `Instant.latest` and `Instant.ofNanos`.
- `Civil`: a date and time of day, with `Civil.toInstant` and `Instant.toCivil`.
- `Instant.rfc3339`: the text of an instant.
- `Instant.minuteText`: the text down to the minute, as pages show it.
-/

set_option autoImplicit false

namespace Tintbook

/-- A moment of UTC time: seconds since 1970-01-01T00:00:00, and nanoseconds into the second,
running past 10^9 only in a leap second. -/
structure Instant where
  seconds : Int
  nanos : Nat
  deriving DecidableEq, Repr, Inhabited

namespace Instant

/-- Instants in time order. -/
def before (a b : Instant) : Bool :=
  a.seconds < b.seconds || (a.seconds == b.seconds && a.nanos < b.nanos)

/-- The later of two instants. -/
def latest (a b : Instant) : Instant := if before a b then b else a

/-- The instant a count of nanoseconds since 1970-01-01T00:00:00 names. -/
def ofNanos (n : Int) : Instant := ⟨n / 1000000000, (n % 1000000000).toNat⟩

end Instant

/-- A date and a time of day; `second` is 60 in a leap second. -/
structure Civil where
  year : Int
  month : Nat
  day : Nat
  hour : Nat
  minute : Nat
  second : Nat
  nano : Nat
  deriving DecidableEq, Repr

namespace Civil

/-- Whether a year has a 29th of February. -/
def isLeapYear (y : Int) : Bool := y % 4 == 0 && (y % 100 != 0 || y % 400 == 0)

/-- The number of days of a month. -/
def daysInMonth (y : Int) (m : Nat) : Nat :=
  if m == 2 then (if isLeapYear y then 29 else 28)
  else if m == 4 || m == 6 || m == 9 || m == 11 then 30
  else 31

/-- Whether a year, month and day name a day of the calendar. -/
def isDate (y : Int) (m d : Nat) : Bool := 1 ≤ m && m ≤ 12 && 1 ≤ d && d ≤ daysInMonth y m

/-- The days from 1970-01-01 to a date, counting the calendar in eras of 400 years. -/
def daysFromCivil (y : Int) (m d : Nat) : Int :=
  let y := if m ≤ 2 then y - 1 else y
  let era := y / 400
  let yoe := y - era * 400
  let mp : Int := if m > 2 then (m : Int) - 3 else (m : Int) + 9
  let doy := (153 * mp + 2) / 5 + (d : Int) - 1
  let doe := yoe * 365 + yoe / 4 - yoe / 100 + doy
  era * 146097 + doe - 719468

/-- The date of a day counted from 1970-01-01. -/
def civilFromDays (z : Int) : Int × Nat × Nat :=
  let z := z + 719468
  let era := z / 146097
  let doe := z - era * 146097
  let yoe := (doe - doe / 1460 + doe / 36524 - doe / 146096) / 365
  let y := yoe + era * 400
  let doy := doe - (365 * yoe + yoe / 4 - yoe / 100)
  let mp := (5 * doy + 2) / 153
  let d := doy - (153 * mp + 2) / 5 + 1
  let m := if mp < 10 then mp + 3 else mp - 9
  ((if m ≤ 2 then y + 1 else y), m.toNat, d.toNat)

/-- The instant of a date and time of day in UTC. -/
def toInstant (c : Civil) : Instant :=
  let days := daysFromCivil c.year c.month c.day
  if c.second == 60 then
    ⟨days * 86400 + (c.hour * 3600 + c.minute * 60 + 59 : Nat), c.nano + 1000000000⟩
  else ⟨days * 86400 + (c.hour * 3600 + c.minute * 60 + c.second : Nat), c.nano⟩

end Civil

namespace Instant

/-- The date and time of day of an instant in UTC. -/
def toCivil (t : Instant) : Civil :=
  let days := t.seconds / 86400
  let secs := (t.seconds % 86400).toNat
  let (y, m, d) := Civil.civilFromDays days
  let leap := t.nanos ≥ 1000000000
  ⟨y, m, d, secs / 3600, secs % 3600 / 60, (if leap then secs % 60 + 1 else secs % 60),
    (if leap then t.nanos - 1000000000 else t.nanos)⟩

/-- A natural number written with at least `width` digits. -/
def padded (width n : Nat) : String :=
  let ds := Nat.toDigits 10 n
  String.ofList (List.replicate (width - ds.length) '0' ++ ds)

/-- A year: four digits within 0 to 9999, else signed with at least four digits. -/
def yearText (y : Int) : String :=
  if 0 ≤ y && y ≤ 9999 then padded 4 y.toNat
  else (if y < 0 then "-" else "+") ++ padded 4 y.natAbs

/-- The fraction of a second, with 3, 6 or 9 digits, the fewest that hold it exactly. -/
def fractionText (nano : Nat) : String :=
  if nano == 0 then ""
  else if nano % 1000000 == 0 then "." ++ padded 3 (nano / 1000000)
  else if nano % 1000 == 0 then "." ++ padded 6 (nano / 1000)
  else "." ++ padded 9 nano

/-- The date and time of an instant down to the second, with its fraction. -/
def dateTimeText (t : Instant) : String :=
  let c := t.toCivil
  yearText c.year ++ "-" ++ padded 2 c.month ++ "-" ++ padded 2 c.day ++ "T" ++
    padded 2 c.hour ++ ":" ++ padded 2 c.minute ++ ":" ++ padded 2 c.second ++
    fractionText c.nano

/-- The RFC 3339 text of an instant, with the zone written `Z` when `zulu`, else `+00:00`. -/
def rfc3339 (t : Instant) (zulu : Bool) : String :=
  dateTimeText t ++ (if zulu then "Z" else "+00:00")

/-- The date, hours and minutes of an instant, as `2024-03-01 11:30`. -/
def minuteText (t : Instant) : String :=
  let c := t.toCivil
  yearText c.year ++ "-" ++ padded 2 c.month ++ "-" ++ padded 2 c.day ++ " " ++
    padded 2 c.hour ++ ":" ++ padded 2 c.minute

end Instant

end Tintbook
