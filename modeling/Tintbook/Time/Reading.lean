import Tintbook.Time.Instant
import Tintbook.Text.Blank
/-!
# Reading stored times

A stored time is read first as RFC 3339 text, and when that fails, as the plain form
`year-month-day hours:minutes:seconds` taken to be UTC. Only the second reading's fault
is ever reported.

*RFC 3339*, as read here: four digits of year, `-`, two of month, `-`, two of day, then
`T`, `t` or a space, two digits each of hours, minutes and seconds separated by colons
(seconds up to 60, a leap second), an optional fraction of one or more digits of which
the first nine count, and the zone: `Z`, `z`, or a sign (`+`, `-`, or the minus sign
U+2212) with two digits of hours, a colon and two of minutes, at most 23:59. The day must
exist. The instant is the local time less the offset.

*The plain form* reads its fields in order: before each number any blanks are passed
over, and a number has one to two digits (one to four for the year, which may also carry a
sign and then any number of digits). Month, day, hours, minutes and seconds must lie in
their ranges, and the date must exist. A text that ends early is *too short*, a character
out of place is *invalid*, text after the seconds is *too long*, and a value out of its
range is *out of range*.

## What this module delivers

- `TimeFault`: why a text is no time, with its `message`.
- `readRfc3339`: the instant an RFC 3339 text names.
- `readPlain`: the instant a plain text names, or why it names none.
- `readStoredTime`: the reading of a stored time.
-/

set_option autoImplicit false

namespace Tintbook

/-- Why a text names no time. -/
inductive TimeFault where
  | outOfRange
  | impossible
  | notEnough
  | invalid
  | tooShort
  | tooLong
  deriving DecidableEq, Repr

/-- The sentence for a time fault. -/
def TimeFault.message : TimeFault → String
  | .outOfRange => "input is out of range"
  | .impossible => "no possible date and time matching input"
  | .notEnough => "input is not enough for unique date and time"
  | .invalid => "input contains invalid characters"
  | .tooShort => "premature end of input"
  | .tooLong => "trailing input"

namespace TimeText

/-- The value of an ASCII digit. -/
def digitOf? (c : Char) : Option Nat :=
  if '0' ≤ c && c ≤ '9' then some (c.toNat - 48) else none

/-- The largest value a reading of a number may reach before it is out of range. -/
def numberBound : Nat := 9223372036854775807

/-- Reads from `min` to `max` digits from the front, as many as there are; fewer than `min`
characters is too short, a non-digit among the first `min` is invalid. -/
def number (cs : List Char) (min max : Nat) : Except TimeFault (Nat × List Char) :=
  if cs.length < min then .error .tooShort
  else go cs 0 0
where
  go : List Char → Nat → Nat → Except TimeFault (Nat × List Char)
    | [], _, n => .ok (n, [])
    | c :: r, i, n =>
      if i ≥ max then .ok (n, c :: r)
      else match digitOf? c with
        | none => if i < min then .error .invalid else .ok (n, c :: r)
        | some d =>
          let n' := n * 10 + d
          if n' > numberBound then .error .outOfRange else go r (i + 1) n'

/-- Reads a character that must come next. -/
def char (cs : List Char) (c : Char) : Except TimeFault (List Char) :=
  match cs with
  | [] => .error .tooShort
  | d :: r => if d == c then .ok r else .error .invalid

/-- The digits of a fraction: the value of the first nine, in nanoseconds, and the text
after all of them. -/
def fraction (cs : List Char) : Except TimeFault (Nat × List Char) := do
  let (v, rest) ← number cs 1 9
  let used := cs.length - rest.length
  let scaled := v * Nat.pow 10 (9 - used)
  return (scaled, rest.dropWhile fun c => (digitOf? c).isSome)

/-- A zone offset in seconds: `Z`, `z`, or a signed `hh:mm` of at most 23:59. -/
def offset (cs : List Char) : Option (Int × List Char) :=
  match cs with
  | 'Z' :: r | 'z' :: r => some (0, r)
  | s :: r =>
    let negative := s == '-' || s.toNat == 0x2212
    if s == '+' || negative then
      match r with
      | h1 :: h2 :: ':' :: m1 :: m2 :: rest =>
        match digitOf? h1, digitOf? h2, digitOf? m1, digitOf? m2 with
        | some a, some b, some c, some d =>
          let hours := a * 10 + b
          let minutes := c * 10 + d
          if c ≥ 6 || hours > 23 then none
          else
            let secs : Int := hours * 3600 + minutes * 60
            some (if negative then -secs else secs, rest)
        | _, _, _, _ => none
      | _ => none
    else none
  | [] => none

end TimeText

open TimeText in
/-- The instant an RFC 3339 text names, if it names one. -/
def readRfc3339 (s : String) : Option Instant := do
  let cs := s.toList
  let (y, cs) ← (number cs 4 4).toOption
  let cs ← (char cs '-').toOption
  let (mo, cs) ← (number cs 2 2).toOption
  let cs ← (char cs '-').toOption
  let (d, cs) ← (number cs 2 2).toOption
  let cs ← match cs with
    | c :: r => if c == 'T' || c == 't' || c == ' ' then some r else none
    | [] => none
  let (h, cs) ← (number cs 2 2).toOption
  let cs ← (char cs ':').toOption
  let (mi, cs) ← (number cs 2 2).toOption
  let cs ← (char cs ':').toOption
  let (sec, cs) ← (number cs 2 2).toOption
  let (nano, cs) ← match cs with
    | '.' :: r => (fraction r).toOption
    | _ => some (0, cs)
  let (off, cs) ← offset cs
  if !cs.isEmpty then none
  else if !(1 ≤ mo && mo ≤ 12 && 1 ≤ d && d ≤ 31 && h ≤ 23 && mi ≤ 59 && sec ≤ 60) then none
  else if !Civil.isDate y mo d then none
  else
    let wall := Civil.toInstant ⟨y, mo, d, h, mi, sec, nano⟩
    some ⟨wall.seconds - off, wall.nanos⟩

namespace TimeText

/-- A number field of the plain form, after any blanks: with a sign, any number of digits;
without, one to `width` digits. -/
def field (cs : List Char) (width : Nat) (signed : Bool) : Except TimeFault (Int × List Char) :=
  let cs := cs.dropWhile Text.isBlank
  match cs with
  | '-' :: r =>
    if signed then do let (v, r) ← number r 1 numberBound; return (-(v : Int), r)
    else do let (v, r) ← number cs 1 width; return ((v : Int), r)
  | '+' :: r =>
    if signed then do let (v, r) ← number r 1 numberBound; return ((v : Int), r)
    else do let (v, r) ← number cs 1 width; return ((v : Int), r)
  | _ => do let (v, r) ← number cs 1 width; return ((v : Int), r)

/-- A literal character of the plain form: too short at the end, invalid when different. -/
def literal (cs : List Char) (c : Char) : Except TimeFault (List Char) := char cs c

/-- Checks that a field lies in its range. -/
def inRange (v lo hi : Int) : Except TimeFault Unit :=
  if lo ≤ v && v ≤ hi then .ok () else .error .outOfRange

end TimeText

open TimeText in
/-- The instant a plain `year-month-day hours:minutes:seconds` text names in UTC, or why it
names none. -/
def readPlain (s : String) : Except TimeFault Instant := do
  let cs := s.toList
  let (y, cs) ← field cs 4 true
  inRange y (-2147483648) 2147483647
  let cs ← literal cs '-'
  let (mo, cs) ← field cs 2 false
  inRange mo 1 12
  let cs ← literal cs '-'
  let (d, cs) ← field cs 2 false
  inRange d 1 31
  let cs := cs.dropWhile Text.isBlank
  let (h, cs) ← field cs 2 false
  inRange h 0 23
  let cs ← literal cs ':'
  let (mi, cs) ← field cs 2 false
  inRange mi 0 59
  let cs ← literal cs ':'
  let (sec, cs) ← field cs 2 false
  inRange sec 0 60
  if !cs.isEmpty then throw .tooLong
  if !(Civil.isDate y mo.toNat d.toNat && -262144 ≤ y && y ≤ 262143) then throw .outOfRange
  return Civil.toInstant ⟨y, mo.toNat, d.toNat, h.toNat, mi.toNat, sec.toNat, 0⟩

/-- The reading of a stored time: RFC 3339 text, else the plain form in UTC. -/
def readStoredTime (s : String) : Except TimeFault Instant :=
  match readRfc3339 s with
  | some t => .ok t
  | none => readPlain s

end Tintbook
