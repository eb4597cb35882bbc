import Tintbook.Decimal.Layout
import Tintbook.Decimal.Nearest
import Tintbook.Text.Integer
import Tintbook.Store.Fault
/-!
# Stored values and column affinity

Every value the store keeps belongs to one storage class: nothing, a 64-bit integer, a
double, or text. A column declares an *affinity*, the class it prefers, and a value is
turned towards that class as it is written:

- a column of integer affinity turns text that reads as a number into that number, and a
  double that is a whole number of moderate size into an integer;
- a column of text affinity turns numbers into their text.

Reading text as a number follows the engine's own rule, which differs from JSON's: blanks
may surround the number, a sign may lead, digits may stand on either side of the point,
and an exponent may follow; a text of bare digits whose value fits in 64 bits is an
integer, every other number is a double. Only the first nineteen or so significant digits
count; later ones merely shift the exponent.

## What this module delivers

- `Cell`: a stored value, by storage class; `Cell.ofDouble` binds a double, where a value
  that is not a number is bound as nothing.
- `Affinity` and `Cell.fit`: the value a column of an affinity stores for a value.
- `NumericText` and `readNumeric`: how a text reads as a number, if it does.
- `realText`: the text a double becomes in a column of text affinity: fifteen significant
  digits, a point always, an exponent outside `1e-4 ≤ |x| < 1e15`.
- `plainLayout`: the shortest digits of a double, always positional.
-/

set_option autoImplicit false

namespace Tintbook.Store

/-- A stored value, by its storage class. -/
inductive Cell where
  | null
  | integer (n : Int)
  | real (bits : UInt64)
  | text (s : String)
  deriving DecidableEq, Repr

/-- The storage class of a stored value. -/
def Cell.kind : Cell → CellKind
  | .null => .null
  | .integer _ => .integer
  | .real _ => .real
  | .text _ => .text

/-- A double as bound to a statement: a value that is not a number binds as nothing. -/
def Cell.ofDouble (bits : UInt64) : Cell :=
  match Binary64.ofBits bits with
  | .notANumber => .null
  | _ => .real bits

/-- The class of values a column prefers. -/
inductive Affinity where
  | integer
  | text
  deriving DecidableEq, Repr

/-! ## Reading text as a number -/

/-- How a text reads as a number: as an integer that fits in 64 bits, or as a double given
by its sign, significand and decimal exponent. -/
inductive NumericText where
  | integer (value : Int)
  | real (negative : Bool) (significand : Nat) (exponent : Int)
  deriving DecidableEq, Repr

namespace NumericText

/-- The blanks allowed around a number: tab, line feed, vertical tab, form feed, carriage
return and space. -/
def isSpaceByte (b : UInt8) : Bool := (9 ≤ b && b ≤ 13) || b == 32

/-- Whether a byte is an ASCII digit. -/
def isDigitByte (b : UInt8) : Bool := 48 ≤ b && b ≤ 57

/-- The value of an ASCII digit. -/
def digitOf (b : UInt8) : Nat := b.toNat - 48

/-- Once the significand reaches this bound, further digits no longer enter it. -/
def significandCap : Nat := 1844674407370955160

/-- The digits before the point: each digit enters the significand while it is below the
cap, and once it is not, a digit only raises the decimal shift. Returns the significand,
the number of digits that entered it, the shift and the bytes after the digits. -/
def wholeDigits : List UInt8 → Nat → Nat → Int → Nat × Nat × Int × List UInt8
  | [], s, n, d => (s, n, d, [])
  | b :: rest, s, n, d =>
    if isDigitByte b then
      if s < significandCap then wholeDigits rest (s * 10 + digitOf b) (n + 1) d
      else wholeDigits rest s n (d + 1)
    else (s, n, d, b :: rest)

/-- The digits after the point: each digit enters the significand, lowering the shift,
while the significand is below the cap; later digits are passed over. -/
def fractionDigits : List UInt8 → Nat → Nat → Int → Nat × Nat × Int × List UInt8
  | [], s, n, d => (s, n, d, [])
  | b :: rest, s, n, d =>
    if isDigitByte b then
      if s < significandCap then fractionDigits rest (s * 10 + digitOf b) (n + 1) (d - 1)
      else fractionDigits rest s n d
    else (s, n, d, b :: rest)

/-- The digits of an exponent, whose value stops growing at 10000; also whether there was
any digit. -/
def exponentDigits : List UInt8 → Nat → Bool → Nat × Bool × List UInt8
  | [], e, seen => (e, seen, [])
  | b :: rest, e, seen =>
    if isDigitByte b then
      exponentDigits rest (if e < 10000 then e * 10 + digitOf b else 10000) true
    else (e, seen, b :: rest)

/-- The value of a run of ASCII digits. -/
def digitsValue (bs : List UInt8) : Nat := bs.foldl (fun acc b => acc * 10 + digitOf b) 0

/-- A leading sign: whether it is a minus, and the bytes after it. -/
def sign : List UInt8 → Bool × List UInt8
  | 45 :: rest => (true, rest)
  | 43 :: rest => (false, rest)
  | rest => (false, rest)

/-- The exponent part, if an `e` or `E` starts the bytes: its signed value, whether it had
digits, and the bytes after it. -/
def exponentPart : List UInt8 → Option (Int × Bool × List UInt8)
  | b :: rest =>
    if b == 101 || b == 69 then
      let (negative, afterSign) := sign rest
      let (e, seen, after) := exponentDigits afterSign 0 false
      some (if negative then -(e : Int) else e, seen, after)
    else none
  | [] => none

end NumericText

open NumericText in
/-- How a text reads as a number, if the whole text, blanks around it apart, is one. -/
def readNumeric (s : String) : Option NumericText :=
  let bytes := s.toUTF8.toList.dropWhile isSpaceByte
  if bytes.isEmpty then none
  else
    let (negative, body) := sign bytes
    let (s1, n1, d1, afterWhole) := wholeDigits body 0 0 0
    let (hasPoint, s2, n2, d2, afterPoint) :=
      match afterWhole with
      | 46 :: rest =>
        let (s', n', d', r') := fractionDigits rest s1 n1 d1
        (true, s', n', d', r')
      | rest => (false, s1, n1, d1, rest)
    let (hasExponent, e, exponentValid, afterExponent) :=
      match exponentPart afterPoint with
      | some (e, seen, rest) => (true, e, seen, rest)
      | none => (false, 0, true, afterPoint)
    if (afterExponent.dropWhile isSpaceByte).isEmpty && n2 > 0 && exponentValid then
      let magnitude : Int := digitsValue (body.takeWhile isDigitByte)
      let value := if negative then -magnitude else magnitude
      if !hasPoint && !hasExponent && int64Min ≤ value && value ≤ int64Max then
        some (.integer value)
      else some (.real negative s2 (e + d2))
    else none

/-! ## Doubles as whole numbers -/

/-- The bits of the double nearest to a signed decimal; zero keeps its sign. -/
def doubleBits (negative : Bool) (significand : Nat) (exponent : Int) : UInt64 :=
  let magnitude := if significand = 0 then 0 else Decimal.nearestBits significand exponent
  if negative then magnitude ||| ((1 : UInt64) <<< 63) else magnitude

/-- The largest magnitude a double may have to be stored as an integer. -/
def wholeBound : Nat := 9223372036854774784

/-- The integer a double is stored as in a column of integer affinity: the double must be a
whole number no larger in magnitude than `wholeBound`. -/
def wholeValue? (bits : UInt64) : Option Int :=
  match Binary64.ofBits bits with
  | .finite b =>
    let magnitude : Option Nat :=
      if 0 ≤ b.exponent then some (b.significand * Nat.pow 2 b.exponent.toNat)
      else
        let unit := Nat.pow 2 (-b.exponent).toNat
        if b.significand % unit = 0 then some (b.significand / unit) else none
    match magnitude with
    | some m => if m ≤ wholeBound then some (if b.negative then -(m : Int) else m) else none
    | none => none
  | _ => none

/-- A double as a column of integer affinity stores it. -/
def integralCell (bits : UInt64) : Cell :=
  match wholeValue? bits with
  | some n => .integer n
  | none => .real bits

/-- A number read from text, as a column of integer affinity stores it: an integer stays
one, a double is stored as an integer when it is a whole number of moderate size. -/
def NumericText.toCell : NumericText → Cell
  | .integer v => .integer v
  | .real negative s e => integralCell (doubleBits negative s e)

/-! ## Doubles as text -/

/-- The digits of `num / den` rounded half up to `k` significant digits, with trailing
zeros dropped, and the place of the decimal point counted from the left of them. -/
def roundSignificant (num den k : Nat) : Nat × Int :=
  let point := Decimal.floorLog10 num den + 1
  let shift : Int := (k : Int) - point
  let scaledNum := num * Nat.pow 10 shift.toNat
  let scaledDen := den * Nat.pow 10 (-shift).toNat
  let rounded := (2 * scaledNum + scaledDen) / (2 * scaledDen)
  let (digits, point) := if rounded = Nat.pow 10 k then (Nat.pow 10 (k - 1), point + 1) else (rounded, point)
  ((Decimal.normalize digits 0).1, point)

/-- The text a finite nonzero double becomes in a column of text affinity, by its sign and
rounded digits. -/
def placeRounded (negative : Bool) (digits : Nat) (point : Int) : String :=
  let sign := if negative then "-" else ""
  let ds := String.ofList (Nat.toDigits 10 digits)
  let e := point - 1
  if e < -4 ∨ e > 14 then
    let rest := String.ofList (ds.toList.drop 1)
    let mantissa := String.ofList (ds.toList.take 1) ++ "." ++ (if rest.isEmpty then "0" else rest)
    let magnitude := e.natAbs
    let expDigits := String.ofList (Nat.toDigits 10 magnitude)
    sign ++ mantissa ++ "e" ++ (if e < 0 then "-" else "+") ++
      (if magnitude < 10 then "0" else "") ++ expDigits
  else
    let style : FloatLayout := ⟨none, none, true, "Inf", "NaN"⟩
    sign ++ style.place ds point

/-- The text a double becomes in a column of text affinity: fifteen significant digits
rounded half up, trailing zeros dropped but a digit always after the point, and an exponent
of at least two digits when the value is below `1e-4` or from `1e15` on. -/
def realText (bits : UInt64) : String :=
  match Binary64.ofBits bits with
  | .notANumber => "NaN"
  | .infinite negative => if negative then "-Inf" else "Inf"
  | .finite b =>
    if b.significand = 0 then "0.0"
    else
      let (num, den) :=
        if 0 ≤ b.exponent then (b.significand * Nat.pow 2 b.exponent.toNat, 1)
        else (b.significand, Nat.pow 2 (-b.exponent).toNat)
      let (digits, point) := roundSignificant num den 15
      placeRounded b.negative digits point

/-- Doubles written with their shortest digits, always positional, and with no `.0` after
a whole number. -/
def plainLayout : FloatLayout := ⟨none, none, false, "inf", "NaN"⟩

/-! ## Affinity -/

/-- The value a column of the given affinity stores when `v` is written to it. -/
def Cell.fit : Affinity → Cell → Cell
  | .text, .integer n => .text (showInt n)
  | .text, .real bits => .text (realText bits)
  | .integer, .text s =>
    match readNumeric s with
    | some t => t.toCell
    | none => .text s
  | .integer, .real bits => integralCell bits
  | _, v => v

end Tintbook.Store
