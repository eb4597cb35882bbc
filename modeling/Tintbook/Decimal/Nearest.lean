import Tintbook.Decimal.Shortest
/-!
# The nearest double to a decimal

A decimal `digits · 10^exponent` is read as the double nearest to it, the one with an even
significand on a tie. Values beyond the largest double become infinity, and values below
the least subnormal round to zero or to it.

## What this module delivers

- `Decimal.nearestBits`: the bits of the nearest double to a non-negative decimal.
- `Decimal.toFloat`: the nearest double to a signed decimal.
- `Decimal.ofNat`: the nearest double to a natural number.
-/

set_option autoImplicit false

namespace Tintbook.Decimal

/-- The significand `m` and binary exponent `q` of the nearest double to `num / den`, with
`2^52 ≤ m < 2^53` for normal values; the exponent never goes below that of the subnormals. -/
def nearestParts (num den : Nat) : Nat × Int :=
  let q0 : Int := (num.log2 : Int) - (den.log2 : Int) - 52
  -- the quotient `num / (den · 2^q)` as a fraction
  let quot (q : Int) : Nat × Nat := (num * Nat.pow 2 (-q).toNat, den * Nat.pow 2 q.toNat)
  let q1 :=
    let (a, b) := quot q0
    if a / b ≥ Nat.pow 2 53 then q0 + 1 else if a / b < Nat.pow 2 52 then q0 - 1 else q0
  let q2 := if q1 < -1074 then -1074 else q1
  let (a, b) := quot q2
  let m := roundHalfEven a b
  if m == Nat.pow 2 53 then (Nat.pow 2 52, q2 + 1) else (m, q2)

/-- The bits of the nearest double to the non-negative value `num / den`. -/
def ratioBits (num den : Nat) : UInt64 :=
  if num = 0 then 0
  else
    let (m, q) := nearestParts num den
    if q > 971 then 0x7FF0000000000000
    else if m < Nat.pow 2 52 then m.toUInt64
    else ((q + 1075).toNat * Nat.pow 2 52 + (m - Nat.pow 2 52)).toUInt64

/-- The bits of the nearest double to `digits · 10^exponent`. A value of 10^310 or more is
beyond every double and reads as infinity; a value below 10^-330 is below half the least
subnormal and reads as zero; so no power of ten beyond these is ever formed. -/
def nearestBits (digits : Nat) (exponent : Int) : UInt64 :=
  let top := exponent + (Decimal.digitCount digits : Int)
  if digits = 0 then 0
  else if top > 310 then 0x7FF0000000000000
  else if top < -330 then 0
  else if 0 ≤ exponent then ratioBits (digits * Nat.pow 10 exponent.toNat) 1
  else ratioBits digits (Nat.pow 10 (-exponent).toNat)

/-- The nearest double to a decimal, with its sign. -/
def toFloat (d : Decimal) : Float :=
  let f := Float.ofBits (nearestBits d.digits d.exponent)
  if d.negative then -f else f

/-- The nearest double to a natural number. -/
def ofNat (n : Nat) : Float := Float.ofBits (nearestBits n 0)

/-- The value of a run of decimal digits. -/
def digitsValue (cs : List Char) : Nat := cs.foldl (fun acc c => acc * 10 + (c.toNat - 48)) 0

/-- The bits of the double a decimal text names: an optional sign, then `inf`, `infinity`
or `nan` in any case, or digits with an optional point and fraction (at least one digit in
all) and an optional exponent `e` or `E` with an optional sign and at least one digit. The
value is the nearest double; no blanks are allowed. -/
def parseDouble? (s : String) : Option UInt64 :=
  let cs := s.toList
  let (negative, body) := match cs with
    | '-' :: rest => (true, rest)
    | '+' :: rest => (false, rest)
    | rest => (false, rest)
  let signBit : UInt64 := if negative then 0x8000000000000000 else 0
  let word := String.ofList (body.map Char.toLower)
  if word == "inf" || word == "infinity" then some (0x7FF0000000000000 ||| signBit)
  else if word == "nan" then some 0x7FF8000000000000
  else
    let whole := body.takeWhile Char.isDigit
    let afterWhole := body.drop whole.length
    let (fraction, afterFraction) := match afterWhole with
      | '.' :: rest => (rest.takeWhile Char.isDigit, rest.drop (rest.takeWhile Char.isDigit).length)
      | rest => ([], rest)
    let exponent : Option Int := match afterFraction with
      | [] => some 0
      | e :: rest =>
        if e == 'e' || e == 'E' then
          let (eNeg, ds) := match rest with
            | '-' :: more => (true, more)
            | '+' :: more => (false, more)
            | more => (false, more)
          if !ds.isEmpty && ds.all Char.isDigit then
            some (if eNeg then -(digitsValue ds : Int) else digitsValue ds)
          else none
        else none
    match exponent with
    | none => none
    | some e =>
      if whole.isEmpty && fraction.isEmpty then none
      else
        let digits := digitsValue (whole ++ fraction)
        some (nearestBits digits (e - fraction.length) ||| signBit)

end Tintbook.Decimal
