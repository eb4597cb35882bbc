import Tintbook.Decimal.Shortest
/-!
# Writing a double as text

The digits of a double come from `Decimal.shortest`; how they are laid out is a matter of
style: where the decimal point may stand before the text switches to an exponent, whether a
whole number keeps a `.0`, and how zero and the non-numbers are spelled. A `FloatLayout`
holds these choices, and `FloatLayout.render` writes a double by them.

## What this module delivers

- `FloatLayout`: the choices of one style of writing doubles.
- `FloatLayout.render`: a double written in that style.
-/

set_option autoImplicit false

namespace Tintbook

/-- How doubles are written. With `point` the place of the decimal point after the first
digit counted from the left (so `1234.5` has point 4 and `0.001` has point -2), the digits
are written without an exponent when `lowestPoint < point ≤ highestPoint`; a missing bound
does not limit. -/
structure FloatLayout where
  /-- Positional only above this point. -/
  lowestPoint : Option Int
  /-- Positional only up to this point. -/
  highestPoint : Option Int
  /-- A whole number written without exponent ends in `.0`. -/
  pointZero : Bool
  /-- The text of positive infinity. -/
  infinity : String
  /-- The text of a value that is not a number. -/
  notANumber : String

namespace FloatLayout

/-- `n` zeros. -/
def zeros (n : Nat) : String := String.ofList (List.replicate n '0')

/-- The digits of a positive decimal, laid out with the point at `point`. -/
def place (style : FloatLayout) (ds : String) (point : Int) : String :=
  let len : Int := ds.length
  let positional :=
    (match style.lowestPoint with | some lo => lo < point | none => true) &&
    (match style.highestPoint with | some hi => point ≤ hi | none => true)
  if positional then
    if len ≤ point then
      ds ++ zeros (point - len).toNat ++ (if style.pointZero then ".0" else "")
    else if 0 < point then
      String.ofList (ds.toList.take point.toNat) ++ "." ++ String.ofList (ds.toList.drop point.toNat)
    else "0." ++ zeros (-point).toNat ++ ds
  else
    let mantissa :=
      if ds.length == 1 then ds
      else String.ofList (ds.toList.take 1) ++ "." ++ String.ofList (ds.toList.drop 1)
    let e := point - 1
    mantissa ++ "e" ++ (if e < 0 then "-" else "") ++ String.ofList (Nat.toDigits 10 e.natAbs)

/-- A double written in the given style. -/
def render (style : FloatLayout) (f : Float) : String :=
  match Binary64.ofBits f.toBits with
  | .notANumber => style.notANumber
  | .infinite neg => (if neg then "-" else "") ++ style.infinity
  | .finite b =>
    let d := Decimal.shortest b
    let sign := if d.negative then "-" else ""
    if d.digits = 0 then sign ++ (if style.pointZero then "0.0" else "0")
    else
      let ds := String.ofList (Nat.toDigits 10 d.digits)
      sign ++ place style ds (d.exponent + (ds.length : Int))

end FloatLayout

end Tintbook
