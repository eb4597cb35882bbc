/-!
# The shortest decimal that reads back as a double

A finite double stands for the real `m · 2^e`. Every real strictly between the halfway
points to its two neighbouring doubles reads back as it; the halfway points themselves read
back as it exactly when `m` is even, since ties go to the even neighbour. The shortest
decimal of a double is the decimal with the fewest significant digits in that interval, and
of two such decimals the one nearer to the double, the even one on a tie.

The search is done in exact natural-number arithmetic: for 1, 2, … significant digits the
interval is laid on the grid of that many digits, and the first grid that meets the interval
gives the digits.

## What this module delivers

- `Binary64`: a finite double taken apart into sign, significand and binary exponent.
- `Binary64.ofBits`: the parts of a double given by its bits, or its kind of non-number.
- `Decimal.shortest`: the digits and decimal exponent of the shortest decimal of a double.
-/

set_option autoImplicit false

namespace Tintbook

/-- A finite double: `(-1)^negative · significand · 2^exponent`, with `lowerGapHalved` when
the double is the least of its binade, so that the gap below it is half the gap above. -/
structure Binary64 where
  negative : Bool
  significand : Nat
  exponent : Int
  lowerGapHalved : Bool
  deriving Repr

/-- What the bits of a double stand for. -/
inductive FloatKind where
  | finite (b : Binary64)
  | infinite (negative : Bool)
  | notANumber
  deriving Repr

/-- Takes the bits of a double apart. -/
def Binary64.ofBits (bits : UInt64) : FloatKind :=
  let n := bits.toNat
  let negative : Bool := n / Nat.pow 2 63 % 2 == 1
  let biased : Nat := n / Nat.pow 2 52 % Nat.pow 2 11
  let fraction : Nat := n % Nat.pow 2 52
  if biased == 2047 then
    if fraction == 0 then .infinite negative else .notANumber
  else if biased == 0 then
    .finite ⟨negative, fraction, -1074, false⟩
  else
    .finite ⟨negative, fraction + Nat.pow 2 52, (biased : Int) - 1075, fraction == 0 && biased > 1⟩

/-- A decimal `(-1)^negative · digits · 10^exponent`. -/
structure Decimal where
  negative : Bool
  digits : Nat
  exponent : Int
  deriving Repr, DecidableEq

namespace Decimal

/-- The number of decimal digits of a positive natural number (one for zero). -/
def digitCount (n : Nat) : Nat :=
  if h : n < 10 then 1 else digitCount (n / 10) + 1
termination_by n
decreasing_by omega

/-- `⌊log₁₀ (num / den)⌋` for positive `num` and `den`. -/
def floorLog10 (num den : Nat) : Int :=
  if den ≤ num then (digitCount (num / den) : Int) - 1
  else
    let j := digitCount (den / num) - 1
    if den ≤ num * Nat.pow 10 j then -(j : Int) else -((j : Int) + 1)

/-- Drops the trailing zeros of the digits, raising the exponent to match. -/
def normalize (digits : Nat) (exponent : Int) : Nat × Int :=
  if h : digits ≠ 0 ∧ digits % 10 = 0 then normalize (digits / 10) (exponent + 1)
  else (digits, exponent)
termination_by digits
decreasing_by omega

/-- The nearest natural number to `num / den`, the even one on a tie. -/
def roundHalfEven (num den : Nat) : Nat :=
  let q := num / den
  let r := num % den
  if 2 * r < den then q
  else if 2 * r > den then q + 1
  else if q % 2 == 0 then q else q + 1

/-- The digits at the grid `10^p` that lie in the interval of `b`, if any: the one nearest
to the double, the even one on a tie. The interval's ends are `lo4 · 2^(e-2)` and
`hi4 · 2^(e-2)`, included when `closed`. -/
def onGrid (v4 lo4 hi4 : Nat) (s : Int) (closed : Bool) (p : Int) : Option Nat :=
  let twoUp := Nat.pow 2 s.toNat
  let twoDown := Nat.pow 2 (-s).toNat
  let tenUp := Nat.pow 10 p.toNat
  let tenDown := Nat.pow 10 (-p).toNat
  let den := twoDown * tenUp
  let lowNum := lo4 * twoUp * tenDown
  let highNum := hi4 * twoUp * tenDown
  let first :=
    if lowNum % den == 0 then (if closed then lowNum / den else lowNum / den + 1)
    else lowNum / den + 1
  let highQ := highNum / den
  let lastPlusOne :=
    if highNum % den == 0 then (if closed then highQ + 1 else highQ) else highQ + 1
  if first < lastPlusOne then
    let nearest := roundHalfEven (v4 * twoUp * tenDown) den
    some (if nearest < first then first else if nearest ≥ lastPlusOne then lastPlusOne - 1 else nearest)
  else none

/-- Tries grids of `k`, `k + 1`, … significant digits, for `fuel` more grids, where the
double's leading digit has the decimal exponent `top`. -/
def search (v4 lo4 hi4 : Nat) (s : Int) (closed : Bool) (top : Int) : Nat → Nat → Option (Nat × Int)
  | 0, _ => none
  | fuel + 1, k =>
    let p := top - (k : Int) + 1
    match onGrid v4 lo4 hi4 s closed p with
    | some d => some (normalize d p)
    | none => search v4 lo4 hi4 s closed top fuel (k + 1)

/-- The digits and exponent of the shortest decimal that reads back as `b`. -/
def shortest (b : Binary64) : Decimal :=
  if b.significand = 0 then ⟨b.negative, 0, 0⟩
  else
    let s := b.exponent - 2
    let v4 := 4 * b.significand
    let lo4 := if b.lowerGapHalved then v4 - 1 else v4 - 2
    let hi4 := v4 + 2
    let top :=
      if 0 ≤ b.exponent then floorLog10 (b.significand * Nat.pow 2 b.exponent.toNat) 1
      else floorLog10 b.significand (Nat.pow 2 (-b.exponent).toNat)
    let closed := b.significand % 2 == 0
    match search v4 lo4 hi4 s closed top 17 1 with
    | some (d, p) => ⟨b.negative, d, p⟩
    | none => ⟨b.negative, b.significand, 0⟩

end Decimal

end Tintbook
