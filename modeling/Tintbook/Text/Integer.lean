/-!
# Decimal integers in a fixed range

Ids are written as decimal integers with an optional sign, such as `42`, `+7` or `-0`. The
reader takes the digits from left to right and stops at the first fault it meets: a
character that is no ASCII digit, or a value that has left the range. So `99999999999999999999x`
is too large (the range is left before the `x` is reached), while `1_000` has an invalid digit.

## What this module delivers

- `IntegerError`: why a text is no integer of the range, with its `message`.
- `readInteger`: the integer a text writes, within `[lo, hi]`.
- `readInt64`: the same for the 64-bit signed range.
-/

set_option autoImplicit false

namespace Tintbook

/-- Why a text is no integer of the range. -/
inductive IntegerError where
  /-- The text is empty. -/
  | empty
  /-- A character is not an ASCII digit, or a sign stands alone. -/
  | invalidDigit
  /-- The value is above the range. -/
  | tooLarge
  /-- The value is below the range. -/
  | tooSmall
  deriving DecidableEq, Repr

/-- The sentence that describes an integer fault. -/
def IntegerError.message : IntegerError → String
  | .empty => "cannot parse integer from empty string"
  | .invalidDigit => "invalid digit found in string"
  | .tooLarge => "number too large to fit in target type"
  | .tooSmall => "number too small to fit in target type"

/-- The smallest 64-bit signed integer. -/
def int64Min : Int := -9223372036854775808

/-- The largest 64-bit signed integer. -/
def int64Max : Int := 9223372036854775807

namespace Integer

/-- The value of an ASCII digit. -/
def digitValue? (c : Char) : Option Nat :=
  if '0' ≤ c && c ≤ '9' then some (c.toNat - '0'.toNat) else none

/-- Reads the digits `cs` onto the magnitude `acc`, where `bound` is the largest magnitude
the range allows and `overflow` is the fault for passing it. -/
def accumulate (bound : Nat) (overflow : IntegerError) : Nat → List Char → Except IntegerError Nat
  | acc, [] => .ok acc
  | acc, c :: cs =>
    match digitValue? c with
    | none => .error .invalidDigit
    | some d =>
      let next := acc * 10 + d
      if next > bound then .error overflow else accumulate bound overflow next cs

end Integer

/-- The integer that `s` writes, when it lies within `[lo, hi]` with `lo ≤ 0 ≤ hi`: an
optional sign, then one or more ASCII digits. -/
def readInteger (lo hi : Int) (s : String) : Except IntegerError Int :=
  match s.toList with
  | [] => .error .empty
  | ['+'] | ['-'] => .error .invalidDigit
  | '-' :: ds => (Integer.accumulate lo.natAbs .tooSmall 0 ds).map fun n => -(n : Int)
  | '+' :: ds => (Integer.accumulate hi.toNat .tooLarge 0 ds).map fun n => (n : Int)
  | ds => (Integer.accumulate hi.toNat .tooLarge 0 ds).map fun n => (n : Int)

/-- The 64-bit signed integer that `s` writes. -/
def readInt64 (s : String) : Except IntegerError Int := readInteger int64Min int64Max s

/-- The decimal text of an integer, with a minus sign when it is negative. -/
def showInt (n : Int) : String :=
  if n < 0 then "-" ++ String.ofList (Nat.toDigits 10 n.natAbs)
  else String.ofList (Nat.toDigits 10 n.toNat)

end Tintbook
