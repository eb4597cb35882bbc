import Tintbook.Text.Utf8
/-!
# Percent-encoding and form bodies

A URL writes a byte it cannot hold as `%` and two hexadecimal digits; a `%` that is not
followed by two such digits stands for itself. A form body is a sequence of pairs
`name=value` separated by `&`, where, besides percent-encoding, `+` stands for a space;
empty pieces are passed over, a piece without `=` is a name with an empty value, and the
bytes of names and values are read as UTF-8 with U+FFFD for what is not valid.

## What this module delivers

- `Url.percentDecode`: the bytes a percent-encoded byte sequence stands for.
- `Url.formPairs`: the name and value pairs of a form body, in order.
-/

set_option autoImplicit false

namespace Tintbook.Url

/-- The value of a hexadecimal digit, in either case. -/
def hexValue? (b : UInt8) : Option Nat :=
  if 48 ≤ b && b ≤ 57 then some (b.toNat - 48)
  else if 65 ≤ b && b ≤ 70 then some (b.toNat - 55)
  else if 97 ≤ b && b ≤ 102 then some (b.toNat - 87)
  else none

/-- The bytes a percent-encoded byte sequence stands for. -/
def percentDecode : List UInt8 → List UInt8
  | [] => []
  | 37 :: h :: l :: after =>
    match hexValue? h, hexValue? l with
    | some x, some y => (x * 16 + y).toUInt8 :: percentDecode after
    | _, _ => 37 :: percentDecode (h :: l :: after)
  | b :: rest => b :: percentDecode rest

/-- A name or value of a form: `+` is a space, then percent-decoding, then UTF-8 with
U+FFFD for what is not valid. -/
def formText (bytes : List UInt8) : String :=
  Utf8.decodeLossy (percentDecode (bytes.map (fun b => if b == 43 then 32 else b)))

/-- Splits bytes at every occurrence of one byte. -/
def splitOn (sep : UInt8) (bytes : List UInt8) : List (List UInt8) :=
  (bytes.foldr (fun b acc =>
    if b == sep then [] :: acc
    else match acc with
      | piece :: more => (b :: piece) :: more
      | [] => [[b]]) [[]])

/-- The name and value pairs of a form body, in order. -/
def formPairs (body : String) : List (String × String) :=
  (splitOn 38 body.toUTF8.toList).filterMap (fun piece =>
    if piece.isEmpty then none
    else
      let name := piece.takeWhile (· != 61)
      let value := (piece.dropWhile (· != 61)).drop 1
      some (formText name, formText value))

end Tintbook.Url
