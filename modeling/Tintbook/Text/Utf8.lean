/-!
# Reading UTF-8 bytes

Bytes that arrive percent-encoded in a URL or a form need not be valid UTF-8. They are read
one character at a time: a lead byte says how many continuation bytes follow and which
range the first of them must lie in, so that overlong forms, surrogates and values beyond
U+10FFFF are refused. A sequence that breaks off is *invalid* together with the bytes read
so far; the byte that broke it starts the next sequence.

Strict reading refuses any invalid sequence; lossy reading writes U+FFFD for each one.

## What this module delivers

- `Utf8.step`: the next character of a byte sequence, or the length of an invalid prefix.
- `Utf8.decode?`: the text of valid UTF-8 bytes.
- `Utf8.decodeLossy`: the text of any bytes, with U+FFFD for each invalid sequence.
-/

set_option autoImplicit false

namespace Tintbook.Utf8

/-- Reads `k` continuation bytes into the code point `acc`, the first of them in
`[lo, hi]` and the others in `[0x80, 0xBF]`; `taken` bytes are read so far. On failure,
the number of bytes read before the one that broke the sequence. -/
def continuation : List UInt8 → Nat → UInt8 → UInt8 → Nat → Nat → Except Nat (Nat × List UInt8)
  | rest, 0, _, _, acc, _ => .ok (acc, rest)
  | [], _ + 1, _, _, _, taken => .error taken
  | b :: rest, k + 1, lo, hi, acc, taken =>
    if lo ≤ b && b ≤ hi then continuation rest k 0x80 0xBF (acc * 64 + b.toNat % 64) (taken + 1)
    else .error taken

/-- The number of continuation bytes after a lead byte, the range of the first of them, and
the bits the lead byte gives; `none` for a byte that starts no sequence. -/
def lead (b : UInt8) : Option (Nat × UInt8 × UInt8 × Nat) :=
  if 0xC2 ≤ b && b ≤ 0xDF then some (1, 0x80, 0xBF, b.toNat % 32)
  else if b == 0xE0 then some (2, 0xA0, 0xBF, 0)
  else if b == 0xED then some (2, 0x80, 0x9F, 13)
  else if 0xE1 ≤ b && b ≤ 0xEF then some (2, 0x80, 0xBF, b.toNat % 16)
  else if b == 0xF0 then some (3, 0x90, 0xBF, 0)
  else if 0xF1 ≤ b && b ≤ 0xF3 then some (3, 0x80, 0xBF, b.toNat % 8)
  else if b == 0xF4 then some (3, 0x80, 0x8F, 4)
  else none

/-- The next character and the bytes after it, or the length of the invalid sequence that
starts the bytes; `none` at the end. -/
def step : List UInt8 → Option (Except Nat (Char × List UInt8))
  | [] => none
  | b :: rest =>
    if b < 0x80 then some (.ok (Char.ofNat b.toNat, rest))
    else
      match lead b with
      | none => some (.error 1)
      | some (k, lo, hi, bits) =>
        match continuation rest k lo hi bits 1 with
        | .ok (cp, after) => some (.ok (Char.ofNat cp, after))
        | .error n => some (.error n)

/-- Reads characters for at most `fuel` steps; each step reads at least one byte. -/
def decodeWith (lossy : Bool) : Nat → List UInt8 → Option (List Char)
  | 0, _ => some []
  | fuel + 1, bytes =>
    match step bytes with
    | none => some []
    | some (.ok (c, rest)) => (decodeWith lossy fuel rest).map (c :: ·)
    | some (.error n) =>
      if lossy then (decodeWith lossy fuel (bytes.drop n)).map ('�' :: ·) else none

/-- The text of valid UTF-8 bytes, or `none` when they are not valid. -/
def decode? (bytes : List UInt8) : Option String :=
  (decodeWith false bytes.length bytes).map String.ofList

/-- The text of any bytes, with U+FFFD in place of each invalid sequence. -/
def decodeLossy (bytes : List UInt8) : String :=
  String.ofList ((decodeWith true bytes.length bytes).getD [])

end Tintbook.Utf8
