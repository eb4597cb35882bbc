import Tintbook.Json.Value
import Tintbook.Decimal.Layout
import Tintbook.Text.Integer
/-!
# Writing JSON documents

Documents are written either compactly, with no blank anywhere, or laid out with two spaces
of indent per level and a blank after each colon. Members are written in the order the
document holds them. In a string, the quote and the backslash are escaped with a backslash,
the controls backspace, form feed, line feed, carriage return and tab by their short escapes,
the other controls below U+0020 as `\u00xx` with small hex digits, and every other character
stands for itself. Doubles are written with their shortest digits, positionally when the
decimal point stands between -5 (exclusive) and 16, and a whole number keeps a `.0`.

## What this module delivers

- `Json.quote`: a string literal.
- `Json.floatLayout`: how doubles are written.
- `Json.compact`: the compact text of a document.
- `Json.pretty`: the indented text of a document.
-/

set_option autoImplicit false

namespace Tintbook.Json

/-- Small hex digits of a number below 16. -/
def hexDigit (n : Nat) : Char :=
  if n < 10 then Char.ofNat (48 + n) else Char.ofNat (87 + n)

/-- The text that stands for a character inside a string literal. -/
def escapeChar (c : Char) : List Char :=
  if c == '"' then ['\\', '"']
  else if c == '\\' then ['\\', '\\']
  else if c == '\n' then ['\\', 'n']
  else if c == '\r' then ['\\', 'r']
  else if c == '\t' then ['\\', 't']
  else if c.toNat == 8 then ['\\', 'b']
  else if c.toNat == 12 then ['\\', 'f']
  else if c.toNat < 0x20 then ['\\', 'u', '0', '0', hexDigit (c.toNat / 16), hexDigit (c.toNat % 16)]
  else [c]

/-- A string literal: the text between quotes, escaped. -/
def quote (s : String) : String :=
  String.ofList ('"' :: (s.toList.flatMap escapeChar ++ ['"']))

/-- Doubles in documents: shortest digits, positional for points from -4 to 16, `.0` kept. -/
def floatLayout : FloatLayout :=
  { lowestPoint := some (-5), highestPoint := some 16, pointZero := true,
    infinity := "inf", notANumber := "NaN" }

/-- The text of a number or other leaf. -/
def leaf : Json → String
  | .null => "null"
  | .bool true => "true"
  | .bool false => "false"
  | .int n => showInt n
  | .float bits => floatLayout.render (Float.ofBits bits)
  | .str s => quote s
  | .arr _ => "[]"
  | .obj _ => "\x7b\x7d"

mutual
/-- The compact text of a document. -/
def compact : Json → String
  | .arr xs => "[" ++ compactItems xs ++ "]"
  | .obj ms => "\x7b" ++ compactMembers ms ++ "\x7d"
  | j => leaf j

/-- The compact text of array items, comma-separated. -/
def compactItems : List Json → String
  | [] => ""
  | [x] => compact x
  | x :: xs => compact x ++ "," ++ compactItems xs

/-- The compact text of object members, comma-separated. -/
def compactMembers : List (String × Json) → String
  | [] => ""
  | [(k, v)] => quote k ++ ":" ++ compact v
  | (k, v) :: ms => quote k ++ ":" ++ compact v ++ "," ++ compactMembers ms
end

/-- Two spaces for each level of indent. -/
def indent (level : Nat) : String := String.ofList (List.replicate (2 * level) ' ')

mutual
/-- The indented text of a document whose first line stands at `level`. -/
def prettyAt (level : Nat) : Json → String
  | .arr [] => "[]"
  | .arr xs => "[\n" ++ prettyItems (level + 1) xs ++ "\n" ++ indent level ++ "]"
  | .obj [] => "\x7b\x7d"
  | .obj ms => "\x7b\n" ++ prettyMembers (level + 1) ms ++ "\n" ++ indent level ++ "\x7d"
  | j => leaf j

/-- Indented array items, one to a line. -/
def prettyItems (level : Nat) : List Json → String
  | [] => ""
  | [x] => indent level ++ prettyAt level x
  | x :: xs => indent level ++ prettyAt level x ++ ",\n" ++ prettyItems level xs

/-- Indented object members, one to a line. -/
def prettyMembers (level : Nat) : List (String × Json) → String
  | [] => ""
  | [(k, v)] => indent level ++ quote k ++ ": " ++ prettyAt level v
  | (k, v) :: ms => indent level ++ quote k ++ ": " ++ prettyAt level v ++ ",\n" ++ prettyMembers level ms
end

/-- The indented text of a document. -/
def pretty (j : Json) : String := prettyAt 0 j

end Tintbook.Json
