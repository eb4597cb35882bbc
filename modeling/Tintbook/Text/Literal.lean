import Tintbook.Text.Printable
/-!
# Text literals in messages

When a message quotes a text, it writes it between double quotes with escapes, so that any
text can be read off the message: `\0`, `\t`, `\r`, `\n`, `\\` and `\"` for those
characters, `\u` with the hex code point in braces for a character that is not printable
or that would attach to the character before it, and every other character as itself.

## What this module delivers

- `Text.escapeForMessage`: the escape of one character.
- `Text.literal`: a quoted text.
-/

set_option autoImplicit false

namespace Tintbook.Text

/-- The small hex digits of a number, without leading zeros. -/
def hexDigits (n : Nat) : List Char :=
  (Nat.toDigits 16 n)

/-- How a character is written inside a quoted text of a message. -/
def escapeForMessage (c : Char) : List Char :=
  if c.toNat == 0 then ['\\', '0']
  else if c == '\t' then ['\\', 't']
  else if c == '\r' then ['\\', 'r']
  else if c == '\n' then ['\\', 'n']
  else if c == '\\' then ['\\', '\\']
  else if c == '"' then ['\\', '"']
  else if extendsGrapheme c || !isPrintable c then
    ['\\', 'u', '\x7b'] ++ hexDigits c.toNat ++ ['\x7d']
  else [c]

/-- A text between double quotes, escaped for a message. -/
def literal (s : String) : String :=
  String.ofList ('"' :: (s.toList.flatMap escapeForMessage ++ ['"']))

end Tintbook.Text
