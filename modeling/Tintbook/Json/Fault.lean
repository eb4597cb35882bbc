import Tintbook.Json.Writer
import Tintbook.Text.Literal
/-!
# Why a JSON text was refused

A text can be refused for its form (a missing comma, an unfinished string) or for its
content (a string where a number was wanted, a field given twice). Faults of form carry the
place where they were found. A fault of content found deep in a value gets its place when
the enclosing record or list is closed, so it points just past that record or list; a fault
of content that no record encloses has no place.

## What this module delivers

- `FormFault`, `Unexpected`, `DataFault`: the kinds of fault.
- `ReadError`: a fault with its line and column, and `ReadError.message`.
- `ReadError.Category`: form at the end of the text, other form, or content.
-/

set_option autoImplicit false

namespace Tintbook.Json

/-- A fault of form. -/
inductive FormFault where
  | eofValue | eofList | eofObject | eofString
  | expectedColon | expectedListCommaOrEnd | expectedObjectCommaOrEnd
  | expectedValue | expectedIdent
  | invalidEscape | controlCharacter | invalidNumber | numberOutOfRange
  | invalidUnicode | loneSurrogate | unexpectedEndOfHexEscape
  | keyMustBeString | trailingComma | trailingCharacters | recursionLimit
  deriving DecidableEq, Repr

/-- The sentence for a fault of form. -/
def FormFault.message : FormFault → String
  | .eofValue => "EOF while parsing a value"
  | .eofList => "EOF while parsing a list"
  | .eofObject => "EOF while parsing an object"
  | .eofString => "EOF while parsing a string"
  | .expectedColon => "expected `:`"
  | .expectedListCommaOrEnd => "expected `,` or `]`"
  | .expectedObjectCommaOrEnd => "expected `,` or `\x7d`"
  | .expectedValue => "expected value"
  | .expectedIdent => "expected ident"
  | .invalidEscape => "invalid escape"
  | .controlCharacter => "control character (\\u0000-\\u001F) found while parsing a string"
  | .invalidNumber => "invalid number"
  | .numberOutOfRange => "number out of range"
  | .invalidUnicode => "invalid unicode code point"
  | .loneSurrogate => "lone leading surrogate in hex escape"
  | .unexpectedEndOfHexEscape => "unexpected end of hex escape"
  | .keyMustBeString => "key must be a string"
  | .trailingComma => "trailing comma"
  | .trailingCharacters => "trailing characters"
  | .recursionLimit => "recursion limit exceeded"

/-- Whether a fault of form is that the text ended too early. -/
def FormFault.atEnd : FormFault → Bool
  | .eofValue | .eofList | .eofObject | .eofString => true
  | _ => false

/-- What was found where something else was wanted. -/
inductive Unexpected where
  | null
  | bool (b : Bool)
  | unsigned (n : Nat)
  | signed (n : Int)
  | float (bits : UInt64)
  | str (s : String)
  | seq
  | map
  deriving Repr

/-- The words for what was found. -/
def Unexpected.describe : Unexpected → String
  | .null => "null"
  | .bool b => "boolean `" ++ (if b then "true" else "false") ++ "`"
  | .unsigned n => "integer `" ++ showInt n ++ "`"
  | .signed n => "integer `" ++ showInt n ++ "`"
  | .float bits => "floating point `" ++ floatLayout.render (Float.ofBits bits) ++ "`"
  | .str s => "string " ++ Text.literal s
  | .seq => "sequence"
  | .map => "map"

/-- A fault of content. -/
inductive DataFault where
  | invalidType (found : Unexpected) (expected : String)
  | invalidValue (found : Unexpected) (expected : String)
  | invalidLength (n : Nat) (expected : String)
  | missingField (name : String)
  | duplicateField (name : String)
  /-- No alternative of the named choice took the value. -/
  | noAlternative (choice : String)
  deriving Repr

/-- The sentence for a fault of content. -/
def DataFault.message : DataFault → String
  | .invalidType u e => "invalid type: " ++ u.describe ++ ", expected " ++ e
  | .invalidValue u e => "invalid value: " ++ u.describe ++ ", expected " ++ e
  | .invalidLength n e => "invalid length " ++ showInt n ++ ", expected " ++ e
  | .missingField n => "missing field `" ++ n ++ "`"
  | .duplicateField n => "duplicate field `" ++ n ++ "`"
  | .noAlternative c => "data did not match any variant of untagged enum " ++ c

/-- A fault of form or of content. -/
inductive Fault where
  | form (f : FormFault)
  | data (f : DataFault)
  deriving Repr

/-- The sentence of a fault, without its place. -/
def Fault.text : Fault → String
  | .form f => f.message
  | .data f => f.message

/-- A place in a text: lines count from 1, columns count bytes from the line's start, so
column `c` is just past the `c`-th byte of the line. -/
structure Position where
  line : Nat
  column : Nat
  deriving DecidableEq, Repr

/-- A refused text: the fault, and where it was found when that is known. -/
structure ReadError where
  fault : Fault
  place : Option Position
  deriving Repr

/-- The three kinds of refusal that callers tell apart. -/
inductive ReadError.Category where
  /-- The content did not fit. -/
  | data
  /-- The text ended too early. -/
  | endOfText
  /-- The text is malformed. -/
  | form
  deriving DecidableEq, Repr

namespace ReadError

/-- The kind of a refusal. -/
def category (e : ReadError) : Category :=
  match e.fault with
  | .data _ => .data
  | .form f => if f.atEnd then .endOfText else .form

/-- The sentence of a refusal, with its place when known. -/
def message (e : ReadError) : String :=
  match e.place with
  | some p =>
    e.fault.text ++ " at line " ++ showInt p.line ++ " column " ++ showInt p.column
  | none => e.fault.text

end ReadError

end Tintbook.Json
