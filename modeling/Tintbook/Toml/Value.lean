import Tintbook.Text.Integer
/-!
# TOML values and faults

The values of a TOML document, each with the span of text it was written in, and the faults
a document can have.

A table is kept as its entries in the order they were made, each entry's key with the text
it was written as and its span. A table made on the way to a deeper key, by a header
`[a.b]` or a dotted key `a.b = 1`, is *implicit*; one made by dotted keys is *dotted*. An
array of tables collects the tables of its `[[name]]` headers.

Places in the text are byte offsets of its UTF-8 encoding. A fault is reported at a place in
the text: its line and column (columns counted in characters from 1), the line itself, and a
mark under the span, one `^` a byte, at least one and never past the end of the line. A fault at the very end of a text that ends with a line end is
reported just past the end of the last line. A fault found only once the whole document has
been read has no place.

## What this module delivers

- `Span`, `TomlKey`, `Toml`: keys and values with their spans.
- `TomlFault`: the faults of a document's structure, with their `message`.
- `TomlError`, with `TomlError.render`: a fault at a place and its report.
-/

set_option autoImplicit false

namespace Tintbook

/-- A span of text: from byte `start` up to, not including, byte `stop`. -/
structure Span where
  start : Nat
  stop : Nat
  deriving DecidableEq, Repr

/-- A key: its name, the text it was written as, and where. -/
structure TomlKey where
  name : String
  raw : String
  span : Span
  deriving DecidableEq, Repr

/-- A TOML value. Tables and arrays of tables made from headers have a span only once they
were written out; tables made on the way to a deeper key have none. -/
inductive Toml where
  | str (s : String) (span : Span)
  | int (n : Int) (span : Span)
  | float (f : Float) (span : Span)
  | bool (b : Bool) (span : Span)
  | datetime (text : String) (span : Span)
  | array (items : List Toml) (span : Span)
  /-- A table written in braces. -/
  | inline (entries : List (TomlKey × Toml)) (implicit dotted : Bool) (span : Option Span)
  /-- A table of headers or dotted keys. -/
  | table (entries : List (TomlKey × Toml)) (implicit dotted : Bool) (span : Option Span)
  /-- An array of tables. -/
  | tables (items : List Toml) (span : Option Span)
  deriving Inhabited

namespace Toml

/-- The span of a value, when it has one. -/
def span? : Toml → Option Span
  | .str _ s | .int _ s | .float _ s | .bool _ s | .datetime _ s | .array _ s => some s
  | .inline _ _ _ s | .table _ _ _ s | .tables _ s => s

/-- The name of the kind of a value written after a key. -/
def typeName : Toml → String
  | .str .. => "string"
  | .int .. => "integer"
  | .float .. => "float"
  | .bool .. => "boolean"
  | .datetime .. => "datetime"
  | .array .. => "array"
  | .inline .. => "inline table"
  | .table .. => "table"
  | .tables .. => "array of tables"

end Toml

/-- A fault of a document's structure. -/
inductive TomlFault where
  /-- A key defined twice; the table it is in, when it is named. -/
  | duplicateKey (key : String) (table : Option (List String))
  /-- A dotted key that goes through a value that is no table. -/
  | extendWrongType (key : List String) (actual : String)
  /-- A date or time field out of its range, or a code point that is no character. -/
  | outOfRange
  /-- A key of too many parts. -/
  | recursionLimit
  deriving DecidableEq, Repr

/-- The sentence for a fault of a document's structure. -/
def TomlFault.message : TomlFault → String
  | .duplicateKey k none => "duplicate key \x60" ++ k ++ "\x60"
  | .duplicateKey k (some []) => "duplicate key \x60" ++ k ++ "\x60 in document root"
  | .duplicateKey k (some p) =>
    "duplicate key \x60" ++ k ++ "\x60 in table \x60" ++ ".".intercalate p ++ "\x60"
  | .extendWrongType ks a =>
    "dotted key \x60" ++ ".".intercalate ks ++ "\x60 attempted to extend non-table type (" ++ a ++ ")"
  | .outOfRange => "value is out of range"
  | .recursionLimit => "recursion limit exceeded"

/-- A fault of a TOML document: a message, and the span it concerns when known. -/
structure TomlError where
  span : Option Span
  message : String
  deriving Repr

namespace TomlError

/-- The line and column (both from 0) a byte offset is reported at. The column is the number
of characters on the line before the offset when the byte at the offset ends a character, and
the number of bytes before it otherwise; an offset at the end of the text counts as one past
the last byte. -/
def place (bytes : List UInt8) (index : Nat) : Nat × Nat :=
  if bytes.isEmpty then (0, index)
  else
    let safe := min index (bytes.length - 1)
    let offset := index - safe
    let before := bytes.take safe
    let lineStart := before.length - (before.reverse.takeWhile (· != 10)).length
    let upTo := (bytes.take (safe + 1)).drop lineStart
    let column := match String.fromUTF8? (ByteArray.mk upTo.toArray) with
      | some s => s.length - 1
      | none => safe - lineStart
    ((bytes.take lineStart).count 10, column + offset)

/-- The report of a fault: the line and column of its span, the line itself with the span
underlined (at least one mark, at most to the line's end), then the message. -/
def render (e : TomlError) (source : String) : String :=
  match e.span with
  | none => e.message ++ "\n"
  | some sp =>
    let (line, column) := place source.toUTF8.toList sp.start
    let content := (source.splitOn "\n").getD line ""
    let width := min (sp.stop - sp.start) (content.utf8ByteSize - column)
    let lineNum := showInt (line + 1)
    let gutter := String.ofList (List.replicate (lineNum.length + 1) ' ')
    "TOML parse error at line " ++ lineNum ++ ", column " ++ showInt (column + 1) ++ "\n" ++
      gutter ++ "|\n" ++
      lineNum ++ " | " ++ content ++ "\n" ++
      gutter ++ "|" ++ String.ofList (List.replicate (column + 1) ' ') ++
      String.ofList (List.replicate (max 1 width) '^') ++ "\n" ++
      e.message ++ "\n"

end TomlError

end Tintbook
