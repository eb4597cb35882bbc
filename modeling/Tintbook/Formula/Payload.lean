import Tintbook.Formula.Basic
import Tintbook.Json.Shape
import Tintbook.Failure
/-!
# Lines as text

Forms carry the lines of a formula as JSON text in a single field. Colorant lines are
written as a list of objects `{"colorant_name": …, "amount": …}`, base lines as a list of
objects `{"base_name": …, "product_name": …}`, fields in that order and with no blanks.

Reading is more lenient than writing. A colorant is an object with a string
`colorant_name` and, when given, an integer `amount` (0 otherwise); a base is an object with
a string `base_name` and, when given, a string `product_name` (empty otherwise); other
members are passed over, and a record may also be written as a list of its fields in order.
The base lines may also be one base alone, which is read as a list of one.

## What this module delivers

- `Payload.colorantShape`, `Payload.baseShape`: the shapes of a line.
- `Payload.encodeColorants`, `Payload.encodeBases`: lines as text.
- `Payload.decodeColorants`, `Payload.decodeBases`: text as lines.
-/

set_option autoImplicit false

namespace Tintbook.Payload

open Json

/-- A colorant line: a name, and an amount that defaults to zero. -/
def colorantShape : Shape :=
  .record "ColorantEntry" [("colorant_name", .text, none), ("amount", .int64, some (.int 0))]

/-- A base line: a name, and a product that defaults to the empty text. -/
def baseShape : Shape :=
  .record "BaseEntry" [("base_name", .text, none), ("product_name", .text, some (.str ""))]

/-- Base lines: a list of them, or one alone. -/
def basesShape : Shape := .choice "Bases" [.list baseShape, baseShape]

/-- The document of a colorant line. -/
def ColorantLine.toJson (l : ColorantLine) : Json :=
  .obj [("colorant_name", .str l.name), ("amount", .int l.amount)]

/-- The document of a base line. -/
def BaseLine.toJson (l : BaseLine) : Json :=
  .obj [("base_name", .str l.base), ("product_name", .str l.product)]

/-- The text of colorant lines. -/
def encodeColorants (ls : List ColorantLine) : String :=
  compact (.arr (ls.map ColorantLine.toJson))

/-- The text of base lines. -/
def encodeBases (ls : List BaseLine) : String :=
  compact (.arr (ls.map BaseLine.toJson))

/-- A colorant line read against `colorantShape`. -/
def colorantOf : Json → ColorantLine
  | .obj [("colorant_name", .str n), ("amount", .int a)] => ⟨n, a⟩
  | _ => ⟨"", 0⟩

/-- A base line read against `baseShape`. -/
def baseOf : Json → BaseLine
  | .obj [("base_name", .str b), ("product_name", .str p)] => ⟨b, p⟩
  | _ => ⟨"", ""⟩

/-- The colorant lines a text holds. -/
def decodeColorants (text : String) : Except ReadError (List ColorantLine) :=
  match (Shape.list colorantShape).read text with
  | .ok (.arr items) => .ok (items.map colorantOf)
  | .ok _ => .ok []
  | .error r => .error r.error

/-- The base lines a text holds: a list of bases, or one base alone. -/
def decodeBases (text : String) : Except ReadError (List BaseLine) :=
  match basesShape.read text with
  | .ok (.arr items) => .ok (items.map baseOf)
  | .ok one => .ok [baseOf one]
  | .error r => .error r.error

end Tintbook.Payload
