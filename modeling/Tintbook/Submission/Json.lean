import Tintbook.Submission.Basic
/-!
# Submissions as JSON

A submission sent as JSON is an object with the optional members `formula_id` (a number or
a string), `formula_name`, `formula_number`, `customer_name`, `summary`, `notes` (strings)
and `colorants`, `bases` (a string of JSON text, or any JSON value in place); `null` counts
as not given and other members are passed over. As for every record, the members may also
be given as a list in that order.

## What this module delivers

- `Submission.shape`: the shape a JSON submission is read against.
- `Submission.ofJson`: the submission a value of that shape gives.
- `Submission.readJson`: the submission a JSON text gives, or why it gives none.
-/

set_option autoImplicit false

namespace Tintbook

open Json

/-- A formula id: an integer, or a string. -/
def idShape : Shape := .choice "IdField" [.int64, .text]

/-- Lines: a string of JSON text, or any value in place. -/
def payloadShape : Shape := .choice "PayloadField" [.text, .anything]

/-- The shape of a JSON submission. -/
def Submission.shape : Shape :=
  .record "FormulaSubmission" [
    ("formula_id", .optional idShape, some .null),
    ("formula_name", .optional .text, some .null),
    ("formula_number", .optional .text, some .null),
    ("customer_name", .optional .text, some .null),
    ("summary", .optional .text, some .null),
    ("notes", .optional .text, some .null),
    ("colorants", .optional payloadShape, some .null),
    ("bases", .optional payloadShape, some .null)]

/-- An optional text member of a value read against `Submission.shape`. -/
def textMember (members : List (String × Json)) (k : String) : Option String :=
  match field? members k with
  | some (.str s) => some s
  | _ => none

/-- An optional lines member of a value read against `Submission.shape`. -/
def payloadMember (members : List (String × Json)) (k : String) : Option PayloadField :=
  match field? members k with
  | some .null => none
  | some (.str s) => some (.encoded s)
  | some v => some (.inline v)
  | none => none

/-- The submission a value read against `Submission.shape` gives. -/
def Submission.ofJson : Json → Submission
  | .obj ms =>
    { formulaId := match field? ms "formula_id" with
        | some (.int n) => some (.number n)
        | some (.str s) => some (.text s)
        | _ => none
      name := textMember ms "formula_name"
      number := textMember ms "formula_number"
      customer := textMember ms "customer_name"
      summary := textMember ms "summary"
      notes := textMember ms "notes"
      colorants := payloadMember ms "colorants"
      bases := payloadMember ms "bases" }
  | _ => {}

/-- The submission a JSON text gives, or why it gives none. -/
def Submission.readJson (text : String) : Except Refusal Submission :=
  (Submission.shape.read text).map Submission.ofJson

end Tintbook
