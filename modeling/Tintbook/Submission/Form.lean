import Tintbook.Submission.Basic
/-!
# Submissions as forms

An HTML form sends a submission as name and value pairs, every value text: the id as text
to be read, the fields as they were typed, and the lines as JSON text. A pair whose name is
no field of a submission is passed over; a field named twice is refused.

## What this module delivers

- `FormRefusal`: why pairs give no submission, with its `message`.
- `Submission.ofPairs`: the submission form pairs give.
-/

set_option autoImplicit false

namespace Tintbook

/-- Why form pairs give no submission: a field was named twice. -/
inductive FormRefusal where
  | duplicateField (name : String)
  deriving DecidableEq, Repr

/-- The sentence for a refusal of form pairs. -/
def FormRefusal.message : FormRefusal → String
  | .duplicateField n => "duplicate field \x60" ++ n ++ "\x60"

/-- The fields of a submission, in order. -/
def Submission.fieldNames : List String :=
  ["formula_id", "formula_name", "formula_number", "customer_name", "summary", "notes",
    "colorants", "bases"]

/-- A submission with one field set from its text. -/
def Submission.setField (s : Submission) (name value : String) : Submission :=
  match name with
  | "formula_id" => { s with formulaId := some (.text value) }
  | "formula_name" => { s with name := some value }
  | "formula_number" => { s with number := some value }
  | "customer_name" => { s with customer := some value }
  | "summary" => { s with summary := some value }
  | "notes" => { s with notes := some value }
  | "colorants" => { s with colorants := some (.encoded value) }
  | "bases" => { s with bases := some (.encoded value) }
  | _ => s

/-- Reads pairs in order into a submission, given the fields already seen. -/
def Submission.readPairs (s : Submission) (seen : List String) :
    List (String × String) → Except FormRefusal Submission
  | [] => .ok s
  | (n, v) :: rest =>
    if Submission.fieldNames.contains n then
      if seen.contains n then .error (.duplicateField n)
      else (s.setField n v).readPairs (n :: seen) rest
    else s.readPairs seen rest

/-- The submission form pairs give. -/
def Submission.ofPairs (pairs : List (String × String)) : Except FormRefusal Submission :=
  ({} : Submission).readPairs [] pairs

end Tintbook
