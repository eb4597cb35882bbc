import Tintbook.Formula.Payload
import Tintbook.Text.Title
/-!
# Submissions and the commands they give

A *submission* is a formula as a person sends it from a form, a JSON body or the command
line: every field optional and untrimmed, the formula id as a number or as text, and the
lines as text (or, from a JSON body, as JSON itself). It turns into a *command*: an update
of the formula with the given id, or the creation of a new formula when no id is given.

The fields are tidied on the way: every text is trimmed and a blank one counts as not
given; the name and the customer are put in title case; the lines are read from their text
and their names trimmed. The first fault found wins, in this order: an id that is no
integer, colorant lines that cannot be read, base lines that cannot be read, and, for a new
formula, a missing name.

## What this module delivers

- `IdField`, `PayloadField`, `Submission`, `Command`.
- `readFormulaId`: an id given as text.
- `Submission.toCommand`: the command a submission gives.
-/

set_option autoImplicit false

namespace Tintbook

/-- A formula id as submitted: a number, or text to be read as one. -/
inductive IdField where
  | number (n : Int)
  | text (s : String)
  deriving DecidableEq, Repr

/-- Lines as submitted: JSON text, or a JSON value given in place. -/
inductive PayloadField where
  | encoded (s : String)
  | inline (v : Json)
  deriving Repr

/-- A formula as submitted. -/
structure Submission where
  formulaId : Option IdField := none
  name : Option String := none
  number : Option String := none
  customer : Option String := none
  summary : Option String := none
  notes : Option String := none
  colorants : Option PayloadField := none
  bases : Option PayloadField := none
  deriving Repr

/-- What a submission asks for. -/
inductive Command where
  | create (f : NewFormula)
  | update (id : Int) (a : Amendment)
  deriving DecidableEq, Repr

/-- The id a text gives: none when it is blank, else its trimmed text read as a 64-bit
integer with an optional sign. -/
def readFormulaId (raw : String) : Except Failure (Option Int) :=
  let t := Text.trimBlank raw
  if t.isEmpty then .ok none
  else match readInt64 t with
    | .ok n => .ok (some n)
    | .error _ => .error (.invalid (.badId t))

/-- The id of an id field. -/
def IdField.resolve : IdField → Except Failure (Option Int)
  | .number n => .ok (some n)
  | .text t => readFormulaId t

namespace PayloadField

/-- The text of lines: none when given as blank text; a value given in place is written
compactly, with its objects' keys in order. -/
def text : PayloadField → Option String
  | .encoded s => if Text.isBlankText s then none else some s
  | .inline v => some (Json.compact v)

/-- The colorant lines of a field, their names trimmed. -/
def colorants (f : PayloadField) : Except Failure (Option (List ColorantLine)) :=
  match f.text with
  | none => .ok none
  | some t =>
    match Payload.decodeColorants t with
    | .ok ls => .ok (some (ls.map fun l => { l with name := Text.trimBlank l.name }))
    | .error e => .error (.malformedPayload e)

/-- The base lines of a field, their names and products trimmed. -/
def bases (f : PayloadField) : Except Failure (Option (List BaseLine)) :=
  match f.text with
  | none => .ok none
  | some t =>
    match Payload.decodeBases t with
    | .ok ls => .ok (some (ls.map fun l => ⟨Text.trimBlank l.base, Text.trimBlank l.product⟩))
    | .error e => .error (.malformedPayload e)

end PayloadField

/-- The trimmed text of an optional field; blank counts as not given. -/
def tidy (field : Option String) : Option String := field.bind Text.trimmed

/-- The trimmed text of an optional field in title case; blank counts as not given. -/
def tidyTitle (field : Option String) : Option String := (tidy field).map Text.titleCase

/-- The command a submission gives: an update when an id is given, else a creation, which
needs a name. -/
def Submission.toCommand (s : Submission) : Except Failure Command := do
  let id ← match s.formulaId with
    | some f => f.resolve
    | none => pure none
  let name := tidyTitle s.name
  let customer := tidyTitle s.customer
  let number := tidy s.number
  let summary := tidy s.summary
  let notes := tidy s.notes
  let colorants ← match s.colorants with
    | some f => f.colorants
    | none => pure none
  let bases ← match s.bases with
    | some f => f.bases
    | none => pure none
  match id with
  | some id =>
    return .update id ⟨⟨name, number, customer, summary, notes⟩, colorants, bases⟩
  | none =>
    match name with
    | none => throw (.invalid .nameRequired)
    | some name =>
      return .create ⟨⟨name, number.getD "", customer.getD "", summary.getD "", notes.getD ""⟩,
        colorants.getD [], bases.getD []⟩

end Tintbook
