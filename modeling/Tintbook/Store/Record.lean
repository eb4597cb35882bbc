import Tintbook.Store.Table
import Tintbook.Formula.Basic
import Tintbook.Failure
/-!
# Records kept in tables

A formula, a colorant line and a base line are each kept as a row of their table. This
module says how: which table holds a kind of record, how a row reads back as a record, what
a new record is made from and which values it writes, what a change of a record writes, and
by which columns records are looked up.

Reading a row checks every column in order: a text column must hold text, an integer
column an integer, and a time column text that names an instant; the first column that
fails gives the fault. A time is written as RFC 3339 text with the offset `+00:00`, which
reads back as the same instant.

## What this module delivers

- `Record`: the class of kinds of record, with `Formula`, `Colorant` and `Base` instances.
- `ColorantDraft`, `BaseDraft`, `ColorantPatch`, `BasePatch`: new lines and changes of
  lines; `Draft` and `Revision` serve for formulas.
- `FormulaKey`, `LineKey`: the lookups of each kind.
- `stampText`: the text a time is stored as.
-/

set_option autoImplicit false

namespace Tintbook.Store

/-! ## Reading columns -/

/-- The text of a column, or the fault of a value of another class. -/
def Row.textAt (r : Row) (i : Nat) (name : String) : Except StoreFault String :=
  match r.cell i with
  | .text s => .ok s
  | v => .error (.columnType i name v.kind)

/-- The integer of a column, or the fault of a value of another class. -/
def Row.integerAt (r : Row) (i : Nat) (name : String) : Except StoreFault Int :=
  match r.cell i with
  | .integer n => .ok n
  | v => .error (.columnType i name v.kind)

/-- The instant a text column names, or the fault of text that names none. -/
def Row.instantAt (r : Row) (i : Nat) (name : String) : Except StoreFault Instant := do
  let s ← r.textAt i name
  match readStoredTime s with
  | .ok t => .ok t
  | .error f => .error (.conversion i .text f)

/-- The text a time is stored as: RFC 3339 with the offset `+00:00`. -/
def stampText (t : Instant) : String := t.rfc3339 false

/-! ## New records, changes and lookups -/

/-- A colorant line about to be stored under a formula. -/
structure ColorantDraft where
  formulaId : Int
  line : ColorantLine
  deriving DecidableEq, Repr

/-- A base line about to be stored under a formula. -/
structure BaseDraft where
  formulaId : Int
  line : BaseLine
  deriving DecidableEq, Repr

/-- A change of a colorant line: a field that is `none` is kept. -/
structure ColorantPatch where
  name : Option String := none
  amount : Option Int := none
  deriving DecidableEq, Repr

/-- A change of a base line: a field that is `none` is kept. -/
structure BasePatch where
  base : Option String := none
  product : Option String := none
  deriving DecidableEq, Repr

/-- How formulas are looked up. -/
inductive FormulaKey where
  | id (n : Int)
  | name (s : String)
  | number (s : String)
  | customer (s : String)
  deriving DecidableEq, Repr

/-- How lines are looked up: by their own id, by their formula, or by their name. -/
inductive LineKey where
  | id (n : Int)
  | formulaId (n : Int)
  | name (s : String)
  deriving DecidableEq, Repr

/-- The rows a formula key concerns. -/
def FormulaKey.lookup : FormulaKey → Lookup
  | .id n => ⟨0, .integer n⟩
  | .name s => ⟨1, .text s⟩
  | .number s => ⟨2, .text s⟩
  | .customer s => ⟨3, .text s⟩

/-- The rows a line key concerns. -/
def LineKey.lookup : LineKey → Lookup
  | .id n => ⟨0, .integer n⟩
  | .formulaId n => ⟨1, .integer n⟩
  | .name s => ⟨2, .text s⟩

/-- The rule that a required field be more than blanks. -/
def required (entity field value : String) : Option Rejection :=
  if Text.isBlankText value then some (.fieldRequired entity field) else none

/-- The rule that a required field, when changed, be more than blanks. -/
def requiredIfSet (entity field : String) : Option String → Option Rejection
  | some v => required entity field v
  | none => none

/-- The changes of the text columns that are given, by column position. -/
def textChanges (fields : List (Nat × Option String)) : List (Nat × Cell) :=
  fields.filterMap (fun (k, v) => v.map (fun s => (k, .text s)))

/-! ## Kinds of record -/

/-- A kind of record kept in a table of the store. -/
class Record (α : Type) where
  /-- The table holding the records. -/
  table : TableName
  /-- The name of the kind in messages. -/
  entity : String
  /-- What a new record is made from. -/
  New : Type
  /-- A change of a record. -/
  Patch : Type
  /-- How records are looked up. -/
  Key : Type
  /-- The rows a key concerns. -/
  lookup : Key → Lookup
  /-- The id of a record. -/
  id : α → Int
  /-- The record a row holds, or why it holds none. -/
  ofRow : Row → Except StoreFault α
  /-- The rule a new record breaks, if any. -/
  check : New → Option Rejection
  /-- The rule a change breaks, if any. -/
  checkPatch : Patch → Option Rejection
  /-- The values of a new record created at an instant, one per column after the id. -/
  cells : New → Instant → List Cell
  /-- The columns a change writes to a record at an instant; none when it writes nothing. -/
  changes : Patch → α → Instant → List (Nat × Cell)

/-- The formula a row holds. -/
def Formula.ofRow (r : Row) : Except StoreFault Formula := do
  return {
    id := ← r.integerAt 0 "id"
    name := ← r.textAt 1 "formula_name"
    number := ← r.textAt 2 "formula_number"
    customer := ← r.textAt 3 "customer_name"
    summary := ← r.textAt 4 "summary"
    notes := ← r.textAt 5 "notes"
    created := ← r.instantAt 6 "created_date"
    modified := ← r.instantAt 7 "last_modified" }

/-- The colorant line a row holds. -/
def Colorant.ofRow (r : Row) : Except StoreFault Colorant := do
  return {
    id := ← r.integerAt 0 "id"
    formulaId := ← r.integerAt 1 "formula_id"
    name := ← r.textAt 2 "colorant_name"
    amount := ← r.integerAt 3 "amount" }

/-- The base line a row holds. -/
def Base.ofRow (r : Row) : Except StoreFault Base := do
  return {
    id := ← r.integerAt 0 "id"
    formulaId := ← r.integerAt 1 "formula_id"
    base := ← r.textAt 2 "base_name"
    product := ← r.textAt 3 "product_name" }

/-- A formula is created with both of its times set to the instant of creation; a change
of a formula always writes its time of last change, which never moves back. -/
instance : Record Formula where
  table := .formulas
  entity := "Formula"
  New := Draft
  Patch := Revision
  Key := FormulaKey
  lookup := FormulaKey.lookup
  id := Formula.id
  ofRow := Formula.ofRow
  check d := required "Formula" "formula_name" d.name
  checkPatch p := requiredIfSet "Formula" "formula_name" p.name
  cells d now :=
    [.text d.name, .text d.number, .text d.customer, .text d.summary, .text d.notes,
      .text (stampText now), .text (stampText now)]
  changes p current now :=
    textChanges [(1, p.name), (2, p.number), (3, p.customer), (4, p.summary), (5, p.notes)] ++
      [(7, .text (stampText (Instant.latest now current.modified)))]

instance : Record Colorant where
  table := .colorants
  entity := "Colorant"
  New := ColorantDraft
  Patch := ColorantPatch
  Key := LineKey
  lookup := LineKey.lookup
  id := Colorant.id
  ofRow := Colorant.ofRow
  check d := required "Colorant" "colorant_name" d.line.name
  checkPatch p := requiredIfSet "Colorant" "colorant_name" p.name
  cells d _ := [.integer d.formulaId, .text d.line.name, .integer d.line.amount]
  changes p _ _ :=
    textChanges [(2, p.name)] ++ (p.amount.map (fun n => (3, Cell.integer n))).toList

instance : Record Base where
  table := .bases
  entity := "Base"
  New := BaseDraft
  Patch := BasePatch
  Key := LineKey
  lookup := LineKey.lookup
  id := Base.id
  ofRow := Base.ofRow
  check d := required "Base" "base_name" d.line.base
  checkPatch p := requiredIfSet "Base" "base_name" p.base
  cells d _ := [.integer d.formulaId, .text d.line.base, .text d.line.product]
  changes p _ _ := textChanges [(2, p.base), (3, p.product)]

end Tintbook.Store
