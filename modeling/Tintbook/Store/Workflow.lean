import Tintbook.Store.Access
/-!
# Workflows on formulas

The work the server and the command line do with the store, each as one transaction that
either applies fully or leaves the database as it was:

- creating the schema, and asking whether it exists;
- listing formulas, reading one, and reading one with its lines;
- creating a formula with its lines, the lines stored in the order given;
- changing a formula, where a list of lines that is given replaces the stored one;
- removing a formula with its lines.

## What this module delivers

- `transaction`: work that is undone as a whole when it fails.
- `Database.createSchema`, `Database.hasSchema`.
- `listFormulas`, `getFormula`, `getFormulaDetail`, `loadDetail`.
- `createFormula`, `updateFormula`, `deleteFormula`.
-/

set_option autoImplicit false

namespace Tintbook.Store

/-- Runs work as one transaction: when the work fails, every write it made is undone and the
failure is passed on. -/
def transaction {α : Type} (w : Work α) : Work α := do
  let saved ← get
  tryCatch w (fun e => do set saved; throw e)

/-- Creates the tables where they do not exist yet. -/
def Database.createSchema (db : Database) : Database :=
  match db.tables with
  | some _ => db
  | none => { tables := some {} }

/-- Whether the schema has been created. -/
def Database.hasSchema (db : Database) : Bool := db.tables.isSome

/-- Every formula, in increasing id order. -/
def listFormulas (db : Database) : Except Failure (List Formula) := Record.readAll Formula db

/-- The formula with an id, if any. -/
def getFormula (id : Int) (db : Database) : Except Failure (Option Formula) :=
  Record.readOne Formula (FormulaKey.id id) db

/-- A formula with its lines, each list in increasing id order. -/
def loadDetail (f : Formula) (db : Database) : Except Failure FormulaDetail := do
  let colorants ← Record.readMatching Colorant (LineKey.formulaId f.id) db
  let bases ← Record.readMatching Base (LineKey.formulaId f.id) db
  return ⟨f, colorants, bases⟩

/-- The formula with an id together with its lines, if there is such a formula. -/
def getFormulaDetail (id : Int) (db : Database) : Except Failure (Option FormulaDetail) := do
  match ← getFormula id db with
  | some f => return some (← loadDetail f db)
  | none => return none

/-- Stores colorant lines under a formula, in order. -/
def insertColorants (formulaId : Int) (lines : List ColorantLine) (now : Instant) : Work Unit :=
  lines.forM (fun l => discard (Record.create Colorant (⟨formulaId, l⟩ : ColorantDraft) now))

/-- Stores base lines under a formula, in order. -/
def insertBases (formulaId : Int) (lines : List BaseLine) (now : Instant) : Work Unit :=
  lines.forM (fun l => discard (Record.create Base (⟨formulaId, l⟩ : BaseDraft) now))

/-- Creates a formula with its lines at an instant. -/
def createFormula (nf : NewFormula) (now : Instant) : Work FormulaDetail := transaction do
  let f ← Record.create Formula nf.draft now
  insertColorants f.id nf.colorants now
  insertBases f.id nf.bases now
  liftM (loadDetail f (← get))

/-- Changes a formula at an instant: its given fields, and each list of lines that is given
in place of the stored one. -/
def updateFormula (id : Int) (a : Amendment) (now : Instant) : Work FormulaDetail := transaction do
  let f ← Record.update Formula (FormulaKey.id id) a.fields now
  if let some lines := a.colorants then
    discard (Record.delete Colorant (LineKey.formulaId id))
    insertColorants id lines now
  if let some lines := a.bases then
    discard (Record.delete Base (LineKey.formulaId id))
    insertBases id lines now
  liftM (loadDetail f (← get))

/-- Removes a formula and its lines; whether there was such a formula. -/
def deleteFormula (id : Int) : Work Bool := transaction do
  discard (Record.delete Colorant (LineKey.formulaId id))
  discard (Record.delete Base (LineKey.formulaId id))
  let removed ← Record.delete Formula (FormulaKey.id id)
  return removed > 0

end Tintbook.Store
