import Tintbook.Store.Record
/-!
# Reading and writing records of any kind

Five operations serve every kind of record alike: reading all records, reading those a key
concerns, reading the first of them, creating a record, changing the first record a key
concerns, and removing all records a key concerns. Reads list records in increasing id
order and fail on the first row that does not read back. Writes run as `Work` inside a
transaction: each statement applies whole or not at all, but a write that has been made
stays when a later step of the same work fails; only the transaction undoes it.

Creating checks the new record's rules before anything else, so a record that breaks one is
refused even without a schema; a constraint the engine refuses is reported as a rejection
of the record, and any other refusal of the insert as a fault of the store. Creating and changing read the record back after writing it, so a record
that does not read back fails the work with its write made. Changing checks the change's
rules, then finds the record, and writes nothing at all when the change names no column.

## What this module delivers

- `Work`: steps on the database that may fail after some of their writes.
- `Record.readAll`, `Record.readMatching`, `Record.readOne`: the reads.
- `Record.create`, `Record.update`, `Record.delete`: the writes.
-/

set_option autoImplicit false

namespace Tintbook.Store

/-- A step of work on the database inside a transaction. It may fail, and a failure keeps
the writes made before it. -/
abbrev Work := ExceptT Failure (StateM Database)

namespace Record

variable (α : Type) [Record α]

/-- The tables of a database, for a statement on the table of `α`. -/
def tablesOf (db : Database) : Except Failure Tables :=
  (db.schema (Record.table α)).mapError .storage

/-- The stored rows of `α`, in increasing id order. -/
def rowsOf (db : Database) : Except Failure (List Row) := do
  return ((← tablesOf α db).get (Record.table α)).rows

/-- Reads a row as a record of `α`. -/
def decode (r : Row) : Except Failure α := (Record.ofRow r).mapError .storage

/-- Every record of `α`, in increasing id order. -/
def readAll (db : Database) : Except Failure (List α) := do
  (← rowsOf α db).mapM (decode α)

/-- The records of `α` that a key concerns, in increasing id order. -/
def readMatching (k : Record.Key α) (db : Database) : Except Failure (List α) := do
  ((← rowsOf α db).filter (Record.lookup k).matches).mapM (decode α)

/-- The record of `α` with the least id among those a key concerns, if any. -/
def readOne (k : Record.Key α) (db : Database) : Except Failure (Option α) := do
  match (← rowsOf α db).find? (Record.lookup k).matches with
  | some r => return some (← decode α r)
  | none => return none

/-- The record of `α` with an id, which a write has just stored. -/
def fetch (id : Int) (db : Database) : Except Failure α := do
  match (← rowsOf α db).find? (Lookup.byId id).matches with
  | some r => decode α r
  | none => .error (.notFound (Record.entity α))

/-- How a refused insert of a record of `α` fails: a broken constraint is a rejection of the
record, anything else a fault of the store. -/
def insertFailure : StoreFault → Failure
  | .constraint v => .invalid (.refused (Record.entity α) v.message)
  | f => .storage f

/-- Creates a record of `α` at an instant and returns it as stored. -/
def create (new : Record.New α) (now : Instant) : Work α := do
  if let some rule := Record.check new then throw (.invalid rule)
  let ts ← liftM (tablesOf α (← get))
  match ts.insert (Record.table α) (Record.cells new now) with
  | .error f => throw (insertFailure α f)
  | .ok (ts', id) =>
    set ({ tables := some ts' } : Database)
    liftM (fetch α id (← get))

/-- Changes the first record of `α` that a key concerns, at an instant, and returns it as
stored. -/
def update (k : Record.Key α) (p : Record.Patch α) (now : Instant) : Work α := do
  if let some rule := Record.checkPatch p then throw (.invalid rule)
  let some current ← liftM (readOne α k (← get)) | throw (.notFound (Record.entity α))
  let changes := Record.changes p current now
  if changes.isEmpty then return current
  let ts ← liftM (tablesOf α (← get))
  match ts.assign (Record.table α) (Record.id current) changes with
  | .error v => throw (.storage (.constraint v))
  | .ok (ts', _) =>
    set ({ tables := some ts' } : Database)
    liftM (fetch α (Record.id current) (← get))

/-- Removes every record of `α` that a key concerns and returns how many went. -/
def delete (k : Record.Key α) : Work Nat := do
  let ts ← liftM (tablesOf α (← get))
  let (ts', n) := ts.erase (Record.table α) (Record.lookup k)
  set ({ tables := some ts' } : Database)
  return n

end Record

end Tintbook.Store
