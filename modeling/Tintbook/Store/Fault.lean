import Tintbook.Time.Reading
/-!
# Faults of the store

What the store can refuse, as the database engine words it: a database file that cannot be
opened, a table or column that does not exist, a constraint that a write would break, a table
whose ids are used up, or a stored value that cannot be read as what its column should hold, either because its kind is
wrong or because its text names no time. A fault the engine reports itself carries the
engine's result code.

## What this module delivers

- `CellKind`: the storage classes of stored values.
- `Violation`: the constraints a write can break, with their `message`.
- `StoreFault`, with its `message` and its chain of `causes`.
-/

set_option autoImplicit false

namespace Tintbook

/-- The storage class of a stored value. -/
inductive CellKind where
  | null
  | integer
  | real
  | text
  | blob
  deriving DecidableEq, Repr

/-- The name of a storage class. -/
def CellKind.name : CellKind → String
  | .null => "Null"
  | .integer => "Integer"
  | .real => "Real"
  | .text => "Text"
  | .blob => "Blob"

/-- A constraint of the schema that a write would break. -/
inductive Violation where
  /-- A required column of the table would hold nothing. -/
  | notNull (table column : String)
  /-- A line would name a formula that does not exist. -/
  | foreignKey
  deriving DecidableEq, Repr

/-- The engine's sentence for a broken constraint. -/
def Violation.message : Violation → String
  | .notNull t c => "NOT NULL constraint failed: " ++ t ++ "." ++ c
  | .foreignKey => "FOREIGN KEY constraint failed"

/-- What the store refuses. -/
inductive StoreFault where
  /-- The table does not exist. -/
  | noSuchTable (table : String)
  /-- The table has no column of this name. -/
  | noSuchColumn (column : String)
  /-- A write would break a constraint. -/
  | constraint (violation : Violation)
  /-- A stored value of column `index` cannot be converted. -/
  | conversion (index : Nat) (kind : CellKind) (cause : TimeFault)
  /-- A stored value of column `index`, named `column`, is of the wrong kind. -/
  | columnType (index : Nat) (column : String) (kind : CellKind)
  /-- The database file cannot be opened, as when its path names a directory. -/
  | cannotOpen
  /-- The database file holds something else. -/
  | notDatabase
  /-- A table's ids have reached the largest a row id can be, so no row can be added. -/
  | full
  deriving DecidableEq, Repr

/-- The engine's sentence for a fault. -/
def StoreFault.message : StoreFault → String
  | .noSuchTable t => "no such table: " ++ t
  | .noSuchColumn c => "no such column: " ++ c
  | .constraint v => v.message
  | .conversion i k c =>
    "Conversion error from type " ++ k.name ++ " at index: " ++ showInt i ++ ", " ++ c.message
  | .columnType i n k =>
    "Invalid column type " ++ k.name ++ " at index: " ++ showInt i ++ ", name: " ++ n
  | .cannotOpen => "unable to open database file"
  | .notDatabase => "file is not a database"
  | .full => "database or disk is full"

/-- The engine's result code for a fault it reports itself, with its description. -/
def StoreFault.code? : StoreFault → Option (Nat × String)
  | .noSuchTable _ | .noSuchColumn _ => some (1, "SQL error or missing database")
  | .constraint (.notNull ..) => some (1299, "A NOT NULL constraint failed")
  | .constraint .foreignKey => some (787, "A foreign key constraint failed")
  | .cannotOpen => some (14, "Unable to open the database file")
  | .notDatabase => some (26, "File opened that is not a database file")
  | .full => some (13, "Insertion failed because database is full")
  | .conversion .. | .columnType .. => none

/-- The chain of causes of a fault, outermost first: its sentence, then the engine's result
code for a fault the engine reports, or the reason a conversion failed. -/
def StoreFault.causes (f : StoreFault) : List String :=
  f.message :: match f, f.code? with
    | _, some (n, d) => ["Error code " ++ showInt n ++ ": " ++ d]
    | .conversion _ _ c, none => [c.message]
    | _, none => []

end Tintbook
