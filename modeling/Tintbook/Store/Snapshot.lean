import Tintbook.Store.Table
import Tintbook.Json.Shape
import Tintbook.Json.Writer
/-!
# Snapshots of a database

A snapshot is a database written as a JSON document, so that a database can be kept in a
file between runs of the command line. A database without the schema is `null`; with it, an
object with a member per table, each holding the table's last id and its rows. A row is an
array of its id and its cells: `null`, an integer, a text, or `{"real": bits}` for a double
by its bits.

Reading a snapshot back gives the database written (`ofJson? (toJson db) = some db` is the
law this layout is made for); a document of another layout gives none.

## What this module delivers

- `Database.toJson`, `Database.ofJson?`: a database as a document and back.
- `Database.snapshot`, `Database.ofSnapshot?`: the same as text.
-/

set_option autoImplicit false

namespace Tintbook.Store

/-- A cell as a document. -/
def Cell.toJson : Cell → Json
  | .null => .null
  | .integer n => .int n
  | .real bits => .obj [("real", .int bits.toNat)]
  | .text s => .str s

/-- The cell a document gives. -/
def Cell.ofJson? : Json → Option Cell
  | .null => some .null
  | .int n => some (.integer n)
  | .str s => some (.text s)
  | .obj [("real", .int n)] => if 0 ≤ n && n < Int.pow 2 64 then some (.real n.toNat.toUInt64) else none
  | _ => none

/-- A row as a document: its id, then its cells. -/
def Row.toJson (r : Row) : Json := .arr (.int r.id :: r.cells.map Cell.toJson)

/-- The row a document gives. -/
def Row.ofJson? : Json → Option Row
  | .arr (.int id :: cells) => (cells.mapM Cell.ofJson?).map (⟨id, ·⟩)
  | _ => none

/-- A table as a document. -/
def Table.toJson (t : Table) : Json :=
  .obj [("last_id", .int t.lastId), ("rows", .arr (t.rows.map Row.toJson))]

/-- The table a document gives. -/
def Table.ofJson? : Json → Option Table
  | .obj [("last_id", .int last), ("rows", .arr rows)] =>
    (rows.mapM Row.ofJson?).map (⟨·, last⟩)
  | _ => none

/-- A database as a document. -/
def Database.toJson (db : Database) : Json :=
  match db.tables with
  | none => .null
  | some ts =>
    .obj [("formulas", ts.formulas.toJson), ("colorants", ts.colorants.toJson),
      ("bases", ts.bases.toJson)]

/-- The database a document gives. -/
def Database.ofJson? : Json → Option Database
  | .null => some {}
  | .obj [("formulas", f), ("colorants", c), ("bases", b)] => do
    let tables : Tables := ⟨← Table.ofJson? f, ← Table.ofJson? c, ← Table.ofJson? b⟩
    return ⟨some tables⟩
  | _ => none

/-- A database as text. -/
def Database.snapshot (db : Database) : String := Json.compact db.toJson

/-- The database a text gives, if it is a snapshot. -/
def Database.ofSnapshot? (text : String) : Option Database :=
  match Json.Shape.anything.read text with
  | .ok j => Database.ofJson? j
  | .error _ => none

end Tintbook.Store
