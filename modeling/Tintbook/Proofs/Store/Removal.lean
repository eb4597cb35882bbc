import Tintbook.Proofs.Store.Steps
import Tintbook.Proofs.Store.Tables
/-!
# Removing records

The generic removal of records deletes, in one statement, every row of a table that a key
concerns: a key by id concerns one row at most, a key by a formula, a name or a customer
any number of them. This module says what it does on every database, whatever its rows hold
(`delete_exact`):

- without tables it fails on the table's name and writes nothing;
- with tables it succeeds, since it reads no row as a record, and answers the number of
  rows of the table that the key concerns;
- every table then keeps, in order, exactly the rows the removal does not take
  (`Tables.takes`): of the table itself, the rows the key concerns; of the tables of lines,
  when formulas are removed, the lines whose formula is one removed, which are not counted;
  no other row goes or changes, and no table's mark moves.

## What this module delivers

- `Tables.takes`: the rows a removal takes from each table.
- `Tables.erase_rows`, `Tables.erase_count`: what an erasure keeps and counts, table by
  table.
- `delete_exact`, with its witness.
-/

set_option autoImplicit false

namespace Tintbook.Store

/-! ## What an erasure takes, table by table -/

/-- Whether removing the rows of table `t` that lookup `k` concerns takes row `r` of table
`u`: from `t` itself the rows `k` concerns, and, when `t` holds formulas, from the other
tables the lines whose first column holds the id of a formula `k` concerns. -/
def Tables.takes (ts : Tables) (t : TableName) (k : Lookup) (u : TableName) (r : Row) : Bool :=
  if u = t then k.matches r
  else decide (t = .formulas) &&
    ts.formulas.rows.any fun f => k.matches f && r.cell 1 == .integer f.id

/-- An erasure keeps, in every table, exactly the rows it does not take, in their order. -/
theorem Tables.erase_rows (ts : Tables) (t : TableName) (k : Lookup) (u : TableName) :
    ((ts.erase t k).1.get u).rows = (ts.get u).rows.filter fun r => !ts.takes t k u r := by
  cases t <;> cases u <;>
    simp [Tables.erase, Tables.takes, Tables.get, Tables.set, List.any_filter]

/-- An erasure counts the rows of its own table that the lookup concerns, and no line. -/
theorem Tables.erase_count (ts : Tables) (t : TableName) (k : Lookup) :
    (ts.erase t k).2 = ((ts.get t).rows.filter k.matches).length := by
  cases t <;> rfl

/-! ## Removing records -/

/-- **Removing records is exact.** For every kind of record, every key and every database:
without tables the removal fails on the table's name and writes nothing; with tables it
succeeds, whatever its rows hold, answers the number of rows of the table that the key
concerns, and leaves every table with exactly the rows it does not take, in their order, and
with its mark: the rows the key concerns go from the table itself, and when formulas are
removed, their colorant and base lines go with them, uncounted. -/
theorem delete_exact {α : Type} [Record α] (k : Record.Key α) (db : Database) :
    (db.tables = none → (Record.delete α k).run.run db =
      (.error (.storage (.noSuchTable (Record.table α).text)), db)) ∧
    ∀ ts, db.tables = some ts → ∃ ts',
      (Record.delete α k).run.run db =
        (.ok ((ts.get (Record.table α)).rows.filter (Record.lookup k).matches).length,
          { tables := some ts' }) ∧
      ∀ u, (ts'.get u).rows =
          (ts.get u).rows.filter (fun r => !ts.takes (Record.table α) (Record.lookup k) u r) ∧
        (ts'.get u).lastId = (ts.get u).lastId := by
  obtain ⟨_ | ts⟩ := db
  · refine ⟨fun _ => rfl, fun ts h => ?_⟩
    cases h
  refine ⟨fun h => ?_, fun ts' hts => ?_⟩
  · cases h
  cases hts
  refine ⟨_, ?_, fun u => ⟨Tables.erase_rows ts _ _ u, (Tables.erase_get ts _ _ u).2⟩⟩
  rw [Record.delete_run, Record.tablesOf_some]
  dsimp only
  rw [Tables.erase_count]

/-- Two formulas of the customer Acme, each with a colorant line, and a third formula with
none: removing the formulas of Acme answers two and takes both lines. -/
theorem delete_exact_customer :
    let ts : Tables :=
      { formulas := ⟨[⟨1, [.text "Soft Red", .text "", .text "Acme", .text "", .text "",
            .text "x", .text "x"]⟩,
          ⟨2, [.text "Deep Blue", .text "", .text "Acme", .text "", .text "", .text "x",
            .text "x"]⟩,
          ⟨3, [.text "Mint", .text "", .text "Edwards", .text "", .text "", .text "x",
            .text "x"]⟩], 3⟩
        colorants := ⟨[⟨1, [.integer 1, .text "umber", .integer 1]⟩,
          ⟨2, [.integer 2, .text "ochre", .text "two"]⟩], 2⟩ }
    ∃ ts', (Record.delete Formula (FormulaKey.customer "Acme")).run.run { tables := some ts } =
        (.ok 2, { tables := some ts' }) ∧
      ∀ u, (ts'.get u).rows =
          (ts.get u).rows.filter (fun r => !ts.takes .formulas ⟨3, .text "Acme"⟩ u r) ∧
        (ts'.get u).lastId = (ts.get u).lastId :=
  (delete_exact (α := Formula) (FormulaKey.customer "Acme") _).2 _ rfl

end Tintbook.Store
