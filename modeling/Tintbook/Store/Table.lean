import Tintbook.Store.Cell
/-!
# Tables, rows and the constraints on them

The store keeps three tables: `formulas`, and the lines of formulas in `colorants` and
`bases`. A row has an id and one value per further column; a table keeps its rows in
increasing id order, together with the largest id it ever handed out, so that an id is
never given twice even after the row holding it is gone.

Every column must hold a value, and the first column of a line table must hold the id of a
formula. Removing a formula removes its lines with it. A write that would break a
constraint is refused as a whole and leaves the tables as they were. Ids are 64-bit
integers: once a table has handed out the largest, it takes no more rows.

## What this module delivers

- `TableName`, `Column`, `TableName.columns`: the schema.
- `Row`, `Table`, `Tables`, `Database`: the stored data; a `Database` has tables only once
  its schema is created.
- `Lookup`: which rows an operation concerns, by the value of one column.
- `Tables.insert`, `Tables.assign`, `Tables.erase`: the three ways of writing, with their
  constraint checks and the cascade from formulas to their lines.
- `Database.setColumn`, `Database.getColumn`: reading and writing one value of one row,
  with tables and columns given by name.
-/

set_option autoImplicit false

namespace Tintbook.Store

/-! ## The schema -/

/-- The tables of the store. -/
inductive TableName where
  | formulas
  | colorants
  | bases
  deriving DecidableEq, Repr

/-- The name of a table. -/
def TableName.text : TableName → String
  | .formulas => "formulas"
  | .colorants => "colorants"
  | .bases => "bases"

/-- A column besides the id: its name, its affinity, and whether it holds the id of a
formula. Every column of the schema must hold a value. -/
structure Column where
  name : String
  affinity : Affinity
  refersToFormula : Bool
  deriving DecidableEq, Repr

/-- A required text column. -/
def Column.textual (name : String) : Column := ⟨name, .text, false⟩

/-- The columns of a table after its id, in order. -/
def TableName.columns : TableName → List Column
  | .formulas =>
    ["formula_name", "formula_number", "customer_name", "summary", "notes", "created_date",
      "last_modified"].map Column.textual
  | .colorants =>
    [⟨"formula_id", .integer, true⟩, .textual "colorant_name", ⟨"amount", .integer, false⟩]
  | .bases =>
    [⟨"formula_id", .integer, true⟩, .textual "base_name", .textual "product_name"]

/-- ASCII letters folded to lower case, as names of tables and columns compare. -/
def foldName (s : String) : String := s.map Char.toLower

/-- The table of a name, compared without regard to ASCII case. -/
def TableName.ofText? (s : String) : Option TableName :=
  [TableName.formulas, .colorants, .bases].find? (fun t => t.text == foldName s)

/-- The position of a named column of a table, `0` for the id, compared without regard to
ASCII case. -/
def TableName.columnIndex? (t : TableName) (name : String) : Option Nat :=
  if foldName name == "id" then some 0
  else ((t.columns.map (fun c => c.name)).idxOf? (foldName name)).map (· + 1)

/-! ## Stored data -/

/-- A stored row: its id, and the values of the other columns in order. -/
structure Row where
  id : Int
  cells : List Cell
  deriving DecidableEq, Repr

/-- The value of a column of a row: column `0` is the id, column `k + 1` the `k`-th cell. -/
def Row.cell (r : Row) : Nat → Cell
  | 0 => .integer r.id
  | k + 1 => r.cells.getD k .null

/-- A table: its rows in increasing id order, and the largest id it ever handed out. -/
structure Table where
  rows : List Row := []
  lastId : Int := 0
  deriving DecidableEq, Repr

/-- The three tables. -/
structure Tables where
  formulas : Table := {}
  colorants : Table := {}
  bases : Table := {}
  deriving DecidableEq, Repr

/-- A table, by name. -/
def Tables.get (ts : Tables) : TableName → Table
  | .formulas => ts.formulas
  | .colorants => ts.colorants
  | .bases => ts.bases

/-- The tables with one of them replaced. -/
def Tables.set (ts : Tables) : TableName → Table → Tables
  | .formulas, t => { ts with formulas := t }
  | .colorants, t => { ts with colorants := t }
  | .bases, t => { ts with bases := t }

/-- A database: its tables, once the schema has been created. -/
structure Database where
  tables : Option Tables := none
  deriving DecidableEq, Repr

/-- The tables of a database, or the fault of a statement on `t` before the schema exists. -/
def Database.schema (db : Database) (t : TableName) : Except StoreFault Tables :=
  match db.tables with
  | some ts => .ok ts
  | none => .error (.noSuchTable t.text)

/-- Which rows an operation concerns: those whose column holds the value. Values compare by
storage class and value; in every state the store reaches, a column used for lookups holds
values of one class only. -/
structure Lookup where
  column : Nat
  value : Cell
  deriving DecidableEq, Repr

/-- Whether a row is one a lookup concerns. -/
def Lookup.matches (k : Lookup) (r : Row) : Bool := decide (r.cell k.column = k.value)

/-- The lookup of the row with an id. -/
def Lookup.byId (id : Int) : Lookup := ⟨0, .integer id⟩

/-! ## Constraints -/

/-- Whether a value may stand in a column: a value at all, and for a column holding the id
of a formula, the id of a formula that exists. -/
def Tables.admits (ts : Tables) (t : TableName) (c : Column) (v : Cell) : Option Violation :=
  match v with
  | .null => some (.notNull t.text c.name)
  | .integer n =>
    if c.refersToFormula && !(ts.formulas.rows.any (fun r => r.id == n)) then some .foreignKey
    else none
  | _ => if c.refersToFormula then some .foreignKey else none

/-- The first constraint that the given values of the given columns break: a missing value
is found before a missing formula. -/
def Tables.violation (ts : Tables) (t : TableName) (given : List (Column × Cell)) :
    Option Violation :=
  let missing := given.find? (fun (_, v) => v == .null)
  match missing with
  | some (c, _) => some (.notNull t.text c.name)
  | none => given.findSome? (fun (c, v) => ts.admits t c v)

/-- The values written to the columns of a table, each turned to its column's affinity. -/
def fitAll (cols : List Column) (values : List Cell) : List (Column × Cell) :=
  (cols.zip values).map (fun (c, v) => (c, v.fit c.affinity))

/-! ## Writing -/

/-- Adds a row with the next id to a table, the values turned to the affinities of the
columns; returns the new id. The next id is taken before the values are checked, and there is
none once the mark is the largest 64-bit integer. -/
def Tables.insert (ts : Tables) (t : TableName) (values : List Cell) :
    Except StoreFault (Tables × Int) :=
  let table := ts.get t
  if int64Max ≤ table.lastId then .error .full
  else
    let given := fitAll t.columns values
    match ts.violation t given with
    | some v => .error (.constraint v)
    | none =>
      let id := table.lastId + 1
      .ok (ts.set t { rows := table.rows ++ [⟨id, given.map (·.2)⟩], lastId := id }, id)

/-- A row with some of its columns replaced; `changes` pairs column positions (from `1`)
with values already fitted. -/
def Row.replace (r : Row) (changes : List (Nat × Cell)) : Row :=
  { r with cells := r.cells.mapIdx (fun i v =>
      match changes.find? (fun (k, _) => k == i + 1) with
      | some (_, w) => w
      | none => v) }

/-- Writes values to some columns of the row with an id; returns how many rows changed,
which is `0` when no row has the id. Only the columns written are checked. -/
def Tables.assign (ts : Tables) (t : TableName) (id : Int) (changes : List (Nat × Cell)) :
    Except Violation (Tables × Nat) :=
  let table := ts.get t
  if table.rows.any (fun r => r.id == id) then
    let given : List (Nat × Column × Cell) := changes.filterMap (fun (k, v) =>
      match t.columns[k - 1]? with
      | some c => if k = 0 then none else some (k, c, v.fit c.affinity)
      | none => none)
    match ts.violation t (given.map (·.2)) with
    | some v => .error v
    | none =>
      let fitted := given.map (fun (k, _, v) => (k, v))
      let rows := table.rows.map (fun r => if r.id == id then r.replace fitted else r)
      .ok (ts.set t { table with rows := rows }, 1)
  else .ok (ts, 0)

/-- Removes the rows of a table that a lookup concerns and returns how many went; removing
formulas removes their lines too, which are not counted. -/
def Tables.erase (ts : Tables) (t : TableName) (k : Lookup) : Tables × Nat :=
  let table := ts.get t
  let gone := table.rows.filter k.matches
  let kept := ts.set t { table with rows := table.rows.filter (fun r => !k.matches r) }
  let cascaded :=
    match t with
    | .formulas =>
      let orphan (r : Row) : Bool := gone.any (fun f => r.cell 1 == .integer f.id)
      let drop (tb : Table) : Table := { tb with rows := tb.rows.filter (fun r => !orphan r) }
      { kept with colorants := drop kept.colorants, bases := drop kept.bases }
    | _ => kept
  (cascaded, gone.length)

/-! ## One value by name -/

/-- The table and column positions named, or the fault of naming them. -/
def Database.resolve (db : Database) (table column : String) :
    Except StoreFault (Tables × TableName × Nat) := do
  let some t := TableName.ofText? table | .error (.noSuchTable table)
  let ts ← db.schema t
  let some k := t.columnIndex? column | .error (.noSuchColumn column)
  return (ts, t, k)

/-- Writes one value to one column of the row with an id, as a statement naming the table
and column would; returns the number of rows changed. -/
def Database.setColumn (db : Database) (table column : String) (id : Int) (v : Cell) :
    Except StoreFault (Database × Nat) := do
  let (ts, t, k) ← db.resolve table column
  match ts.assign t id [(k, v)] with
  | .ok (ts', n) => return ({ tables := some ts' }, n)
  | .error violation => .error (.constraint violation)

/-- The value of one column of the row with an id, or `none` when no row has the id. -/
def Database.getColumn (db : Database) (table column : String) (id : Int) :
    Except StoreFault (Option Cell) := do
  let (ts, t, k) ← db.resolve table column
  return ((ts.get t).rows.find? (fun r => r.id == id)).map (fun r => r.cell k)

end Tintbook.Store
