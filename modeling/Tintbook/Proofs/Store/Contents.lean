import Tintbook.Proofs.Store.Stored
/-!
# The records a good database holds

A good database (`Database.Good`) keeps in each table the rows of records of its kind. This
module names those records: `Contents` lists the formulas, colorant lines and base lines of
the three tables in order, with each table's mark, and `Contents.tables` writes them back as
rows. Every good database is the database of some contents that are good in the plain sense
of `Contents.Good`: the formulas' times can be read back, the ids of each list increase and
stay below the table's mark, and every line names a formula of the list
(`Database.Good.contents`).

On such tables the store's reads compute plain list functions: reading all records gives the
list, reading by a key filters it, reading one finds the first record the key concerns
(`Record.readAll_eq`, `Record.readMatching_eq`, `Record.readOne_eq`, `Record.fetch_eq`). The
keys the workflows use compare one field: the id of a formula and the formula of a line.

## What this module delivers

- `Contents`, `Contents.tables`, `Contents.db`, `Contents.Good`, `Database.Good.contents`.
- `Record.readAll_eq`, `Record.readMatching_eq`, `Record.readOne_eq`, `Record.fetch_eq`.
- `Formula.matches_id`, `Colorant.matches_formulaId`, `Base.matches_formulaId`.
-/

set_option autoImplicit false

namespace Tintbook.Store

/-! ## The records of the three tables -/

/-- The records the three tables hold, each list in the order of its rows, with the largest id
each table handed out. -/
structure Contents where
  formulas : List Formula
  colorants : List Colorant
  bases : List Base
  lastFormula : Int
  lastColorant : Int
  lastBase : Int

/-- The tables that hold exactly the rows of some contents. -/
def Contents.tables (K : Contents) : Tables :=
  ⟨⟨K.formulas.map Formula.row, K.lastFormula⟩, ⟨K.colorants.map Colorant.row, K.lastColorant⟩,
    ⟨K.bases.map Base.row, K.lastBase⟩⟩

/-- The database whose tables hold some contents. -/
def Contents.db (K : Contents) : Database := { tables := some K.tables }

theorem Contents.formula_rows (K : Contents) :
    (K.tables.get (Record.table Formula)).rows = K.formulas.map Stored.row := rfl

theorem Contents.colorant_rows (K : Contents) :
    (K.tables.get (Record.table Colorant)).rows = K.colorants.map Stored.row := rfl

theorem Contents.base_rows (K : Contents) :
    (K.tables.get (Record.table Base)).rows = K.bases.map Stored.row := rfl

/-- Contents as a good database holds them: the formulas' times can be read back, the ids of
each list increase and stay below the table's mark, and every line names a formula. -/
structure Contents.Good (K : Contents) : Prop where
  sound : ∀ f ∈ K.formulas, Stored.Sound f
  formulas_ordered : K.formulas.Pairwise (fun f g => f.id < g.id)
  colorants_ordered : K.colorants.Pairwise (fun c d => c.id < d.id)
  bases_ordered : K.bases.Pairwise (fun b b' => b.id < b'.id)
  formulas_below : ∀ f ∈ K.formulas, f.id ≤ K.lastFormula
  colorants_below : ∀ c ∈ K.colorants, c.id ≤ K.lastColorant
  bases_below : ∀ b ∈ K.bases, b.id ≤ K.lastBase
  colorants_owned : ∀ c ∈ K.colorants, ∃ f ∈ K.formulas, f.id = c.formulaId
  bases_owned : ∀ b ∈ K.bases, ∃ f ∈ K.formulas, f.id = b.formulaId

/-! ## Good databases hold good contents -/

/-- The line that names a formula in its first column, as a record. -/
theorem Colorant.row_cell_one (c : Colorant) : (Colorant.row c).cell 1 = .integer c.formulaId :=
  rfl

theorem Base.row_cell_one (b : Base) : (Base.row b).cell 1 = .integer b.formulaId := rfl

/-- A line whose row names a formula whose row is in the table names that formula's id. -/
theorem Formula.owner_of_rows {fs : List Formula} {n : Int}
    (h : ∃ r ∈ fs.map Formula.row, Cell.integer n = .integer r.id) :
    ∃ f ∈ fs, f.id = n := by
  obtain ⟨r, hr, hn⟩ := h
  obtain ⟨f, hf, rfl⟩ := List.mem_map.1 hr
  exact ⟨f, hf, (Cell.integer.inj hn).symm⟩

/-- **Every good database holds good contents.** -/
theorem Database.Good.contents {db : Database} (h : db.Good) :
    ∃ K : Contents, db = K.db ∧ K.Good := by
  obtain ⟨⟨⟨fr, fl⟩, ⟨cr, cl⟩, ⟨br, bl⟩⟩, hdb, hty, hm, hl⟩ := h
  obtain ⟨fs, hfs, hsound⟩ := hty .formulas
  obtain ⟨cs, hcs, -⟩ := hty .colorants
  obtain ⟨bs, hbs, -⟩ := hty .bases
  simp only [Tables.get] at hfs hcs hbs
  subst hfs hcs hbs
  obtain ⟨hf₁, hf₂⟩ := (hm .formulas).records (α := Formula) rfl
  obtain ⟨hc₁, hc₂⟩ := (hm .colorants).records (α := Colorant) rfl
  obtain ⟨hb₁, hb₂⟩ := (hm .bases).records (α := Base) rfl
  refine ⟨⟨fs, cs, bs, fl, cl, bl⟩, ?_, ⟨hsound, hf₁, hc₁, hb₁, hf₂, hc₂, hb₂, ?_, ?_⟩⟩
  · obtain ⟨tables⟩ := db
    simp only at hdb
    rw [hdb]
    rfl
  -- each line's row names the row of a formula
  · exact fun c hc => Formula.owner_of_rows
      (hl _ (List.mem_append_left _ (List.mem_map_of_mem (f := Colorant.row) hc)))
  · exact fun b hb => Formula.owner_of_rows
      (hl _ (List.mem_append_right _ (List.mem_map_of_mem (f := Base.row) hb)))

/-! ## Reads over records -/

section Reads

variable {α : Type} [Record α] [Stored α] {ts : Tables} {as : List α}

omit [Stored α] in
@[simp] theorem Record.rowsOf_some (ts : Tables) :
    Record.rowsOf α { tables := some ts } = .ok (ts.get (Record.table α)).rows := rfl

theorem Stored.decode_row {a : α} (h : Stored.Sound a) :
    Record.decode α (Stored.row a) = .ok a := by
  simp [Record.decode, Stored.ofRow_row h, Except.mapError]

/-- Decoding the rows of sound records gives the records back. -/
theorem Stored.mapM_decode (hsound : ∀ a ∈ as, Stored.Sound a) :
    (as.map Stored.row).mapM (Record.decode α) = .ok as := by
  induction as with
  | nil => rfl
  | cons a as ih =>
    have ha := Stored.decode_row (hsound a (List.mem_cons_self ..))
    have has := ih (fun b hb => hsound b (List.mem_cons_of_mem _ hb))
    simp only [List.map_cons, List.mapM_cons, ha, has]
    rfl

theorem Stored.matches_byId (a : α) (i : Int) :
    (Lookup.byId i).matches (Stored.row a) = decide (Record.id a = i) := by
  simp [Lookup.matches, Lookup.byId, Row.cell, Stored.row_id]

variable (hrows : (ts.get (Record.table α)).rows = as.map Stored.row)
  (hsound : ∀ a ∈ as, Stored.Sound a)
include hrows hsound

theorem Record.readAll_eq : Record.readAll α { tables := some ts } = .ok as := by
  unfold Record.readAll
  rw [Record.rowsOf_some, hrows]
  exact Stored.mapM_decode hsound

theorem Record.readMatching_eq (k : Record.Key α) :
    Record.readMatching α k { tables := some ts } =
      .ok (as.filter fun a => (Record.lookup k).matches (Stored.row a)) := by
  unfold Record.readMatching
  rw [Record.rowsOf_some, hrows]
  show List.mapM _ _ = _
  rw [List.filter_map]
  exact Stored.mapM_decode (fun a ha => hsound a (List.mem_filter.1 ha).1)

theorem Record.readOne_eq (k : Record.Key α) :
    Record.readOne α k { tables := some ts } =
      .ok (as.find? fun a => (Record.lookup k).matches (Stored.row a)) := by
  unfold Record.readOne
  simp only [Record.rowsOf_some, hrows, bind, Except.bind, List.find?_map, Function.comp_def]
  cases hf : as.find? (fun a => (Record.lookup k).matches (Stored.row a)) with
  | none => rfl
  | some a =>
    have ha := Stored.decode_row (hsound a (List.mem_of_find?_eq_some hf))
    simp only [Option.map_some, ha]
    rfl

/-- Fetching by id gives the first record with that id. -/
theorem Record.fetch_eq {i : Int} {a : α}
    (hfind : as.find? (fun b => decide (Record.id b = i)) = some a) :
    Record.fetch α i { tables := some ts } = .ok a := by
  unfold Record.fetch
  simp only [Record.rowsOf_some, hrows, bind, Except.bind]
  have hmatch : (fun b : α => (Lookup.byId i).matches (Stored.row b)) =
      fun b => decide (Record.id b = i) := funext fun b => Stored.matches_byId b i
  rw [List.find?_map, Function.comp_def, hmatch, hfind]
  exact Stored.decode_row (hsound a (List.mem_of_find?_eq_some hfind))

end Reads

/-! ## The keys of the workflows -/

theorem Formula.matches_id (f : Formula) (n : Int) :
    (Record.lookup (α := Formula) (FormulaKey.id n)).matches (Stored.row f) = decide (f.id = n) := by
  simp [Record.lookup, FormulaKey.lookup, Lookup.matches, Row.cell, Stored.row, Formula.row]

theorem Colorant.matches_formulaId (c : Colorant) (n : Int) :
    (Record.lookup (α := Colorant) (LineKey.formulaId n)).matches (Stored.row c) =
      decide (c.formulaId = n) := by
  simp [Record.lookup, LineKey.lookup, Lookup.matches, Row.cell, Stored.row, Colorant.row]

theorem Base.matches_formulaId (b : Base) (n : Int) :
    (Record.lookup (α := Base) (LineKey.formulaId n)).matches (Stored.row b) =
      decide (b.formulaId = n) := by
  simp [Record.lookup, LineKey.lookup, Lookup.matches, Row.cell, Stored.row, Base.row]

end Tintbook.Store
