import Tintbook.Proofs.Store.Tables
/-!
# Referential integrity

Every colorant and every base names, as its formula, a formula that exists; the store keeps
this however it is used. An insert or an assignment to a line checks the formula it names,
an assignment never writes an id, and removing a formula removes its lines with it. So
every write to the tables keeps the property (`Database.linesHaveFormulas_writesKeep`),
hence every call, hence every run: the workflows, the generic operations of a transaction
whether it commits or not and whether its operations fail or not, and raw writes of single
values.

A consequence: removing a formula that answers it found none changed nothing, since no line
can name a formula that does not exist (`deleteFormula_false_unchanged`).

## What this module delivers

- `Tables.LinesHaveFormulas`, `Database.LinesHaveFormulas`: the property.
- `Tables.LinesHaveFormulas.insert`, `.assign`, `.erase`: each write keeps it.
- `referential_integrity`: it holds over every run, and a removal that finds nothing
  changes nothing.
-/

set_option autoImplicit false

namespace Tintbook.Store

/-! ## Lines and the formulas they name -/

/-- Every line names, in its first column, the id of a formula that exists. -/
def Tables.LinesHaveFormulas (ts : Tables) : Prop :=
  ∀ r ∈ ts.colorants.rows ++ ts.bases.rows, ∃ f ∈ ts.formulas.rows, r.cell 1 = .integer f.id

/-- The first column of a table of lines holds the id of a formula. -/
theorem TableName.columns_of_lines {t : TableName} (ht : t ≠ .formulas) :
    ∃ c cs, t.columns = c :: cs ∧ c.refersToFormula = true := by
  cases t with
  | formulas => exact absurd rfl ht
  | colorants => exact ⟨_, _, rfl, rfl⟩
  | bases => exact ⟨_, _, rfl, rfl⟩

/-- The lines of a table of lines, among all lines. -/
theorem Tables.lines_of {ts : Tables} {t : TableName} (ht : t ≠ .formulas) {r : Row}
    (hr : r ∈ (ts.get t).rows) : r ∈ ts.colorants.rows ++ ts.bases.rows := by
  cases t with
  | formulas => exact absurd rfl ht
  | colorants => exact List.mem_append_left _ hr
  | bases => exact List.mem_append_right _ hr

/-- The row an insert into a table of lines adds names a formula that exists. -/
theorem Tables.insert_line_owned {ts : Tables} {t : TableName} (ht : t ≠ .formulas)
    {vs : List Cell} (hlen : vs.length = t.columns.length)
    (hv : ts.violation t (fitAll t.columns vs) = none) (id : Int) :
    ∃ f ∈ ts.formulas.rows,
      (Row.mk id ((fitAll t.columns vs).map (·.2))).cell 1 = .integer f.id := by
  obtain ⟨c, cs, hcols, hc⟩ := TableName.columns_of_lines ht
  obtain ⟨v, rest, rfl⟩ : ∃ v rest, vs = v :: rest := by
    cases vs with
    | nil => simp [hcols] at hlen
    | cons v rest => exact ⟨v, rest, rfl⟩
  have hmem : (c, v.fit c.affinity) ∈ fitAll t.columns (v :: rest) := by
    simp [fitAll, hcols]
  obtain ⟨-, hadm⟩ := Tables.violation_none hv _ hmem
  obtain ⟨f, hf, hfv⟩ := Tables.admits_formula hc hadm
  refine ⟨f, hf, ?_⟩
  simp only at hfv
  simp [Row.cell, fitAll, hcols, hfv]

/-- Writing one table of lines leaves the formulas as they were. -/
theorem Tables.formulas_set {ts : Tables} {t : TableName} (ht : t ≠ .formulas) (tb : Table) :
    (ts.set t tb).formulas = ts.formulas := by
  cases t with
  | formulas => exact absurd rfl ht
  | colorants => rfl
  | bases => rfl

/-- After writing one table of lines, a line is a row of that table or a line from before. -/
theorem Tables.mem_lines_set {ts : Tables} {t : TableName} (ht : t ≠ .formulas) {tb : Table}
    {r : Row} (hr : r ∈ (ts.set t tb).colorants.rows ++ (ts.set t tb).bases.rows) :
    r ∈ tb.rows ∨ r ∈ ts.colorants.rows ++ ts.bases.rows := by
  cases t with
  | formulas => exact absurd rfl ht
  | colorants =>
    simp only [Tables.set, List.mem_append] at hr ⊢
    rcases hr with hr | hr
    · exact Or.inl hr
    · exact Or.inr (Or.inr hr)
  | bases =>
    simp only [Tables.set, List.mem_append] at hr ⊢
    rcases hr with hr | hr
    · exact Or.inr (Or.inl hr)
    · exact Or.inl hr

/-- A line after an assignment that goes through still names a formula that exists. -/
theorem Tables.replace_line_owned {ts : Tables} {t : TableName} (ht : t ≠ .formulas)
    {fitted : List (Nat × Cell)}
    (hfit : ∀ k w, (k, w) ∈ fitted → ∃ c, t.columns[k - 1]? = some c ∧ 0 < k ∧ w ≠ .null ∧
      ts.admits t c w = none)
    {r : Row} (hr : ∃ f ∈ ts.formulas.rows, r.cell 1 = .integer f.id) :
    ∃ f ∈ ts.formulas.rows, (r.replace fitted).cell 1 = .integer f.id := by
  rcases Row.replace_cell r fitted 0 with h | h
  · rw [h]
    exact hr
  · obtain ⟨c₀, cs, hcols, hc⟩ := TableName.columns_of_lines ht
    obtain ⟨c, hc', -, -, hadm⟩ := hfit 1 _ h
    simp only [Nat.sub_self, hcols, List.getElem?_cons_zero, Option.some.injEq] at hc'
    subst hc'
    exact Tables.admits_formula hc hadm

theorem Tables.LinesHaveFormulas.insert {ts ts' : Tables} (h : ts.LinesHaveFormulas)
    {t : TableName} {vs : List Cell} {id : Int} (hlen : vs.length = t.columns.length)
    (hins : ts.insert t vs = .ok (ts', id)) : ts'.LinesHaveFormulas := by
  obtain ⟨hv, rfl, rfl⟩ := Tables.insert_ok hins
  intro r hr
  by_cases ht : t = .formulas
  · -- the lines stay, and a formula was added
    subst ht
    obtain ⟨f, hf, hc⟩ := h r hr
    exact ⟨f, List.mem_append_left _ hf, hc⟩
  · rw [Tables.formulas_set ht]
    rcases Tables.mem_lines_set ht hr with hr | hr
    · rw [List.mem_append, List.mem_singleton] at hr
      rcases hr with hr | rfl
      · exact h r (Tables.lines_of ht hr)
      · exact Tables.insert_line_owned ht hlen hv _
    · exact h r hr

theorem Tables.LinesHaveFormulas.assign {ts ts' : Tables} (h : ts.LinesHaveFormulas)
    {t : TableName} {id : Int} {ch : List (Nat × Cell)} {n : Nat}
    (ha : ts.assign t id ch = .ok (ts', n)) : ts'.LinesHaveFormulas := by
  rcases Tables.assign_ok ha with rfl | ⟨fitted, hfit, rfl⟩
  · exact h
  intro r hr
  by_cases ht : t = .formulas
  · -- an assignment never writes the id, so every formula keeps its id
    subst ht
    obtain ⟨f, hf, hc⟩ := h r hr
    refine ⟨if f.id == id then f.replace fitted else f, List.mem_map_of_mem hf, ?_⟩
    split <;> exact hc
  · rw [Tables.formulas_set ht]
    rcases Tables.mem_lines_set ht hr with hr | hr
    · obtain ⟨r₀, hr₀, rfl⟩ := List.mem_map.1 hr
      have howned := h r₀ (Tables.lines_of ht hr₀)
      split
      · exact Tables.replace_line_owned ht hfit howned
      · exact howned
    · exact h r hr

theorem Tables.LinesHaveFormulas.erase {ts : Tables} (h : ts.LinesHaveFormulas) (t : TableName)
    (k : Lookup) : (ts.erase t k).1.LinesHaveFormulas := by
  intro r hr
  cases t with
  | formulas =>
    simp only [Tables.erase, Tables.set, Tables.get, List.mem_append, List.mem_filter] at hr
    -- a line that stays is no orphan, so the formula it names was not erased
    have hno : ∀ g ∈ ts.formulas.rows, k.matches g = true → r.cell 1 ≠ .integer g.id := by
      intro g hg hm hc
      have horphan : ((ts.formulas.rows.filter k.matches).any
          fun f => r.cell 1 == .integer f.id) = true :=
        List.any_eq_true.2 ⟨g, List.mem_filter.2 ⟨hg, hm⟩, by simp [hc]⟩
      rcases hr with ⟨-, hr⟩ | ⟨-, hr⟩ <;> simp [horphan] at hr
    have hline : r ∈ ts.colorants.rows ++ ts.bases.rows := by
      rcases hr with ⟨hr, -⟩ | ⟨hr, -⟩
      · exact List.mem_append_left _ hr
      · exact List.mem_append_right _ hr
    obtain ⟨f, hf, hc⟩ := h r hline
    refine ⟨f, ?_, hc⟩
    simp only [Tables.erase, Tables.set, Tables.get, List.mem_filter]
    refine ⟨hf, ?_⟩
    cases hm : k.matches f
    · rfl
    · exact absurd hc (hno f hf hm)
  | colorants =>
    -- the formulas stay, and every line left was a line before
    simp only [Tables.erase, Tables.set, Tables.get, List.mem_append, List.mem_filter] at hr
    apply h r
    rcases hr with ⟨hr, -⟩ | hr
    · exact List.mem_append_left _ hr
    · exact List.mem_append_right _ hr
  | bases =>
    simp only [Tables.erase, Tables.set, Tables.get, List.mem_append, List.mem_filter] at hr
    apply h r
    rcases hr with hr | ⟨hr, -⟩
    · exact List.mem_append_left _ hr
    · exact List.mem_append_right _ hr

/-- Every line of a database with a schema names a formula that exists. -/
def Database.LinesHaveFormulas (db : Database) : Prop :=
  ∀ ts, db.tables = some ts → ts.LinesHaveFormulas

theorem Database.linesHaveFormulas_writesKeep :
    WritesKeep (fun s s' => Database.LinesHaveFormulas s → Database.LinesHaveFormulas s') :=
  WritesKeep.of_tables (fun hlen hins h => h.insert hlen hins) (fun ha h => h.assign ha)
    (fun _ t k h => h.erase t k) (fun _ hr => by cases hr)

/-! ## Removing a formula that is not there -/

/-- Erasing changes nothing when the lookup concerns no row of the table. -/
theorem Tables.erase_of_none {ts : Tables} {t : TableName} {k : Lookup}
    (h : ∀ r ∈ (ts.get t).rows, k.matches r = false) : ts.erase t k = (ts, 0) := by
  have hgone : (ts.get t).rows.filter k.matches = [] := List.filter_eq_nil_iff.2 (by simpa using h)
  have hkept : (ts.get t).rows.filter (fun r => !k.matches r) = (ts.get t).rows :=
    List.filter_eq_self.2 (by simpa using h)
  unfold Tables.erase
  dsimp only
  rw [hgone, hkept]
  obtain ⟨⟨fr, fl⟩, ⟨cr, cl⟩, ⟨br, bl⟩⟩ := ts
  cases t <;> simp [Tables.set, Tables.get]

/-- **Removing a formula that is not there changes nothing**: no line names it, so neither
erasure of lines finds a row, and neither does the erasure of the formula. -/
theorem deleteFormula_false_unchanged {db db' : Database} (hi : db.LinesHaveFormulas) {id : Int}
    (h : (deleteFormula id).run.run db = (.ok false, db')) : db' = db := by
  obtain ⟨_ | ts⟩ := db
  · rw [deleteFormula_run_none] at h
    cases (Prod.mk.inj h).1
  rw [deleteFormula_run] at h
  obtain ⟨hcount, rfl⟩ := Prod.mk.inj h
  simp only [Except.ok.injEq, decide_eq_false_iff_not] at hcount
  -- the erasures of lines leave the formulas as they were
  have hfs : ((ts.erase .colorants (LineKey.formulaId id).lookup).1.erase .bases
      (LineKey.formulaId id).lookup).1.get .formulas = ts.formulas := rfl
  -- the count is of the formulas with the id, so there are none
  have hnone : ∀ f ∈ ts.formulas.rows, f.id ≠ id := by
    intro f hf hid
    apply hcount
    show 0 < (_ : List Row).length
    rw [hfs]
    exact List.length_pos_of_mem (List.mem_filter.2 ⟨hf, by
      simp [FormulaKey.lookup, Lookup.matches, Row.cell, hid]⟩)
  -- so no line names the id, and no erasure finds a row
  have hline : ∀ r ∈ ts.colorants.rows ++ ts.bases.rows,
      (LineKey.formulaId id).lookup.matches r = false := by
    intro r hr
    obtain ⟨g, hg, hc⟩ := hi ts rfl r hr
    simp [LineKey.lookup, Lookup.matches, hc, hnone g hg]
  have h₁ : ts.erase .colorants (LineKey.formulaId id).lookup = (ts, 0) :=
    Tables.erase_of_none (fun r hr => hline r (List.mem_append_left _ hr))
  have h₂ : ts.erase .bases (LineKey.formulaId id).lookup = (ts, 0) :=
    Tables.erase_of_none (fun r hr => hline r (List.mem_append_right _ hr))
  have h₃ : ts.erase .formulas (FormulaKey.id id).lookup = (ts, 0) :=
    Tables.erase_of_none (fun r hr => by
      simp [FormulaKey.lookup, Lookup.matches, Row.cell, hnone r hr])
  rw [h₁]
  simp only [h₂, h₃]

/-! ## Over every run -/

theorem Database.linesHaveFormulas_initial : Database.initial.LinesHaveFormulas := by
  intro ts h r hr
  cases h
  cases hr

/-- **Referential integrity holds over every run**: in every database that calls of any kind
reach from the initialized one, at any readings of the clock, every line names a formula that
exists; and removing a formula that answers it found none changed nothing. -/
theorem referential_integrity {db : Database}
    (h : Reachable (fun _ => True) (fun _ => True) db) :
    db.LinesHaveFormulas ∧
      ∀ id db', (deleteFormula id).run.run db = (.ok false, db') → db' = db := by
  have hi : db.LinesHaveFormulas :=
    Reachable.invariant Database.linesHaveFormulas_initial
      (fun db c now hdb _ _ =>
        Database.linesHaveFormulas_writesKeep.call (Steady.of_invariant _) now db c hdb) h
  exact ⟨hi, fun _ _ hd => deleteFormula_false_unchanged hi hd⟩

/-- The database after creating a formula with one colorant and then writing, raw, a formula
that does not exist into the colorant's formula column: the raw write is refused. -/
theorem referential_integrity_after_raw_write :
    Reachable (fun _ => True) (fun _ => True)
        ((Call.setColumn "colorants" "formula_id" 1 (.integer 7)).apply ⟨0, 0⟩
          ((Call.createFormula ⟨⟨"Soft Red", "", "", "", ""⟩, [⟨"Red Oxide", 12⟩], []⟩).apply
            ⟨0, 0⟩ Database.initial)) ∧
      ((Call.setColumn "colorants" "formula_id" 1 (.integer 7)).apply ⟨0, 0⟩
          ((Call.createFormula ⟨⟨"Soft Red", "", "", "", ""⟩, [⟨"Red Oxide", 12⟩], []⟩).apply
            ⟨0, 0⟩ Database.initial)).LinesHaveFormulas ∧
      ∀ id db', (deleteFormula id).run.run
          ((Call.setColumn "colorants" "formula_id" 1 (.integer 7)).apply ⟨0, 0⟩
            ((Call.createFormula ⟨⟨"Soft Red", "", "", "", ""⟩, [⟨"Red Oxide", 12⟩], []⟩).apply
              ⟨0, 0⟩ Database.initial)) = (.ok false, db') →
        db' = (Call.setColumn "colorants" "formula_id" 1 (.integer 7)).apply ⟨0, 0⟩
          ((Call.createFormula ⟨⟨"Soft Red", "", "", "", ""⟩, [⟨"Red Oxide", 12⟩], []⟩).apply
            ⟨0, 0⟩ Database.initial) :=
  have h := Reachable.step (Reachable.step Reachable.initial trivial trivial) trivial trivial
  ⟨h, referential_integrity h⟩

end Tintbook.Store
