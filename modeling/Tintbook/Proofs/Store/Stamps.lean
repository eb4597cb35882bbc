import Tintbook.Proofs.Store.Rows
/-!
# Stored times over every run

A row of the formulas table holds two times as text: when the formula was created, and when
it was last changed. This module follows them through every call a client makes with the
records' own operations, from any database a run reaches, raw writes included.

A call at an instant does one of three things to the formulas table (`FormulaWrite`): it only
removes rows; it appends, with an id above every id there, the row of a draft stamped with
the clock at both times; or it rewrites the row of a formula it has read, with a revision
whose time of last change is the later of the clock and the formula's own
(`Instant.latest`). Work on lines, reads, and workflows that fail leave the table as it was
(`SameFormulas`).

From that, for every row after the call (`stamps_kept`): its time of creation is the text
it was; if it read as a formula before, it still reads as one, created at the same time, and
last changed at the time it was or at the later of the clock and that time, so never
earlier; and a row with a new id reads as a formula created and last changed at the clock.

Reading back what was written needs a time the store can write and read: one within the
years 0 to 9999 (`Instant.Storable`). The clock always is one. A time planted by a raw write
need not be: late on 31 December 9999 in a zone behind UTC is an instant of the year 10000,
which a change keeps as the later time and writes as a text that no longer reads
(`stamp_of_year_ten_thousand_unreadable`). So `stamps_kept` asks of the database that every
time of last change that reads lies before the year 10000.

## What this module delivers

- `Database.formulaRows`, `SameFormulas`, `sameFormulas_lines`: the formulas table, and
  work on lines leaves it as it was.
- `FormulaWrite` and `Call.formulaWrite`: what each call does to the formulas table.
- `StampsKept` and `FormulaWrite.stampsKept`: what such a write keeps of the stored times.
- `stamps_kept`, with its witness, and `stamp_of_year_ten_thousand_unreadable`.
-/

set_option autoImplicit false

namespace Tintbook.Store

/-! ## The formulas table -/

/-- The rows of the formulas table; none before the schema exists. -/
def Database.formulaRows (db : Database) : List Row :=
  (db.tables.map fun ts => ts.formulas.rows).getD []

@[simp] theorem Database.formulaRows_some (ts : Tables) :
    ({ tables := some ts } : Database).formulaRows = ts.formulas.rows := rfl

/-- The rows of the formulas table are as they were. -/
def SameFormulas (s s' : Database) : Prop := s'.formulaRows = s.formulaRows

theorem sameFormulas_steady : Steady SameFormulas :=
  ⟨fun _ => rfl, fun hab hbc => hbc.trans hab⟩

/-- Writes to the tables of lines leave the formulas table as it was. -/
theorem sameFormulas_lines : LineWritesKeep SameFormulas where
  insert _ _ _ _ _ ht _ h := congrArg Table.rows (Tables.insert_get_of_ne h (Ne.symm ht))
  assign _ _ _ _ _ _ ht h := congrArg Table.rows (Tables.assign_get_of_ne h (Ne.symm ht))
  erase _ _ k ht := congrArg Table.rows (Tables.erase_formulas k ht)

/-! ## What a call does to the formulas table -/

/-- The three things a call at `now` can do to the rows of the formulas table. -/
inductive FormulaWrite (now : Instant) (rows : List Row) : List Row → Prop
  /-- Keep some of the rows, in order. -/
  | drop {rows' : List Row} : rows'.Sublist rows → FormulaWrite now rows rows'
  /-- Append the row of a draft created at `now`, with an id above every id there. -/
  | add (d : Draft) (id : Int) : (∀ r ∈ rows, r.id < id) →
      FormulaWrite now rows (rows ++ [Formula.row (Draft.toFormula d id now)])
  /-- Rewrite, with a revision at `now`, the row holding the id of a formula read from it. -/
  | revise (r : Row) (f : Formula) (p : Revision) : r ∈ rows → Formula.ofRow r = .ok f →
      FormulaWrite now rows
        (rows.map fun x => if x.id == f.id then x.replace (Record.changes p f now) else x)

theorem FormulaWrite.refl (now : Instant) (rows : List Row) : FormulaWrite now rows rows :=
  .drop (List.Sublist.refl rows)

section Writes

variable {now : Instant} {db : Database}

/-- Creating a formula record appends the draft's row with the next id, or writes nothing. -/
theorem FormulaWrite.create (hm : db.Marked) (d : Draft) :
    FormulaWrite now db.formulaRows ((Record.create Formula d now).run.run db).2.formulaRows := by
  rw [Record.create_run]
  split
  · exact .refl _ _
  · split
    · exact .refl _ _
    · rename_i ts hts
      split
      · exact .refl _ _
      · rename_i ts' id hins
        obtain ⟨-, rfl, rfl⟩ := Tables.insert_ok hins
        obtain rfl := Record.eq_of_tablesOf hts
        -- the next id passes every id of the table, each at most the mark
        refine .add d _ (fun r hr => ?_)
        have := (hm ts rfl .formulas).2 r hr
        simp only [Record.table]
        omega

/-- Changing a formula record rewrites the row it read, or writes nothing. -/
theorem FormulaWrite.update (k : FormulaKey) (p : Revision) :
    FormulaWrite now db.formulaRows
      ((Record.update Formula k p now).run.run db).2.formulaRows := by
  rw [Record.update_run]
  split
  · exact .refl _ _
  · split
    · exact .refl _ _
    · exact .refl _ _
    · rename_i current hread
      split
      · exact .refl _ _
      · split
        · exact .refl _ _
        · rename_i ts hts
          split
          · exact .refl _ _
          · rename_i ts' n hassign
            obtain rfl := Record.eq_of_tablesOf hts
            obtain ⟨r, hr, -, hdec⟩ := Record.readOne_some hread
            -- every change names a text column, so the assignment writes it as given
            rcases Tables.assign_ok_eq hassign (Formula.changes_fit p current now) with rfl | rfl
            · exact .refl _ _
            · exact .revise r current p hr hdec

/-- Removing formula records only drops rows. -/
theorem FormulaWrite.delete (k : FormulaKey) :
    FormulaWrite now db.formulaRows ((Record.delete Formula k).run.run db).2.formulaRows := by
  rw [Record.delete_run]
  split
  · exact .refl _ _
  · rename_i ts hts
    obtain rfl := Record.eq_of_tablesOf hts
    exact .drop (Tables.erase_get ts _ _ .formulas).1

/-- Work that leaves the formulas table as it was writes nothing to it. -/
theorem FormulaWrite.of_keeps {α : Type} {w : Work α} (hw : Work.Keeps SameFormulas w) :
    FormulaWrite now db.formulaRows (w.run.run db).2.formulaRows := by
  rw [hw db]
  exact .refl _ _

/-- A workflow that changes nothing, or that after a first write leaves the formulas table as
that write left it, does to the table what the first write does. -/
theorem FormulaWrite.of_first {s s₀ s' : Database} (h : s' = s ∨ SameFormulas s₀ s')
    (hw : FormulaWrite now s.formulaRows s₀.formulaRows) :
    FormulaWrite now s.formulaRows s'.formulaRows := by
  rcases h with rfl | h
  · exact .refl _ _
  · unfold SameFormulas at h
    rw [h]
    exact hw

end Writes

/-- **Every call made with the records' own operations does one of the three things to the
formulas table.** -/
theorem Call.formulaWrite {db : Database} (hm : db.Marked) {c : Call} (hc : c.typed = true)
    (now : Instant) : FormulaWrite now db.formulaRows (c.apply now db).formulaRows := by
  cases c with
  | createSchema =>
    simp only [Call.apply, Database.createSchema]
    split
    · exact .refl _ _
    · rename_i hnone
      simp only [Database.formulaRows, hnone]
      exact .refl _ _
  | createFormula nf =>
    simp only [Call.apply]
    exact .of_first ((sameFormulas_lines.lineOps sameFormulas_steady now).createFormula
      sameFormulas_steady nf db) (.create hm nf.draft)
  | updateFormula id a =>
    simp only [Call.apply]
    exact .of_first ((sameFormulas_lines.lineOps sameFormulas_steady now).updateFormula
      sameFormulas_steady id a db) (.update _ _)
  | deleteFormula id =>
    simp only [Call.apply]
    obtain ⟨_ | ts⟩ := db
    · rw [deleteFormula_run_none]
      exact .refl _ _
    · -- each of the three erasures only drops rows of the formulas table
      rw [deleteFormula_run]
      exact .drop ((Tables.erase_formulas_sublist _ _ _).trans
        ((Tables.erase_formulas_sublist _ _ _).trans (Tables.erase_formulas_sublist _ _ _)))
  | formula w =>
    cases w with
    | create d =>
      simp only [Call.apply, TableWrite.run, Work.run_discard_snd]
      exact .create hm d
    | update k p =>
      simp only [Call.apply, TableWrite.run, Work.run_discard_snd]
      exact .update k p
    | delete k =>
      simp only [Call.apply, TableWrite.run, Work.run_discard_snd]
      exact .delete k
  | colorant w =>
    have hl := sameFormulas_lines.lineOps sameFormulas_steady now
    exact .of_keeps (Work.Keeps.tableWrite hl.colorantCreate hl.colorantUpdate hl.colorantDelete)
  | base w =>
    have hl := sameFormulas_lines.lineOps sameFormulas_steady now
    exact .of_keeps (Work.Keeps.tableWrite hl.baseCreate hl.baseUpdate hl.baseDelete)
  | setColumn => cases hc

/-! ## What a write keeps of the stored times -/

/-- What a call at `now` keeps of the stored times in a row of the formulas table after it,
against the rows before it. -/
structure StampsKept (now : Instant) (before : List Row) (r' : Row) : Prop where
  /-- The time of creation of a row is never written. -/
  created : ∀ r ∈ before, r.id = r'.id → r'.cell 6 = r.cell 6
  /-- A row that read as a formula still does, created at the same time, and last changed
  at the time it was or at the later of the clock and that time: never earlier. -/
  reads : ∀ r ∈ before, r.id = r'.id → ∀ f, Formula.ofRow r = .ok f →
    ∃ f', Formula.ofRow r' = .ok f' ∧ f'.created = f.created ∧
      (f'.modified = f.modified ∨ f'.modified = Instant.latest now f.modified) ∧
      f'.modified.before f.modified = false
  /-- A row with a new id reads as a formula created and last changed at the clock. -/
  fresh : (∀ r ∈ before, r.id ≠ r'.id) →
    ∃ f', Formula.ofRow r' = .ok f' ∧ f'.created = now ∧ f'.modified = now

section Kept

variable {now : Instant} {rows : List Row}

/-- A row that was there keeps everything. -/
theorem StampsKept.of_mem (huniq : rows.Pairwise (fun a b => a.id < b.id)) {r' : Row}
    (hr' : r' ∈ rows) : StampsKept now rows r' where
  created r hr hid := by rw [Row.eq_of_id huniq hr hr' hid]
  reads r hr hid f hf := by
    obtain rfl := Row.eq_of_id huniq hr hr' hid
    exact ⟨f, hf, rfl, Or.inl rfl, Instant.before_self _⟩
  fresh h := absurd rfl (h r' hr')

/-- The row of a draft created at `now`, with an id above every id there, reads as the
formula the draft becomes. -/
theorem StampsKept.of_add {d : Draft} {id : Int} (hid : ∀ r ∈ rows, r.id < id)
    (hnow : now.Storable) : StampsKept now rows (Formula.row (Draft.toFormula d id now)) where
  created r hr h := absurd h (Int.ne_of_lt (hid r hr))
  reads r hr h := absurd h (Int.ne_of_lt (hid r hr))
  fresh _ := ⟨_, Formula.ofRow_row hnow hnow, rfl, rfl⟩

/-- The row of a formula rewritten with a revision keeps its time of creation and reads as
the revised formula, as long as the time it is given can be stored. -/
theorem StampsKept.of_revise (huniq : rows.Pairwise (fun a b => a.id < b.id)) {r : Row}
    {f : Formula} (hr : r ∈ rows) (hf : Formula.ofRow r = .ok f) (p : Revision)
    (hl : (Instant.latest now f.modified).Storable) :
    StampsKept now rows (r.replace (Record.changes p f now)) where
  created r₀ hr₀ hid := by
    obtain rfl := Row.eq_of_id huniq hr₀ hr hid
    -- no change writes the sixth column
    have hlen := Formula.length_of_ofRow hf
    rw [Row.cell_replace _ _ (by omega), Formula.find?_changes]
    rfl
  reads r₀ hr₀ hid g hg := by
    obtain rfl := Row.eq_of_id huniq hr₀ hr hid
    obtain rfl : g = f := by
      rw [hf] at hg
      exact (Except.ok.inj hg).symm
    exact ⟨_, Formula.ofRow_replace hf p now hl, rfl, Or.inr rfl, Instant.before_latest _ _⟩
  fresh h := absurd rfl (h r hr)

/-- **What a write to the formulas table keeps of the stored times**, when the clock and
every time of last change that reads lie before the year 10000. -/
theorem FormulaWrite.stampsKept {rows' : List Row} (hw : FormulaWrite now rows rows')
    (huniq : rows.Pairwise (fun a b => a.id < b.id)) (hnow : now.Storable)
    (hbelow : ∀ r ∈ rows, ∀ f, Formula.ofRow r = .ok f →
      f.modified.seconds < (Instant.startOfYear 10000).seconds) :
    ∀ r' ∈ rows', StampsKept now rows r' := by
  cases hw with
  | drop hs => exact fun r' hr' => .of_mem huniq (hs.subset hr')
  | add d id hid =>
    intro r' hr'
    rw [List.mem_append, List.mem_singleton] at hr'
    rcases hr' with hr' | rfl
    · exact .of_mem huniq hr'
    · exact .of_add hid hnow
  | revise r f p hr hf =>
    intro r' hr'
    obtain ⟨x, hx, rfl⟩ := List.mem_map.1 hr'
    split
    · rename_i hxf
      -- the row rewritten is the one the formula was read from, the only one with its id
      have hid : x.id = r.id := by
        rw [beq_iff_eq] at hxf
        rw [hxf, (Formula.ofRow_ok_iff.1 hf).1]
      obtain rfl := Row.eq_of_id huniq hx hr hid
      exact .of_revise huniq hx hf p
        (Instant.storable_latest hnow (Formula.modified_valid hf) (hbelow x hx f hf))
    · exact .of_mem huniq hx

end Kept

/-! ## Over every run -/

/-- **Stored times over every run.** After any run of calls of every kind, raw writes
included, at any readings of the clock, a call with the records' own operations at a clock
before the year 10000, on a database whose times of last change that read lie before the
year 10000, never writes a time of creation; leaves every row that read as a formula reading
as one, created at the same time and last changed at the same time or at the later of the
clock and that time, never earlier; and stamps a new row with the clock at both times. -/
theorem stamps_kept {db : Database} {c : Call} {now : Instant}
    (hdb : Reachable (fun _ => True) (fun _ => True) db) (hc : c.typed = true)
    (hnow : now.Storable)
    (hbelow : ∀ r ∈ db.formulaRows, ∀ f, Formula.ofRow r = .ok f →
      f.modified.seconds < (Instant.startOfYear 10000).seconds) :
    ∀ r' ∈ (c.apply now db).formulaRows, StampsKept now db.formulaRows r' := by
  have hm := Database.marked_of_reachable hdb
  -- the ids of the formulas table increase, so no two rows share one
  have huniq : db.formulaRows.Pairwise (fun a b => a.id < b.id) := by
    obtain ⟨_ | ts⟩ := db
    · exact List.Pairwise.nil
    · exact (hm ts rfl .formulas).1
  exact (Call.formulaWrite hm hc now).stampsKept huniq hnow hbelow

/-- A formula created at the epoch and changed a day later keeps its time of creation, and
is last changed at the later clock. -/
theorem stamps_kept_on_update :
    let db := (Call.createFormula ⟨⟨"Soft Red", "", "", "", ""⟩, [], []⟩).apply ⟨0, 0⟩
      Database.initial
    (⟨86400, 0⟩ : Instant).Storable ∧
      (∀ r ∈ db.formulaRows, ∀ f, Formula.ofRow r = .ok f →
        f.modified.seconds < (Instant.startOfYear 10000).seconds) ∧
      ∀ r' ∈ ((Call.updateFormula 1 ⟨{ summary := some "matte" }, none, none⟩).apply
          ⟨86400, 0⟩ db).formulaRows,
        StampsKept ⟨86400, 0⟩ db.formulaRows r' := by
  intro db
  have hall : ∀ r ∈ db.formulaRows, ((Formula.ofRow r).toOption.all fun f =>
      decide (f.modified.seconds < (Instant.startOfYear 10000).seconds)) = true := by
    decide +kernel
  have hbelow : ∀ r ∈ db.formulaRows, ∀ f, Formula.ofRow r = .ok f →
      f.modified.seconds < (Instant.startOfYear 10000).seconds := by
    intro r hr f hf
    have h := hall r hr
    rw [hf] at h
    simpa only [Except.toOption, Option.all_some, decide_eq_true_eq] using h
  exact ⟨by decide, hbelow, stamps_kept (.step .initial trivial trivial) rfl (by decide) hbelow⟩

/-- A time of last change planted by a raw write, late on 31 December 9999 in a zone an hour
behind UTC, is an instant of the year 10000: the formula still reads, but after a change,
which keeps that instant as the later time, its row no longer reads. -/
theorem stamp_of_year_ten_thousand_unreadable :
    let planted := (Call.setColumn "formulas" "last_modified" 1
      (.text "9999-12-31T23:30:00-01:00")).apply ⟨0, 0⟩
        ((Call.createFormula ⟨⟨"Soft Red", "", "", "", ""⟩, [], []⟩).apply ⟨0, 0⟩
          Database.initial)
    let changed := (Call.formula (.update (.id 1) { summary := some "matte" })).apply ⟨0, 0⟩
      planted
    (getFormula 1 planted).isOk = true ∧ (getFormula 1 changed).isOk = false := by
  decide +kernel

end Tintbook.Store
