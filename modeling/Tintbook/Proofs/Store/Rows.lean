import Tintbook.Proofs.Store.Tables
import Tintbook.Proofs.Time.Stamp
/-!
# Records as rows

A record is read from a row column by column, and this module says exactly when that
succeeds: a formula is read from a row whose first five columns after the id hold text and
whose two last hold texts that name instants (`Formula.ofRow_ok_iff`), and likewise for the
lines. The rows the store writes for a record are given names (`Formula.row`,
`Colorant.row`, `Base.row`), and they read back as the record as long as its times are
storable.

A change of a record rewrites some columns of its row. For a formula, the columns rewritten
are the fields the change gives and always the time of last change
(`Formula.find?_changes`); the row then reads as the formula revised (`Formula.revise`), and
a row the store wrote becomes the row of the revised formula.

## What this module delivers

- `Formula.ofRow_ok_iff`, `Colorant.ofRow_ok_iff`, `Base.ofRow_ok_iff`.
- `Formula.row`, `Colorant.row`, `Base.row` and their `ofRow_row`.
- `Row.cell_replace`: a replaced column holds the value given for it, if any.
- `Draft.toFormula`: the formula a draft becomes, whose row is the row the store writes.
- `Formula.revise`, `Formula.changes_fit`, `Formula.ofRow_replace`, `Formula.row_replace`: a
  formula's row after a change reads as, and is, the row of the formula revised; and the same
  for lines (`Colorant.revise`, `Base.revise`).
- `Record.readOne_some`: a record read by a key comes from a row the key concerns.
-/

set_option autoImplicit false

namespace Tintbook.Store

theorem Except.bind_ok_iff {ε α β : Type} {x : Except ε α} {f : α → Except ε β} {b : β} :
    x >>= f = .ok b ↔ ∃ a, x = .ok a ∧ f a = .ok b := by
  cases x <;> simp [bind, Except.bind]

/-! ## Reading a row -/

@[simp] theorem Row.textAt_ok_iff {r : Row} {i : Nat} {name s : String} :
    r.textAt i name = .ok s ↔ r.cell i = .text s := by
  unfold Row.textAt
  split <;> simp_all

@[simp] theorem Row.integerAt_ok_iff {r : Row} {i : Nat} {name : String} {n : Int} :
    r.integerAt i name = .ok n ↔ r.cell i = .integer n := by
  unfold Row.integerAt
  split <;> simp_all

theorem Row.instantAt_ok_iff {r : Row} {i : Nat} {name : String} {t : Instant} :
    r.instantAt i name = .ok t ↔ ∃ s, r.cell i = .text s ∧ readStoredTime s = .ok t := by
  unfold Row.instantAt
  rw [Except.bind_ok_iff]
  constructor
  · rintro ⟨s, hs, h⟩
    refine ⟨s, Row.textAt_ok_iff.1 hs, ?_⟩
    split at h
    · cases h
      assumption
    · cases h
  · rintro ⟨s, hs, h⟩
    exact ⟨s, Row.textAt_ok_iff.2 hs, by simp [h]⟩

/-- A column that holds the stamp of a storable instant reads as that instant. -/
theorem Row.instantAt_stamp {r : Row} {i : Nat} {name : String} {t : Instant}
    (h : r.cell i = .text (stampText t)) (ht : t.Storable) : r.instantAt i name = .ok t :=
  Row.instantAt_ok_iff.2 ⟨_, h, readStoredTime_rfc3339 ht⟩

/-- Reading a column looks at that column only. -/
theorem Row.instantAt_congr {r r' : Row} {i : Nat} (name : String) (h : r'.cell i = r.cell i) :
    r'.instantAt i name = r.instantAt i name := by
  unfold Row.instantAt Row.textAt
  rw [h]

/-- Which rows read as which formula. -/
theorem Formula.ofRow_ok_iff {r : Row} {f : Formula} :
    Formula.ofRow r = .ok f ↔
      f.id = r.id ∧ r.cell 1 = .text f.name ∧ r.cell 2 = .text f.number ∧
      r.cell 3 = .text f.customer ∧ r.cell 4 = .text f.summary ∧ r.cell 5 = .text f.notes ∧
      r.instantAt 6 "created_date" = .ok f.created ∧
      r.instantAt 7 "last_modified" = .ok f.modified := by
  unfold Formula.ofRow
  simp only [Except.bind_ok_iff, pure, Except.pure, Except.ok.injEq]
  constructor
  · rintro ⟨id, hid, name, hname, number, hnumber, customer, hcustomer, summary, hsummary,
      notes, hnotes, created, hcreated, modified, hmodified, rfl⟩
    simp_all [Row.cell]
  · obtain ⟨id, name, number, customer, summary, notes, created, modified⟩ := f
    rintro ⟨rfl, h1, h2, h3, h4, h5, h6, h7⟩
    exact ⟨_, by simp [Row.cell], _, Row.textAt_ok_iff.2 h1, _, Row.textAt_ok_iff.2 h2, _,
      Row.textAt_ok_iff.2 h3, _, Row.textAt_ok_iff.2 h4, _, Row.textAt_ok_iff.2 h5, _, h6, _,
      h7, rfl⟩

/-- A row that reads as a formula has a value in each of its seven columns. -/
theorem Formula.length_of_ofRow {r : Row} {f : Formula} (h : Formula.ofRow r = .ok f) :
    7 ≤ r.cells.length := by
  obtain ⟨-, -, -, -, -, -, -, h7⟩ := Formula.ofRow_ok_iff.1 h
  obtain ⟨s, hs, -⟩ := Row.instantAt_ok_iff.1 h7
  by_contra hlt
  simp only [Row.cell, List.getD_eq_getElem?_getD, List.getElem?_eq_none (by omega : r.cells.length ≤ 6),
    Option.getD_none] at hs
  cases hs

/-- The time of last change a formula is read with is valid. -/
theorem Formula.modified_valid {r : Row} {f : Formula} (h : Formula.ofRow r = .ok f) :
    f.modified.Valid := by
  obtain ⟨-, -, -, -, -, -, -, h7⟩ := Formula.ofRow_ok_iff.1 h
  obtain ⟨s, -, hs⟩ := Row.instantAt_ok_iff.1 h7
  exact readStoredTime_valid hs

/-- Which rows read as which colorant. -/
theorem Colorant.ofRow_ok_iff {r : Row} {c : Colorant} :
    Colorant.ofRow r = .ok c ↔
      c.id = r.id ∧ r.cell 1 = .integer c.formulaId ∧ r.cell 2 = .text c.name ∧
      r.cell 3 = .integer c.amount := by
  unfold Colorant.ofRow
  simp only [Except.bind_ok_iff, pure, Except.pure, Except.ok.injEq]
  constructor
  · rintro ⟨id, hid, fid, hfid, name, hname, amount, hamount, rfl⟩
    simp_all [Row.cell]
  · obtain ⟨id, fid, name, amount⟩ := c
    rintro ⟨rfl, h1, h2, h3⟩
    exact ⟨_, by simp [Row.cell], _, Row.integerAt_ok_iff.2 h1, _, Row.textAt_ok_iff.2 h2, _,
      Row.integerAt_ok_iff.2 h3, rfl⟩

/-- Which rows read as which base. -/
theorem Base.ofRow_ok_iff {r : Row} {b : Base} :
    Base.ofRow r = .ok b ↔
      b.id = r.id ∧ r.cell 1 = .integer b.formulaId ∧ r.cell 2 = .text b.base ∧
      r.cell 3 = .text b.product := by
  unfold Base.ofRow
  simp only [Except.bind_ok_iff, pure, Except.pure, Except.ok.injEq]
  constructor
  · rintro ⟨id, hid, fid, hfid, base, hbase, product, hproduct, rfl⟩
    simp_all [Row.cell]
  · obtain ⟨id, fid, base, product⟩ := b
    rintro ⟨rfl, h1, h2, h3⟩
    exact ⟨_, by simp [Row.cell], _, Row.integerAt_ok_iff.2 h1, _, Row.textAt_ok_iff.2 h2, _,
      Row.textAt_ok_iff.2 h3, rfl⟩

/-! ## The rows the store writes -/

/-- The row of a formula: its fields as text and its times as stamps. -/
def Formula.row (f : Formula) : Row :=
  ⟨f.id, [.text f.name, .text f.number, .text f.customer, .text f.summary, .text f.notes,
    .text (stampText f.created), .text (stampText f.modified)]⟩

/-- The row of a colorant line. -/
def Colorant.row (c : Colorant) : Row :=
  ⟨c.id, [.integer c.formulaId, .text c.name, .integer c.amount]⟩

/-- The row of a base line. -/
def Base.row (b : Base) : Row :=
  ⟨b.id, [.integer b.formulaId, .text b.base, .text b.product]⟩

/-- The formula a draft becomes, with an id, when it is created at an instant. -/
def Draft.toFormula (d : Draft) (id : Int) (now : Instant) : Formula :=
  ⟨id, d.name, d.number, d.customer, d.summary, d.notes, now, now⟩

/-- The row the store writes for a draft is the row of the formula the draft becomes. -/
theorem Draft.row_toFormula (d : Draft) (id : Int) (now : Instant) :
    Formula.row (Draft.toFormula d id now) = ⟨id, @Record.cells Formula _ d now⟩ := rfl

theorem Formula.ofRow_row {f : Formula} (hc : f.created.Storable) (hm : f.modified.Storable) :
    Formula.ofRow (Formula.row f) = .ok f :=
  Formula.ofRow_ok_iff.2 ⟨rfl, rfl, rfl, rfl, rfl, rfl, Row.instantAt_stamp rfl hc,
    Row.instantAt_stamp rfl hm⟩

theorem Colorant.ofRow_row (c : Colorant) : Colorant.ofRow (Colorant.row c) = .ok c :=
  Colorant.ofRow_ok_iff.2 ⟨rfl, rfl, rfl, rfl⟩

theorem Base.ofRow_row (b : Base) : Base.ofRow (Base.row b) = .ok b :=
  Base.ofRow_ok_iff.2 ⟨rfl, rfl, rfl, rfl⟩

/-! ## Changing a row -/

@[simp] theorem Row.replace_id (r : Row) (ch : List (Nat × Cell)) : (r.replace ch).id = r.id :=
  rfl

@[simp] theorem Row.replace_length (r : Row) (ch : List (Nat × Cell)) :
    (r.replace ch).cells.length = r.cells.length := by
  simp [Row.replace]

/-- A column of a row after a replacement holds the first value given for it, or else the
value it held. -/
theorem Row.cell_replace (r : Row) (ch : List (Nat × Cell)) {k : Nat}
    (hk : k < r.cells.length) :
    (r.replace ch).cell (k + 1) = ((ch.find? (·.1 == k + 1)).map (·.2)).getD (r.cell (k + 1)) := by
  simp only [Row.replace, Row.cell]
  rw [List.getD_eq_getElem?_getD, List.getElem?_mapIdx, List.getElem?_eq_getElem hk]
  simp only [Option.map_some, Option.getD_some]
  rw [List.getD_eq_getElem?_getD, List.getElem?_eq_getElem hk, Option.getD_some]
  split
  · rename_i j w h
    simp [h]
  · rename_i h
    simp [h]

/-- Two rows with the same id and as many columns are equal when every column is. -/
theorem Row.ext_cell {r r' : Row} (hid : r.id = r'.id) (hlen : r.cells.length = r'.cells.length)
    (h : ∀ k < r.cells.length, r.cell (k + 1) = r'.cell (k + 1)) : r = r' := by
  obtain ⟨id, cells⟩ := r
  obtain ⟨id', cells'⟩ := r'
  simp only [Row.mk.injEq]
  refine ⟨hid, List.ext_getElem hlen (fun k hk hk' => ?_)⟩
  have := h k hk
  simp only [Row.cell, List.getD_eq_getElem?_getD, List.getElem?_eq_getElem hk,
    List.getElem?_eq_getElem hk', Option.getD_some] at this
  exact this

/-- The first change a list of optional text fields makes to a column: the first field of
that column that is given. -/
theorem find?_textChanges (fs : List (Nat × Option String)) (k : Nat) :
    (textChanges fs).find? (·.1 == k) =
      (fs.find? (fun x => x.1 == k && x.2.isSome)).bind
        (fun x => x.2.map fun s => (x.1, .text s)) := by
  induction fs with
  | nil => rfl
  | cons x fs ih =>
    obtain ⟨j, v⟩ := x
    cases v with
    | none => simpa [textChanges] using ih
    | some s =>
      by_cases hj : j = k
      · subst hj
        simp [textChanges]
      · simp [textChanges, hj]
        simpa [textChanges] using ih

/-! ### Formulas -/

/-- A formula after a change: the fields the change gives replace its own, and its time of
last change is set. -/
def Formula.revise (f : Formula) (p : Revision) (modified : Instant) : Formula :=
  { f with
    name := p.name.getD f.name
    number := p.number.getD f.number
    customer := p.customer.getD f.customer
    summary := p.summary.getD f.summary
    notes := p.notes.getD f.notes
    modified := modified }

/-- What a change of a formula writes to each column: the fields it gives, nothing to the
time of creation, and the later of the clock and the old time of last change to the last. -/
theorem Formula.find?_changes (p : Revision) (f : Formula) (now : Instant) (k : Nat) :
    ((Record.changes p f now).find? (·.1 == k)).map (·.2) =
      match k with
      | 1 => p.name.map .text
      | 2 => p.number.map .text
      | 3 => p.customer.map .text
      | 4 => p.summary.map .text
      | 5 => p.notes.map .text
      | 7 => some (.text (stampText (Instant.latest now f.modified)))
      | _ => none := by
  simp only [Record.changes, List.find?_append, find?_textChanges]
  -- each column is given by at most one field, so only that field's case matters
  rcases k with _ | _ | _ | _ | _ | _ | _ | _ | k
  · simp
  · cases p.name <;> simp
  · cases p.number <;> simp
  · cases p.customer <;> simp
  · cases p.summary <;> simp
  · cases p.notes <;> simp
  · simp
  · simp
  · simp

/-- Changes of text fields at positions of text columns keep their values as written. -/
theorem textChanges_fit {t : TableName} {fs : List (Nat × Option String)}
    (hfs : ∀ x ∈ fs, 0 < x.1 ∧ ∃ c, t.columns[x.1 - 1]? = some c ∧ c.affinity = .text) :
    ∀ q ∈ textChanges fs, 0 < q.1 ∧ ∃ c, t.columns[q.1 - 1]? = some c ∧ q.2.fit c.affinity = q.2 := by
  intro q hq
  obtain ⟨⟨k, v⟩, hk, hv⟩ := List.mem_filterMap.1 hq
  cases v with
  | none => cases hv
  | some s =>
    obtain rfl := Option.some.inj hv
    obtain ⟨h0, c, hc, ha⟩ := hfs _ hk
    exact ⟨h0, c, hc, by simp [ha, Cell.fit]⟩

/-- Every change of a formula names one of its text columns and holds text, which the column
keeps as it is. -/
theorem Formula.changes_fit (p : Revision) (f : Formula) (now : Instant) :
    ∀ q ∈ Record.changes p f now, 0 < q.1 ∧
      ∃ c, TableName.formulas.columns[q.1 - 1]? = some c ∧ q.2.fit c.affinity = q.2 := by
  intro q hq
  rcases List.mem_append.1 hq with hq | hq
  · exact textChanges_fit (by simp [TableName.columns, Column.textual]) q hq
  · rw [List.mem_singleton] at hq
    subst hq
    simp [TableName.columns, Column.textual, Cell.fit]

/-- A row that reads as a formula, changed by a revision at an instant, reads as the formula
revised, its time of last change the later of the clock and the old one, as long as that
time can be stored. -/
theorem Formula.ofRow_replace {r : Row} {f : Formula} (h : Formula.ofRow r = .ok f)
    (p : Revision) (now : Instant) (hl : (Instant.latest now f.modified).Storable) :
    Formula.ofRow (r.replace (Record.changes p f now)) =
      .ok (Formula.revise f p (Instant.latest now f.modified)) := by
  have hlen := Formula.length_of_ofRow h
  obtain ⟨hid, h1, h2, h3, h4, h5, h6, h7⟩ := Formula.ofRow_ok_iff.1 h
  -- each column of the changed row is read through what the change writes to it
  have hcell : ∀ k, k < 7 → (r.replace (Record.changes p f now)).cell (k + 1) =
      (((Record.changes p f now).find? (·.1 == k + 1)).map (·.2)).getD (r.cell (k + 1)) :=
    fun k hk => Row.cell_replace r _ (by omega)
  refine Formula.ofRow_ok_iff.2 ⟨hid, ?_, ?_, ?_, ?_, ?_, ?_, ?_⟩ <;> simp only [Formula.revise]
  · rw [hcell 0 (by omega), Formula.find?_changes]
    cases p.name <;> simp [h1]
  · rw [hcell 1 (by omega), Formula.find?_changes]
    cases p.number <;> simp [h2]
  · rw [hcell 2 (by omega), Formula.find?_changes]
    cases p.customer <;> simp [h3]
  · rw [hcell 3 (by omega), Formula.find?_changes]
    cases p.summary <;> simp [h4]
  · rw [hcell 4 (by omega), Formula.find?_changes]
    cases p.notes <;> simp [h5]
  · -- the time of creation is not written
    have h6' : (r.replace (Record.changes p f now)).cell 6 = r.cell 6 := by
      rw [hcell 5 (by omega), Formula.find?_changes]
      rfl
    rw [Row.instantAt_congr _ h6']
    exact h6
  · exact Row.instantAt_stamp (by rw [hcell 6 (by omega), Formula.find?_changes]; rfl) hl

/-- The row of a formula after a change is the row of the formula revised. -/
theorem Formula.row_replace (f : Formula) (p : Revision) (now : Instant) :
    (Formula.row f).replace (Record.changes p f now) =
      Formula.row (Formula.revise f p (Instant.latest now f.modified)) := by
  refine Row.ext_cell rfl (by simp [Formula.row]) (fun k hk => ?_)
  have hk7 : k < 7 := by simpa [Formula.row] using hk
  rw [Row.cell_replace _ _ (by simpa [Formula.row] using hk7), Formula.find?_changes]
  -- column by column: each of the five fields, the time of creation, the time of last change
  rcases k with _ | _ | _ | _ | _ | _ | _ | k
  · cases h : p.name <;> simp [Formula.revise, Formula.row, Row.cell, h]
  · cases h : p.number <;> simp [Formula.revise, Formula.row, Row.cell, h]
  · cases h : p.customer <;> simp [Formula.revise, Formula.row, Row.cell, h]
  · cases h : p.summary <;> simp [Formula.revise, Formula.row, Row.cell, h]
  · cases h : p.notes <;> simp [Formula.revise, Formula.row, Row.cell, h]
  · rfl
  · rfl
  · omega

/-! ### Lines -/

/-- The colorant line a draft becomes with an id. -/
def ColorantDraft.toColorant (d : ColorantDraft) (id : Int) : Colorant :=
  ⟨id, d.formulaId, d.line.name, d.line.amount⟩

/-- The base line a draft becomes with an id. -/
def BaseDraft.toBase (d : BaseDraft) (id : Int) : Base :=
  ⟨id, d.formulaId, d.line.base, d.line.product⟩

/-- A colorant line after a change: the fields the change gives replace its own. -/
def Colorant.revise (c : Colorant) (p : ColorantPatch) : Colorant :=
  { c with name := p.name.getD c.name, amount := p.amount.getD c.amount }

/-- A base line after a change: the fields the change gives replace its own. -/
def Base.revise (b : Base) (p : BasePatch) : Base :=
  { b with base := p.base.getD b.base, product := p.product.getD b.product }

theorem Colorant.row_replace (c : Colorant) (p : ColorantPatch) (now : Instant) :
    (Colorant.row c).replace (Record.changes p c now) = Colorant.row (Colorant.revise c p) := by
  cases hn : p.name <;> cases ha : p.amount <;>
    simp [Record.changes, textChanges, Row.replace, Colorant.row, Colorant.revise, hn, ha]

theorem Base.row_replace (b : Base) (p : BasePatch) (now : Instant) :
    (Base.row b).replace (Record.changes p b now) = Base.row (Base.revise b p) := by
  cases hb : p.base <;> cases hp : p.product <;>
    simp [Record.changes, textChanges, Row.replace, Base.row, Base.revise, hb, hp]

theorem Colorant.changes_fit (p : ColorantPatch) (c : Colorant) (now : Instant) :
    ∀ q ∈ Record.changes p c now, 0 < q.1 ∧
      ∃ col, TableName.colorants.columns[q.1 - 1]? = some col ∧ q.2.fit col.affinity = q.2 := by
  intro q hq
  rcases List.mem_append.1 hq with hq | hq
  · exact textChanges_fit (by simp [TableName.columns, Column.textual]) q hq
  · -- the amount goes to an integer column as an integer
    cases ha : p.amount with
    | none => simp [ha] at hq
    | some n =>
      simp only [ha, Option.map_some, Option.toList_some,
        List.mem_singleton] at hq
      subst hq
      simp [TableName.columns, Cell.fit]

theorem Base.changes_fit (p : BasePatch) (b : Base) (now : Instant) :
    ∀ q ∈ Record.changes p b now, 0 < q.1 ∧
      ∃ col, TableName.bases.columns[q.1 - 1]? = some col ∧ q.2.fit col.affinity = q.2 :=
  textChanges_fit (by simp [TableName.columns, Column.textual])

/-! ## Reading by a key -/

/-- A record read by a key is read from a row of its table that the key concerns. -/
theorem Record.readOne_some {α : Type} [Record α] {k : Record.Key α} {ts : Tables} {a : α}
    (h : Record.readOne α k { tables := some ts } = .ok (some a)) :
    ∃ r ∈ (ts.get (Record.table α)).rows, (Record.lookup k).matches r = true ∧
      Record.ofRow r = .ok a := by
  unfold Record.readOne Record.rowsOf at h
  simp only [Record.tablesOf_some, bind, Except.bind, pure, Except.pure] at h
  split at h
  · rename_i r hr
    unfold Record.decode at h
    cases hd : Record.ofRow (α := α) r with
    | error e => simp [hd, Except.mapError] at h
    | ok b =>
      simp only [hd, Except.mapError, Except.ok.injEq, Option.some.injEq] at h
      subst h
      exact ⟨r, List.mem_of_find?_eq_some hr, List.find?_some hr, hd⟩
  · cases h

end Tintbook.Store
