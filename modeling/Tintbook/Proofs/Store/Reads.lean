import Tintbook.Proofs.Store.Change
/-!
# Reading records

Records of a kind are read in three ways: all of them, those a key concerns, and the first
of those. Each way reads rows of one table in increasing id order and turns each row it
reads into a record, and one row that does not read fails the whole read. This module says
exactly which rows each way reads, on every database whose tables keep their rows in id
order, whatever the rows hold (`Record.ReadSpec`):

- reading all succeeds exactly when the table exists and each of its rows reads, and then
  gives the record of each row, each row once, in increasing id order;
- reading by a key succeeds exactly when the table exists and each row the key concerns
  reads, and then gives the records of those rows in increasing id order; where reading all
  succeeds, it gives the records of that list that the key selects;
- reading one gives nothing exactly when the table exists and no row is one the key
  concerns, and a record exactly when the row with the least id among those the key
  concerns reads as it; so whenever reading by a key succeeds, reading one gives the first
  record of that list.

Reading one reads a single row where reading by the key reads them all. On a table where a
later row the key concerns does not read, reading one succeeds and reading by the key fails
(`read_paths_agree_on_planted`).

## What this module delivers

- `mapM_ok_iff`, `exists_forall₂_iff`: a traversal that may fail, item by item.
- `Record.Reads`, and the reads on tables and without them: `Record.readAll_tables`,
  `Record.readMatching_tables`, `Record.readOne_find_some`, `Record.readOne_find_none`,
  `Record.readAll_none`, `Record.readMatching_none`, `Record.readOne_none`.
- `Record.ids_of_forall₂`: records read from rows carry the rows' ids.
- `Record.readOne_tables_none_iff`, `Record.readOne_tables_some_iff`,
  `Record.readOne_of_readMatching`: reading one, against the rows a key concerns.
- `FormulaKey.selects`, `LineKey.selectsColorant`, `LineKey.selectsBase`: the records a key
  selects; a row is one the key concerns exactly when its record is selected.
- `Record.ReadSpec` and `Record.readSpec`.
- `read_paths_agree`, with its witness.
-/

set_option autoImplicit false

namespace Tintbook.Store

/-! ## Traversals that may fail -/

section Traverse

variable {ε β γ : Type}

/-- A traversal goes through with a list exactly when each item gives its entry of the list. -/
theorem mapM_ok_iff (f : β → Except ε γ) (xs : List β) (ys : List γ) :
    xs.mapM f = .ok ys ↔ List.Forall₂ (fun x y => f x = .ok y) xs ys := by
  induction xs generalizing ys with
  | nil => cases ys <;> simp [pure, Except.pure]
  | cons x xs ih =>
    rw [List.mapM_cons]
    cases hx : f x with
    | error e => cases ys <;> simp [bind, Except.bind, hx]
    | ok y =>
      cases hxs : xs.mapM f with
      | error e => cases ys <;> simp [bind, Except.bind, ← ih, hxs, hx]
      | ok zs => cases ys <;> simp [bind, Except.bind, pure, Except.pure, ← ih, hxs, hx]

/-- Some list is related item by item to `xs` exactly when each item is related to
something. -/
theorem exists_forall₂_iff {R : β → γ → Prop} (xs : List β) :
    (∃ ys, List.Forall₂ R xs ys) ↔ ∀ x ∈ xs, ∃ y, R x y := by
  induction xs with
  | nil => exact ⟨fun _ x hx => absurd hx List.not_mem_nil, fun _ => ⟨[], .nil⟩⟩
  | cons x xs ih =>
    simp only [List.forall₂_cons_left_iff, List.forall_mem_cons, ← ih]
    constructor
    · rintro ⟨_, y, ys, hy, hys, rfl⟩
      exact ⟨⟨y, hy⟩, ys, hys⟩
    · rintro ⟨⟨y, hy⟩, ys, hys⟩
      exact ⟨_, y, ys, hy, hys, rfl⟩

end Traverse

namespace Record

variable {α : Type} [Record α]

/-! ## The reads on the tables -/

variable (α) in
/-- A row reads as a record of `α`. -/
def Reads (r : Row) : Prop := ∃ a : α, Record.ofRow r = .ok a

theorem decode_ok_iff {r : Row} {a : α} : decode α r = .ok a ↔ Record.ofRow r = .ok a := by
  unfold decode
  cases Record.ofRow (α := α) r <;> simp [Except.mapError]

/-- The rows of the table of `α` read as records one by one exactly when they decode. -/
theorem mapM_decode_ok_iff (rows : List Row) (as : List α) :
    rows.mapM (decode α) = .ok as ↔
      List.Forall₂ (fun r a => Record.ofRow r = .ok a) rows as := by
  rw [mapM_ok_iff]
  simp only [decode_ok_iff]

theorem mapM_decode_isOk_iff (rows : List Row) :
    (∃ as, rows.mapM (decode α) = .ok as) ↔ ∀ r ∈ rows, Reads α r := by
  simp only [mapM_decode_ok_iff, exists_forall₂_iff, Reads]

variable (α) in
theorem readAll_tables (ts : Tables) :
    readAll α { tables := some ts } = (ts.get (Record.table α)).rows.mapM (decode α) := rfl

theorem readMatching_tables (k : Record.Key α) (ts : Tables) :
    readMatching α k { tables := some ts } =
      ((ts.get (Record.table α)).rows.filter (Record.lookup k).matches).mapM (decode α) := rfl

/-- Reading one decodes the first row the key concerns, and no other. -/
theorem readOne_find_some {k : Record.Key α} {ts : Tables} {r : Row}
    (hf : (ts.get (Record.table α)).rows.find? (Record.lookup k).matches = some r) :
    readOne α k { tables := some ts } = (decode α r).map some := by
  unfold readOne
  simp only [rowsOf_some, bind, Except.bind, hf]
  cases decode α r <;> rfl

theorem readOne_find_none {k : Record.Key α} {ts : Tables}
    (hf : (ts.get (Record.table α)).rows.find? (Record.lookup k).matches = none) :
    readOne α k { tables := some ts } = .ok none := by
  unfold readOne
  simp only [rowsOf_some, bind, Except.bind, hf]
  rfl

/-! Without tables, each read fails on the table's name. -/

variable (α) in
theorem readAll_none :
    readAll α {} = .error (.storage (.noSuchTable (Record.table α).text)) := rfl

theorem readMatching_none (k : Record.Key α) :
    readMatching α k {} = .error (.storage (.noSuchTable (Record.table α).text)) := rfl

theorem readOne_none (k : Record.Key α) :
    readOne α k {} = .error (.storage (.noSuchTable (Record.table α).text)) := rfl

/-! ## Records read in id order -/

section Ids

variable (hid : ∀ {r : Row} {a : α}, Record.ofRow r = .ok a → Record.id a = r.id)
include hid

/-- Records read from rows carry the rows' ids. -/
theorem ids_of_forall₂ {rows : List Row} {as : List α}
    (hrows : List.Forall₂ (fun r a => Record.ofRow r = .ok a) rows as) :
    as.map Record.id = rows.map Row.id := by
  induction hrows with
  | nil => rfl
  | cons h _ ih => simp [hid h, ih]

/-- Records read from rows whose ids increase come in increasing id order. -/
theorem pairwise_of_forall₂ {rows : List Row} {as : List α}
    (hrows : List.Forall₂ (fun r a => Record.ofRow r = .ok a) rows as)
    (hord : rows.Pairwise (fun a b => a.id < b.id)) :
    as.Pairwise (fun a b => Record.id a < Record.id b) := by
  rw [← List.pairwise_map (R := fun i j : Int => i < j), ids_of_forall₂ hid hrows,
    List.pairwise_map]
  exact hord

end Ids

/-! ## Reading one on the tables -/

/-- Reading one gives nothing exactly when no row is one the key concerns. -/
theorem readOne_tables_none_iff (k : Record.Key α) (ts : Tables) :
    readOne α k { tables := some ts } = .ok none ↔ Unmatched k { tables := some ts } := by
  cases hf : (ts.get (Record.table α)).rows.find? (Record.lookup k).matches with
  | none =>
    rw [readOne_find_none hf]
    exact ⟨fun _ => ⟨ts, rfl, fun r hr => by simpa using List.find?_eq_none.1 hf r hr⟩,
      fun _ => rfl⟩
  | some r =>
    -- a row the key concerns is decoded, and gives a record or fails
    rw [readOne_find_some hf]
    refine ⟨fun h => ?_, fun hun => absurd hun (not_unmatched hf)⟩
    cases hd : decode α r <;> simp [hd, Except.map] at h

/-- Reading one gives a record exactly when the first row the key concerns reads as it. -/
theorem readOne_tables_some_iff (k : Record.Key α) (ts : Tables) (a : α) :
    readOne α k { tables := some ts } = .ok (some a) ↔
      ∃ r, (ts.get (Record.table α)).rows.find? (Record.lookup k).matches = some r ∧
        Record.ofRow r = .ok a := by
  cases hf : (ts.get (Record.table α)).rows.find? (Record.lookup k).matches with
  | none => simp [readOne_find_none hf]
  | some r =>
    rw [readOne_find_some hf]
    cases hd : decode α r <;> simp [hd, Except.map, ← decode_ok_iff]

/-- Whenever reading by a key succeeds, reading one gives its first record. -/
theorem readOne_of_readMatching {k : Record.Key α} {ts : Tables} {as : List α}
    (h : readMatching α k { tables := some ts } = .ok as) :
    readOne α k { tables := some ts } = .ok as.head? := by
  rw [readMatching_tables, mapM_decode_ok_iff] at h
  -- the first row the key concerns is the head of the rows it concerns
  cases hf : (ts.get (Record.table α)).rows.filter (Record.lookup k).matches with
  | nil =>
    rw [hf, List.forall₂_nil_left_iff] at h
    subst h
    exact readOne_find_none (by rw [← List.head?_filter, hf]; rfl)
  | cons r rest =>
    rw [hf] at h
    obtain ⟨a, as', ha, -, rfl⟩ := List.forall₂_cons_left_iff.1 h
    rw [readOne_find_some (by rw [← List.head?_filter, hf]; rfl), decode_ok_iff.2 ha]
    rfl

/-! ## What the reads give -/

variable (α) in
/-- What the three reads of records of `α` give on a database; `selects` says which records
a key selects. -/
structure ReadSpec (selects : Record.Key α → α → Bool) (db : Database) : Prop where
  /-- Reading all succeeds exactly when the table exists and each of its rows reads. -/
  all_ok_iff : (∃ as, readAll α db = .ok as) ↔
    ∃ ts, db.tables = some ts ∧ ∀ r ∈ (ts.get (Record.table α)).rows, Reads α r
  /-- It then gives the record of each row, each row once, in increasing id order. -/
  all_rows : ∀ as, readAll α db = .ok as → ∃ ts, db.tables = some ts ∧
    List.Forall₂ (fun r a => Record.ofRow r = .ok a) (ts.get (Record.table α)).rows as ∧
    as.Pairwise (fun a b => Record.id a < Record.id b)
  /-- Reading by a key succeeds exactly when the table exists and each row the key concerns
  reads. -/
  matching_ok_iff : ∀ k, (∃ as, readMatching α k db = .ok as) ↔
    ∃ ts, db.tables = some ts ∧
      ∀ r ∈ (ts.get (Record.table α)).rows, (Record.lookup k).matches r = true → Reads α r
  /-- It then gives the records of those rows, in increasing id order. -/
  matching_rows : ∀ k as, readMatching α k db = .ok as → ∃ ts, db.tables = some ts ∧
    List.Forall₂ (fun r a => Record.ofRow r = .ok a)
      ((ts.get (Record.table α)).rows.filter (Record.lookup k).matches) as ∧
    as.Pairwise (fun a b => Record.id a < Record.id b)
  /-- Where reading all succeeds, reading by a key gives the records it selects. -/
  matching_filter : ∀ k as, readAll α db = .ok as →
    readMatching α k db = .ok (as.filter (selects k))
  /-- Reading one gives nothing exactly when no row is one the key concerns. -/
  one_none_iff : ∀ k, readOne α k db = .ok none ↔ Unmatched k db
  /-- It gives a record exactly when the least row the key concerns reads as that record. -/
  one_some_iff : ∀ k a, readOne α k db = .ok (some a) ↔
    ∃ ts r, db.tables = some ts ∧ LeastMatch k ts r ∧ Record.ofRow r = .ok a
  /-- Whenever reading by a key succeeds, reading one gives its first record. -/
  one_head : ∀ k as, readMatching α k db = .ok as → readOne α k db = .ok as.head?

/-- The reads do what `ReadSpec` says for every kind of record whose rows carry the id of the
record they read as, and whose keys concern exactly the rows of the records they select. -/
theorem readSpec {selects : Record.Key α → α → Bool}
    (hid : ∀ {r : Row} {a : α}, Record.ofRow r = .ok a → Record.id a = r.id)
    (hsel : ∀ (k : Record.Key α) {r : Row} {a : α}, Record.ofRow r = .ok a →
      (Record.lookup k).matches r = selects k a)
    {db : Database} (hdb : db.Marked) : ReadSpec α selects db := by
  obtain ⟨_ | ts⟩ := db
  · -- without tables every read fails, and every statement about the tables is void
    refine ⟨?_, ?_, fun k => ?_, fun k as h => ?_, fun k as h => ?_, fun k => ?_,
      fun k a => ?_, fun k as h => ?_⟩ <;>
      simp_all [readAll_none, readMatching_none, readOne_none, Unmatched]
  have hord : InIdOrder α ts := (hdb ts rfl _).1
  refine ⟨?_, fun as h => ?_, fun k => ?_, fun k as h => ?_, fun k as h => ?_, fun k => ?_,
    fun k a => ?_, fun k as h => ?_⟩
  · simp [readAll_tables, mapM_decode_isOk_iff]
  · rw [readAll_tables, mapM_decode_ok_iff] at h
    exact ⟨ts, rfl, h, pairwise_of_forall₂ hid h hord⟩
  · simp [readMatching_tables, mapM_decode_isOk_iff]
  · rw [readMatching_tables, mapM_decode_ok_iff] at h
    exact ⟨ts, rfl, h, pairwise_of_forall₂ hid h (hord.filter _)⟩
  · -- the rows a key concerns are those whose records it selects
    rw [readAll_tables, mapM_decode_ok_iff] at h
    rw [readMatching_tables, mapM_decode_ok_iff]
    exact List.rel_filter (fun r a hra => by simp [hsel k hra]) h
  · exact readOne_tables_none_iff k ts
  · simp [readOne_tables_some_iff, Row.find?_eq_some_iff_least hord, LeastMatch]
  · exact readOne_of_readMatching h

end Record

/-! ## The keys of the three kinds -/

/-- Whether a formula holds, in the field a key names, the value the key looks for. -/
def FormulaKey.selects : FormulaKey → Formula → Bool
  | .id n, f => decide (f.id = n)
  | .name s, f => decide (f.name = s)
  | .number s, f => decide (f.number = s)
  | .customer s, f => decide (f.customer = s)

/-- Whether a colorant line holds, in the field a key names, the value the key looks for. -/
def LineKey.selectsColorant : LineKey → Colorant → Bool
  | .id n, c => decide (c.id = n)
  | .formulaId n, c => decide (c.formulaId = n)
  | .name s, c => decide (c.name = s)

/-- Whether a base line holds, in the field a key names, the value the key looks for. -/
def LineKey.selectsBase : LineKey → Base → Bool
  | .id n, b => decide (b.id = n)
  | .formulaId n, b => decide (b.formulaId = n)
  | .name s, b => decide (b.base = s)

@[simp] theorem Row.cell_zero (r : Row) : r.cell 0 = .integer r.id := rfl

/-- A key concerns a row exactly when it selects the formula the row reads as. -/
theorem Formula.matches_ofRow (k : FormulaKey) {r : Row} {f : Formula}
    (h : Formula.ofRow r = .ok f) : k.lookup.matches r = k.selects f := by
  obtain ⟨hid, h1, h2, h3, -⟩ := Formula.ofRow_ok_iff.1 h
  cases k <;> simp [FormulaKey.lookup, FormulaKey.selects, Lookup.matches, h1, h2, h3, hid]

theorem Colorant.matches_ofRow (k : LineKey) {r : Row} {c : Colorant}
    (h : Colorant.ofRow r = .ok c) : k.lookup.matches r = k.selectsColorant c := by
  obtain ⟨hid, h1, h2, -⟩ := Colorant.ofRow_ok_iff.1 h
  cases k <;> simp [LineKey.lookup, LineKey.selectsColorant, Lookup.matches, h1, h2, hid]

theorem Base.matches_ofRow (k : LineKey) {r : Row} {b : Base}
    (h : Base.ofRow r = .ok b) : k.lookup.matches r = k.selectsBase b := by
  obtain ⟨hid, h1, h2, -⟩ := Base.ofRow_ok_iff.1 h
  cases k <;> simp [LineKey.lookup, LineKey.selectsBase, Lookup.matches, h1, h2, hid]

/-! ## The three read paths -/

/-- **The three read paths agree**, for formulas, colorant lines and base lines, every key
and every database whose tables keep their ids in order, as every database a run reaches
does (`Database.marked_of_reachable`), whatever values its rows hold: reading all succeeds
exactly when every row reads and lists each row's record once in increasing id order;
reading by a key succeeds exactly when every row the key concerns reads, lists those rows'
records in increasing id order, and is the selection of reading all when that succeeds;
reading one gives nothing exactly when no row is one the key concerns, gives the record of
the least such row when it reads, and gives the first record of reading by the key whenever
that succeeds. -/
theorem read_paths_agree {db : Database} (hdb : db.Marked) :
    Record.ReadSpec Formula FormulaKey.selects db ∧
      Record.ReadSpec Colorant LineKey.selectsColorant db ∧
      Record.ReadSpec Base LineKey.selectsBase db :=
  ⟨Record.readSpec Formula.id_ofRow Formula.matches_ofRow hdb,
    Record.readSpec Colorant.id_ofRow Colorant.matches_ofRow hdb,
    Record.readSpec Base.id_ofRow Base.matches_ofRow hdb⟩

/-- Two formulas of the customer Acme, the second with a time of creation planted as text
that names no time: the database is one a run reaches, the reads do what
`read_paths_agree` says, and reading one formula of Acme succeeds while reading all of them
fails. -/
theorem read_paths_agree_on_planted :
    let db := (Call.setColumn "formulas" "created_date" 2 (.text "not a date")).apply ⟨0, 0⟩
      ((Call.createFormula ⟨⟨"Deep Blue", "", "Acme", "", ""⟩, [], []⟩).apply ⟨0, 0⟩
        ((Call.createFormula ⟨⟨"Soft Red", "", "Acme", "", ""⟩, [], []⟩).apply ⟨0, 0⟩
          Database.initial))
    db.Marked ∧ (Record.ReadSpec Formula FormulaKey.selects db ∧
      Record.ReadSpec Colorant LineKey.selectsColorant db ∧
      Record.ReadSpec Base LineKey.selectsBase db) ∧
      (Record.readOne Formula (FormulaKey.customer "Acme") db).isOk = true ∧
      (Record.readMatching Formula (FormulaKey.customer "Acme") db).isOk = false := by
  intro db
  have hreach : Reachable (fun _ => True) (fun _ => True) db :=
    .step (.step (.step .initial trivial trivial) trivial trivial) trivial trivial
  have hdb := Database.marked_of_reachable hreach
  exact ⟨hdb, read_paths_agree hdb, by decide +kernel, by decide +kernel⟩

end Tintbook.Store
