import Tintbook.Proofs.Store.Effects
/-!
# Changing one record

The generic change of a record looks up the first record a key concerns, rewrites some
columns of its row, and reads the row back. This module says what it does on every
database, whatever its rows hold and whether or not it has its tables:

- a change that gives the required name as blanks is refused before any row is read, so a
  key that concerns no row still gives the name's rejection;
- otherwise the record is not found exactly when the tables exist and no row is one the key
  concerns, and then nothing is written;
- otherwise, with the rows in id order, the row with the least id among those the key
  concerns is the only row written: the columns the change gives take its values, the other
  columns keep theirs, and the result is that row read back. A change of a line that gives no
  field writes nothing; a change of a formula always writes its time of last change, the
  later of the clock and the old time.

Reading back comes after the write. When the row written does not read back, the change
fails with its write made: a formula whose old time of last change lies late in the year
9999 in its own offset is one, since the later time is written in the year 10000, which does
not read. In every other case a failure leaves the database as it was.

## What this module delivers

- `Record.Unmatched`, `Record.LeastMatch`, `Record.InIdOrder`: the rows a key concerns.
- `Record.readOne_cases`: what reading by a key can find.
- `Record.update_found`: the change of a record found, as the write it makes.
- `Record.update_notFound`, `Record.update_unmatched`: a change that finds no record.
- `Record.UpdateSpec`: what the change does on a database, and `Record.updateSpec`, which
  proves it from what a kind of record's changes write; `Formula.updateSpec`,
  `Colorant.updateSpec` and `Base.updateSpec` for the three kinds.
- `update_changes_one_row`: the change of formulas, colorant lines and base lines, and
  `update_of_year_ten_thousand_keeps_write`, the change that fails with its write made.
-/

set_option autoImplicit false

namespace Tintbook.Store

/-! ## Rows in id order -/

theorem Lookup.matches_byId (r : Row) (i : Int) : (Lookup.byId i).matches r = decide (r.id = i) := by
  simp [Lookup.matches, Lookup.byId, Row.cell]

/-- In rows whose ids increase, the first row with the id of a member is that member. -/
theorem Row.find?_id {rows : List Row} (h : rows.Pairwise (fun a b => a.id < b.id)) {r : Row}
    (hr : r ∈ rows) : rows.find? (fun x => decide (x.id = r.id)) = some r := by
  obtain ⟨x, hx⟩ := Option.isSome_iff_exists.1
    (List.find?_isSome.2 ⟨r, hr, by simp⟩ : (rows.find? fun x => decide (x.id = r.id)).isSome)
  rw [hx, Row.eq_of_id h (List.mem_of_find?_eq_some hx) hr (by simpa using List.find?_some hx)]

/-- In rows whose ids increase, the first row that passes a test is the one with the least id
among those that pass it. -/
theorem Row.find?_eq_some_iff_least {rows : List Row} (h : rows.Pairwise (fun a b => a.id < b.id))
    (P : Row → Bool) {r : Row} :
    rows.find? P = some r ↔ r ∈ rows ∧ P r = true ∧ ∀ x ∈ rows, P x = true → r.id ≤ x.id := by
  constructor
  · intro hf
    obtain ⟨pre, post, hrows, hpre⟩ := List.find?_eq_some_iff_append.1 hf |>.2
    refine ⟨List.mem_of_find?_eq_some hf, List.find?_some hf, fun x hx hPx => ?_⟩
    -- rows before `r` fail the test, rows after it have larger ids
    rw [hrows] at hx h
    rcases List.mem_append.1 hx with hx | hx
    · exact absurd hPx (by simpa using hpre x hx)
    · rcases List.mem_cons.1 hx with rfl | hx
      · exact le_refl _
      · exact le_of_lt ((List.pairwise_cons.1 (List.pairwise_append.1 h).2.1).1 x hx)
  · rintro ⟨hr, hPr, hleast⟩
    obtain ⟨y, hy⟩ := Option.isSome_iff_exists.1 (List.find?_isSome.2 ⟨r, hr, hPr⟩)
    obtain ⟨pre, post, hrows, hpre⟩ := List.find?_eq_some_iff_append.1 hy |>.2
    have hyr : y.id ≤ r.id := by
      rw [hrows] at hr h
      rcases List.mem_append.1 hr with hr' | hr'
      · exact absurd hPr (by simpa using hpre r hr')
      · rcases List.mem_cons.1 hr' with rfl | hr'
        · exact le_refl _
        · exact le_of_lt ((List.pairwise_cons.1 (List.pairwise_append.1 h).2.1).1 r hr')
    have hmem := List.mem_of_find?_eq_some hy
    rw [hy, Row.eq_of_id h hmem hr (le_antisymm hyr (hleast y hmem (List.find?_some hy)))]

namespace Record

variable {α : Type} [Record α]

/-! ## What a key concerns -/

/-- The tables exist, and no row of the table of `α` is one the key concerns. -/
def Unmatched (k : Record.Key α) (db : Database) : Prop :=
  ∃ ts, db.tables = some ts ∧
    ∀ r ∈ (ts.get (Record.table α)).rows, (Record.lookup k).matches r = false

/-- `r` is, among the rows of the table of `α` that a key concerns, the one with the least id. -/
def LeastMatch (k : Record.Key α) (ts : Tables) (r : Row) : Prop :=
  r ∈ (ts.get (Record.table α)).rows ∧ (Record.lookup k).matches r = true ∧
    ∀ x ∈ (ts.get (Record.table α)).rows, (Record.lookup k).matches x = true → r.id ≤ x.id

variable (α) in
/-- The rows of the table of `α` are in increasing id order, as the engine lists them. -/
def InIdOrder (ts : Tables) : Prop :=
  (ts.get (Record.table α)).rows.Pairwise (fun a b => a.id < b.id)

/-- A required name, when a change gives it, is more than blanks. -/
def NamesSomething (name : Option String) : Prop :=
  ∀ v, name = some v → Text.isBlankText v = false

theorem requiredIfSet_eq_none {entity field : String} {name : Option String}
    (h : NamesSomething name) : requiredIfSet entity field name = none := by
  cases name with
  | none => rfl
  | some v => simp [requiredIfSet, required, h v rfl]

theorem decode_error {r : Row} {e : Failure} (h : decode α r = .error e) :
    ∃ f, e = .storage f := by
  unfold decode at h
  cases hr : Record.ofRow (α := α) r with
  | ok a => simp [hr, Except.mapError] at h
  | error f =>
    simp only [hr, Except.mapError, Except.error.injEq] at h
    exact ⟨f, h.symm⟩

/-! ## Reading by a key -/

/-- What reading by a key finds: either the tables are missing or the first row the key
concerns does not read, or no row is one the key concerns, or the first such row reads as a
record. -/
theorem readOne_cases (k : Record.Key α) (db : Database) :
    (∃ f, readOne α k db = .error (.storage f) ∧ ¬ Unmatched k db) ∨
    (readOne α k db = .ok none ∧ Unmatched k db) ∨
    (∃ ts r cur, db.tables = some ts ∧
      (ts.get (Record.table α)).rows.find? (Record.lookup k).matches = some r ∧
      Record.ofRow r = .ok cur ∧ readOne α k db = .ok (some cur)) := by
  obtain ⟨_ | ts⟩ := db
  · -- without tables the read fails on the table's name
    refine .inl ⟨_, rfl, ?_⟩
    rintro ⟨_, h, _⟩
    cases h
  · cases hf : (ts.get (Record.table α)).rows.find? (Record.lookup k).matches with
    | none =>
      refine .inr (.inl ⟨?_, ts, rfl, fun r hr => ?_⟩)
      · simp [readOne, hf, pure, Except.pure, bind, Except.bind]
      · simpa using List.find?_eq_none.1 hf r hr
    | some r =>
      have hnot : ¬ Unmatched k { tables := some ts } := by
        rintro ⟨_, h, hnone⟩
        cases h
        exact absurd (List.find?_some hf) (by simp [hnone r (List.mem_of_find?_eq_some hf)])
      cases hr : Record.ofRow (α := α) r with
      | error f =>
        refine .inl ⟨f, ?_, hnot⟩
        simp [readOne, hf, decode, hr, Except.mapError, bind, Except.bind]
      | ok cur =>
        refine .inr (.inr ⟨ts, r, cur, rfl, hf, hr, ?_⟩)
        simp [readOne, hf, decode, hr, Except.mapError, bind, Except.bind, pure, Except.pure]

/-! ## The change of a record found -/

/-- Fetching a row that exists never answers that it is missing. -/
theorem fetch_ne_notFound {i : Int} {ts : Tables}
    (h : ∃ x ∈ (ts.get (Record.table α)).rows, x.id = i) (entity : String) :
    fetch α i { tables := some ts } ≠ .error (.notFound entity) := by
  obtain ⟨x, hx, hxi⟩ := h
  obtain ⟨y, hy⟩ := Option.isSome_iff_exists.1
    (List.find?_isSome.2 ⟨x, hx, by simp [Lookup.matches_byId, hxi]⟩ :
      ((ts.get (Record.table α)).rows.find? (Lookup.byId i).matches).isSome)
  intro hfetch
  have hdec : decode α y = .error (.notFound entity) := by
    simpa only [fetch, rowsOf_some, bind, Except.bind, hy] using hfetch
  obtain ⟨f, hf⟩ := decode_error hdec
  cases hf

/-- The rows of a table with those of one id rewritten, when the ids increase, are the rows
with that one row rewritten. -/
theorem map_replace_id {rows : List Row} (h : rows.Pairwise (fun a b => a.id < b.id)) {r : Row}
    (hr : r ∈ rows) (ch : List (Nat × Cell)) :
    rows.map (fun x => if x.id == r.id then x.replace ch else x) =
      rows.map (fun x => if x = r then r.replace ch else x) := by
  refine List.map_congr_left (fun x hx => ?_)
  by_cases hxr : x = r
  · simp [hxr]
  · have hid : x.id ≠ r.id := fun hid => hxr (Row.eq_of_id h hx hr hid)
    simp [hxr, hid]

section Found

variable {k : Record.Key α} {p : Record.Patch α} {now : Instant} {ts : Tables} {r : Row} {cur : α}

/-- Changing the record read from the first row a key concerns, by a change that meets the
rules: when the change names no column nothing is written; otherwise the rows with the
record's id are rewritten, and the result is the first of them read back. -/
theorem update_found (hid : Record.id cur = r.id)
    (hfit : ∀ q ∈ Record.changes p cur now,
      0 < q.1 ∧ ∃ c, (Record.table α).columns[q.1 - 1]? = some c ∧ q.2.fit c.affinity = q.2)
    (hadm : ∀ q ∈ Record.changes p cur now, q.2 ≠ .null ∧
      ∀ c, (Record.table α).columns[q.1 - 1]? = some c →
        ts.admits (Record.table α) c q.2 = none)
    (hp : Record.checkPatch p = none)
    (hf : (ts.get (Record.table α)).rows.find? (Record.lookup k).matches = some r)
    (hcur : Record.ofRow r = .ok cur) :
    (update α k p now).run.run { tables := some ts } =
      if Record.changes p cur now = [] then (.ok cur, { tables := some ts })
      else
        (fetch α r.id { tables := some (ts.set (Record.table α)
          ⟨(ts.get (Record.table α)).rows.map (fun x =>
            if x.id == r.id then x.replace (Record.changes p cur now) else x),
            (ts.get (Record.table α)).lastId⟩) },
          { tables := some (ts.set (Record.table α)
          ⟨(ts.get (Record.table α)).rows.map (fun x =>
            if x.id == r.id then x.replace (Record.changes p cur now) else x),
            (ts.get (Record.table α)).lastId⟩) }) := by
  have hread : readOne α k { tables := some ts } = .ok (some cur) := by
    simp [readOne, hf, decode, hcur, Except.mapError, bind, Except.bind, pure, Except.pure]
  -- the row read is in the table, under the record's id
  have hrow : (ts.get (Record.table α)).rows.any (fun x => x.id == r.id) = true :=
    List.any_eq_true.2 ⟨r, List.mem_of_find?_eq_some hf, by simp⟩
  rw [update_run, hp]
  simp only [hread, hid]
  by_cases hch : Record.changes p cur now = []
  · simp [hch]
  · simp only [hch, if_false, List.isEmpty_iff, tablesOf_some]
    rw [Tables.assign_eq hrow hfit hadm]

/-- Fetching the row of an id after that row alone was rewritten, in rows whose ids
increase, reads the row rewritten. -/
theorem fetch_rewritten (hord : InIdOrder α ts) (hr : r ∈ (ts.get (Record.table α)).rows)
    (ch : List (Nat × Cell)) :
    fetch α r.id { tables := some (ts.set (Record.table α)
      ⟨(ts.get (Record.table α)).rows.map (fun x => if x.id == r.id then x.replace ch else x),
        (ts.get (Record.table α)).lastId⟩) } = decode α (r.replace ch) := by
  have hfind : ((ts.get (Record.table α)).rows.map
      (fun x => if x.id == r.id then x.replace ch else x)).find? (Lookup.byId r.id).matches =
      some (r.replace ch) := by
    rw [List.find?_map]
    have hmatch : ((Lookup.byId r.id).matches ∘
        fun x => if x.id == r.id then x.replace ch else x) = fun x => decide (x.id = r.id) := by
      funext x
      by_cases hx : x.id = r.id <;> simp [Lookup.matches_byId, hx]
    rw [hmatch, Row.find?_id hord hr]
    simp
  simp only [fetch, rowsOf_some, Tables.get_set_self, bind, Except.bind, hfind]

end Found

/-! ## What the change does -/

/-- What changing the record of `α` that a key finds does to a database. `name` is the
required name a change gives, if any, and `field` the column that holds it; `revise` is the
record the change makes of the one it finds, and `readsBack` says when the row it writes
reads back. -/
structure UpdateSpec (α : Type) [Record α] (k : Record.Key α) (p : Record.Patch α)
    (now : Instant) (db : Database) (name : Option String) (field : String) (revise : α → α)
    (readsBack : α → Prop) : Prop where
  /-- A blank name is refused before anything is read, and nothing is written. -/
  refused : ∀ v, name = some v → Text.isBlankText v = true →
    (update α k p now).run.run db =
      (.error (.invalid (.fieldRequired (Record.entity α) field)), db)
  /-- Otherwise the record is not found exactly when no row is one the key concerns. -/
  notFound_iff : NamesSomething name →
    (((update α k p now).run.run db).1 = .error (.notFound (Record.entity α)) ↔ Unmatched k db)
  /-- When no row is one the key concerns, nothing is written. -/
  unmatched_keeps : Unmatched k db → ((update α k p now).run.run db).2 = db
  /-- Otherwise the row with the least id that the key concerns is the only row written,
  unless the change names no column, and the result is that row read back. -/
  rewrites : ∀ {ts : Tables} {r : Row} {cur : α}, NamesSomething name → db.tables = some ts →
    InIdOrder α ts → LeastMatch k ts r → Record.ofRow r = .ok cur →
    (update α k p now).run.run db =
      if Record.changes p cur now = [] then (.ok cur, db)
      else (decode α (r.replace (Record.changes p cur now)),
        { tables := some (ts.set (Record.table α) { ts.get (Record.table α) with
          rows := (ts.get (Record.table α)).rows.map fun x =>
            if x = r then r.replace (Record.changes p cur now) else x }) })
  /-- The row written reads back as the record revised, when `readsBack` holds. -/
  revised : ∀ {r : Row} {cur : α}, Record.ofRow r = .ok cur → readsBack cur →
    Record.ofRow (r.replace (Record.changes p cur now)) = .ok (revise cur)
  /-- A failure leaves the database as it was, unless the record found is one whose row, once
  written, does not read back. -/
  failure_keeps : ∀ e, (∀ ts, db.tables = some ts → InIdOrder α ts) →
    ((update α k p now).run.run db).1 = .error e →
    ((update α k p now).run.run db).2 = db ∨
      ∃ ts r cur, db.tables = some ts ∧ LeastMatch k ts r ∧ Record.ofRow r = .ok cur ∧
        ¬ readsBack cur

/-- A row that a key concerns rules out that no row is one the key concerns. -/
theorem not_unmatched {k : Record.Key α} {ts : Tables} {r : Row}
    (hf : (ts.get (Record.table α)).rows.find? (Record.lookup k).matches = some r) :
    ¬ Unmatched k { tables := some ts } := by
  rintro ⟨_, h, hnone⟩
  cases h
  exact absurd (List.find?_some hf) (by simp [hnone r (List.mem_of_find?_eq_some hf)])

section Missing

variable {k : Record.Key α} {p : Record.Patch α} {now : Instant} {db : Database}

/-- The change answers that the record is not found only when no row is one the key
concerns, and then it names the kind of record. -/
theorem update_notFound
    (hid : ∀ {r : Row} {a : α}, Record.ofRow r = .ok a → Record.id a = r.id)
    (hfit : ∀ a : α, ∀ q ∈ Record.changes p a now,
      0 < q.1 ∧ ∃ c, (Record.table α).columns[q.1 - 1]? = some c ∧ q.2.fit c.affinity = q.2)
    (hadm : ∀ (ts : Tables) (a : α), ∀ q ∈ Record.changes p a now, q.2 ≠ .null ∧
      ∀ c, (Record.table α).columns[q.1 - 1]? = some c →
        ts.admits (Record.table α) c q.2 = none)
    {ent : String} (h : ((update α k p now).run.run db).1 = .error (.notFound ent)) :
    ent = Record.entity α ∧ Unmatched k db := by
  cases hp : Record.checkPatch p with
  | some rule =>
    rw [update_run, hp] at h
    cases h
  | none =>
    rcases readOne_cases k db with ⟨f, hr, -⟩ | ⟨hr, hun⟩ | ⟨ts, r, cur, hdb, hf, hcur, -⟩
    · -- the read failed in the store
      rw [update_run, hp] at h
      simp [hr] at h
    · rw [update_run, hp] at h
      simp only [hr, Except.error.injEq, Failure.notFound.injEq] at h
      exact ⟨h.symm, hun⟩
    · -- a record was found: the change answers with it or with its row read back
      obtain ⟨tables⟩ := db
      cases hdb
      rw [update_found (hid hcur) (hfit cur) (hadm ts cur) hp hf hcur] at h
      split at h
      · cases h
      · refine absurd h (fetch_ne_notFound ⟨r.replace (Record.changes p cur now), ?_, rfl⟩ _)
        rw [Tables.get_set_self]
        exact List.mem_map.2 ⟨r, List.mem_of_find?_eq_some hf, by simp⟩

/-- When no row is one the key concerns, a change that meets the rules answers that the
record is not found and writes nothing. -/
theorem update_unmatched (hp : Record.checkPatch p = none) (hun : Unmatched k db) :
    (update α k p now).run.run db = (.error (.notFound (Record.entity α)), db) := by
  rw [update_run, hp]
  rcases readOne_cases k db with ⟨f, hr, hnot⟩ | ⟨hr, -⟩ | ⟨ts, r, cur, hdb, hf, -, -⟩
  · exact absurd hun hnot
  · simp only [hr]
  · obtain ⟨tables⟩ := db
    cases hdb
    exact absurd hun (not_unmatched hf)

end Missing

section Spec

variable {k : Record.Key α} {p : Record.Patch α} {now : Instant} {db : Database}
  {name : Option String} {field : String} {revise : α → α} {readsBack : α → Prop}

/-- The change does what `UpdateSpec` says for every kind of record whose rule is that the
required name be more than blanks, whose rows carry the id of the record they read as, whose
changes name columns of its table and write values those admit, and whose rows, once
changed, read back as `revise` says when `readsBack` holds. -/
theorem updateSpec
    (hcheck : Record.checkPatch p = requiredIfSet (Record.entity α) field name)
    (hid : ∀ {r : Row} {a : α}, Record.ofRow r = .ok a → Record.id a = r.id)
    (hfit : ∀ a : α, ∀ q ∈ Record.changes p a now,
      0 < q.1 ∧ ∃ c, (Record.table α).columns[q.1 - 1]? = some c ∧ q.2.fit c.affinity = q.2)
    (hadm : ∀ (ts : Tables) (a : α), ∀ q ∈ Record.changes p a now, q.2 ≠ .null ∧
      ∀ c, (Record.table α).columns[q.1 - 1]? = some c →
        ts.admits (Record.table α) c q.2 = none)
    (hreads : ∀ {r : Row} {cur : α}, Record.ofRow r = .ok cur → readsBack cur →
      Record.ofRow (r.replace (Record.changes p cur now)) = .ok (revise cur)) :
    UpdateSpec α k p now db name field revise readsBack where
  refused v hv hblank := by
    rw [update_run, hcheck]
    simp [requiredIfSet, required, hv, hblank]
  notFound_iff hname := by
    have hp : Record.checkPatch p = none := hcheck ▸ requiredIfSet_eq_none hname
    exact ⟨fun h => (update_notFound hid hfit hadm h).2,
      fun hun => by rw [update_unmatched hp hun]⟩
  unmatched_keeps hun := by
    cases hp : Record.checkPatch p with
    | some rule => rw [update_run, hp]
    | none => rw [update_unmatched hp hun]
  rewrites hname hdb hord hleast hcur := by
    have hp : Record.checkPatch p = none := hcheck ▸ requiredIfSet_eq_none hname
    obtain ⟨tables⟩ := db
    cases hdb
    have hf := (Row.find?_eq_some_iff_least hord _).2 hleast
    rw [update_found (hid hcur) (hfit _) (hadm _ _) hp hf hcur]
    split
    · rfl
    · rw [fetch_rewritten hord hleast.1, map_replace_id hord hleast.1]
  revised hcur hrb := hreads hcur hrb
  failure_keeps e hord herr := by
    cases hp : Record.checkPatch p with
    | some rule =>
      left
      rw [update_run, hp]
    | none =>
      rcases readOne_cases k db with ⟨f, hr, -⟩ | ⟨hr, -⟩ | ⟨ts, r, cur, hdb, hf, hcur, -⟩
      · left
        rw [update_run, hp]
        simp only [hr]
      · left
        rw [update_run, hp]
        simp only [hr]
      · -- the record found was written; only its row failing to read back fails the change
        obtain ⟨tables⟩ := db
        cases hdb
        have hts := hord ts rfl
        rw [update_found (hid hcur) (hfit _) (hadm _ _) hp hf hcur] at herr ⊢
        split at herr
        · cases herr
        · right
          refine ⟨ts, r, cur, rfl, (Row.find?_eq_some_iff_least hts _).1 hf, hcur, fun hrb => ?_⟩
          rw [fetch_rewritten hts (List.mem_of_find?_eq_some hf)] at herr
          simp [decode, hreads hcur hrb, Except.mapError] at herr

end Spec

end Record

/-! ## What a change of each kind writes -/

theorem Formula.id_ofRow {r : Row} {f : Formula} (h : Formula.ofRow r = .ok f) : f.id = r.id :=
  (Formula.ofRow_ok_iff.1 h).1

theorem Colorant.id_ofRow {r : Row} {c : Colorant} (h : Colorant.ofRow r = .ok c) : c.id = r.id :=
  (Colorant.ofRow_ok_iff.1 h).1

theorem Base.id_ofRow {r : Row} {b : Base} (h : Base.ofRow r = .ok b) : b.id = r.id :=
  (Base.ofRow_ok_iff.1 h).1

/-- A change of a formula always writes its time of last change. -/
theorem Formula.changes_ne_nil (p : Revision) (f : Formula) (now : Instant) :
    Record.changes p f now ≠ [] := by
  simp [Record.changes]

/-- A change of a colorant line writes nothing exactly when it gives no field. -/
theorem Colorant.changes_eq_nil_iff (p : ColorantPatch) (c : Colorant) (now : Instant) :
    Record.changes p c now = [] ↔ p = {} := by
  obtain ⟨name, amount⟩ := p
  cases name <;> cases amount <;> simp [Record.changes, textChanges]

/-- A change of a base line writes nothing exactly when it gives no field. -/
theorem Base.changes_eq_nil_iff (p : BasePatch) (b : Base) (now : Instant) :
    Record.changes p b now = [] ↔ p = {} := by
  obtain ⟨base, product⟩ := p
  cases base <;> cases product <;> simp [Record.changes, textChanges]

/-- What a change of a colorant line writes to each column: its name and its amount, when
given. -/
theorem Colorant.find?_changes (p : ColorantPatch) (c : Colorant) (now : Instant) (k : Nat) :
    ((Record.changes p c now).find? (·.1 == k)).map (·.2) =
      if k = 2 then p.name.map .text else if k = 3 then p.amount.map .integer else none := by
  obtain ⟨name, amount⟩ := p
  by_cases h2 : k = 2
  · subst h2
    cases name <;> cases amount <;> simp [Record.changes, textChanges]
  · by_cases h3 : k = 3
    · subst h3
      cases name <;> cases amount <;> simp [Record.changes, textChanges]
    · cases name <;> cases amount <;> simp [Record.changes, textChanges, h2, h3, Ne.symm h2,
        Ne.symm h3]

/-- What a change of a base line writes to each column: its name and its product, when
given. -/
theorem Base.find?_changes (p : BasePatch) (b : Base) (now : Instant) (k : Nat) :
    ((Record.changes p b now).find? (·.1 == k)).map (·.2) =
      if k = 2 then p.base.map .text else if k = 3 then p.product.map .text else none := by
  obtain ⟨base, product⟩ := p
  by_cases h2 : k = 2
  · subst h2
    cases base <;> cases product <;> simp [Record.changes, textChanges]
  · by_cases h3 : k = 3
    · subst h3
      cases base <;> cases product <;> simp [Record.changes, textChanges]
    · cases base <;> cases product <;> simp [Record.changes, textChanges, h2, h3, Ne.symm h2,
        Ne.symm h3]

/-- A row read as a line holds a value in each of its three columns. -/
theorem Row.length_of_cell_three {r : Row} {n : Int} (h : r.cell 3 = .integer n ∨ ∃ s, r.cell 3 = .text s) :
    3 ≤ r.cells.length := by
  by_contra hlt
  simp only [Row.cell, List.getD_eq_getElem?_getD,
    List.getElem?_eq_none (by omega : r.cells.length ≤ 2), Option.getD_none] at h
  rcases h with h | ⟨s, h⟩ <;> cases h

/-- A row that reads as a colorant line, changed, reads as the line revised. -/
theorem Colorant.ofRow_replace {r : Row} {c : Colorant} (h : Colorant.ofRow r = .ok c)
    (p : ColorantPatch) (now : Instant) :
    Colorant.ofRow (r.replace (Record.changes p c now)) = .ok (Colorant.revise c p) := by
  obtain ⟨hid, h1, h2, h3⟩ := Colorant.ofRow_ok_iff.1 h
  have hlen := Row.length_of_cell_three (.inl h3)
  -- each column of the changed row is read through what the change writes to it
  have hcell : ∀ k, k < 3 → (r.replace (Record.changes p c now)).cell (k + 1) =
      (((Record.changes p c now).find? (·.1 == k + 1)).map (·.2)).getD (r.cell (k + 1)) :=
    fun k hk => Row.cell_replace r _ (by omega)
  refine Colorant.ofRow_ok_iff.2 ⟨hid, ?_, ?_, ?_⟩ <;> simp only [Colorant.revise]
  · rw [hcell 0 (by omega), Colorant.find?_changes]
    simpa using h1
  · rw [hcell 1 (by omega), Colorant.find?_changes]
    cases p.name <;> simp [h2]
  · rw [hcell 2 (by omega), Colorant.find?_changes]
    cases p.amount <;> simp [h3]

/-- A row that reads as a base line, changed, reads as the line revised. -/
theorem Base.ofRow_replace {r : Row} {b : Base} (h : Base.ofRow r = .ok b)
    (p : BasePatch) (now : Instant) :
    Base.ofRow (r.replace (Record.changes p b now)) = .ok (Base.revise b p) := by
  obtain ⟨hid, h1, h2, h3⟩ := Base.ofRow_ok_iff.1 h
  have hlen := Row.length_of_cell_three (n := 0) (.inr ⟨_, h3⟩)
  have hcell : ∀ k, k < 3 → (r.replace (Record.changes p b now)).cell (k + 1) =
      (((Record.changes p b now).find? (·.1 == k + 1)).map (·.2)).getD (r.cell (k + 1)) :=
    fun k hk => Row.cell_replace r _ (by omega)
  refine Base.ofRow_ok_iff.2 ⟨hid, ?_, ?_, ?_⟩ <;> simp only [Base.revise]
  · rw [hcell 0 (by omega), Base.find?_changes]
    simpa using h1
  · rw [hcell 1 (by omega), Base.find?_changes]
    cases p.base <;> simp [h2]
  · rw [hcell 2 (by omega), Base.find?_changes]
    cases p.product <;> simp [h3]

/-- Every change of a colorant line writes text to its name and an integer to its amount,
which those columns admit. -/
theorem Colorant.changes_admitted (ts : Tables) (p : ColorantPatch) (c : Colorant) (now : Instant) :
    ∀ q ∈ Record.changes p c now, q.2 ≠ .null ∧
      ∀ col, TableName.colorants.columns[q.1 - 1]? = some col →
        ts.admits .colorants col q.2 = none := by
  intro q hq
  -- a change writes the name as text to column 2 or the amount as an integer to column 3
  have hshape : (∃ s, q = (2, .text s)) ∨ (∃ n, q = (3, .integer n)) := by
    obtain ⟨name, amount⟩ := p
    cases name <;> cases amount <;> simp [Record.changes, textChanges] at hq <;> grind
  rcases hshape with ⟨s, rfl⟩ | ⟨n, rfl⟩ <;>
    simp [TableName.columns, Column.textual, Tables.admits]

/-- Every change of a base line writes text to its name or its product, which those columns
admit. -/
theorem Base.changes_admitted (ts : Tables) (p : BasePatch) (b : Base) (now : Instant) :
    ∀ q ∈ Record.changes p b now, q.2 ≠ .null ∧
      ∀ col, TableName.bases.columns[q.1 - 1]? = some col → ts.admits .bases col q.2 = none := by
  intro q hq
  -- a change writes text to column 2 or column 3
  have hshape : ∃ k s, (k = 2 ∨ k = 3) ∧ q = (k, .text s) := by
    obtain ⟨base, product⟩ := p
    cases base <;> cases product <;> simp [Record.changes, textChanges] at hq <;> grind
  obtain ⟨k, s, hk, rfl⟩ := hshape
  rcases hk with rfl | rfl <;> simp [TableName.columns, Column.textual, Tables.admits]

/-- The change of a formula, by what its changes write. -/
theorem Formula.updateSpec (k : FormulaKey) (p : Revision) (now : Instant) (db : Database) :
    Record.UpdateSpec Formula k p now db p.name "formula_name"
      (fun f => Formula.revise f p (Instant.latest now f.modified))
      (fun f => (Instant.latest now f.modified).Storable) :=
  Record.updateSpec rfl Formula.id_ofRow (fun f => Formula.changes_fit p f now)
    (fun ts f => Formula.changes_admitted ts p f now) (fun h hl => Formula.ofRow_replace h p now hl)

/-- The change of a colorant line, by what its changes write. -/
theorem Colorant.updateSpec (k : LineKey) (p : ColorantPatch) (now : Instant) (db : Database) :
    Record.UpdateSpec Colorant k p now db p.name "colorant_name" (Colorant.revise · p)
      (fun _ => True) :=
  Record.updateSpec rfl Colorant.id_ofRow (fun c => Colorant.changes_fit p c now)
    (fun ts c => Colorant.changes_admitted ts p c now) (fun h _ => Colorant.ofRow_replace h p now)

/-- The change of a base line, by what its changes write. -/
theorem Base.updateSpec (k : LineKey) (p : BasePatch) (now : Instant) (db : Database) :
    Record.UpdateSpec Base k p now db p.base "base_name" (Base.revise · p) (fun _ => True) :=
  Record.updateSpec rfl Base.id_ofRow (fun b => Base.changes_fit p b now)
    (fun ts b => Base.changes_admitted ts p b now) (fun h _ => Base.ofRow_replace h p now)

/-! ## Changing formulas and lines -/

/-- **The generic change writes exactly one row, or nothing.** For formulas, colorant lines
and base lines, every key, every change and every database: a blank required name is refused
before any lookup; otherwise the record is not found exactly when no row is one the key
concerns; otherwise the row with the least id that the key concerns is the only row
rewritten (a change of a line that gives no field writes nothing, a change of a formula
always writes its time of last change), and the result is that row read back, which reads as
the record revised: the fields given replaced, the time of creation kept, and the time of
last change the later of the clock and the old one, as long as that time can be written and
read. A failure leaves the database as it was unless the row written does not read back. -/
theorem update_changes_one_row (now : Instant) (db : Database) (k : FormulaKey) (p : Revision)
    (kc kb : LineKey) (pc : ColorantPatch) (pb : BasePatch) :
    Record.UpdateSpec Formula k p now db p.name "formula_name"
        (fun f => Formula.revise f p (Instant.latest now f.modified))
        (fun f => (Instant.latest now f.modified).Storable) ∧
      Record.UpdateSpec Colorant kc pc now db pc.name "colorant_name" (Colorant.revise · pc)
        (fun _ => True) ∧
      Record.UpdateSpec Base kb pb now db pb.base "base_name" (Base.revise · pb)
        (fun _ => True) ∧
      (∀ f : Formula, Record.changes p f now ≠ []) ∧
      (∀ c : Colorant, Record.changes pc c now = [] ↔ pc = {}) ∧
      (∀ b : Base, Record.changes pb b now = [] ↔ pb = {}) :=
  ⟨Formula.updateSpec k p now db, Colorant.updateSpec kc pc now db, Base.updateSpec kb pb now db,
    (Formula.changes_ne_nil p · now), (Colorant.changes_eq_nil_iff pc · now),
    (Base.changes_eq_nil_iff pb · now)⟩

/-- A change of a formula whose time of last change was planted late on 31 December 9999 in
a zone an hour behind UTC writes that time, which lies in the year 10000, cannot read the row
back, and fails with its write made. -/
theorem update_of_year_ten_thousand_keeps_write :
    let planted := (Call.setColumn "formulas" "last_modified" 1
      (.text "9999-12-31T23:30:00-01:00")).apply ⟨0, 0⟩
        ((Call.createFormula ⟨⟨"Soft Red", "", "", "", ""⟩, [], []⟩).apply ⟨0, 0⟩
          Database.initial)
    let out := (Record.update Formula (FormulaKey.id 1) ({ summary := some "matte" } : Revision)
      ⟨0, 0⟩).run.run planted
    out.1.isOk = false ∧ out.2 ≠ planted := by
  decide +kernel

end Tintbook.Store
