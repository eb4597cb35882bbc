import Tintbook.Proofs.Store.Integrity
import Tintbook.Proofs.Store.Rows
/-!
# Records kept as rows

Each kind of record is kept as rows, and the store's operations on records work on those
rows. This module says once, for the three kinds, what that takes (`Stored`): the row of
each record; which records can be kept, those whose times can be written and read back
(`Stored.Sound`); the record a new one becomes with an id at an instant; and the record after
a change. A sound record reads back from its row, a new record is stored as the row of the
record it becomes, and a change rewrites the row of a record into the row of the record
changed.

A table *holds* a kind of record when its rows are the rows of sound records of that kind
(`Table.Holds`), and the tables are *typed* when each holds its kind (`Tables.Typed`). Every
write that the records' own operations make keeps the tables typed, as long as the clock can
be stored: an insert appends the row of the new record, an assignment rewrites the row of the
record read before it, the only row with its id, and an erasure keeps some rows. So in every
database that a run of such calls reaches at such clocks, the tables are typed, their ids
increase below the marks, and every line names a formula (`Database.good_of_reachable`).

## What this module delivers

- `Stored`, with its instances for formulas, colorant lines and base lines.
- `Table.Holds`, `Tables.Typed`, and `Tables.Typed.insert`, `.assign`, `.erase`.
- `Database.Good`, `Database.good_ops`, and `Database.good_of_reachable`.
-/

set_option autoImplicit false

namespace Tintbook.Store

/-! ## Kinds of record kept as rows -/

/-- A kind of record with the row the store keeps for each record of it. -/
class Stored (α : Type) [Record α] where
  /-- The row of a record. -/
  row : α → Row
  /-- Whether a record can be kept: its times can be written and read back. -/
  Sound : α → Prop
  /-- The record a new one becomes with an id at an instant. -/
  made : Record.New α → Int → Instant → α
  /-- A record after a change at an instant. -/
  revised : α → Record.Patch α → Instant → α
  row_id (a : α) : (row a).id = Record.id a
  cells_length (new : Record.New α) (now : Instant) :
    (Record.cells new now).length = (Record.table α).columns.length
  ofRow_row {a : α} : Sound a → Record.ofRow (row a) = .ok a
  row_made (new : Record.New α) (id : Int) (now : Instant) :
    row (made new id now) = ⟨id, (fitAll (Record.table α).columns (Record.cells new now)).map (·.2)⟩
  sound_made (new : Record.New α) (id : Int) (now : Instant) : now.Storable →
    Sound (made new id now)
  changes_fit (a : α) (p : Record.Patch α) (now : Instant) : ∀ q ∈ Record.changes p a now,
    0 < q.1 ∧ ∃ c, (Record.table α).columns[q.1 - 1]? = some c ∧ q.2.fit c.affinity = q.2
  row_revised (a : α) (p : Record.Patch α) (now : Instant) :
    (row a).replace (Record.changes p a now) = row (revised a p now)
  sound_revised (a : α) (p : Record.Patch α) (now : Instant) : Sound a → now.Storable →
    Sound (revised a p now)

instance : Stored Formula where
  row := Formula.row
  Sound f := f.created.Storable ∧ f.modified.Storable
  made := Draft.toFormula
  revised f p now := Formula.revise f p (Instant.latest now f.modified)
  row_id _ := rfl
  cells_length := Record.cells_length_formula
  ofRow_row h := Formula.ofRow_row h.1 h.2
  row_made _ _ _ := rfl
  sound_made _ _ _ h := ⟨h, h⟩
  changes_fit a p now := Formula.changes_fit p a now
  row_revised a p now := Formula.row_replace a p now
  sound_revised _ _ _ hs hnow := ⟨hs.1, Instant.storable_latest hnow hs.2.1 hs.2.2.2⟩

instance : Stored Colorant where
  row := Colorant.row
  Sound _ := True
  made d id _ := ColorantDraft.toColorant d id
  revised c p _ := Colorant.revise c p
  row_id _ := rfl
  cells_length := Record.cells_length_colorant
  ofRow_row _ := Colorant.ofRow_row _
  row_made _ _ _ := rfl
  sound_made _ _ _ _ := trivial
  changes_fit a p now := Colorant.changes_fit p a now
  row_revised a p now := Colorant.row_replace a p now
  sound_revised _ _ _ _ _ := trivial

instance : Stored Base where
  row := Base.row
  Sound _ := True
  made d id _ := BaseDraft.toBase d id
  revised b p _ := Base.revise b p
  row_id _ := rfl
  cells_length := Record.cells_length_base
  ofRow_row _ := Base.ofRow_row _
  row_made _ _ _ := rfl
  sound_made _ _ _ _ := trivial
  changes_fit a p now := Base.changes_fit p a now
  row_revised a p now := Base.row_replace a p now
  sound_revised _ _ _ _ _ := trivial

/-! ## Records and their ids -/

section Ids

variable {α : Type} [Record α]

/-- Among records whose ids increase, no two have the same id. -/
theorem Record.eq_of_id {as : List α} (h : as.Pairwise (fun a b => Record.id a < Record.id b))
    {a b : α} (ha : a ∈ as) (hb : b ∈ as) (hid : Record.id a = Record.id b) : a = b :=
  List.inj_on_of_nodup_map (List.pairwise_map.2 h).nodup ha hb hid

/-- In a list whose ids increase, the first record with the id of a member is that member. -/
theorem Record.find?_id {as : List α} (h : as.Pairwise (fun a b => Record.id a < Record.id b))
    {a : α} (ha : a ∈ as) : as.find? (fun b => decide (Record.id b = Record.id a)) = some a := by
  have hsome : (as.find? fun b => decide (Record.id b = Record.id a)).isSome :=
    List.find?_isSome.2 ⟨a, ha, by simp⟩
  obtain ⟨b, hb⟩ := Option.isSome_iff_exists.1 hsome
  rw [hb, Record.eq_of_id h (List.mem_of_find?_eq_some hb) ha (by simpa using List.find?_some hb)]

variable [Stored α]

theorem Stored.id_made (new : Record.New α) (id : Int) (now : Instant) :
    Record.id (Stored.made new id now) = id := by
  rw [← Stored.row_id, Stored.row_made]

theorem Stored.id_revised (a : α) (p : Record.Patch α) (now : Instant) :
    Record.id (Stored.revised a p now) = Record.id a := by
  rw [← Stored.row_id, ← Stored.row_revised, Row.replace_id, Stored.row_id]

/-- Sound records stay sound with a record made at a storable instant appended. -/
theorem Stored.sound_append_made {as : List α} (hsound : ∀ a ∈ as, Stored.Sound a)
    (new : Record.New α) (id : Int) {now : Instant} (hnow : now.Storable) :
    ∀ a ∈ as ++ [Stored.made new id now], Stored.Sound a := by
  intro a ha
  rcases List.mem_append.1 ha with ha | ha
  · exact hsound a ha
  · rw [List.mem_singleton.1 ha]
    exact Stored.sound_made _ _ _ hnow

/-- Records whose ids are at most a mark, with the record made under the next id appended,
have ids at most the next id. -/
theorem Stored.id_le_append_made {as : List α} {last : Int}
    (hbelow : ∀ a ∈ as, Record.id a ≤ last) (new : Record.New α) (now : Instant) :
    ∀ a ∈ as ++ [Stored.made new (last + 1) now], Record.id a ≤ last + 1 := by
  intro a ha
  rcases List.mem_append.1 ha with ha | ha
  · exact (hbelow a ha).trans (Int.le_add_one (le_refl last))
  · rw [List.mem_singleton.1 ha, Stored.id_made]

/-- The rows of records in a marked table are records with increasing ids below the mark. -/
theorem Table.Marked.records {tb : Table} (h : tb.Marked) {as : List α}
    (hrows : tb.rows = as.map Stored.row) :
    as.Pairwise (fun a b => Record.id a < Record.id b) ∧ ∀ a ∈ as, Record.id a ≤ tb.lastId := by
  obtain ⟨hord, hbelow⟩ := h
  rw [hrows] at hord hbelow
  refine ⟨?_, fun a ha => ?_⟩
  · simpa only [List.pairwise_map, Stored.row_id] using hord
  · simpa only [Stored.row_id] using hbelow _ (List.mem_map_of_mem ha)

/-- Changing the record with an id, among records whose ids increase, rewrites its row into
the row of the record changed and keeps the other rows. -/
theorem Stored.map_replace {as : List α} (h : as.Pairwise (fun a b => Record.id a < Record.id b))
    {cur : α} (hcur : cur ∈ as) (p : Record.Patch α) (now : Instant) :
    (as.map Stored.row).map (fun r =>
        if r.id == Record.id cur then r.replace (Record.changes p cur now) else r) =
      (as.map fun a => if Record.id a = Record.id cur then Stored.revised a p now else a).map
        Stored.row := by
  rw [List.map_map, List.map_map]
  refine List.map_congr_left (fun a ha => ?_)
  by_cases hid : Record.id a = Record.id cur
  · obtain rfl := Record.eq_of_id h ha hcur hid
    simp [Stored.row_id, Stored.row_revised]
  · simp [Stored.row_id, hid]

end Ids

/-! ## Tables that hold records -/

/-- A table holds records of `α`: its rows are the rows of sound records of `α`, in order. -/
def Table.Holds (α : Type) [Record α] [Stored α] (tb : Table) : Prop :=
  ∃ as : List α, tb.rows = as.map Stored.row ∧ ∀ a ∈ as, Stored.Sound a

/-- A table of the store holds records of its kind. -/
def TableName.Typed : TableName → Table → Prop
  | .formulas, tb => tb.Holds Formula
  | .colorants, tb => tb.Holds Colorant
  | .bases, tb => tb.Holds Base

/-- Every table of the store holds records of its kind. -/
def Tables.Typed (ts : Tables) : Prop := ∀ t : TableName, t.Typed (ts.get t)

/-- The table of `α` is typed exactly when it holds records of `α`. -/
def Stored.OwnTable (α : Type) [Record α] [Stored α] : Prop :=
  ∀ tb, (Record.table α).Typed tb ↔ tb.Holds α

theorem Stored.ownTable_formula : Stored.OwnTable Formula := fun _ => Iff.rfl

theorem Stored.ownTable_colorant : Stored.OwnTable Colorant := fun _ => Iff.rfl

theorem Stored.ownTable_base : Stored.OwnTable Base := fun _ => Iff.rfl

theorem Tables.typed_empty : ({} : Tables).Typed := by
  intro t
  cases t <;> exact ⟨[], rfl, fun _ h => by cases h⟩

theorem Table.Holds.sublist {α : Type} [Record α] [Stored α] {tb tb' : Table} (h : tb.Holds α)
    (hs : tb'.rows.Sublist tb.rows) : tb'.Holds α := by
  obtain ⟨as, hrows, hsound⟩ := h
  rw [hrows] at hs
  obtain ⟨as', has', hrows'⟩ := List.sublist_map_iff.1 hs
  exact ⟨as', hrows', fun a ha => hsound a (has'.subset ha)⟩

/-! ## The writes keep the tables typed -/

section Writes

variable {α : Type} [Record α] [Stored α] {ts : Tables}

theorem Tables.Typed.set (hα : Stored.OwnTable α) (h : ts.Typed) {tb : Table}
    (htb : tb.Holds α) : (ts.set (Record.table α) tb).Typed := by
  intro u
  by_cases hu : u = Record.table α
  · subst hu
    rw [Tables.get_set_self]
    exact (hα tb).2 htb
  · rw [Tables.get_set_of_ne ts hu]
    exact h u

/-- Inserting a new record at a storable instant appends the row of the record it becomes. -/
theorem Tables.Typed.insert (hα : Stored.OwnTable α) (h : ts.Typed) {new : Record.New α}
    {now : Instant} {ts' : Tables} {id : Int}
    (hins : ts.insert (Record.table α) (Record.cells new now) = .ok (ts', id))
    (hnow : now.Storable) : ts'.Typed := by
  obtain ⟨-, rfl, rfl⟩ := Tables.insert_ok hins
  obtain ⟨as, hrows, hsound⟩ := (hα _).1 (h (Record.table α))
  refine h.set hα ⟨as ++ [Stored.made new ((ts.get (Record.table α)).lastId + 1) now], ?_, ?_⟩
  · simp only [List.map_append, List.map_cons, List.map_nil, ← hrows, Stored.row_made]
  · exact Stored.sound_append_made hsound _ _ hnow

/-- Changing the record read by a key rewrites its row, the only one with its id, into the
row of the record changed. -/
theorem Tables.Typed.assign (hα : Stored.OwnTable α) (h : ts.Typed) (hm : ts.Marked)
    {k : Record.Key α} {cur : α}
    (hread : Record.readOne α k { tables := some ts } = .ok (some cur)) {p : Record.Patch α}
    {now : Instant} {ts' : Tables} {n : Nat}
    (ha : ts.assign (Record.table α) (Record.id cur) (Record.changes p cur now) = .ok (ts', n))
    (hnow : now.Storable) : ts'.Typed := by
  rcases Tables.assign_ok_eq ha (Stored.changes_fit cur p now) with rfl | rfl
  · exact h
  obtain ⟨as, hrows, hsound⟩ := (hα _).1 (h (Record.table α))
  obtain ⟨hord, -⟩ := (hm (Record.table α)).records hrows
  -- the record read is one the table holds
  obtain ⟨r₀, hr₀, -, hdec⟩ := Record.readOne_some hread
  rw [hrows] at hr₀
  obtain ⟨a₀, ha₀, rfl⟩ := List.mem_map.1 hr₀
  obtain rfl : a₀ = cur := by
    rw [Stored.ofRow_row (hsound a₀ ha₀)] at hdec
    exact Except.ok.inj hdec
  refine h.set hα
    ⟨as.map (fun a => if Record.id a = Record.id a₀ then Stored.revised a p now else a), ?_, ?_⟩
  · rw [hrows]
    exact Stored.map_replace hord ha₀ p now
  · intro b hb
    obtain ⟨a, ha, rfl⟩ := List.mem_map.1 hb
    split
    · exact Stored.sound_revised _ p _ (hsound a ha) hnow
    · exact hsound a ha

end Writes

/-- Erasing keeps some rows of each table. -/
theorem Tables.Typed.erase {ts : Tables} (h : ts.Typed) (t : TableName) (k : Lookup) :
    (ts.erase t k).1.Typed := by
  intro u
  have hs := (Tables.erase_get ts t k u).1
  cases u
  · exact Table.Holds.sublist (α := Formula) (h .formulas) hs
  · exact Table.Holds.sublist (α := Colorant) (h .colorants) hs
  · exact Table.Holds.sublist (α := Base) (h .bases) hs

/-! ## Over every run -/

/-- A database that the records' own operations keep: it has its tables, each holds its
kind of record, ids increase below the marks, and every line names a formula. -/
def Database.Good (db : Database) : Prop :=
  ∃ ts, db.tables = some ts ∧ ts.Typed ∧ ts.Marked ∧ ts.LinesHaveFormulas

theorem Database.good_initial : Database.initial.Good :=
  ⟨{}, rfl, Tables.typed_empty, Tables.marked_empty, Database.linesHaveFormulas_initial {} rfl⟩

section Ops

variable {α : Type} [Record α] [Stored α] {now : Instant}

theorem Database.good_create (hα : Stored.OwnTable α) (hnow : now.Storable)
    (new : Record.New α) :
    Work.Keeps (fun s s' => s.Good → s'.Good) (Record.create α new now) :=
  Work.Keeps.create (Steady.of_invariant _) fun ts ts' _ hins ⟨_, h₀, hty, hm, hl⟩ => by
    cases h₀
    exact ⟨ts', rfl, hty.insert hα hins hnow, hm.insert hins,
      hl.insert (Stored.cells_length new now) hins⟩

theorem Database.good_update (hα : Stored.OwnTable α) (hnow : now.Storable)
    (k : Record.Key α) (p : Record.Patch α) :
    Work.Keeps (fun s s' => s.Good → s'.Good) (Record.update α k p now) :=
  Work.Keeps.update (Steady.of_invariant _) fun ts _ ts' _ hread ha ⟨_, h₀, hty, hm, hl⟩ => by
    cases h₀
    exact ⟨ts', rfl, hty.assign hα hm hread ha hnow, hm.assign ha, hl.assign ha⟩

omit [Stored α] in
theorem Database.good_delete (k : Record.Key α) :
    Work.Keeps (fun s s' => s.Good → s'.Good) (Record.delete α k) :=
  Work.Keeps.delete (Steady.of_invariant _) fun ts ⟨_, h₀, hty, hm, hl⟩ => by
    cases h₀
    exact ⟨_, rfl, hty.erase _ _, hm.erase _ _, hl.erase _ _⟩

end Ops

/-- The records' own operations at a storable instant keep a database good. -/
theorem Database.good_ops {now : Instant} (hnow : now.Storable) :
    OpsKeep (fun s s' => s.Good → s'.Good) now where
  colorantCreate := Database.good_create Stored.ownTable_colorant hnow
  colorantUpdate := Database.good_update Stored.ownTable_colorant hnow
  colorantDelete := Database.good_delete
  baseCreate := Database.good_create Stored.ownTable_base hnow
  baseUpdate := Database.good_update Stored.ownTable_base hnow
  baseDelete := Database.good_delete
  formulaCreate := Database.good_create Stored.ownTable_formula hnow
  formulaUpdate := Database.good_update Stored.ownTable_formula hnow
  formulaDelete := Database.good_delete
  schema db := by
    rintro ⟨ts, h₀, h⟩
    exact ⟨ts, by simp [Database.createSchema, h₀], h⟩

/-- **Every database that calls through the records' own operations reach from the
initialized one, at clocks that can be stored, is good.** -/
theorem Database.good_of_reachable {db : Database}
    (h : Reachable (fun c => c.typed = true) Instant.Storable db) : db.Good :=
  Reachable.invariant Database.good_initial
    (fun db c _ hdb hc hnow => (Database.good_ops hnow).call (Steady.of_invariant _) db c hc hdb) h

end Tintbook.Store
