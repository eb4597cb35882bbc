import Tintbook.Proofs.Store.Run
/-!
# Writes to the tables

The three ways of writing to the tables, said as what they do to the rows: an insert that
goes through appends a row with the next id, an assignment that goes through replaces some
columns of the row with an id, and an erasure drops rows (from formulas, with their lines).
A write that goes through broke no constraint, so every value it wrote is one its column
admits; for a column holding the id of a formula, that is the id of a formula that exists.

The first invariant of the store lives here too: in every table the ids increase along the
rows and none passes the largest id the table handed out (`Tables.Marked`). Every write
keeps it, so it holds of every reachable database.

## What this module delivers

- `Tables.insert_ok`, `Tables.assign_ok`, `Tables.erase_get`: the writes, row by row, and
  `Tables.assign_ok_eq` for changes that their columns keep as they are.
- `Tables.insert_ok_room`, `Tables.insert_full`, `Table.HasRoom`: an insert needs an id
  below the largest 64-bit integer.
- `Tables.violation_none`, `Tables.admits_formula`: what a write that goes through wrote.
- `Row.replace_cell`: a replaced column holds its old value or the one given for it.
- `Table.Marked`, `Tables.Marked`, `Database.Marked`, `Database.marked_writesKeep`, and
  `Database.marked_of_reachable`; with them `Row.eq_of_id`, no two rows share an id.
-/

set_option autoImplicit false

namespace Tintbook.Store

/-! ## Tables by name -/

@[simp] theorem Tables.get_set_self (ts : Tables) (t : TableName) (tb : Table) :
    (ts.set t tb).get t = tb := by
  cases t <;> rfl

@[simp] theorem Tables.get_set_of_ne (ts : Tables) {t u : TableName} (h : u ≠ t) (tb : Table) :
    (ts.set t tb).get u = ts.get u := by
  cases t <;> cases u <;> first | rfl | exact absurd rfl h

@[simp] theorem Tables.set_get (ts : Tables) (t : TableName) : ts.set t (ts.get t) = ts := by
  cases t <;> rfl

@[simp] theorem Tables.set_set (ts : Tables) (t : TableName) (tb tb' : Table) :
    (ts.set t tb).set t tb' = ts.set t tb' := by
  cases t <;> rfl

/-! ## What a write that goes through wrote -/

/-- A write that breaks no constraint writes a value to every column it gives, and each
value is one its column admits. -/
theorem Tables.violation_none {ts : Tables} {t : TableName} {given : List (Column × Cell)}
    (h : ts.violation t given = none) : ∀ p ∈ given, p.2 ≠ .null ∧ ts.admits t p.1 p.2 = none := by
  unfold Tables.violation at h
  dsimp only at h
  split at h
  · cases h
  · rename_i hnull
    intro p hp
    refine ⟨?_, ?_⟩
    · have := List.find?_eq_none.1 hnull p hp
      simpa using this
    · exact List.findSome?_eq_none_iff.1 h p hp

/-- A column that holds the id of a formula admits only the id of a formula that exists. -/
theorem Tables.admits_formula {ts : Tables} {t : TableName} {c : Column} {v : Cell}
    (hc : c.refersToFormula = true) (h : ts.admits t c v = none) :
    ∃ f ∈ ts.formulas.rows, v = .integer f.id := by
  unfold Tables.admits at h
  split at h
  · cases h
  · rename_i n
    simp only [hc, Bool.true_and, Bool.not_eq_eq_eq_not, Bool.not_true, ite_eq_right_iff,
      reduceCtorEq, imp_false, Bool.not_eq_false] at h
    obtain ⟨f, hf, hid⟩ := List.any_eq_true.1 h
    exact ⟨f, hf, by simp at hid; rw [hid]⟩
  · simp [hc] at h

/-! ## The writes, row by row -/

/-- What an insert that goes through does: it appends a row with the next id. -/
theorem Tables.insert_ok {ts ts' : Tables} {t : TableName} {vs : List Cell} {id : Int}
    (h : ts.insert t vs = .ok (ts', id)) :
    ts.violation t (fitAll t.columns vs) = none ∧ id = (ts.get t).lastId + 1 ∧
      ts' = ts.set t ⟨(ts.get t).rows ++ [⟨id, (fitAll t.columns vs).map (·.2)⟩], id⟩ := by
  unfold Tables.insert at h
  dsimp only at h
  split at h
  · cases h
  split at h
  · cases h
  · rename_i hv
    simp only [Except.ok.injEq, Prod.mk.injEq] at h
    obtain ⟨rfl, rfl⟩ := h
    exact ⟨hv, rfl, rfl⟩

/-- An insert goes through only into a table whose mark is below the largest id. -/
theorem Tables.insert_ok_room {ts ts' : Tables} {t : TableName} {vs : List Cell} {id : Int}
    (h : ts.insert t vs = .ok (ts', id)) : (ts.get t).lastId < int64Max := by
  unfold Tables.insert at h
  dsimp only at h
  split at h
  · cases h
  · omega

/-- A table whose mark is the largest id takes no row, whatever its values. -/
theorem Tables.insert_full {ts : Tables} {t : TableName} (vs : List Cell)
    (h : int64Max ≤ (ts.get t).lastId) : ts.insert t vs = .error .full := by
  simp only [Tables.insert, h, if_true]

/-- A table has ids left for `n` more rows: no row at all, or the mark plus `n` is still a
64-bit integer. -/
def Table.HasRoom (tb : Table) (n : Nat) : Prop := n = 0 ∨ tb.lastId + n ≤ int64Max

instance (tb : Table) (n : Nat) : Decidable (tb.HasRoom n) :=
  inferInstanceAs (Decidable (n = 0 ∨ tb.lastId + n ≤ int64Max))

theorem Table.HasRoom.lt {tb : Table} {n : Nat} (h : tb.HasRoom (n + 1)) :
    tb.lastId < int64Max := by
  rcases h with h | h
  · omega
  · omega

/-- Room for one more row and `n` after it is room for `n` after the mark moves up by one. -/
theorem Table.HasRoom.next {tb : Table} {n : Nat} (h : tb.HasRoom (n + 1)) (rows : List Row) :
    Table.HasRoom ⟨rows, tb.lastId + 1⟩ n := by
  rcases h with h | h
  · omega
  · exact .inr (by simp only [Nat.cast_add, Nat.cast_one] at h ⊢; omega)

/-- What an assignment that goes through does: when a row has the id, it replaces the
columns given in that row by values their columns admit, else it changes nothing. -/
theorem Tables.assign_ok {ts ts' : Tables} {t : TableName} {id : Int} {ch : List (Nat × Cell)}
    {n : Nat} (h : ts.assign t id ch = .ok (ts', n)) :
    ts' = ts ∨ ∃ fitted : List (Nat × Cell),
      (∀ k w, (k, w) ∈ fitted → ∃ c, t.columns[k - 1]? = some c ∧ 0 < k ∧ w ≠ .null ∧
        ts.admits t c w = none) ∧
      ts' = ts.set t ⟨(ts.get t).rows.map (fun r =>
        if r.id == id then r.replace fitted else r), (ts.get t).lastId⟩ := by
  unfold Tables.assign at h
  dsimp only at h
  split at h
  · split at h
    · cases h
    · rename_i hv
      simp only [Except.ok.injEq, Prod.mk.injEq] at h
      obtain ⟨rfl, -⟩ := h
      refine Or.inr ⟨_, ?_, rfl⟩
      intro k w hkw
      simp only [List.mem_map, List.mem_filterMap] at hkw
      obtain ⟨⟨k', c, w'⟩, ⟨⟨k'', v⟩, hmem, hsome⟩, heq⟩ := hkw
      simp only [Prod.mk.injEq] at heq
      obtain ⟨rfl, rfl⟩ := heq
      split at hsome
      · rename_i c' hc'
        split at hsome
        · cases hsome
        · rename_i hk
          simp only [Option.some.injEq, Prod.mk.injEq] at hsome
          obtain ⟨rfl, rfl, rfl⟩ := hsome
          -- the fitted value is among those the violation check passed
          obtain ⟨hnull, hadm⟩ := Tables.violation_none hv (c', v.fit c'.affinity) (by
            simp only [List.mem_map, List.mem_filterMap]
            exact ⟨(k'', c', v.fit c'.affinity), ⟨(k'', v), hmem, by simp_all⟩, rfl⟩)
          exact ⟨c', hc', by simp only at hk; omega, hnull, hadm⟩
      · cases hsome
  · simp only [Except.ok.injEq, Prod.mk.injEq] at h
    exact Or.inl h.1.symm

/-- An assignment whose every change names a column by its position and holds a value that
the column keeps as it is writes exactly those changes to the rows with the id. -/
theorem Tables.assign_ok_eq {ts ts' : Tables} {t : TableName} {id : Int}
    {ch : List (Nat × Cell)} {n : Nat} (h : ts.assign t id ch = .ok (ts', n))
    (hfit : ∀ q ∈ ch, 0 < q.1 ∧ ∃ c, t.columns[q.1 - 1]? = some c ∧ q.2.fit c.affinity = q.2) :
    ts' = ts ∨ ts' = ts.set t ⟨(ts.get t).rows.map (fun r =>
      if r.id == id then r.replace ch else r), (ts.get t).lastId⟩ := by
  unfold Tables.assign at h
  dsimp only at h
  split at h
  · split at h
    · cases h
    · simp only [Except.ok.injEq, Prod.mk.injEq] at h
      obtain ⟨rfl, -⟩ := h
      right
      -- every change survives the fitting unchanged
      rw [List.map_filterMap, List.filterMap_congr (g := some), List.filterMap_some]
      rintro ⟨k, v⟩ hq
      obtain ⟨hk, c, hc, hv⟩ := hfit (k, v) hq
      simp only at hk hc hv
      simp [hc, hv, Nat.pos_iff_ne_zero.1 hk]
  · simp only [Except.ok.injEq, Prod.mk.injEq] at h
    exact Or.inl h.1.symm

/-- Erasing only drops rows of each table and keeps every mark. -/
theorem Tables.erase_get (ts : Tables) (t : TableName) (k : Lookup) (u : TableName) :
    ((ts.erase t k).1.get u).rows.Sublist (ts.get u).rows ∧
      ((ts.erase t k).1.get u).lastId = (ts.get u).lastId := by
  cases t <;> cases u <;> simp [Tables.erase, Tables.get, Tables.set, List.filter_sublist]

/-- Every erasure only drops rows of the formulas table. -/
theorem Tables.erase_formulas_sublist (ts : Tables) (t : TableName) (k : Lookup) :
    (ts.erase t k).1.formulas.rows.Sublist ts.formulas.rows :=
  (Tables.erase_get ts t k .formulas).1

/-- A write to one table leaves the others as they were. -/
theorem Tables.insert_get_of_ne {ts ts' : Tables} {t u : TableName} {vs : List Cell} {id : Int}
    (h : ts.insert t vs = .ok (ts', id)) (hu : u ≠ t) : ts'.get u = ts.get u := by
  obtain ⟨-, -, rfl⟩ := Tables.insert_ok h
  exact Tables.get_set_of_ne ts hu _

theorem Tables.assign_get_of_ne {ts ts' : Tables} {t u : TableName} {id : Int}
    {ch : List (Nat × Cell)} {n : Nat} (h : ts.assign t id ch = .ok (ts', n)) (hu : u ≠ t) :
    ts'.get u = ts.get u := by
  rcases Tables.assign_ok h with rfl | ⟨fitted, -, rfl⟩
  · rfl
  · exact Tables.get_set_of_ne ts hu _

theorem Tables.erase_formulas {ts : Tables} {t : TableName} (k : Lookup) (ht : t ≠ .formulas) :
    (ts.erase t k).1.formulas = ts.formulas := by
  cases t
  · exact absurd rfl ht
  · rfl
  · rfl

/-- A column of a row after a replacement either kept its value or took the value given for
it. -/
theorem Row.replace_cell (r : Row) (ch : List (Nat × Cell)) (k : Nat) :
    (r.replace ch).cell (k + 1) = r.cell (k + 1) ∨ (k + 1, (r.replace ch).cell (k + 1)) ∈ ch := by
  simp only [Row.replace, Row.cell]
  by_cases hk : k < r.cells.length
  · rw [List.getD_eq_getElem?_getD, List.getElem?_mapIdx, List.getElem?_eq_getElem hk]
    simp only [Option.map_some, Option.getD_some]
    split
    · rename_i k' w hf
      right
      have hk' := List.find?_some hf
      have hmem := List.mem_of_find?_eq_some hf
      simp only [beq_iff_eq] at hk'
      rw [hk'] at hmem
      exact hmem
    · left
      rw [List.getD_eq_getElem?_getD, List.getElem?_eq_getElem hk]
      rfl
  · left
    rw [List.getD_eq_getElem?_getD, List.getD_eq_getElem?_getD, List.getElem?_eq_none (by simpa using hk),
      List.getElem?_eq_none (by omega)]

/-! ## Ids that increase and stay below the mark -/

/-- A table's ids increase along its rows, and none passes the largest id it handed out. -/
def Table.Marked (tb : Table) : Prop :=
  tb.rows.Pairwise (fun a b => a.id < b.id) ∧ ∀ r ∈ tb.rows, r.id ≤ tb.lastId

theorem Table.Marked.append {tb : Table} (h : tb.Marked) (cells : List Cell) :
    Table.Marked ⟨tb.rows ++ [⟨tb.lastId + 1, cells⟩], tb.lastId + 1⟩ := by
  obtain ⟨hs, hm⟩ := h
  refine ⟨?_, ?_⟩
  · rw [List.pairwise_append]
    refine ⟨hs, List.pairwise_singleton _ _, ?_⟩
    intro a ha b hb
    rw [List.mem_singleton] at hb
    subst hb
    have := hm a ha
    simp only
    omega
  · intro r hr
    rw [List.mem_append, List.mem_singleton] at hr
    rcases hr with hr | rfl
    · have := hm r hr
      simp only
      omega
    · simp

theorem Table.Marked.map {tb : Table} (h : tb.Marked) (g : Row → Row) (hg : ∀ r, (g r).id = r.id) :
    Table.Marked ⟨tb.rows.map g, tb.lastId⟩ := by
  obtain ⟨hs, hm⟩ := h
  refine ⟨?_, ?_⟩
  · rw [List.pairwise_map]
    exact hs.imp (fun {a b} hab => by simpa only [hg] using hab)
  · intro r hr
    obtain ⟨r₀, hr₀, rfl⟩ := List.mem_map.1 hr
    rw [hg]
    exact hm r₀ hr₀

theorem Table.Marked.sublist {tb tb' : Table} (h : tb.Marked) (hs : tb'.rows.Sublist tb.rows)
    (hl : tb'.lastId = tb.lastId) : tb'.Marked :=
  ⟨h.1.sublist hs, fun r hr => hl ▸ h.2 r (hs.subset hr)⟩

/-- Among rows whose ids increase, no two have the same id. -/
theorem Row.eq_of_id {rows : List Row} (h : rows.Pairwise (fun a b => a.id < b.id)) {r r' : Row}
    (hr : r ∈ rows) (hr' : r' ∈ rows) (hid : r.id = r'.id) : r = r' :=
  List.inj_on_of_nodup_map (List.pairwise_map.2 h).nodup hr hr' hid

/-- Every table of the store is marked. -/
def Tables.Marked (ts : Tables) : Prop := ∀ t, (ts.get t).Marked

theorem Tables.Marked.set {ts : Tables} (h : ts.Marked) {t : TableName} {tb : Table}
    (htb : tb.Marked) : (ts.set t tb).Marked := by
  intro u
  by_cases hu : u = t
  · subst hu
    rw [Tables.get_set_self]
    exact htb
  · rw [Tables.get_set_of_ne ts hu]
    exact h u

theorem Tables.Marked.insert {ts ts' : Tables} (h : ts.Marked) {t : TableName} {vs : List Cell}
    {id : Int} (hins : ts.insert t vs = .ok (ts', id)) : ts'.Marked := by
  obtain ⟨-, rfl, rfl⟩ := Tables.insert_ok hins
  exact h.set ((h t).append _)

theorem Tables.Marked.assign {ts ts' : Tables} (h : ts.Marked) {t : TableName} {id : Int}
    {ch : List (Nat × Cell)} {n : Nat} (ha : ts.assign t id ch = .ok (ts', n)) : ts'.Marked := by
  rcases Tables.assign_ok ha with rfl | ⟨fitted, -, rfl⟩
  · exact h
  · refine h.set ((h t).map _ ?_)
    intro r
    split <;> rfl

theorem Tables.Marked.erase {ts : Tables} (h : ts.Marked) (t : TableName) (k : Lookup) :
    (ts.erase t k).1.Marked := by
  intro u
  obtain ⟨hs, hl⟩ := Tables.erase_get ts t k u
  exact (h u).sublist hs hl

theorem Tables.marked_empty : ({} : Tables).Marked := by
  intro u
  cases u <;> exact ⟨List.Pairwise.nil, fun r hr => by cases hr⟩

/-- Every table of a database with a schema is marked. -/
def Database.Marked (db : Database) : Prop := ∀ ts, db.tables = some ts → ts.Marked

theorem Database.marked_writesKeep :
    WritesKeep (fun s s' => Database.Marked s → Database.Marked s') :=
  WritesKeep.of_tables (fun _ hins h => h.insert hins) (fun ha h => h.assign ha)
    (fun _ t k h => h.erase t k) Tables.marked_empty

theorem Database.marked_initial : Database.initial.Marked := by
  intro ts h
  cases h
  exact Tables.marked_empty

/-- **In every database a run reaches, ids increase along each table and stay below its
mark.** -/
theorem Database.marked_of_reachable {allowed : Call → Prop} {clock : Instant → Prop}
    {db : Database} (h : Reachable allowed clock db) : db.Marked :=
  Reachable.invariant Database.marked_initial
    (fun db c now hdb _ _ => Database.marked_writesKeep.call (Steady.of_invariant _) now db c hdb) h

end Tintbook.Store
