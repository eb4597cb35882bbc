import Tintbook.Proofs.Store.Contents
/-!
# What the records' writes do

The generic operations of the store say what they write only through the tables' own
writes, each of which can be refused by a constraint. This module computes them exactly on
tables that hold records: when the new record meets the rules, creating it appends the row
of the record it becomes, with the next id, and returns that record (`Record.create_eq`);
creating one record after another appends them with ids counted up from the mark, or fails
with the first rule that one of them breaks (`Record.createAll_eq`, `Record.createAll_error`);
changing the record a key finds rewrites it alone (`Record.update_eq`); and removing lines
keeps those the key does not concern (`Record.delete_lines_eq`).

What the constraints ask is said once per kind of record: a new formula and every change of
a formula meet them always, and a new line meets them when it names a formula that exists.

## What this module delivers

- `Tables.insert_eq`, `Tables.assign_eq`, `Tables.erase_lines`: the tables' writes that go
  through.
- `Formula.violation_cells`, `Colorant.violation_cells`, `Base.violation_cells`,
  `Formula.changes_admitted`.
- `Stored.madeFrom`, `Record.create_eq`, `Record.createAll_eq`, `Record.createAll_error`,
  `Record.update_eq`, `Record.delete_lines_eq`.
-/

set_option autoImplicit false

namespace Tintbook.Store

/-! ## Writes that go through -/

/-- A write whose every value is a value and one its column admits breaks no constraint. -/
theorem Tables.violation_eq_none {ts : Tables} {t : TableName} {given : List (Column × Cell)}
    (h : ∀ p ∈ given, p.2 ≠ .null ∧ ts.admits t p.1 p.2 = none) : ts.violation t given = none := by
  unfold Tables.violation
  rw [List.find?_eq_none.2 (fun p hp => by
    obtain ⟨c, v⟩ := p
    simpa using (h (c, v) hp).1)]
  exact List.findSome?_eq_none_iff.2 (fun p hp => (h p hp).2)

/-- Only the formulas a table holds decide what the constraints admit. -/
theorem Tables.violation_congr {ts ts' : Tables} (h : ts.formulas = ts'.formulas) (t : TableName)
    (given : List (Column × Cell)) : ts.violation t given = ts'.violation t given := by
  simp only [Tables.violation, Tables.admits, h]

theorem Tables.insert_eq {ts : Tables} {t : TableName} {vs : List Cell}
    (hroom : (ts.get t).lastId < int64Max) (hv : ts.violation t (fitAll t.columns vs) = none) :
    ts.insert t vs = .ok (ts.set t ⟨(ts.get t).rows ++
        [⟨(ts.get t).lastId + 1, (fitAll t.columns vs).map (·.2)⟩], (ts.get t).lastId + 1⟩,
      (ts.get t).lastId + 1) := by
  simp only [Tables.insert, hv, if_neg (Int.not_le.2 hroom)]

/-- An assignment to a row that exists, of values that name columns, fit them as they are and
are admitted, rewrites that row. -/
theorem Tables.assign_eq {ts : Tables} {t : TableName} {id : Int} {ch : List (Nat × Cell)}
    (hrow : (ts.get t).rows.any (fun r => r.id == id) = true)
    (hfit : ∀ q ∈ ch, 0 < q.1 ∧ ∃ c, t.columns[q.1 - 1]? = some c ∧ q.2.fit c.affinity = q.2)
    (hadm : ∀ q ∈ ch, q.2 ≠ .null ∧
      ∀ c, t.columns[q.1 - 1]? = some c → ts.admits t c q.2 = none) :
    ts.assign t id ch = .ok (ts.set t ⟨(ts.get t).rows.map (fun r =>
      if r.id == id then r.replace ch else r), (ts.get t).lastId⟩, 1) := by
  unfold Tables.assign
  dsimp only
  rw [if_pos hrow]
  -- each change is fitted to its column and stays as it is
  rw [List.filterMap_congr (g := fun q => (t.columns[q.1 - 1]?).map (fun c => (q.1, c, q.2)))]
  · have hv : ts.violation t ((ch.filterMap fun q =>
        (t.columns[q.1 - 1]?).map (fun c => (q.1, c, q.2))).map (·.2)) = none := by
      refine Tables.violation_eq_none (fun p hp => ?_)
      simp only [List.mem_map, List.mem_filterMap, Option.map_eq_some_iff] at hp
      obtain ⟨_, ⟨q, hq, c, hc, rfl⟩, rfl⟩ := hp
      exact ⟨(hadm q hq).1, (hadm q hq).2 c hc⟩
    rw [hv]
    simp only [Except.ok.injEq, Prod.mk.injEq, and_true]
    rw [List.map_filterMap, List.filterMap_congr (g := some), List.filterMap_some]
    rintro q hq
    obtain ⟨-, c, hc, -⟩ := hfit q hq
    simp [hc]
  · rintro ⟨k, v⟩ hq
    obtain ⟨hk, c, hc, hv⟩ := hfit (k, v) hq
    simp only at hk hc hv
    simp [hc, hv, Nat.pos_iff_ne_zero.1 hk]

/-- Erasing lines keeps the rows the lookup does not concern and cascades to nothing. -/
theorem Tables.erase_lines (ts : Tables) {t : TableName} (ht : t ≠ .formulas) (k : Lookup) :
    ts.erase t k = (ts.set t ⟨(ts.get t).rows.filter (fun r => !k.matches r), (ts.get t).lastId⟩,
      ((ts.get t).rows.filter k.matches).length) := by
  cases t with
  | formulas => exact absurd rfl ht
  | colorants => rfl
  | bases => rfl

/-! ## The constraints the records' writes meet -/

/-- A new formula's values meet every constraint of its table. -/
theorem Formula.violation_cells (ts : Tables) (d : Draft) (now : Instant) :
    ts.violation .formulas (fitAll TableName.formulas.columns (@Record.cells Formula _ d now)) =
      none := by
  simp [Tables.violation, fitAll, TableName.columns, Column.textual, Record.cells, Cell.fit,
    Tables.admits]

/-- A new colorant line's values meet every constraint of its table when it names a formula
that exists. -/
theorem Colorant.violation_cells {ts : Tables} (d : ColorantDraft) (now : Instant)
    (h : ∃ f ∈ ts.formulas.rows, f.id = d.formulaId) :
    ts.violation .colorants
      (fitAll TableName.colorants.columns (@Record.cells Colorant _ d now)) = none := by
  obtain ⟨f, hf, hid⟩ := h
  simp [Tables.violation, fitAll, TableName.columns, Column.textual, Record.cells, Cell.fit,
    Tables.admits]
  exact ⟨f, hf, hid⟩

theorem Base.violation_cells {ts : Tables} (d : BaseDraft) (now : Instant)
    (h : ∃ f ∈ ts.formulas.rows, f.id = d.formulaId) :
    ts.violation .bases (fitAll TableName.bases.columns (@Record.cells Base _ d now)) = none := by
  obtain ⟨f, hf, hid⟩ := h
  simp [Tables.violation, fitAll, TableName.columns, Column.textual, Record.cells, Cell.fit,
    Tables.admits]
  exact ⟨f, hf, hid⟩

/-- Every change of a formula writes text, which every column of formulas admits. -/
theorem Formula.changes_admitted (ts : Tables) (p : Revision) (f : Formula) (now : Instant) :
    ∀ q ∈ Record.changes p f now, q.2 ≠ .null ∧
      ∀ c, TableName.formulas.columns[q.1 - 1]? = some c → ts.admits .formulas c q.2 = none := by
  have htext : ∀ q ∈ Record.changes p f now, ∃ s, q.2 = .text s := by
    intro q hq
    rcases List.mem_append.1 hq with hq | hq
    · obtain ⟨⟨k, v⟩, -, hv⟩ := List.mem_filterMap.1 hq
      obtain ⟨s, -, rfl⟩ := Option.map_eq_some_iff.1 hv
      exact ⟨s, rfl⟩
    · rw [List.mem_singleton] at hq
      exact ⟨_, by rw [hq]⟩
  intro q hq
  obtain ⟨s, hs⟩ := htext q hq
  refine ⟨by simp [hs], fun c hc => ?_⟩
  -- the columns of formulas hold text and name no formula
  have hplain : c.refersToFormula = false := by
    simp only [TableName.columns, List.getElem?_map, Option.map_eq_some_iff] at hc
    obtain ⟨_, -, rfl⟩ := hc
    rfl
  simp [Tables.admits, hs, hplain]

/-! ## Creating records -/

section Create

variable {α : Type} [Record α] [Stored α]

/-- The records new ones become, at an instant, with ids counted up from `first`. -/
def Stored.madeFrom (now : Instant) : List (Record.New α) → Int → List α
  | [], _ => []
  | new :: news, first => Stored.made new first now :: Stored.madeFrom now news (first + 1)

/-- Creating a record that meets the rules and the constraints appends the row of the record
it becomes, with the next id, and returns that record. -/
theorem Record.create_eq {ts : Tables} {as : List α}
    (hrows : (ts.get (Record.table α)).rows = as.map Stored.row)
    (hsound : ∀ a ∈ as, Stored.Sound a)
    (hbelow : ∀ a ∈ as, Record.id a ≤ (ts.get (Record.table α)).lastId)
    (hroom : (ts.get (Record.table α)).lastId < int64Max)
    {new : Record.New α} {now : Instant} (hcheck : Record.check new = none)
    (hv : ts.violation (Record.table α)
      (fitAll (Record.table α).columns (Record.cells new now)) = none)
    (hnow : now.Storable) :
    (Record.create α new now).run.run { tables := some ts } =
      (.ok (Stored.made new ((ts.get (Record.table α)).lastId + 1) now),
        { tables := some (ts.set (Record.table α)
          ⟨(as ++ [Stored.made new ((ts.get (Record.table α)).lastId + 1) now]).map Stored.row,
            (ts.get (Record.table α)).lastId + 1⟩) }) := by
  rw [Record.create_run, hcheck]
  simp only [Record.tablesOf_some, Tables.insert_eq hroom hv]
  -- the row appended is the row of the record made
  rw [← Stored.row_made, hrows, ← List.map_singleton, ← List.map_append]
  refine Prod.ext ?_ rfl
  refine Record.fetch_eq (by rw [Tables.get_set_self])
    (Stored.sound_append_made hsound _ _ hnow) ?_
  · rw [List.find?_append, List.find?_eq_none.2 (fun a ha => by
      have := hbelow a ha
      simp only [decide_eq_true_eq]
      omega)]
    simp [Stored.id_made]

/-- Creating records one after another, when all meet the rules and name what they must,
appends them with ids counted up from the mark. -/
theorem Record.createAll_eq {β : Type} (g : β → Record.New α) {now : Instant}
    (hnow : now.Storable) (ht : Record.table α ≠ .formulas) (xs : List β) :
    ∀ {ts : Tables} {as : List α}, (ts.get (Record.table α)).rows = as.map Stored.row →
      (∀ a ∈ as, Stored.Sound a) → (∀ a ∈ as, Record.id a ≤ (ts.get (Record.table α)).lastId) →
      (ts.get (Record.table α)).HasRoom xs.length →
      (∀ x ∈ xs, Record.check (g x) = none) →
      (∀ x ∈ xs, ts.violation (Record.table α)
        (fitAll (Record.table α).columns (Record.cells (g x) now)) = none) →
      (forM xs fun x => discard (Record.create α (g x) now)).run.run { tables := some ts } =
        (.ok ⟨⟩, { tables := some (ts.set (Record.table α)
          ⟨(as ++ Stored.madeFrom now (xs.map g) ((ts.get (Record.table α)).lastId + 1)).map
            Stored.row, (ts.get (Record.table α)).lastId + xs.length⟩) }) := by
  induction xs with
  | nil =>
    intro ts as hrows _ _ _ _ _
    have htb : (⟨(ts.get (Record.table α)).rows, (ts.get (Record.table α)).lastId⟩ : Table) =
        ts.get (Record.table α) := rfl
    simp only [List.forM_nil, Work.run_pure, List.map_nil, Stored.madeFrom, List.append_nil,
      ← hrows, List.length_nil, Nat.cast_zero, add_zero, htb, Tables.set_get]
  | cons x xs ih =>
    intro ts as hrows hsound hbelow hroom hcheck hv
    have hx := Record.create_eq hrows hsound hbelow hroom.lt
      (hcheck x List.mem_cons_self) (hv x List.mem_cons_self) hnow
    rw [List.forM_cons, Work.run_bind_ok (by rw [Work.run_discard, hx])]
    -- the rest goes on from the tables with the first record appended
    rw [ih (by rw [Tables.get_set_self]) ?sound ?below ?room
      (fun y hy => hcheck y (List.mem_cons_of_mem _ hy))
      (fun y hy => (Tables.violation_congr (Tables.formulas_set ht _) _ _).trans
        (hv y (List.mem_cons_of_mem _ hy)))]
    case sound => exact Stored.sound_append_made hsound _ _ hnow
    case below =>
      rw [Tables.get_set_self]
      exact Stored.id_le_append_made hbelow _ _
    case room =>
      rw [Tables.get_set_self]
      exact hroom.next _
    simp only [Tables.set_set, Tables.get_set_self, List.map_cons, Stored.madeFrom,
      List.append_assoc, List.singleton_append, List.length_cons, Nat.cast_add, Nat.cast_one]
    have hlast : (ts.get (Record.table α)).lastId + 1 + (xs.length : Int) =
        (ts.get (Record.table α)).lastId + ((xs.length : Int) + 1) := by omega
    rw [hlast]

/-- Creating records one after another fails with the first rule that one of them breaks,
when those before it go through. -/
theorem Record.createAll_error {β : Type} (g : β → Record.New α) {now : Instant}
    (hnow : now.Storable) (ht : Record.table α ≠ .formulas) (xs : List β) :
    ∀ {ts : Tables} {as : List α}, (ts.get (Record.table α)).rows = as.map Stored.row →
      (∀ a ∈ as, Stored.Sound a) → (∀ a ∈ as, Record.id a ≤ (ts.get (Record.table α)).lastId) →
      (ts.get (Record.table α)).HasRoom xs.length →
      (∀ x ∈ xs, ts.violation (Record.table α)
        (fitAll (Record.table α).columns (Record.cells (g x) now)) = none) →
      ∀ {r : Rejection}, (xs.map g).findSome? Record.check = some r →
      ∃ s, (forM xs fun x => discard (Record.create α (g x) now)).run.run
        { tables := some ts } = (.error (.invalid r), s) := by
  induction xs with
  | nil =>
    intro _ _ _ _ _ _ _ r hr
    cases hr
  | cons x xs ih =>
    intro ts as hrows hsound hbelow hroom hv r hr
    rw [List.forM_cons]
    cases hc : Record.check (g x) with
    | some r' =>
      -- the first record breaks a rule and nothing is written
      simp only [List.map_cons, List.findSome?_cons, hc, Option.some.injEq] at hr
      subst hr
      refine ⟨{ tables := some ts }, ?_⟩
      rw [Work.run_bind_error]
      rw [Work.run_discard, Record.create_run, hc]
    | none =>
      simp only [List.map_cons, List.findSome?_cons, hc] at hr
      have hx := Record.create_eq hrows hsound hbelow hroom.lt hc (hv x List.mem_cons_self) hnow
      rw [Work.run_bind_ok (by rw [Work.run_discard, hx])]
      refine ih (by rw [Tables.get_set_self]) (Stored.sound_append_made hsound _ _ hnow) ?_ ?_
        (fun y hy => (Tables.violation_congr (Tables.formulas_set ht _) _ _).trans
          (hv y (List.mem_cons_of_mem _ hy))) hr
      · rw [Tables.get_set_self]
        exact Stored.id_le_append_made hbelow _ _
      · rw [Tables.get_set_self]
        exact hroom.next _

omit [Stored α] in
/-- Creating a record that meets the rules in a table whose mark is the largest id fails as a
fault of the store, and writes nothing. -/
theorem Record.create_full {ts : Tables} {new : Record.New α} {now : Instant}
    (hcheck : Record.check new = none) (hfull : int64Max ≤ (ts.get (Record.table α)).lastId) :
    (Record.create α new now).run.run { tables := some ts } =
      (.error (.storage .full), { tables := some ts }) := by
  rw [Record.create_run, hcheck]
  simp only [Record.tablesOf_some, Tables.insert_full _ hfull]
  rfl

omit [Stored α] in
/-- A creation that went through broke no rule and inserted its row. -/
theorem Record.create_ok_inv {ts : Tables} {new : Record.New α} {now : Instant} {a : α}
    {s : Database} (h : (Record.create α new now).run.run { tables := some ts } = (.ok a, s)) :
    Record.check new = none ∧ ∃ ts' id,
      ts.insert (Record.table α) (Record.cells new now) = .ok (ts', id) ∧
        s = { tables := some ts' } := by
  rw [Record.create_run] at h
  cases hc : Record.check new with
  | some r =>
    rw [hc] at h
    cases h
  | none =>
    rw [hc, Record.tablesOf_some] at h
    dsimp only at h
    cases hi : ts.insert (Record.table α) (Record.cells new now) with
    | error f =>
      rw [hi] at h
      cases h
    | ok p =>
      obtain ⟨ts', id⟩ := p
      rw [hi] at h
      exact ⟨rfl, ts', id, rfl, (Prod.mk.inj h).2.symm⟩

omit [Stored α] in
/-- Creating records one after another goes through only when none breaks a rule and the
table has ids left for all of them. -/
theorem Record.createAll_ok {β : Type} (g : β → Record.New α) (now : Instant) (xs : List β) :
    ∀ {ts : Tables} {s : Database} {u : PUnit},
      (forM xs fun x => discard (Record.create α (g x) now)).run.run { tables := some ts } =
        (.ok u, s) →
      (∀ x ∈ xs, Record.check (g x) = none) ∧ (ts.get (Record.table α)).HasRoom xs.length := by
  induction xs with
  | nil =>
    intro ts s u _
    exact ⟨fun _ h => (nomatch h), Or.inl rfl⟩
  | cons x xs ih =>
    intro ts s u h
    rw [List.forM_cons] at h
    obtain ⟨_, s', hx, hrest⟩ := Work.run_bind_eq_ok h
    obtain ⟨_, hcreate⟩ := Work.run_discard_eq_ok hx
    obtain ⟨hcheck, ts', id, hins, rfl⟩ := Record.create_ok_inv hcreate
    -- the rest starts from the table with the mark one higher
    obtain ⟨hchecks, hroom⟩ := ih hrest
    have hlt := Tables.insert_ok_room hins
    obtain ⟨-, rfl, rfl⟩ := Tables.insert_ok hins
    refine ⟨?_, .inr ?_⟩
    · intro y hy
      rcases List.mem_cons.1 hy with rfl | hy
      · exact hcheck
      · exact hchecks y hy
    · rw [Tables.get_set_self] at hroom
      rcases hroom with h0 | hle
      · simp only [h0, List.length_cons] at *
        omega
      · simp only [List.length_cons, Nat.cast_add, Nat.cast_one] at hle ⊢
        omega

/-- Creating records one after another, when all meet the rules and name what they must,
fails as a fault of the store when the table has no ids left for all of them. -/
theorem Record.createAll_full {β : Type} (g : β → Record.New α) {now : Instant}
    (hnow : now.Storable) (ht : Record.table α ≠ .formulas) (xs : List β) :
    ∀ {ts : Tables} {as : List α}, (ts.get (Record.table α)).rows = as.map Stored.row →
      (∀ a ∈ as, Stored.Sound a) → (∀ a ∈ as, Record.id a ≤ (ts.get (Record.table α)).lastId) →
      ¬ (ts.get (Record.table α)).HasRoom xs.length →
      (∀ x ∈ xs, Record.check (g x) = none) →
      (∀ x ∈ xs, ts.violation (Record.table α)
        (fitAll (Record.table α).columns (Record.cells (g x) now)) = none) →
      ∃ s, (forM xs fun x => discard (Record.create α (g x) now)).run.run
        { tables := some ts } = (.error (.storage .full), s) := by
  induction xs with
  | nil => exact fun _ _ _ hfull => absurd (.inl rfl) hfull
  | cons x xs ih =>
    intro ts as hrows hsound hbelow hfull hcheck hv
    rw [List.forM_cons]
    by_cases hlt : (ts.get (Record.table α)).lastId < int64Max
    · -- the first record goes in, and the table is full for the rest
      have hx := Record.create_eq hrows hsound hbelow hlt (hcheck x List.mem_cons_self)
        (hv x List.mem_cons_self) hnow
      rw [Work.run_bind_ok (by rw [Work.run_discard, hx])]
      refine ih (by rw [Tables.get_set_self]) (Stored.sound_append_made hsound _ _ hnow) ?_ ?_
        (fun y hy => hcheck y (List.mem_cons_of_mem _ hy))
        (fun y hy => (Tables.violation_congr (Tables.formulas_set ht _) _ _).trans
          (hv y (List.mem_cons_of_mem _ hy)))
      · rw [Tables.get_set_self]
        exact Stored.id_le_append_made hbelow _ _
      · rw [Tables.get_set_self]
        rintro (h0 | hle)
        · exact hfull (.inr (by simp only [h0, List.length_cons] at *; omega))
        · exact hfull (.inr (by simp only [List.length_cons, Nat.cast_add, Nat.cast_one] at hle ⊢; omega))
    · -- the mark is the largest id: the first record is refused
      refine ⟨{ tables := some ts }, ?_⟩
      rw [Work.run_bind_error]
      rw [Work.run_discard, Record.create_full (hcheck x List.mem_cons_self) (by omega)]

end Create

/-! ## Changing and removing records -/

section Change

variable {α : Type} [Record α] [Stored α] {ts : Tables} {as : List α}

/-- Changing the record a key finds, with a change that meets the rules and writes some
column, rewrites that record alone and returns it changed. -/
theorem Record.update_eq (hrows : (ts.get (Record.table α)).rows = as.map Stored.row)
    (hsound : ∀ a ∈ as, Stored.Sound a)
    (hord : as.Pairwise (fun a b => Record.id a < Record.id b))
    {k : Record.Key α} {p : Record.Patch α} {now : Instant} {cur : α}
    (hp : Record.checkPatch p = none)
    (hfind : as.find? (fun a => (Record.lookup k).matches (Stored.row a)) = some cur)
    (hne : Record.changes p cur now ≠ [])
    (hadm : ∀ q ∈ Record.changes p cur now, q.2 ≠ .null ∧
      ∀ c, (Record.table α).columns[q.1 - 1]? = some c →
        ts.admits (Record.table α) c q.2 = none)
    (hnow : now.Storable) :
    (Record.update α k p now).run.run { tables := some ts } =
      (.ok (Stored.revised cur p now), { tables := some (ts.set (Record.table α)
        ⟨(as.map fun a => if Record.id a = Record.id cur then Stored.revised a p now else a).map
          Stored.row, (ts.get (Record.table α)).lastId⟩) }) := by
  have hcur := List.mem_of_find?_eq_some hfind
  have hrow : (ts.get (Record.table α)).rows.any (fun r => r.id == Record.id cur) = true := by
    rw [hrows]
    exact List.any_eq_true.2 ⟨_, List.mem_map_of_mem hcur, by simp [Stored.row_id]⟩
  rw [Record.update_run, hp]
  simp only [Record.readOne_eq hrows hsound, hfind, List.isEmpty_iff, hne, if_false,
    Record.tablesOf_some]
  rw [Tables.assign_eq hrow (Stored.changes_fit cur p now) hadm, hrows,
    Stored.map_replace hord hcur p now]
  refine Prod.ext ?_ rfl
  -- the record fetched is the record changed, the only one with its id
  have hid : ∀ a, Record.id (if Record.id a = Record.id cur then Stored.revised a p now else a) =
      Record.id a := by
    intro a
    split <;> simp [Stored.id_revised]
  refine Record.fetch_eq (by rw [Tables.get_set_self]) ?_ ?_
  · intro b hb
    obtain ⟨a, ha, rfl⟩ := List.mem_map.1 hb
    split
    · exact Stored.sound_revised _ p _ (hsound a ha) hnow
    · exact hsound a ha
  · have hmem := List.mem_map_of_mem
      (f := fun a => if Record.id a = Record.id cur then Stored.revised a p now else a) hcur
    have hord' : (as.map fun a => if Record.id a = Record.id cur then Stored.revised a p now
        else a).Pairwise (fun a b => Record.id a < Record.id b) := by
      rw [List.pairwise_map]
      simpa only [hid] using hord
    simpa [Stored.id_revised] using Record.find?_id hord' hmem

omit [Stored α] in
/-- Removing lines keeps those the key does not concern and counts the others. -/
theorem Record.delete_lines_eq {bs : List α} {row : α → Row}
    (hrows : (ts.get (Record.table α)).rows = bs.map row) (ht : Record.table α ≠ .formulas)
    (k : Record.Key α) :
    (Record.delete α k).run.run { tables := some ts } =
      (.ok (bs.filter fun a => (Record.lookup k).matches (row a)).length,
        { tables := some (ts.set (Record.table α)
          ⟨(bs.filter fun a => !(Record.lookup k).matches (row a)).map row,
            (ts.get (Record.table α)).lastId⟩) }) := by
  rw [Record.delete_run]
  simp only [Record.tablesOf_some, Tables.erase_lines ts ht, hrows, List.filter_map,
    List.length_map, Function.comp_def]

end Change

end Tintbook.Store
