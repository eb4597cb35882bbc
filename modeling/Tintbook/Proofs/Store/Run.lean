import Tintbook.Proofs.Store.Steps
/-!
# Runs of the store

A client changes the store by *calls*: creating the schema, the three workflows on formulas,
a generic operation on the records of one kind, or a raw write of one value. A generic
operation runs in a transaction; a transaction that is rolled back changes nothing, and one
that is committed keeps every write its operations made, also those of an operation that
failed after writing. So each call is one step from a database to the next, and the states
a run passes through are the databases *reachable* from the initialized empty one.

Every invariant of the store is proved the same way: it holds of the initialized database,
and every call keeps it (`Reachable.invariant`). That a call keeps a relation between the
database before and after it is assembled from the operations it runs (`Work.Keeps`): a
relation that holds of staying put and composes (`Steady`) is kept by a sequence of steps
that each keep it, by a transaction, and by the generic operations as soon as the writes to
the tables they make keep it.

## What this module delivers

- `TableWrite`, `Call`, `Call.apply`: the calls and the database after each.
- `Reachable`: the databases a run reaches, for the calls and clock readings admitted.
- `Work.Keeps` with its rules, and `WritesKeep.call`: every call keeps a steady relation that
  the writes to the tables keep; `WritesKeep.of_tables`: so does an invariant of tables that
  every write keeps.
- `OpsKeep.call`: every call through the records' own operations keeps a steady relation
  that those operations keep.
- `LineOpsKeep.createFormula`, `LineOpsKeep.updateFormula`: a workflow on a formula changes
  nothing, or does its step on the formula and then works on lines only.
-/

set_option autoImplicit false

namespace Tintbook.Store

/-! ## Calls -/

/-- A generic operation on the records of one kind. -/
inductive TableWrite (α : Type) [Record α] where
  | create (new : Record.New α)
  | update (key : Record.Key α) (patch : Record.Patch α)
  | delete (key : Record.Key α)

/-- Runs a generic operation at an instant, forgetting what it returns. -/
def TableWrite.run {α : Type} [Record α] : TableWrite α → Instant → Work Unit
  | .create new, now => discard (Record.create α new now)
  | .update k p, now => discard (Record.update α k p now)
  | .delete k, _ => discard (Record.delete α k)

/-- What a client can do to the store. -/
inductive Call where
  | createSchema
  | createFormula (nf : NewFormula)
  | updateFormula (id : Int) (a : Amendment)
  | deleteFormula (id : Int)
  | formula (w : TableWrite Formula)
  | colorant (w : TableWrite Colorant)
  | base (w : TableWrite Base)
  /-- A raw write of one value, as a statement naming the table and the column. -/
  | setColumn (table column : String) (id : Int) (value : Cell)

/-- Whether a call goes through the records' own operations, rather than a raw write. -/
def Call.typed : Call → Bool
  | .setColumn .. => false
  | _ => true

/-- The database after a call made at an instant. A workflow or a raw write that fails
leaves the database as it was; a generic operation keeps the writes it made before failing,
as the transaction that runs it is committed. -/
def Call.apply (now : Instant) (db : Database) : Call → Database
  | .createSchema => db.createSchema
  | .createFormula nf => ((Store.createFormula nf now).run.run db).2
  | .updateFormula id a => ((Store.updateFormula id a now).run.run db).2
  | .deleteFormula id => ((Store.deleteFormula id).run.run db).2
  | .formula w => ((w.run now).run.run db).2
  | .colorant w => ((w.run now).run.run db).2
  | .base w => ((w.run now).run.run db).2
  | .setColumn table column id v =>
    match db.setColumn table column id v with
    | .ok (db', _) => db'
    | .error _ => db

/-- The initialized empty database. -/
def Database.initial : Database := { tables := some {} }

/-- The databases that a run of calls reaches from the initialized empty database, each
call one that `allowed` admits, made at an instant that `clock` admits. -/
inductive Reachable (allowed : Call → Prop) (clock : Instant → Prop) : Database → Prop where
  | initial : Reachable allowed clock Database.initial
  | step {db : Database} {c : Call} {now : Instant} :
      Reachable allowed clock db → allowed c → clock now →
      Reachable allowed clock (c.apply now db)

/-- **An invariant of the initialized database that every admitted call keeps holds of every
reachable database.** -/
theorem Reachable.invariant {allowed : Call → Prop} {clock : Instant → Prop}
    {P : Database → Prop} (h0 : P Database.initial)
    (hstep : ∀ db c now, P db → allowed c → clock now → P (c.apply now db))
    {db : Database} (h : Reachable allowed clock db) : P db := by
  induction h with
  | initial => exact h0
  | step _ hc hn ih => exact hstep _ _ _ ih hc hn

/-! ## Relations that work keeps -/

/-- A relation between a database and a later one that holds of staying put and composes. -/
structure Steady (R : Database → Database → Prop) : Prop where
  refl : ∀ s, R s s
  trans : ∀ {a b c}, R a b → R b c → R a c

/-- Work keeps a relation when the database it ends in, whether it fails or not, is related
to the one it started from. -/
def Work.Keeps {α : Type} (R : Database → Database → Prop) (w : Work α) : Prop :=
  ∀ s, R s (w.run.run s).2

/-- An invariant, as the relation of a database that has it to a later one that has it. -/
theorem Steady.of_invariant (P : Database → Prop) : Steady (fun s s' => P s → P s') :=
  ⟨fun _ h => h, fun hab hbc h => hbc (hab h)⟩

/-- Work that changes nothing, or that after a first step ends related to where that step
left the database, ends related to the start when the first step is. -/
theorem Steady.of_first {R : Database → Database → Prop} (hR : Steady R) {s s₀ s' : Database}
    (h : s' = s ∨ R s₀ s') (h₀ : R s s₀) : R s s' := by
  rcases h with rfl | h
  · exact hR.refl _
  · exact hR.trans h₀ h

namespace Work.Keeps

variable {R : Database → Database → Prop}

theorem pure {α : Type} (hR : Steady R) (a : α) : Work.Keeps R (Pure.pure a : Work α) :=
  fun s => hR.refl s

theorem get (hR : Steady R) : Work.Keeps R (MonadState.get : Work Database) :=
  fun s => hR.refl s

theorem liftM {α : Type} (hR : Steady R) (x : Except Failure α) :
    Work.Keeps R (liftM x : Work α) := by
  intro s
  rw [Work.run_liftM]
  exact hR.refl s

theorem bind {α β : Type} (hR : Steady R) {x : Work α} {f : α → Work β}
    (hx : Work.Keeps R x) (hf : ∀ a, Work.Keeps R (f a)) : Work.Keeps R (x >>= f) := by
  intro s
  rw [Work.run_bind]
  have h := hx s
  generalize x.run.run s = p at h
  obtain ⟨a | a, s'⟩ := p
  · exact h
  · exact hR.trans h (hf a s')

/-- The steps after the first keep the relation from where the first left the database. -/
theorem after {α β : Type} (hR : Steady R) (x : Work α) {f : α → Work β}
    (hf : ∀ a, Work.Keeps R (f a)) (s : Database) :
    R (x.run.run s).2 ((x >>= f).run.run s).2 := by
  rw [Work.run_bind]
  generalize x.run.run s = p
  obtain ⟨a | a, s'⟩ := p
  · exact hR.refl s'
  · exact hf a s'

theorem discard {α : Type} {x : Work α} (hx : Work.Keeps R x) :
    Work.Keeps R (Functor.discard x) := by
  intro s
  rw [Work.run_discard]
  have h := hx s
  generalize x.run.run s = p at h
  obtain ⟨a | a, s'⟩ := p <;> exact h

theorem forM {β : Type} (hR : Steady R) {f : β → Work PUnit} :
    ∀ (xs : List β), (∀ a ∈ xs, Work.Keeps R (f a)) → Work.Keeps R (xs.forM f)
  | [], _ => pure hR _
  | a :: xs, h => by
    simp only [List.forM]
    exact bind hR (h a List.mem_cons_self)
      (fun _ => forM hR xs (fun b hb => h b (List.mem_cons_of_mem a hb)))

theorem transaction {α : Type} (hR : Steady R) {w : Work α} (hw : Work.Keeps R w) :
    Work.Keeps R (Store.transaction w) := by
  intro s
  rw [transaction_run]
  have h := hw s
  generalize w.run.run s = p at h
  obtain ⟨a | a, s'⟩ := p
  · exact hR.refl s
  · exact h

/-! ### The generic operations -/

variable {α : Type} [Record α]

/-- Creating keeps a relation that its insert keeps. -/
theorem create (hR : Steady R) {new : Record.New α} {now : Instant}
    (h : ∀ ts ts' id, ts.insert (Record.table α) (Record.cells new now) = .ok (ts', id) →
      R { tables := some ts } { tables := some ts' }) :
    Work.Keeps R (Record.create α new now) := by
  intro s
  rw [Record.create_run]
  split
  · exact hR.refl s
  · split
    · exact hR.refl s
    · rename_i ts hts
      split
      · exact hR.refl s
      · rename_i ts' id hins
        rw [Record.eq_of_tablesOf hts]
        exact h ts ts' id hins

/-- Changing keeps a relation that its assignment to the record it finds keeps. -/
theorem update (hR : Steady R) {k : Record.Key α} {p : Record.Patch α} {now : Instant}
    (h : ∀ ts current ts' n,
      Record.readOne α k { tables := some ts } = .ok (some current) →
      ts.assign (Record.table α) (Record.id current) (Record.changes p current now) =
        .ok (ts', n) →
      R { tables := some ts } { tables := some ts' }) :
    Work.Keeps R (Record.update α k p now) := by
  intro s
  rw [Record.update_run]
  split
  · exact hR.refl s
  · split
    · exact hR.refl s
    · exact hR.refl s
    · rename_i current hread
      split
      · exact hR.refl s
      · split
        · exact hR.refl s
        · rename_i ts hts
          split
          · exact hR.refl s
          · rename_i ts' n hassign
            rw [Record.eq_of_tablesOf hts] at hread ⊢
            exact h ts current ts' n hread hassign

/-- Removing keeps a relation that its erasure keeps. -/
theorem delete (hR : Steady R) {k : Record.Key α}
    (h : ∀ ts, R { tables := some ts }
      { tables := some (ts.erase (Record.table α) (Record.lookup k)).1 }) :
    Work.Keeps R (Record.delete α k) := by
  intro s
  rw [Record.delete_run]
  split
  · exact hR.refl s
  · rename_i ts hts
    rw [Record.eq_of_tablesOf hts]
    exact h ts

end Work.Keeps

/-! ## Every call keeps what the writes keep -/

/-- A raw write that succeeds is an assignment to the tables of the database. -/
theorem Database.setColumn_ok {db db' : Database} {table column : String} {id : Int} {v : Cell}
    {n : Nat} (h : db.setColumn table column id v = .ok (db', n)) :
    ∃ ts t k ts', db = { tables := some ts } ∧ ts.assign t id [(k, v)] = .ok (ts', n) ∧
      db' = { tables := some ts' } := by
  unfold Database.setColumn Database.resolve at h
  simp only [bind, Except.bind, pure, Except.pure] at h
  cases ht : TableName.ofText? table with
  | none => simp [ht] at h
  | some t =>
    cases hs : db.schema t with
    | error e => simp [ht, hs] at h
    | ok ts =>
      cases hk : t.columnIndex? column with
      | none => simp [ht, hs, hk] at h
      | some k =>
        simp only [ht, hs, hk] at h
        cases ha : ts.assign t id [(k, v)] with
        | error e => simp [ha] at h
        | ok q =>
          obtain ⟨ts', m⟩ := q
          simp only [ha, Except.ok.injEq, Prod.mk.injEq] at h
          obtain ⟨rfl, rfl⟩ := h
          refine ⟨ts, t, k, ts', ?_, ha, rfl⟩
          -- only a database with tables has a schema to resolve against
          obtain ⟨_ | ts₀⟩ := db
          · cases hs
          · cases hs
            rfl

section Writes

variable {R : Database → Database → Prop}

/-! ### Record operations that keep a relation, and the calls built from them -/

/-- The record operations that work on lines runs at the instant `now` keep `R`. -/
structure LineOpsKeep (R : Database → Database → Prop) (now : Instant) : Prop where
  colorantCreate : ∀ new, Work.Keeps R (Record.create Colorant new now)
  colorantUpdate : ∀ k p, Work.Keeps R (Record.update Colorant k p now)
  colorantDelete : ∀ k, Work.Keeps R (Record.delete Colorant k)
  baseCreate : ∀ new, Work.Keeps R (Record.create Base new now)
  baseUpdate : ∀ k p, Work.Keeps R (Record.update Base k p now)
  baseDelete : ∀ k, Work.Keeps R (Record.delete Base k)

/-- The record operations of every kind at the instant `now` keep `R`, and so does creating
the schema. -/
structure OpsKeep (R : Database → Database → Prop) (now : Instant) : Prop
    extends LineOpsKeep R now where
  formulaCreate : ∀ new, Work.Keeps R (Record.create Formula new now)
  formulaUpdate : ∀ k p, Work.Keeps R (Record.update Formula k p now)
  formulaDelete : ∀ k, Work.Keeps R (Record.delete Formula k)
  schema : ∀ db, R db db.createSchema

variable {now : Instant}

theorem LineOpsKeep.insertColorants (hR : Steady R) (h : LineOpsKeep R now) (fid : Int)
    (lines : List ColorantLine) : Work.Keeps R (Store.insertColorants fid lines now) :=
  Work.Keeps.forM hR lines (fun _ _ => Work.Keeps.discard (h.colorantCreate _))

theorem LineOpsKeep.insertBases (hR : Steady R) (h : LineOpsKeep R now) (fid : Int)
    (lines : List BaseLine) : Work.Keeps R (Store.insertBases fid lines now) :=
  Work.Keeps.forM hR lines (fun _ _ => Work.Keeps.discard (h.baseCreate _))

/-- A transaction whose work is a first step and then work that keeps `R` either changes
nothing or ends related by `R` to where its first step left the database. -/
theorem Work.Keeps.transaction_after {α β : Type} (hR : Steady R) {x : Work α}
    {f : α → Work β} (hf : ∀ a, Work.Keeps R (f a)) (s : Database) :
    ((Store.transaction (x >>= f)).run.run s).2 = s ∨
      R (x.run.run s).2 ((Store.transaction (x >>= f)).run.run s).2 := by
  rw [transaction_run]
  have h := Work.Keeps.after hR x hf s
  generalize (x >>= f).run.run s = p at h
  obtain ⟨b | b, s'⟩ := p
  · exact Or.inl rfl
  · exact Or.inr h

/-- Creating a formula either changes nothing, or creates the formula's record and then
works on lines only. -/
theorem LineOpsKeep.createFormula (hR : Steady R) (h : LineOpsKeep R now) (nf : NewFormula)
    (s : Database) :
    ((Store.createFormula nf now).run.run s).2 = s ∨
      R ((Record.create Formula nf.draft now).run.run s).2
        ((Store.createFormula nf now).run.run s).2 := by
  unfold Store.createFormula
  apply Work.Keeps.transaction_after hR
  intro f
  apply Work.Keeps.bind hR (h.insertColorants hR _ _)
  intro _
  apply Work.Keeps.bind hR (h.insertBases hR _ _)
  intro _
  exact Work.Keeps.bind hR (Work.Keeps.get hR) (fun _ => Work.Keeps.liftM hR _)

/-- Changing a formula either changes nothing, or changes the formula's record and then
works on lines only. -/
theorem LineOpsKeep.updateFormula (hR : Steady R) (h : LineOpsKeep R now) (id : Int)
    (a : Amendment) (s : Database) :
    ((Store.updateFormula id a now).run.run s).2 = s ∨
      R ((Record.update Formula (FormulaKey.id id) a.fields now).run.run s).2
        ((Store.updateFormula id a now).run.run s).2 := by
  unfold Store.updateFormula
  apply Work.Keeps.transaction_after hR
  intro f
  have hread : Work.Keeps R (do let db ← get; liftM (loadDetail f db)) :=
    Work.Keeps.bind hR (Work.Keeps.get hR) (fun _ => Work.Keeps.liftM hR _)
  have hbases : ∀ lines, Work.Keeps R (do
      discard (Record.delete Base (LineKey.formulaId id))
      Store.insertBases id lines now
      let db ← get
      liftM (loadDetail f db)) := fun _ =>
    Work.Keeps.bind hR (Work.Keeps.discard (h.baseDelete _))
      (fun _ => Work.Keeps.bind hR (h.insertBases hR _ _) (fun _ => hread))
  -- the colorants are replaced or not, and then the bases are replaced or not
  dsimp only
  split
  · apply Work.Keeps.bind hR (Work.Keeps.discard (h.colorantDelete _))
    intro _
    apply Work.Keeps.bind hR (h.insertColorants hR _ _)
    intro _
    split
    · exact hbases _
    · exact hread
  · split
    · exact hbases _
    · exact hread

theorem OpsKeep.createFormula (hR : Steady R) (h : OpsKeep R now) (nf : NewFormula) :
    Work.Keeps R (Store.createFormula nf now) := fun s =>
  hR.of_first (h.toLineOpsKeep.createFormula hR nf s) (h.formulaCreate _ s)

theorem OpsKeep.updateFormula (hR : Steady R) (h : OpsKeep R now) (id : Int) (a : Amendment) :
    Work.Keeps R (Store.updateFormula id a now) := fun s =>
  hR.of_first (h.toLineOpsKeep.updateFormula hR id a s) (h.formulaUpdate _ _ s)

theorem OpsKeep.deleteFormula (hR : Steady R) (h : OpsKeep R now) (id : Int) :
    Work.Keeps R (Store.deleteFormula id) := by
  unfold Store.deleteFormula
  apply Work.Keeps.transaction hR
  apply Work.Keeps.bind hR (Work.Keeps.discard (h.colorantDelete _))
  intro _
  apply Work.Keeps.bind hR (Work.Keeps.discard (h.baseDelete _))
  intro _
  exact Work.Keeps.bind hR (h.formulaDelete _) (fun _ => Work.Keeps.pure hR _)

/-- A generic operation keeps `R` when the three operations on its kind do. -/
theorem Work.Keeps.tableWrite {α : Type} [Record α] {w : TableWrite α}
    (hc : ∀ new, Work.Keeps R (Record.create α new now))
    (hu : ∀ k p, Work.Keeps R (Record.update α k p now))
    (hd : ∀ k, Work.Keeps R (Record.delete α k)) : Work.Keeps R (w.run now) := by
  cases w with
  | create new => exact Work.Keeps.discard (hc new)
  | update k p => exact Work.Keeps.discard (hu k p)
  | delete k => exact Work.Keeps.discard (hd k)

/-- **Every call through the records' own operations keeps a steady relation that those
operations keep.** -/
theorem OpsKeep.call (hR : Steady R) (h : OpsKeep R now) (db : Database) :
    ∀ c : Call, c.typed = true → R db (c.apply now db)
  | .createSchema, _ => h.schema db
  | .createFormula nf, _ => h.createFormula hR nf db
  | .updateFormula id a, _ => h.updateFormula hR id a db
  | .deleteFormula id, _ => h.deleteFormula hR id db
  | .formula _, _ => Work.Keeps.tableWrite h.formulaCreate h.formulaUpdate h.formulaDelete db
  | .colorant _, _ =>
    Work.Keeps.tableWrite h.colorantCreate h.colorantUpdate h.colorantDelete db
  | .base _, _ => Work.Keeps.tableWrite h.baseCreate h.baseUpdate h.baseDelete db
  | .setColumn .., hc => by cases hc

/-! ### Relations kept by the writes to the tables -/

/-- The writes a call makes to the tables keep `R`: every insert of a full row, every
assignment, every erasure and the creation of the schema. -/
structure WritesKeep (R : Database → Database → Prop) : Prop where
  insert : ∀ ts t vs ts' id, vs.length = t.columns.length → ts.insert t vs = .ok (ts', id) →
    R { tables := some ts } { tables := some ts' }
  assign : ∀ ts t id ch ts' n, ts.assign t id ch = .ok (ts', n) →
    R { tables := some ts } { tables := some ts' }
  erase : ∀ ts t k, R { tables := some ts } { tables := some (ts.erase t k).1 }
  schema : ∀ db, R db db.createSchema

/-- The writes that work on lines makes keep `R`: those to the tables of lines. -/
structure LineWritesKeep (R : Database → Database → Prop) : Prop where
  insert : ∀ ts t vs ts' id, t ≠ .formulas → vs.length = t.columns.length →
    ts.insert t vs = .ok (ts', id) → R { tables := some ts } { tables := some ts' }
  assign : ∀ ts t id ch ts' n, t ≠ .formulas → ts.assign t id ch = .ok (ts', n) →
    R { tables := some ts } { tables := some ts' }
  erase : ∀ ts t k, t ≠ .formulas → R { tables := some ts } { tables := some (ts.erase t k).1 }

theorem WritesKeep.lines (hw : WritesKeep R) : LineWritesKeep R where
  insert ts t vs ts' id _ := hw.insert ts t vs ts' id
  assign ts t id ch ts' n _ := hw.assign ts t id ch ts' n
  erase ts t k _ := hw.erase ts t k

/-- An invariant of tables that every write keeps, and that the tables a new schema starts
with have, is kept by the writes as an invariant of the tables a database has. -/
theorem WritesKeep.of_tables {I : Tables → Prop}
    (hinsert : ∀ {ts ts' : Tables} {t : TableName} {vs : List Cell} {id : Int},
      vs.length = t.columns.length → ts.insert t vs = .ok (ts', id) → I ts → I ts')
    (hassign : ∀ {ts ts' : Tables} {t : TableName} {id : Int} {ch : List (Nat × Cell)}
      {n : Nat}, ts.assign t id ch = .ok (ts', n) → I ts → I ts')
    (herase : ∀ (ts : Tables) (t : TableName) (k : Lookup), I ts → I (ts.erase t k).1)
    (hempty : I {}) :
    WritesKeep fun s s' => (∀ ts, s.tables = some ts → I ts) → ∀ ts, s'.tables = some ts → I ts
    where
  insert ts t vs ts' id hlen hins h := by
    intro ts₀ h₀
    cases h₀
    exact hinsert hlen hins (h ts rfl)
  assign ts t id ch ts' n ha h := by
    intro ts₀ h₀
    cases h₀
    exact hassign ha (h ts rfl)
  erase ts t k h := by
    intro ts₀ h₀
    cases h₀
    exact herase ts t k (h ts rfl)
  schema db h := by
    -- the schema is made only where there is none, from the empty tables
    intro ts h₀
    unfold Database.createSchema at h₀
    split at h₀
    · exact h ts h₀
    · cases h₀
      exact hempty

/-- A new record of each kind fills every column of its table. -/
theorem Record.cells_length_formula (d : Draft) (now : Instant) :
    (@Record.cells Formula _ d now).length = (Record.table Formula).columns.length := rfl

theorem Record.cells_length_colorant (d : ColorantDraft) (now : Instant) :
    (@Record.cells Colorant _ d now).length = (Record.table Colorant).columns.length := rfl

theorem Record.cells_length_base (d : BaseDraft) (now : Instant) :
    (@Record.cells Base _ d now).length = (Record.table Base).columns.length := rfl

/-- The operations on lines keep what the writes to the tables of lines keep. -/
theorem LineWritesKeep.lineOps (hR : Steady R) (hw : LineWritesKeep R) (now : Instant) :
    LineOpsKeep R now where
  colorantCreate _ := Work.Keeps.create hR
    (fun ts ts' id h => hw.insert ts _ _ ts' id (by decide) (Record.cells_length_colorant _ now) h)
  colorantUpdate _ _ :=
    Work.Keeps.update hR (fun ts _ ts' n _ h => hw.assign ts _ _ _ ts' n (by decide) h)
  colorantDelete _ := Work.Keeps.delete hR (fun ts => hw.erase ts _ _ (by decide))
  baseCreate _ := Work.Keeps.create hR
    (fun ts ts' id h => hw.insert ts _ _ ts' id (by decide) (Record.cells_length_base _ now) h)
  baseUpdate _ _ :=
    Work.Keeps.update hR (fun ts _ ts' n _ h => hw.assign ts _ _ _ ts' n (by decide) h)
  baseDelete _ := Work.Keeps.delete hR (fun ts => hw.erase ts _ _ (by decide))

/-- The operations of every kind keep what the writes to the tables keep. -/
theorem WritesKeep.ops (hR : Steady R) (hw : WritesKeep R) (now : Instant) : OpsKeep R now where
  toLineOpsKeep := hw.lines.lineOps hR now
  formulaCreate _ := Work.Keeps.create hR
    (fun ts ts' id h => hw.insert ts _ _ ts' id (Record.cells_length_formula _ now) h)
  formulaUpdate _ _ := Work.Keeps.update hR (fun ts _ ts' n _ h => hw.assign ts _ _ _ ts' n h)
  formulaDelete _ := Work.Keeps.delete hR (fun ts => hw.erase ts _ _)
  schema := hw.schema

/-- A raw write is an assignment to the tables it names. -/
theorem WritesKeep.setColumn (hR : Steady R) (hw : WritesKeep R) (db : Database)
    (table column : String) (id : Int) (v : Cell) :
    R db (match db.setColumn table column id v with
      | .ok (db', _) => db'
      | .error _ => db) := by
  split
  · rename_i db' n h
    obtain ⟨ts, t, k, ts', rfl, hassign, rfl⟩ := Database.setColumn_ok h
    exact hw.assign _ _ _ _ _ _ hassign
  · exact hR.refl db

/-- **Every call keeps a steady relation that the writes to the tables keep.** -/
theorem WritesKeep.call (hR : Steady R) (hw : WritesKeep R) (now : Instant) (db : Database) :
    ∀ c : Call, R db (c.apply now db)
  | .setColumn table column id v => hw.setColumn hR db table column id v
  | .createSchema => (hw.ops hR now).call hR db .createSchema rfl
  | .createFormula nf => (hw.ops hR now).call hR db (.createFormula nf) rfl
  | .updateFormula id a => (hw.ops hR now).call hR db (.updateFormula id a) rfl
  | .deleteFormula id => (hw.ops hR now).call hR db (.deleteFormula id) rfl
  | .formula w => (hw.ops hR now).call hR db (.formula w) rfl
  | .colorant w => (hw.ops hR now).call hR db (.colorant w) rfl
  | .base w => (hw.ops hR now).call hR db (.base w) rfl

end Writes

end Tintbook.Store
