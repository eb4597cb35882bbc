import Mathlib
import Tintbook.Store.Workflow
/-!
# Running work on the store

Work on the store is a computation that may fail and keeps the database as its state.
This module gives the equations that run it: one for each primitive (`pure`, `throw`,
`get`, `set`, lifting a read, sequencing), one for a transaction, and one for each generic
operation on records. Later proofs cite these equations and never unfold the operations.

## What this module delivers

- `Work.run_bind` and the `@[simp]` equations of the primitives.
- `transaction_run`: a transaction that fails leaves the database as it was.
- `Record.create_run`, `Record.update_run`, `Record.delete_run`: what each generic operation
  returns and the database after it, as the statement on the tables it runs.
- `deleteFormula_run`: removing a formula as the three erasures it makes.
-/

set_option autoImplicit false

namespace Tintbook.Store

/-! ## The primitives -/

@[simp] theorem Work.run_pure {α : Type} (a : α) (s : Database) :
    (pure a : Work α).run.run s = (.ok a, s) := rfl

@[simp] theorem Work.run_throw {α : Type} (e : Failure) (s : Database) :
    (throw e : Work α).run.run s = (.error e, s) := rfl

@[simp] theorem Work.run_get (s : Database) : (get : Work Database).run.run s = (.ok s, s) :=
  rfl

@[simp] theorem Work.run_set (s t : Database) : (set t : Work PUnit).run.run s = (.ok ⟨⟩, t) :=
  rfl

@[simp] theorem Work.run_liftM {α : Type} (x : Except Failure α) (s : Database) :
    (liftM x : Work α).run.run s = (x, s) := by
  cases x <;> rfl

/-- Sequencing runs the second step from the state the first left, unless the first failed. -/
theorem Work.run_bind {α β : Type} (x : Work α) (f : α → Work β) (s : Database) :
    (x >>= f).run.run s = match x.run.run s with
      | (.ok a, s') => (f a).run.run s'
      | (.error e, s') => (.error e, s') := by
  simp only [bind, ExceptT.bind, ExceptT.run, ExceptT.mk, ExceptT.bindCont, StateT.run,
    StateT.bind]
  generalize x s = p
  obtain ⟨a | a, s'⟩ := p <;> rfl

theorem Work.run_bind_ok {α β : Type} {x : Work α} {s s' : Database} {a : α}
    (h : x.run.run s = (.ok a, s')) (f : α → Work β) :
    (x >>= f).run.run s = (f a).run.run s' := by
  rw [Work.run_bind, h]

theorem Work.run_bind_error {α β : Type} {x : Work α} {s s' : Database} {e : Failure}
    (h : x.run.run s = (.error e, s')) (f : α → Work β) :
    (x >>= f).run.run s = (.error e, s') := by
  rw [Work.run_bind, h]

/-- A sequence that went through went through its first step, and then its second. -/
theorem Work.run_bind_eq_ok {α β : Type} {x : Work α} {f : α → Work β} {s s'' : Database} {b : β}
    (h : (x >>= f).run.run s = (.ok b, s'')) :
    ∃ a s', x.run.run s = (.ok a, s') ∧ (f a).run.run s' = (.ok b, s'') := by
  rw [Work.run_bind] at h
  generalize hx : x.run.run s = p at h
  obtain ⟨e | a, s'⟩ := p
  · cases h
  · exact ⟨a, s', rfl, h⟩

/-- Forgetting what a step returns keeps its effect on the database. -/
theorem Work.run_discard {α : Type} (x : Work α) (s : Database) :
    (Functor.discard x).run.run s = match x.run.run s with
      | (.ok _, s') => (.ok ⟨⟩, s')
      | (.error e, s') => (.error e, s') := by
  simp only [Functor.discard, Functor.mapConst, Function.comp, ExceptT.map,
    ExceptT.run, ExceptT.mk, StateT.run, StateT.bind, bind]
  generalize x s = p
  obtain ⟨a | a, s'⟩ := p <;> rfl

theorem Work.run_discard_eq_ok {α : Type} {x : Work α} {s s' : Database} {u : PUnit}
    (h : (Functor.discard x).run.run s = (.ok u, s')) : ∃ a, x.run.run s = (.ok a, s') := by
  rw [Work.run_discard] at h
  generalize hx : x.run.run s = p at h
  obtain ⟨e | a, s''⟩ := p
  · cases h
  · cases h
    exact ⟨a, rfl⟩

/-- Forgetting what a step returns leaves the database it ends in as it was. -/
@[simp] theorem Work.run_discard_snd {α : Type} (x : Work α) (s : Database) :
    ((Functor.discard x).run.run s).2 = (x.run.run s).2 := by
  rw [Work.run_discard]
  generalize x.run.run s = p
  obtain ⟨a | a, s'⟩ := p <;> rfl

/-! ## Transactions -/

/-- A transaction runs its work, and when the work fails it puts back the database it
started from. -/
theorem transaction_run {α : Type} (w : Work α) (s : Database) :
    (transaction w).run.run s = match w.run.run s with
      | (.ok a, s') => (.ok a, s')
      | (.error e, _) => (.error e, s) := by
  unfold transaction
  simp only [Work.run_bind, Work.run_get]
  simp only [tryCatch, tryCatchThe, MonadExceptOf.tryCatch, ExceptT.tryCatch, ExceptT.run,
    ExceptT.mk, StateT.run, StateT.bind, bind]
  generalize w s = p
  obtain ⟨a | a, s'⟩ := p <;> rfl

/-- A transaction that went through is its work going through. -/
theorem transaction_eq_ok {α : Type} {w : Work α} {s s' : Database} {a : α}
    (h : (transaction w).run.run s = (.ok a, s')) : w.run.run s = (.ok a, s') := by
  rw [transaction_run] at h
  generalize w.run.run s = p at h
  obtain ⟨e | b, s''⟩ := p
  · cases h
  · exact h

/-- **A transaction that fails changes nothing.** -/
theorem transaction_error_state {α : Type} {w : Work α} {s s' : Database} {e : Failure}
    (h : (transaction w).run.run s = (.error e, s')) : s' = s := by
  rw [transaction_run] at h
  split at h
  · cases h
  · cases h
    rfl

/-! ## The tables a statement reaches -/

@[simp] theorem Record.tablesOf_some (α : Type) [Record α] (ts : Tables) :
    Record.tablesOf α { tables := some ts } = .ok ts := rfl

theorem Record.eq_of_tablesOf {α : Type} [Record α] {db : Database} {ts : Tables}
    (h : Record.tablesOf α db = .ok ts) : db = { tables := some ts } := by
  obtain ⟨_ | ts'⟩ := db
  · cases h
  · cases h
    rfl

/-! ## The generic operations -/

namespace Record

variable (α : Type) [Record α]

/-- Creating checks the record's rules, then inserts its row and reads it back; a refused
insert writes nothing. -/
theorem create_run (new : Record.New α) (now : Instant) (db : Database) :
    (Record.create α new now).run.run db =
      match Record.check new with
      | some rule => (.error (.invalid rule), db)
      | none =>
        match tablesOf α db with
        | .error e => (.error e, db)
        | .ok ts =>
          match ts.insert (Record.table α) (Record.cells new now) with
          | .error f => (.error (insertFailure α f), db)
          | .ok (ts', id) => (fetch α id { tables := some ts' }, { tables := some ts' }) := by
  unfold create
  cases Record.check new with
  | some rule => rfl
  | none =>
    simp only [Work.run_bind, Work.run_get, Work.run_liftM]
    cases tablesOf α db with
    | error e => rfl
    | ok ts =>
      dsimp only
      cases ts.insert (Record.table α) (Record.cells new now) with
      | error f => rfl
      | ok p =>
        obtain ⟨ts', id⟩ := p
        simp only [Work.run_bind, Work.run_get, Work.run_set, Work.run_liftM]

/-- Changing checks the change's rules, finds the record, and when the change writes some
column assigns it and reads the record back. -/
theorem update_run (k : Record.Key α) (p : Record.Patch α) (now : Instant) (db : Database) :
    (Record.update α k p now).run.run db =
      match Record.checkPatch p with
      | some rule => (.error (.invalid rule), db)
      | none =>
        match readOne α k db with
        | .error e => (.error e, db)
        | .ok none => (.error (.notFound (Record.entity α)), db)
        | .ok (some current) =>
          if (Record.changes p current now).isEmpty then (.ok current, db)
          else
            match tablesOf α db with
            | .error e => (.error e, db)
            | .ok ts =>
              match ts.assign (Record.table α) (Record.id current)
                  (Record.changes p current now) with
              | .error v => (.error (.storage (.constraint v)), db)
              | .ok (ts', _) =>
                (fetch α (Record.id current) { tables := some ts' }, { tables := some ts' }) := by
  unfold update
  -- one case for each way out of the do-block, in its order
  cases Record.checkPatch p with
  | some rule => rfl
  | none =>
    simp only [Work.run_bind, Work.run_get, Work.run_liftM]
    cases readOne α k db with
    | error e => rfl
    | ok o =>
      cases o with
      | none => rfl
      | some current =>
        dsimp only
        by_cases hc : (Record.changes p current now).isEmpty
        · simp only [hc, if_true]
          rfl
        · simp only [hc, if_false, Bool.false_eq_true, Work.run_bind, Work.run_get,
            Work.run_liftM]
          cases tablesOf α db with
          | error e => rfl
          | ok ts =>
            dsimp only
            cases ts.assign (Record.table α) (Record.id current) (Record.changes p current now) with
            | error v => rfl
            | ok q =>
              obtain ⟨ts', n⟩ := q
              simp only [Work.run_bind, Work.run_get, Work.run_set, Work.run_liftM]

/-- Removing erases the rows a key concerns and counts them. -/
theorem delete_run (k : Record.Key α) (db : Database) :
    (Record.delete α k).run.run db =
      match tablesOf α db with
      | .error e => (.error e, db)
      | .ok ts =>
        (.ok (ts.erase (Record.table α) (Record.lookup k)).2,
          { tables := some (ts.erase (Record.table α) (Record.lookup k)).1 }) := by
  unfold delete
  simp only [Work.run_bind, Work.run_get, Work.run_liftM]
  cases tablesOf α db with
  | error e => rfl
  | ok ts =>
    simp only [Work.run_set, Work.run_pure]

end Record

/-! ## Removing a formula -/

/-- Removing a formula erases its colorants, then its bases, then the formula itself, and
answers whether a formula went. -/
theorem deleteFormula_run (id : Int) (ts : Tables) :
    (deleteFormula id).run.run { tables := some ts } =
      let ts₁ := (ts.erase .colorants (LineKey.formulaId id).lookup).1
      let ts₂ := (ts₁.erase .bases (LineKey.formulaId id).lookup).1
      let e := ts₂.erase .formulas (FormulaKey.id id).lookup
      (.ok (decide (e.2 > 0)), { tables := some e.1 }) := by
  unfold deleteFormula
  rw [transaction_run]
  simp only [Work.run_bind, Work.run_discard, Record.delete_run, Record.tablesOf_some,
    Work.run_pure]
  rfl

/-- Without a schema, removing a formula fails on the first table it names. -/
theorem deleteFormula_run_none (id : Int) :
    (deleteFormula id).run.run {} = (.error (.storage (.noSuchTable "colorants")), {}) := by
  unfold deleteFormula
  rw [transaction_run]
  simp only [Work.run_bind, Work.run_discard, Record.delete_run]
  rfl

end Tintbook.Store
