import Tintbook.Proofs.Store.Workflows
import Tintbook.Proofs.Store.Change
import Tintbook.Proofs.Store.Stamps
/-!
# How the workflows fail

Each workflow runs as one transaction, so a workflow that fails leaves the database exactly
as it was, tables and marks alike, whatever the database holds and even without a schema
(`createFormula_error_keeps`, `updateFormula_error_keeps`, `deleteFormula_error_keeps`).

Which failure a workflow gives is settled by the failures its steps can give
(`Work.FailsOnly`, closed under sequencing, loops and transactions). Only the lookup of the
formula to change ever answers that a record is not found: creating a formula never does, and
changing one does exactly when the tables exist and no formula has the id
(`createFormula_found`, `updateFormula_notFound`).

On the databases that the records' own operations reach from the initialized one, at clocks
that can be stored, the workflows fail exactly when a rule is broken
(`workflows_fail_cleanly`): creating fails when the name or the name of a line is blank,
with a rejection; changing fails with a rejection when the new name is blank, else with the
formula not found when no formula has the id, else with a rejection when a line given has a
blank name; removing never fails.

## What this module delivers

- `createFormula_error_keeps`, `updateFormula_error_keeps`, `deleteFormula_error_keeps`.
- `Work.FailsOnly` and its rules; `Failure.NotMissing`.
- `createFormula_found`, `updateFormula_notFound`, `updateFormula_unmatched`.
- `NewFormula.HasBlankName`, `Amendment.HasBlankLine`, `WorkflowAnswers`, and
  `workflows_fail_cleanly`.
-/

set_option autoImplicit false

namespace Tintbook

/-- A failure that is not a record not found. -/
def Failure.NotMissing (e : Failure) : Prop := ∀ entity, e ≠ .notFound entity

theorem Failure.notMissing_storage (f : StoreFault) : (Failure.storage f).NotMissing := by
  intro _ h
  cases h

theorem Failure.notMissing_invalid (r : Rejection) : (Failure.invalid r).NotMissing := by
  intro _ h
  cases h

/-- A new formula whose name, or the name of one of its lines, is blank. -/
def NewFormula.HasBlankName (nf : NewFormula) : Prop :=
  Text.isBlankText nf.draft.name = true ∨ (∃ l ∈ nf.colorants, Text.isBlankText l.name = true) ∨
    ∃ l ∈ nf.bases, Text.isBlankText l.base = true

/-- An amendment one of whose lists of lines, when given, holds a blank name. -/
def Amendment.HasBlankLine (a : Amendment) : Prop :=
  (∃ ls, a.colorants = some ls ∧ ∃ l ∈ ls, Text.isBlankText l.name = true) ∨
    ∃ ls, a.bases = some ls ∧ ∃ l ∈ ls, Text.isBlankText l.base = true

namespace Store

/-! ## A failed workflow changes nothing -/

theorem createFormula_error_keeps {nf : NewFormula} {now : Instant} {db s : Database}
    {e : Failure} (h : (createFormula nf now).run.run db = (.error e, s)) : s = db :=
  transaction_error_state h

theorem updateFormula_error_keeps {id : Int} {a : Amendment} {now : Instant} {db s : Database}
    {e : Failure} (h : (updateFormula id a now).run.run db = (.error e, s)) : s = db :=
  transaction_error_state h

theorem deleteFormula_error_keeps {id : Int} {db s : Database} {e : Failure}
    (h : (deleteFormula id).run.run db = (.error e, s)) : s = db :=
  transaction_error_state h

/-! ## The failures work can give -/

/-- Every failure of some work, from every database, satisfies `P`. -/
def Work.FailsOnly {α : Type} (P : Failure → Prop) (w : Work α) : Prop :=
  ∀ s e s', w.run.run s = (.error e, s') → P e

namespace Work.FailsOnly

variable {P : Failure → Prop}

theorem pure {α : Type} (a : α) : Work.FailsOnly P (Pure.pure a : Work α) := by
  intro s e s' h
  rw [Work.run_pure] at h
  cases h

theorem liftM {α : Type} {x : Except Failure α} (hx : ∀ e, x = .error e → P e) :
    Work.FailsOnly P (liftM x : Work α) := by
  intro s e s' h
  rw [Work.run_liftM] at h
  exact hx e (Prod.mk.inj h).1

theorem bind {α β : Type} {x : Work α} {f : α → Work β} (hx : Work.FailsOnly P x)
    (hf : ∀ a, Work.FailsOnly P (f a)) : Work.FailsOnly P (x >>= f) := by
  intro s e s' h
  rw [Work.run_bind] at h
  -- the failure is the first step's, or one of the steps after it
  generalize hp : x.run.run s = p at h
  obtain ⟨a | a, s''⟩ := p
  · cases h
    exact hx s _ _ hp
  · exact hf a s'' e s' h

theorem discard {α : Type} {x : Work α} (hx : Work.FailsOnly P x) :
    Work.FailsOnly P (Functor.discard x) := by
  intro s e s' h
  rw [Work.run_discard] at h
  generalize hp : x.run.run s = p at h
  obtain ⟨a | a, s''⟩ := p
  · cases h
    exact hx s _ _ hp
  · cases h

theorem forM {β : Type} {f : β → Work PUnit} :
    ∀ (xs : List β), (∀ b ∈ xs, Work.FailsOnly P (f b)) → Work.FailsOnly P (xs.forM f)
  | [], _ => pure _
  | b :: xs, h => by
    simp only [List.forM]
    exact bind (h b List.mem_cons_self)
      (fun _ => forM xs (fun c hc => h c (List.mem_cons_of_mem b hc)))

theorem transaction {α : Type} {w : Work α} (hw : Work.FailsOnly P w) :
    Work.FailsOnly P (Store.transaction w) := by
  intro s e s' h
  rw [transaction_run] at h
  generalize hp : w.run.run s = p at h
  obtain ⟨a | a, s''⟩ := p
  · cases h
    exact hw s _ _ hp
  · cases h

end Work.FailsOnly

/-- A sequence that fails failed in its first step, or in a later one after the first went
through. -/
theorem Work.bind_error {α β : Type} {x : Work α} {f : α → Work β} {s s' : Database}
    {e : Failure} (h : (x >>= f).run.run s = (.error e, s')) :
    x.run.run s = (.error e, s') ∨
      ∃ a s'', x.run.run s = (.ok a, s'') ∧ (f a).run.run s'' = (.error e, s') := by
  rw [Work.run_bind] at h
  generalize hp : x.run.run s = p at h
  obtain ⟨a | a, s''⟩ := p
  · -- the failure passes through the sequence unchanged
    simp only at h
    obtain ⟨rfl, rfl⟩ := h
    exact .inl rfl
  · exact .inr ⟨a, s'', rfl, h⟩

/-- A transaction that fails failed in its work, with the same failure. -/
theorem transaction_error {α : Type} {w : Work α} {s s' : Database} {e : Failure}
    (h : (transaction w).run.run s = (.error e, s')) : ∃ s'', w.run.run s = (.error e, s'') := by
  rw [transaction_run] at h
  generalize hp : w.run.run s = p at h
  obtain ⟨a | a, s''⟩ := p
  · cases h
    exact ⟨s'', rfl⟩
  · cases h

/-! ## Only the lookup of the formula to change answers that a record is missing -/

namespace Record

variable {α : Type} [Record α]

theorem tablesOf_notMissing {db : Database} {e : Failure} (h : tablesOf α db = .error e) :
    e.NotMissing := by
  obtain ⟨_ | ts⟩ := db
  · simp only [tablesOf, Database.schema, Except.mapError, Except.error.injEq] at h
    rw [← h]
    exact Failure.notMissing_storage _
  · cases h

theorem rowsOf_notMissing {db : Database} {e : Failure} (h : rowsOf α db = .error e) :
    e.NotMissing := by
  unfold rowsOf at h
  cases ht : tablesOf α db with
  | error e' =>
    simp only [ht, bind, Except.bind, Except.error.injEq] at h
    exact h ▸ tablesOf_notMissing ht
  | ok ts => simp [ht, bind, Except.bind, pure, Except.pure] at h

theorem decode_notMissing {r : Row} {e : Failure} (h : decode α r = .error e) : e.NotMissing := by
  obtain ⟨f, rfl⟩ := decode_error h
  exact Failure.notMissing_storage f

/-- Decoding rows one after another fails only as decoding one of them fails. -/
theorem mapM_decode_notMissing {rows : List Row} {e : Failure}
    (h : rows.mapM (decode α) = (.error e : Except Failure (List α))) : e.NotMissing := by
  induction rows with
  | nil => cases h
  | cons r rows ih =>
    rw [List.mapM_cons] at h
    cases hr : decode α r with
    | error e' =>
      simp only [hr, bind, Except.bind, Except.error.injEq] at h
      exact h ▸ decode_notMissing hr
    | ok a =>
      simp only [hr, bind, Except.bind] at h
      cases hs : rows.mapM (decode α) with
      | error e' =>
        simp only [hs, Except.error.injEq] at h
        subst h
        exact ih hs
      | ok bs => simp [hs, pure, Except.pure] at h

theorem readMatching_notMissing {k : Record.Key α} {db : Database} {e : Failure}
    (h : readMatching α k db = .error e) : e.NotMissing := by
  unfold readMatching at h
  cases hr : rowsOf α db with
  | error e' =>
    simp only [hr, bind, Except.bind, Except.error.injEq] at h
    exact h ▸ rowsOf_notMissing hr
  | ok rows =>
    simp only [hr, bind, Except.bind] at h
    exact mapM_decode_notMissing h

/-- A refused insert is never a record missing. -/
theorem insertFailure_notMissing (f : StoreFault) : (insertFailure α f).NotMissing := by
  cases f with
  | constraint v => exact Failure.notMissing_invalid _
  | _ => exact Failure.notMissing_storage _

/-- Creating never answers that a record is missing: the row it reads back is the one it has
just stored. -/
theorem create_notMissing (new : Record.New α) (now : Instant) :
    Work.FailsOnly Failure.NotMissing (create α new now) := by
  intro s e s' h
  rw [create_run] at h
  split at h
  · cases h
    exact Failure.notMissing_invalid _
  · split at h
    · cases h
      exact tablesOf_notMissing ‹_›
    · split at h
      · cases h
        exact insertFailure_notMissing _
      · rename_i ts' id hins
        obtain ⟨-, -, rfl⟩ := Tables.insert_ok hins
        intro entity hmiss
        exact fetch_ne_notFound (i := id) (by simp) entity
          ((Prod.mk.inj h).1.trans (congrArg _ hmiss))

theorem delete_notMissing (k : Record.Key α) :
    Work.FailsOnly Failure.NotMissing (delete α k) := by
  intro s e s' h
  rw [delete_run] at h
  split at h
  · cases h
    exact tablesOf_notMissing ‹_›
  · cases h

end Record

theorem loadDetail_notMissing {f : Formula} {db : Database} {e : Failure}
    (h : loadDetail f db = .error e) : e.NotMissing := by
  unfold loadDetail at h
  cases hc : Record.readMatching Colorant (LineKey.formulaId f.id) db with
  | error e' =>
    simp only [hc, bind, Except.bind, Except.error.injEq] at h
    exact h ▸ Record.readMatching_notMissing hc
  | ok cs =>
    cases hb : Record.readMatching Base (LineKey.formulaId f.id) db with
    | error e' =>
      simp only [hc, hb, bind, Except.bind, Except.error.injEq] at h
      exact h ▸ Record.readMatching_notMissing hb
    | ok bs => simp [hc, hb, bind, Except.bind, pure, Except.pure] at h

theorem insertColorants_notMissing (fid : Int) (lines : List ColorantLine) (now : Instant) :
    Work.FailsOnly Failure.NotMissing (insertColorants fid lines now) :=
  Work.FailsOnly.forM lines fun _ _ => Work.FailsOnly.discard (Record.create_notMissing _ _)

theorem insertBases_notMissing (fid : Int) (lines : List BaseLine) (now : Instant) :
    Work.FailsOnly Failure.NotMissing (insertBases fid lines now) :=
  Work.FailsOnly.forM lines fun _ _ => Work.FailsOnly.discard (Record.create_notMissing _ _)

/-- Reading back a formula with its lines, after the writes, never answers that a record is
missing. -/
theorem readBack_notMissing (f : Formula) :
    Work.FailsOnly Failure.NotMissing (do liftM (loadDetail f (← get)) : Work FormulaDetail) := by
  intro s e s' h
  simp only [Work.run_bind, Work.run_get, Work.run_liftM] at h
  exact loadDetail_notMissing (Prod.mk.inj h).1

/-- **Creating a formula never answers that a record is missing.** -/
theorem createFormula_found (nf : NewFormula) (now : Instant) :
    Work.FailsOnly Failure.NotMissing (createFormula nf now) :=
  Work.FailsOnly.transaction <| Work.FailsOnly.bind (Record.create_notMissing _ _) fun f =>
    Work.FailsOnly.bind (insertColorants_notMissing _ _ _) fun _ =>
      Work.FailsOnly.bind (insertBases_notMissing _ _ _) fun _ => readBack_notMissing f

theorem replaceColorantLines_notMissing (fid : Int) (o : Option (List ColorantLine))
    (now : Instant) : Work.FailsOnly Failure.NotMissing (replaceColorantLines fid o now) := by
  cases o with
  | none => exact Work.FailsOnly.pure _
  | some lines =>
    exact Work.FailsOnly.bind (Work.FailsOnly.discard (Record.delete_notMissing _)) fun _ =>
      insertColorants_notMissing _ _ _

theorem replaceBaseLines_notMissing (fid : Int) (o : Option (List BaseLine)) (now : Instant) :
    Work.FailsOnly Failure.NotMissing (replaceBaseLines fid o now) := by
  cases o with
  | none => exact Work.FailsOnly.pure _
  | some lines =>
    exact Work.FailsOnly.bind (Work.FailsOnly.discard (Record.delete_notMissing _)) fun _ =>
      insertBases_notMissing _ _ _

/-- **Changing a formula answers that a record is missing only when the tables exist and no
formula has the id**, and then the record missing is a formula. -/
theorem updateFormula_notFound {id : Int} {a : Amendment} {now : Instant} {db s : Database}
    {entity : String} (h : (updateFormula id a now).run.run db = (.error (.notFound entity), s)) :
    entity = "Formula" ∧ Record.Unmatched (α := Formula) (FormulaKey.id id) db := by
  rw [updateFormula_steps] at h
  obtain ⟨s₁, h₁⟩ := transaction_error h
  rcases Work.bind_error h₁ with h₂ | ⟨f, s₂, -, h₃⟩
  · -- the lookup of the formula failed
    exact Record.update_notFound Formula.id_ofRow (fun g => Formula.changes_fit a.fields g now)
      (fun ts g => Formula.changes_admitted ts a.fields g now) (congrArg Prod.fst h₂)
  · -- the steps after the lookup never answer that a record is missing
    have hrest := Work.FailsOnly.bind (replaceColorantLines_notMissing id a.colorants now)
      fun _ => Work.FailsOnly.bind (replaceBaseLines_notMissing id a.bases now) fun _ =>
        readBack_notMissing f
    exact absurd rfl (hrest s₂ _ _ h₃ entity)

/-- Changing a formula whose new name is not blank, when no formula has the id, answers that
the formula is not found and writes nothing. -/
theorem updateFormula_unmatched {id : Int} {a : Amendment} {now : Instant} {db : Database}
    (hname : Record.NamesSomething a.fields.name)
    (hun : Record.Unmatched (α := Formula) (FormulaKey.id id) db) :
    (updateFormula id a now).run.run db = (.error (.notFound "Formula"), db) := by
  have hp : Record.checkPatch (α := Formula) a.fields = none := Record.requiredIfSet_eq_none hname
  rw [updateFormula_steps, transaction_run, Work.run_bind_error (Record.update_unmatched hp hun)]
  rfl

/-! ## Which rule a request breaks -/

theorem required_eq_none_iff {entity field v : String} :
    required entity field v = none ↔ Text.isBlankText v = false := by
  unfold required
  split <;> simp_all

theorem findSome_required_eq_none_iff {β : Type} (name : β → String) (ls : List β)
    (entity field : String) :
    ls.findSome? (fun l => required entity field (name l)) = none ↔
      ∀ l ∈ ls, Text.isBlankText (name l) = false := by
  rw [List.findSome?_eq_none_iff]
  exact forall₂_congr fun _ _ => required_eq_none_iff

theorem bind_findSome_required_eq_none_iff {β : Type} (name : β → String)
    (o : Option (List β)) (entity field : String) :
    (o.bind fun ls => ls.findSome? fun l => required entity field (name l)) = none ↔
      ¬ ∃ ls, o = some ls ∧ ∃ l ∈ ls, Text.isBlankText (name l) = true := by
  cases o with
  | none => simp
  | some ls => simp [required_eq_none_iff]

theorem NewFormula.rejection_eq_none_iff (nf : NewFormula) :
    NewFormula.rejection nf = none ↔ ¬ nf.HasBlankName := by
  simp only [NewFormula.rejection, Option.or_eq_none_iff, required_eq_none_iff,
    findSome_required_eq_none_iff, NewFormula.HasBlankName, not_or, not_exists, not_and,
    Bool.not_eq_true]

theorem Amendment.lineRejection_eq_none_iff (a : Amendment) :
    Amendment.lineRejection a = none ↔ ¬ a.HasBlankLine := by
  simp only [Amendment.lineRejection, Option.or_eq_none_iff, Amendment.HasBlankLine, not_or]
  exact and_congr (bind_findSome_required_eq_none_iff ColorantLine.name a.colorants _ _)
    (bind_findSome_required_eq_none_iff BaseLine.base a.bases _ _)

/-! ## How the workflows answer on a good database -/

/-- How the workflows answer on a database at an instant. Creating fails exactly when a name
is blank or the tables have no ids left for the formula and its lines: with ids left, as
invalid; with every name filled in, as the store full. Changing fails as invalid when the new
name is blank; with another name, as the formula not found exactly when no formula row has the
id; and when one has it, exactly when a list of lines given holds a blank name or no ids are
left for the lines given: with ids left, as invalid; with every name filled in, as the store
full. Removing never fails. -/
structure WorkflowAnswers (db : Database) (now : Instant) : Prop where
  create_fails_iff : ∀ nf : NewFormula,
    ((createFormula nf now).run.run db).1.isOk = false ↔
      nf.HasBlankName ∨ ¬ NewFormula.Fits nf db
  create_invalid : ∀ (nf : NewFormula) (e : Failure), NewFormula.Fits nf db →
    ((createFormula nf now).run.run db).1 = .error e → ∃ r, e = .invalid r
  create_full : ∀ nf : NewFormula, ¬ nf.HasBlankName → ¬ NewFormula.Fits nf db →
    ((createFormula nf now).run.run db).1 = .error (.storage .full)
  update_blank_name : ∀ (id : Int) (a : Amendment) (v : String), a.fields.name = some v →
    Text.isBlankText v = true → ∃ r, ((updateFormula id a now).run.run db).1 = .error (.invalid r)
  update_notFound_iff : ∀ (id : Int) (a : Amendment), Record.NamesSomething a.fields.name →
    (((updateFormula id a now).run.run db).1 = .error (.notFound "Formula") ↔
      ∀ r ∈ db.formulaRows, r.id ≠ id)
  update_fails_iff : ∀ (id : Int) (a : Amendment), Record.NamesSomething a.fields.name →
    (∃ r ∈ db.formulaRows, r.id = id) →
      (((updateFormula id a now).run.run db).1.isOk = false ↔
        a.HasBlankLine ∨ ¬ Amendment.Fits a db)
  update_invalid : ∀ (id : Int) (a : Amendment) (e : Failure), Record.NamesSomething a.fields.name →
    (∃ r ∈ db.formulaRows, r.id = id) → Amendment.Fits a db →
      ((updateFormula id a now).run.run db).1 = .error e → ∃ r, e = .invalid r
  update_full : ∀ (id : Int) (a : Amendment), Record.NamesSomething a.fields.name →
    (∃ r ∈ db.formulaRows, r.id = id) → ¬ a.HasBlankLine → ¬ Amendment.Fits a db →
      ((updateFormula id a now).run.run db).1 = .error (.storage .full)
  delete_ok : ∀ id : Int, ((deleteFormula id).run.run db).1.isOk = true

namespace Contents

variable {K : Contents} {now : Instant}

theorem formulaRows_db (K : Contents) : K.db.formulaRows = K.formulas.map Formula.row := rfl

/-- A formula row of contents has an id exactly when one of its formulas is found by it. -/
theorem find_isSome_iff (K : Contents) (id : Int) :
    (K.formulas.find? fun f => decide (f.id = id)).isSome ↔ ∃ r ∈ K.db.formulaRows, r.id = id := by
  simp [List.find?_isSome, formulaRows_db, Formula.row]

/-- A formula found by its id is a row the key of that id concerns. -/
theorem not_unmatched_of_find {id : Int} {cur : Formula}
    (hfind : K.formulas.find? (fun f => decide (f.id = id)) = some cur) :
    ¬ Record.Unmatched (α := Formula) (FormulaKey.id id) K.db := by
  have hfind' : K.formulas.find? (fun f =>
      (Record.lookup (α := Formula) (FormulaKey.id id)).matches (Stored.row f)) = some cur := by
    simpa only [Formula.matches_id] using hfind
  apply Record.not_unmatched (r := Stored.row cur)
  rw [Contents.formula_rows, List.find?_map, Function.comp_def, hfind']
  rfl

/-- Creating goes through exactly when no rule is broken and ids are left. -/
theorem createFormula_isOk_iff (hK : K.Good) (hnow : now.Storable) (nf : NewFormula) :
    ((createFormula nf now).run.run K.db).1.isOk = true ↔
      NewFormula.rejection nf = none ∧ NewFormula.Fits nf K.db := by
  constructor
  · intro h
    generalize hrun : (createFormula nf now).run.run K.db = p at h
    obtain ⟨e | d, s⟩ := p
    · cases h
    · exact createFormula_ok_inv hK hnow hrun
  · rintro ⟨hr, hfits⟩
    rw [createFormula_eq hK hnow hr hfits]
    rfl

/-- Changing a formula that is found, under a name that is not blank, goes through exactly
when its lines break no rule and ids are left for them. -/
theorem updateFormula_isOk_iff (hK : K.Good) (hnow : now.Storable) {id : Int} {a : Amendment}
    (hname : requiredIfSet "Formula" "formula_name" a.fields.name = none) {cur : Formula}
    (hfind : K.formulas.find? (fun f => decide (f.id = id)) = some cur) :
    ((updateFormula id a now).run.run K.db).1.isOk = true ↔
      Amendment.lineRejection a = none ∧ Amendment.Fits a K.db := by
  constructor
  · intro h
    generalize hrun : (updateFormula id a now).run.run K.db = p at h
    obtain ⟨e | d, s⟩ := p
    · cases h
    · exact updateFormula_ok_inv hK hnow hname hfind hrun
  · rintro ⟨hl, hfits⟩
    rw [updateFormula_eq hK hnow hname hfind hl hfits]
    rfl

/-- A change whose name is not blank, of a formula found by its id, fails exactly when its
lines break a rule or find no ids: as invalid when ids are left, and as the store full when no
rule is broken. -/
theorem updateFormula_found (hK : K.Good) (hnow : now.Storable) {id : Int} {a : Amendment}
    (hname : Record.NamesSomething a.fields.name) {cur : Formula}
    (hfind : K.formulas.find? (fun f => decide (f.id = id)) = some cur) :
    (((updateFormula id a now).run.run K.db).1.isOk = false ↔
        a.HasBlankLine ∨ ¬ Amendment.Fits a K.db) ∧
      (Amendment.Fits a K.db →
        ∀ e, ((updateFormula id a now).run.run K.db).1 = .error e → ∃ r, e = .invalid r) ∧
      (¬ a.HasBlankLine → ¬ Amendment.Fits a K.db →
        ((updateFormula id a now).run.run K.db).1 = .error (.storage .full)) := by
  have hn : requiredIfSet "Formula" "formula_name" a.fields.name = none :=
    Record.requiredIfSet_eq_none hname
  refine ⟨?_, fun hfits e he => ?_, fun hno hfits => ?_⟩
  · rw [Bool.eq_false_iff, ne_eq, updateFormula_isOk_iff hK hnow hn hfind,
      Amendment.lineRejection_eq_none_iff, not_and_or, not_not]
  · cases hl : Amendment.lineRejection a with
    | none =>
      rw [updateFormula_eq hK hnow hn hfind hl hfits] at he
      cases he
    | some r =>
      rw [updateFormula_error_lines hK hnow hn hfind hl hfits] at he
      cases he
      exact ⟨r, rfl⟩
  · rw [updateFormula_full hK hnow hn hfind ((Amendment.lineRejection_eq_none_iff a).2 hno) hfits]

/-- Good contents answer as the workflows should. -/
theorem workflowAnswers (hK : K.Good) (hnow : now.Storable) : WorkflowAnswers K.db now where
  create_fails_iff nf := by
    rw [Bool.eq_false_iff, ne_eq, createFormula_isOk_iff hK hnow, NewFormula.rejection_eq_none_iff,
      not_and_or, not_not]
  create_invalid nf e hfits h := by
    cases hr : NewFormula.rejection nf with
    | none =>
      rw [createFormula_eq hK hnow hr hfits] at h
      cases h
    | some r =>
      rw [createFormula_error hK hnow hr hfits] at h
      cases h
      exact ⟨r, rfl⟩
  create_full nf hno hfits := by
    rw [createFormula_full hK hnow ((NewFormula.rejection_eq_none_iff nf).2 hno) hfits]
  update_blank_name id a v hv hblank := by
    have hname : requiredIfSet "Formula" "formula_name" a.fields.name =
        some (.fieldRequired "Formula" "formula_name") := by
      simp [hv, requiredIfSet, required, hblank]
    exact ⟨_, by rw [updateFormula_error_name hname]⟩
  update_notFound_iff id a hname := by
    have hn : requiredIfSet "Formula" "formula_name" a.fields.name = none :=
      Record.requiredIfSet_eq_none hname
    cases hf : K.formulas.find? (fun f => decide (f.id = id)) with
    | none =>
      rw [updateFormula_error_missing hK hn hf]
      refine iff_of_true rfl (fun r hr hid => ?_)
      simpa [hf] using (find_isSome_iff K id).2 ⟨r, hr, hid⟩
    | some cur =>
      -- the formula is found, and only the lookup answers that a record is missing
      obtain ⟨r, hr, hid⟩ := (find_isSome_iff K id).1 (by simp [hf])
      refine iff_of_false (fun h => ?_) (fun hall => hall r hr hid)
      exact not_unmatched_of_find hf (updateFormula_notFound (Prod.ext h rfl)).2
  update_fails_iff id a hname hex := by
    obtain ⟨cur, hfind⟩ := Option.isSome_iff_exists.1 ((find_isSome_iff K id).2 hex)
    exact (updateFormula_found hK hnow hname hfind).1
  update_invalid id a e hname hex hfits := by
    obtain ⟨cur, hfind⟩ := Option.isSome_iff_exists.1 ((find_isSome_iff K id).2 hex)
    exact (updateFormula_found hK hnow hname hfind).2.1 hfits e
  update_full id a hname hex hno hfits := by
    obtain ⟨cur, hfind⟩ := Option.isSome_iff_exists.1 ((find_isSome_iff K id).2 hex)
    exact (updateFormula_found hK hnow hname hfind).2.2 hno hfits
  delete_ok id := by rw [deleteFormula_eq]; rfl

end Contents

/-- **The workflows are all or nothing, and fail exactly when a rule is broken.** Whatever
the database, a workflow that fails leaves it as it was. On every database that the records'
own operations reach at clocks that can be stored, at such a clock, the workflows answer as
`WorkflowAnswers` says. -/
theorem workflows_fail_cleanly :
    (∀ (nf : NewFormula) (now : Instant) (db s : Database) (e : Failure),
      (createFormula nf now).run.run db = (.error e, s) → s = db) ∧
    (∀ (id : Int) (a : Amendment) (now : Instant) (db s : Database) (e : Failure),
      (updateFormula id a now).run.run db = (.error e, s) → s = db) ∧
    (∀ (id : Int) (db s : Database) (e : Failure),
      (deleteFormula id).run.run db = (.error e, s) → s = db) ∧
    ∀ (db : Database) (now : Instant), Reachable (fun c => c.typed = true) Instant.Storable db →
      now.Storable → WorkflowAnswers db now := by
  refine ⟨fun _ _ _ _ _ => createFormula_error_keeps, fun _ _ _ _ _ _ => updateFormula_error_keeps,
    fun _ _ _ _ => deleteFormula_error_keeps, fun db now hdb hnow => ?_⟩
  obtain ⟨K, rfl, hK⟩ := (Database.good_of_reachable hdb).contents
  exact Contents.workflowAnswers hK hnow

/-- A database holding one formula with a colorant line is one the records' own operations
reach, and the workflows answer on it as `WorkflowAnswers` says. -/
theorem workflows_answer_with_formula :
    let db := (Call.createFormula ⟨⟨"Soft Red", "", "", "", ""⟩, [⟨"Red Oxide", 12⟩], []⟩).apply
      ⟨0, 0⟩ Database.initial
    Reachable (fun c => c.typed = true) Instant.Storable db ∧ (⟨0, 0⟩ : Instant).Storable ∧
      db.formulaRows.length = 1 ∧ WorkflowAnswers db ⟨0, 0⟩ := by
  intro db
  have hreach : Reachable (fun c => c.typed = true) Instant.Storable db :=
    .step .initial rfl (by decide)
  exact ⟨hreach, by decide, by decide +kernel, workflows_fail_cleanly.2.2.2 _ _ hreach (by decide)⟩

end Store

end Tintbook
