import Tintbook.Web.Server
import Tintbook.Proofs.Store.Failures
import Tintbook.Proofs.Text.TitleCase
/-!
# How the formula routes answer

A submission to `/formula/add` goes through three stages: its body is read, it gives a
command, and the command's workflow runs. The answer is `{"success": true}` with status 200
exactly when all three went through (`SubmitAnswer.ok_iff`). Otherwise the answer is
`{"success": false, "error": …}` and the database is as it was: status 400, with the
stage's own sentence, when the body cannot be read, when it gives no command, or when the
store refuses the command; status 404 exactly when the command changes a formula that no
row has the id of; status 500, with a fixed sentence, when the store fails otherwise.

The 404 rests on two facts proved before: only the lookup of the formula to change answers
that a record is missing (`updateFormula_notFound`), and a command never carries a blank
name, since title case keeps a name (`tidyTitle_nonBlank`), so a change of a formula that
is not there is never refused for its name first.

Removing a formula through `/api/formulas/{id}` answers 204 exactly when a formula has the
id (`DeleteAnswer`).

## What this module delivers

- `Failure.ByClient`, `Failure.OnServer`, and how `HttpError.ofFailure` answers them.
- `Submission.toCommand_error_byClient`, `Submission.toCommand_update_names`.
- `Committed`, `TargetMissing`, `SubmitAnswer`, `DeleteAnswer`.
- `formula_routes_answer`, with its witness.
-/

set_option autoImplicit false

namespace Tintbook

open Store

/-! ## Where a failure puts the blame -/

/-- Failures the client is to blame for, answered with status 400: a broken rule, or lines
that are no valid text. -/
def Failure.ByClient : Failure → Prop
  | .invalid _ | .malformedPayload _ => True
  | _ => False

/-- Failures of the server, answered with status 500 and a fixed sentence: the storage, the
file system or the settings. -/
def Failure.OnServer : Failure → Prop
  | .storage _ | .io _ | .settings _ => True
  | _ => False

theorem Failure.blame (f : Failure) : f.ByClient ∨ (∃ e, f = .notFound e) ∨ f.OnServer := by
  cases f <;> simp [Failure.ByClient, Failure.OnServer]

theorem HttpError.ofFailure_byClient (fallback : String) {f : Failure} (h : f.ByClient) :
    HttpError.ofFailure fallback f = ⟨400, f.message⟩ := by
  cases f <;> simp_all [Failure.ByClient, HttpError.ofFailure]

theorem HttpError.ofFailure_onServer (fallback : String) {f : Failure} (h : f.OnServer) :
    HttpError.ofFailure fallback f = ⟨500, fallback⟩ := by
  cases f <;> simp_all [Failure.OnServer, HttpError.ofFailure]

theorem HttpError.ofFailure_missing (fallback : String) :
    HttpError.ofFailure fallback (.notFound "Formula") = HttpError.missing := rfl

@[simp] theorem HttpError.json_status (e : HttpError) : e.json.status = e.status := rfl

@[simp] theorem accepted_status : accepted.status = 200 := rfl

/-! ## Reading a body and making a command -/

theorem Except.bind_error_iff {ε α β : Type} {x : Except ε α} {f : α → Except ε β} {e : ε} :
    x >>= f = .error e ↔ x = .error e ∨ ∃ a, x = .ok a ∧ f a = .error e := by
  cases x <;> simp [bind, Except.bind]

/-- A computation that gives some value when read as an option gave that value. -/
theorem Except.eq_ok_of_toOption {ε α : Type} {e : Except ε α} {a : α}
    (h : e.toOption = some a) : e = .ok a := by
  cases e with
  | error _ => cases h
  | ok b =>
    cases h
    rfl

/-- Every body that cannot be read is answered with status 400. -/
theorem readSubmission_error_status {req : Request} {e : HttpError}
    (h : readSubmission req = .error e) : e.status = 400 := by
  unfold readSubmission at h
  dsimp only at h
  -- a JSON body, or a form; either may be too long to be read
  split at h
  · split at h
    · split at h
      · cases h
        rfl
      · split at h
        · cases h
        · cases h
          rfl
    · cases h
      rfl
  · split at h
    · split at h
      · cases h
        rfl
      · split at h
        · cases h
        · cases h
          rfl
    · cases h
      rfl

theorem IdField.resolve_error {i : IdField} {f : Failure} (h : i.resolve = .error f) :
    f.ByClient := by
  cases i with
  | number n => cases h
  | text t =>
    simp only [IdField.resolve, readFormulaId] at h
    repeat' split at h
    all_goals first
      | cases h; trivial
      | cases h

theorem PayloadField.colorants_error {p : PayloadField} {f : Failure}
    (h : p.colorants = .error f) : f.ByClient := by
  unfold PayloadField.colorants at h
  repeat' split at h
  all_goals first
    | cases h; trivial
    | cases h

theorem PayloadField.bases_error {p : PayloadField} {f : Failure} (h : p.bases = .error f) :
    f.ByClient := by
  unfold PayloadField.bases at h
  repeat' split at h
  all_goals first
    | cases h; trivial
    | cases h

/-! The command a submission gives is made in four steps: its id, its colorant lines, its base
lines, each of which can fail, and then the command itself. The definition writes them with
join points; `Submission.toCommand_steps` states them as four steps in a row. -/

/-- The id a submission gives, if any. -/
def Submission.idOf (s : Submission) : Except Failure (Option Int) :=
  match s.formulaId with
  | some f => f.resolve
  | none => pure none

/-- The colorant lines a submission gives, if any. -/
def Submission.colorantsOf (s : Submission) : Except Failure (Option (List ColorantLine)) :=
  match s.colorants with
  | some f => f.colorants
  | none => pure none

/-- The base lines a submission gives, if any. -/
def Submission.basesOf (s : Submission) : Except Failure (Option (List BaseLine)) :=
  match s.bases with
  | some f => f.bases
  | none => pure none

/-- The command made of a submission's fields, once its id and lines are read. -/
def Submission.commandOf (s : Submission) (id : Option Int) (cs : Option (List ColorantLine))
    (bs : Option (List BaseLine)) : Except Failure Command :=
  match id with
  | some id =>
    pure (.update id ⟨⟨tidyTitle s.name, tidy s.number, tidyTitle s.customer, tidy s.summary,
      tidy s.notes⟩, cs, bs⟩)
  | none =>
    match tidyTitle s.name with
    | none => throw (.invalid .nameRequired)
    | some name =>
      pure (.create ⟨⟨name, (tidy s.number).getD "", (tidyTitle s.customer).getD "",
        (tidy s.summary).getD "", (tidy s.notes).getD ""⟩, cs.getD [], bs.getD []⟩)

theorem Submission.toCommand_steps (s : Submission) :
    s.toCommand = (do
      let id ← s.idOf
      let cs ← s.colorantsOf
      let bs ← s.basesOf
      s.commandOf id cs bs) := by
  unfold Submission.toCommand Submission.idOf Submission.colorantsOf Submission.basesOf
  cases s.formulaId <;> cases s.colorants <;> cases s.bases <;> rfl

/-- **A submission that gives no command fails by the client's fault**: an id that is no
integer, lines that cannot be read, or a new formula without a name. -/
theorem Submission.toCommand_error_byClient {s : Submission} {f : Failure}
    (h : s.toCommand = .error f) : f.ByClient := by
  rw [Submission.toCommand_steps] at h
  rcases Except.bind_error_iff.1 h with hid | ⟨id, -, h⟩
  · -- the id
    unfold Submission.idOf at hid
    split at hid
    · exact IdField.resolve_error hid
    · cases hid
  rcases Except.bind_error_iff.1 h with hcs | ⟨cs, -, h⟩
  · -- the colorant lines
    unfold Submission.colorantsOf at hcs
    split at hcs
    · exact PayloadField.colorants_error hcs
    · cases hcs
  rcases Except.bind_error_iff.1 h with hbs | ⟨bs, -, h⟩
  · -- the base lines
    unfold Submission.basesOf at hbs
    split at hbs
    · exact PayloadField.bases_error hbs
    · cases hbs
  -- the command itself: only a new formula without a name fails
  unfold Submission.commandOf at h
  split at h
  · cases h
  · split at h
    · cases h
      trivial
    · cases h

/-- **A change that a submission gives never carries a blank name.** -/
theorem Submission.toCommand_update_names {s : Submission} {id : Int} {a : Amendment}
    (h : s.toCommand = .ok (.update id a)) : Record.NamesSomething a.fields.name := by
  rw [Submission.toCommand_steps] at h
  obtain ⟨i, -, h⟩ := Except.bind_ok_iff.1 h
  obtain ⟨cs, -, h⟩ := Except.bind_ok_iff.1 h
  obtain ⟨bs, -, h⟩ := Except.bind_ok_iff.1 h
  intro v hv
  unfold Submission.commandOf at h
  split at h
  · simp only [pure, Except.pure, Except.ok.injEq, Command.update.injEq] at h
    obtain ⟨-, rfl⟩ := h
    exact tidyTitle_nonBlank hv
  · split at h
    · cases h
    · cases h

/-! ## The workflow a command runs -/

namespace Command

variable {now : Instant} {db db' : Database} {cmd : Command}

theorem workflow_error_keeps {f : Failure} (h : (cmd.workflow now).run.run db = (.error f, db')) :
    db' = db := by
  cases cmd with
  | create nf => exact createFormula_error_keeps h
  | update id a => exact updateFormula_error_keeps h

/-- A command answers that a record is missing only when it changes a formula that is not
there. -/
theorem workflow_notFound {entity : String}
    (h : (cmd.workflow now).run.run db = (.error (.notFound entity), db')) :
    ∃ id a, cmd = .update id a ∧ Record.Unmatched (α := Formula) (FormulaKey.id id) db := by
  cases cmd with
  | create nf => exact absurd rfl (createFormula_found nf now db _ _ h entity)
  | update id a => exact ⟨id, a, rfl, (updateFormula_notFound h).2⟩

end Command

theorem Formula.unmatched_iff (id : Int) (db : Database) :
    Record.Unmatched (α := Formula) (FormulaKey.id id) db ↔
      db.hasSchema = true ∧ ∀ r ∈ db.formulaRows, r.id ≠ id := by
  have hmatch : ∀ r : Row, (Record.lookup (α := Formula) (FormulaKey.id id)).matches r =
      decide (r.id = id) := fun r => Lookup.matches_byId r id
  obtain ⟨_ | ts⟩ := db
  · simp [Record.Unmatched, Database.hasSchema]
  · have hrows : (ts.get (Record.table Formula)).rows = ts.formulas.rows := rfl
    simp [Record.Unmatched, Database.hasSchema, hmatch, hrows]

/-! ## The answer to a submission -/

/-- A submission whose body was read, which gave a command, and whose workflow went through. -/
def Committed (req : Request) (now : Instant) (db : Database) : Prop :=
  ∃ s cmd d db', readSubmission req = .ok s ∧ s.toCommand = .ok cmd ∧
    (cmd.workflow now).run.run db = (.ok d, db')

/-- A submission that asks to change a formula that is not there: the tables are, but no row
of the formulas table has the id. -/
def TargetMissing (req : Request) (db : Database) : Prop :=
  ∃ s id a, readSubmission req = .ok s ∧ s.toCommand = .ok (.update id a) ∧
    db.hasSchema = true ∧ ∀ r ∈ db.formulaRows, r.id ≠ id

/-- How a submission is answered, stage by stage, and what it leaves of the database. -/
structure SubmitAnswer (req : Request) (now : Instant) (db : Database)
    (out : Response × Database) : Prop where
  ok_iff : out.1.status = 200 ↔ Committed req now db
  committed : ∀ s cmd d db', readSubmission req = .ok s → s.toCommand = .ok cmd →
    (cmd.workflow now).run.run db = (.ok d, db') → out = (accepted, db')
  unreadable : ∀ e, readSubmission req = .error e → out = (e.json, db) ∧ e.status = 400
  refused : ∀ s f, readSubmission req = .ok s → s.toCommand = .error f →
    out = ((⟨400, f.message⟩ : HttpError).json, db)
  rejected : ∀ s cmd f db', readSubmission req = .ok s → s.toCommand = .ok cmd →
    (cmd.workflow now).run.run db = (.error f, db') → f.ByClient →
      out = ((⟨400, f.message⟩ : HttpError).json, db)
  failed : ∀ s cmd f db', readSubmission req = .ok s → s.toCommand = .ok cmd →
    (cmd.workflow now).run.run db = (.error f, db') → f.OnServer →
      out = ((⟨500, cmd.fallback⟩ : HttpError).json, db)
  missing_iff : out.1.status = 404 ↔ TargetMissing req db
  missing : TargetMissing req db → out = (HttpError.missing.json, db)
  refusals : out.1.status ≠ 200 → out.2 = db ∧
    ∃ e : HttpError, out.1 = e.json ∧ (e.status = 400 ∨ e.status = 404 ∨ e.status = 500)

section Submit

variable {req : Request} {now : Instant} {db : Database}

theorem submit_unreadable {e : HttpError} (h : readSubmission req = .error e) :
    submit req now db = (e.json, db) := by
  simp only [submit, h]

theorem submit_refused {s : Submission} {f : Failure} (h : readSubmission req = .ok s)
    (hc : s.toCommand = .error f) :
    submit req now db = ((⟨400, f.message⟩ : HttpError).json, db) := by
  simp only [submit, h, hc, HttpError.ofFailure_byClient _ (Submission.toCommand_error_byClient hc)]

theorem submit_committed {s : Submission} {cmd : Command} {d : FormulaDetail} {db' : Database}
    (h : readSubmission req = .ok s) (hc : s.toCommand = .ok cmd)
    (hw : (cmd.workflow now).run.run db = (.ok d, db')) : submit req now db = (accepted, db') := by
  simp only [submit, h, hc, hw]

/-- A workflow that fails is answered by where the failure puts the blame, and the database
is as it was. -/
theorem submit_failed {s : Submission} {cmd : Command} {f : Failure} {db' : Database}
    (h : readSubmission req = .ok s) (hc : s.toCommand = .ok cmd)
    (hw : (cmd.workflow now).run.run db = (.error f, db')) :
    submit req now db = ((HttpError.ofFailure cmd.fallback f).json, db) := by
  simp only [submit, h, hc, hw, Command.workflow_error_keeps hw]

/-- A change of a formula that is not there is answered 404. -/
theorem submit_missing (h : TargetMissing req db) :
    submit req now db = (HttpError.missing.json, db) := by
  obtain ⟨s, id, a, hs, hc, hmiss⟩ := h
  have hw : (updateFormula id a now).run.run db = (.error (.notFound "Formula"), db) :=
    updateFormula_unmatched (Submission.toCommand_update_names hc)
      ((Formula.unmatched_iff id db).2 hmiss)
  rw [submit_failed hs hc hw, HttpError.ofFailure_missing]

/-- **How a submission comes out**: unreadable, refused, committed, or failed in its
workflow, each with its answer. -/
theorem submit_cases (req : Request) (now : Instant) (db : Database) :
    (∃ e, readSubmission req = .error e ∧ submit req now db = (e.json, db)) ∨
    (∃ s f, readSubmission req = .ok s ∧ s.toCommand = .error f ∧
      submit req now db = ((⟨400, f.message⟩ : HttpError).json, db)) ∨
    (∃ s cmd d db', readSubmission req = .ok s ∧ s.toCommand = .ok cmd ∧
      (cmd.workflow now).run.run db = (.ok d, db') ∧ submit req now db = (accepted, db')) ∨
    (∃ s cmd f db', readSubmission req = .ok s ∧ s.toCommand = .ok cmd ∧
      (cmd.workflow now).run.run db = (.error f, db') ∧
      submit req now db = ((HttpError.ofFailure cmd.fallback f).json, db)) := by
  cases h : readSubmission req with
  | error e => exact .inl ⟨e, rfl, submit_unreadable h⟩
  | ok s =>
    cases hc : s.toCommand with
    | error f => exact .inr (.inl ⟨s, f, rfl, hc, submit_refused h hc⟩)
    | ok cmd =>
      cases hw : (cmd.workflow now).run.run db with
      | mk r db' =>
        cases r with
        | ok d => exact .inr (.inr (.inl ⟨s, cmd, d, db', rfl, hc, hw, submit_committed h hc hw⟩))
        | error f => exact .inr (.inr (.inr ⟨s, cmd, f, db', rfl, hc, hw, submit_failed h hc hw⟩))

/-- The status of a failed workflow's answer. -/
theorem ofFailure_status (fallback : String) (f : Failure) :
    (HttpError.ofFailure fallback f).status = 400 ∨ (HttpError.ofFailure fallback f).status = 404 ∨
      (HttpError.ofFailure fallback f).status = 500 := by
  cases f <;> simp [HttpError.ofFailure]

theorem submit_ok_iff : (submit req now db).1.status = 200 ↔ Committed req now db := by
  rcases submit_cases req now db with
    ⟨e, h, hout⟩ | ⟨s, f, h, hc, hout⟩ | ⟨s, cmd, d, db', h, hc, hw, hout⟩ |
      ⟨s, cmd, f, db', h, hc, hw, hout⟩
  · -- the body does not read as a submission: refused before any command is made
    rw [hout, HttpError.json_status, readSubmission_error_status h]
    refine iff_of_false (by decide) ?_
    rintro ⟨s, _, _, _, hs, -⟩
    rw [h] at hs
    cases hs
  · -- the submission gives no command
    rw [hout, HttpError.json_status]
    refine iff_of_false (by simp) ?_
    rintro ⟨s', _, _, _, hs, hc', -⟩
    rw [h] at hs
    cases hs
    rw [hc] at hc'
    cases hc'
  · rw [hout]
    exact iff_of_true rfl ⟨s, cmd, d, db', h, hc, hw⟩
  · -- the workflow fails, and no failure is answered with 200
    rw [hout, HttpError.json_status]
    refine iff_of_false (by rcases ofFailure_status cmd.fallback f with h4 | h4 | h4 <;> omega) ?_
    rintro ⟨s', cmd', d, db'', hs, hc', hw'⟩
    rw [h] at hs
    cases hs
    rw [hc] at hc'
    cases hc'
    rw [hw] at hw'
    cases hw'

theorem submit_missing_iff : (submit req now db).1.status = 404 ↔ TargetMissing req db := by
  refine ⟨fun h404 => ?_, fun h => by rw [submit_missing h]; rfl⟩
  rcases submit_cases req now db with
    ⟨e, h, hout⟩ | ⟨s, f, h, hc, hout⟩ | ⟨s, cmd, d, db', h, hc, hw, hout⟩ |
      ⟨s, cmd, f, db', h, hc, hw, hout⟩
  · rw [hout, HttpError.json_status, readSubmission_error_status h] at h404
    cases h404
  · rw [hout] at h404
    cases h404
  · rw [hout] at h404
    cases h404
  · -- only a failure that a record is missing is answered 404
    rw [hout, HttpError.json_status] at h404
    rcases f.blame with hf | ⟨entity, rfl⟩ | hf
    · rw [HttpError.ofFailure_byClient _ hf] at h404
      cases h404
    · obtain ⟨id, a, rfl, hun⟩ := Command.workflow_notFound hw
      exact ⟨s, id, a, h, hc, (Formula.unmatched_iff id db).1 hun⟩
    · rw [HttpError.ofFailure_onServer _ hf] at h404
      cases h404

/-- **A submission is answered as `SubmitAnswer` says.** -/
theorem submitAnswer (req : Request) (now : Instant) (db : Database) :
    SubmitAnswer req now db (submit req now db) where
  ok_iff := submit_ok_iff
  committed _ _ _ _ h hc hw := submit_committed h hc hw
  unreadable e h := ⟨submit_unreadable h, readSubmission_error_status h⟩
  refused _ _ h hc := submit_refused h hc
  rejected _ _ _ _ h hc hw hf := by rw [submit_failed h hc hw, HttpError.ofFailure_byClient _ hf]
  failed _ _ _ _ h hc hw hf := by rw [submit_failed h hc hw, HttpError.ofFailure_onServer _ hf]
  missing_iff := submit_missing_iff
  missing := submit_missing
  refusals hne := by
    rcases submit_cases req now db with
      ⟨e, h, hout⟩ | ⟨s, f, -, -, hout⟩ | ⟨s, cmd, d, db', h, hc, hw, hout⟩ |
        ⟨s, cmd, f, db', -, -, -, hout⟩
    · exact ⟨by rw [hout], e, by rw [hout], .inl (readSubmission_error_status h)⟩
    · exact ⟨by rw [hout], _, by rw [hout], .inl rfl⟩
    · rw [hout] at hne
      exact absurd rfl hne
    · exact ⟨by rw [hout], _, by rw [hout], ofFailure_status cmd.fallback f⟩

end Submit

/-! ## The answer to a removal -/

/-- How the removal of the formula with id `n` is answered, and what it leaves. -/
structure DeleteAnswer (n : Int) (db : Database) (out : Response × Database) : Prop where
  removed_iff : out.1.status = 204 ↔ ∃ r ∈ db.formulaRows, r.id = n
  removed : out.1.status = 204 → out.1 = Response.empty 204 ∧ ∀ r ∈ out.2.formulaRows, r.id ≠ n
  missing : db.hasSchema = true → (∀ r ∈ db.formulaRows, r.id ≠ n) →
    out.1 = HttpError.missing.json
  failed : db.hasSchema = false → out = ((⟨500, "Failed to delete formula"⟩ : HttpError).json, db)

/-- Removing a formula from tables answers whether a row had its id. -/
theorem deleteFormula_found (n : Int) (ts : Tables) :
    ((deleteFormula n).run.run { tables := some ts }).1 =
      .ok (decide (∃ r ∈ ts.formulas.rows, r.id = n)) := by
  rw [deleteFormula_run]
  simp [Tables.erase, Tables.get, Tables.set, List.length_filter_pos_iff, FormulaKey.lookup,
    Lookup.matches, Row.cell]

/-- Removing a formula from tables leaves the formula rows with another id. -/
theorem deleteFormula_formulaRows (n : Int) (ts : Tables) :
    ((deleteFormula n).run.run { tables := some ts }).2.formulaRows =
      ts.formulas.rows.filter fun r => !decide (r.id = n) := by
  rw [deleteFormula_run]
  simp [Tables.erase, Tables.get, Tables.set, FormulaKey.lookup, Lookup.matches, Row.cell]

theorem respond_submit {req : Request} {now : Instant} {db : Database} (hm : req.method = "POST")
    (hr : Route.ofPath? req.path = some .addForm) : respond req now db = submit req now db := by
  simp [respond, hr, hm, Route.allows, serve]

/-- The removal of a formula is answered as `DeleteAnswer` says. -/
theorem respond_delete {req : Request} {now : Instant} {db : Database} {raw : String} {n : Int}
    (hm : req.method = "DELETE") (hr : Route.ofPath? req.path = some (.formula raw))
    (hn : pathId raw = .ok n) : DeleteAnswer n db (respond req now db) := by
  obtain ⟨_ | ts⟩ := db
  · -- without a schema the removal fails on the first table it names
    have hout : respond req now { tables := none } =
        ((⟨500, "Failed to delete formula"⟩ : HttpError).json, { tables := none }) := by
      simp [respond, hr, hm, Route.allows, serve, hn, deleteFormula_run_none, HttpError.ofFailure]
    refine ⟨?_, ?_, fun h => ?_, fun _ => hout⟩
    · rw [hout]
      simp [Database.formulaRows]
    · rw [hout]
      simp
    · cases h
  · have hfound := deleteFormula_found n ts
    have hrows := deleteFormula_formulaRows n ts
    generalize hrun : (deleteFormula n).run.run { tables := some ts } = out at hfound hrows
    obtain ⟨res, db'⟩ := out
    dsimp only at hfound hrows
    subst hfound
    have hschema : Database.hasSchema { tables := some ts } = true := rfl
    by_cases hex : ∃ r ∈ ts.formulas.rows, r.id = n
    · -- the formula is there: it goes, and the answer is 204
      have hout : respond req now { tables := some ts } = (Response.empty 204, db') := by
        simp [respond, hr, hm, Route.allows, serve, hn, hrun, hex]
      refine ⟨?_, fun _ => ⟨by rw [hout], ?_⟩, fun _ hnone => ?_, fun h => ?_⟩
      · rw [hout]
        exact iff_of_true rfl (by simpa using hex)
      · intro r hr'
        rw [hout, hrows] at hr'
        simpa using (List.mem_filter.1 hr').2
      · obtain ⟨r, hr', hid⟩ := hex
        exact absurd hid (hnone r hr')
      · rw [hschema] at h
        cases h
    · -- the formula is not there: the answer is 404
      have hout : respond req now { tables := some ts } = (HttpError.missing.json, db') := by
        simp [respond, hr, hm, Route.allows, serve, hn, hrun, hex]
      refine ⟨?_, fun h => ?_, fun _ _ => by rw [hout], fun h => ?_⟩
      · rw [hout]
        exact iff_of_false (by simp [HttpError.missing]) (by simpa using hex)
      · rw [hout] at h
        cases h
      · rw [hschema] at h
        cases h

/-- **The formula routes answer as they should.** A submission to `/formula/add` is answered
as `SubmitAnswer` says, whatever its content type and body and whatever the database; the
removal of a formula through `/api/formulas/{id}`, with an id that reads as a 64-bit integer,
is answered as `DeleteAnswer` says. -/
theorem formula_routes_answer (req : Request) (now : Instant) (db : Database) :
    (req.method = "POST" → Route.ofPath? req.path = some .addForm →
      SubmitAnswer req now db (respond req now db)) ∧
    (∀ (raw : String) (n : Int), req.method = "DELETE" →
      Route.ofPath? req.path = some (.formula raw) → pathId raw = .ok n →
        DeleteAnswer n db (respond req now db)) := by
  refine ⟨fun hm hr => ?_, fun _ _ hm hr hn => respond_delete hm hr hn⟩
  rw [respond_submit hm hr]
  exact submitAnswer req now db

/-- On the initialized database, a form that creates `Soft Red` is committed, a form that
asks to change the formula `7` is answered as missing, and the removal of the formula `1` is
answered as `DeleteAnswer` says. -/
theorem formula_routes_answer_on_requests :
    let add : Request := ⟨"POST", "/formula/add", some "application/x-www-form-urlencoded",
      "formula_name=Soft+Red"⟩
    let lost : Request := ⟨"POST", "/formula/add", some "application/x-www-form-urlencoded",
      "formula_id=7&formula_name=Soft+Red"⟩
    (SubmitAnswer add ⟨0, 0⟩ Database.initial (respond add ⟨0, 0⟩ Database.initial) ∧
        (respond add ⟨0, 0⟩ Database.initial).1.status = 200) ∧
      (SubmitAnswer lost ⟨0, 0⟩ Database.initial (respond lost ⟨0, 0⟩ Database.initial) ∧
        (respond lost ⟨0, 0⟩ Database.initial).1.status = 404) ∧
      DeleteAnswer 1 Database.initial
        (respond ⟨"DELETE", "/api/formulas/1", none, ""⟩ ⟨0, 0⟩ Database.initial) := by
  intro add lost
  have hadd : Route.ofPath? add.path = some .addForm := by
    simp +decide [add, Request.path, Route.ofPath?, String.splitOn, String.splitOnAux]
  have hlost : Route.ofPath? lost.path = some .addForm := by
    simp +decide [lost, Request.path, Route.ofPath?, String.splitOn, String.splitOnAux]
  refine ⟨⟨(formula_routes_answer add _ _).1 rfl hadd, ?_⟩,
    ⟨(formula_routes_answer lost _ _).1 rfl hlost, ?_⟩,
    (formula_routes_answer _ _ _).2 "1" 1 rfl
      (by simp +decide [Request.path, Route.ofPath?, String.splitOn, String.splitOnAux])
      (by decide +kernel)⟩
  · rw [respond_submit rfl hadd]
    decide +kernel
  · rw [respond_submit rfl hlost]
    decide +kernel

end Tintbook
