import Tintbook.Proofs.Cli.CommandLine
import Tintbook.Web.Server
/-!
# Submitting a formula from the command line

`formulas create` and `formulas update` submit a formula as a form would: they open the
database of their data directory, read the submission into a command, and run the command's
workflow on the database, putting the database it leaves in place. So a command line that
submits a formula ends exactly as its submission's workflow does (`run_committed`,
`run_failed`): with status 0 and the new database when the workflow goes through, and with
status 1 and the workspace untouched when the submission gives no command or the workflow
fails.

## What this module delivers

- `Workspace.find?_put`: a database put at a path is the one found there.
- `openStore_run`, `change_run_ok`, `change_run_error`: the store of a data directory.
- `Task.submission?`: what a task that creates or changes a formula submits.
- `submit_run_ok`, `submit_run_failed`, `submit_run_refused`, `perform_run_ok`,
  `perform_run_error`, `run_of_ok`, `run_of_error`.
- `run_committed`, `run_failed`.
-/

set_option autoImplicit false

namespace Tintbook.Cli

open Store

namespace Workspace

/-- A database put at a path is the one found there. -/
theorem find?_put (w : Workspace) (path : String) (db : Database) :
    (w.put path db).find? path = some db := by
  unfold Workspace.find?
  by_cases hany : w.databases.any (·.1 == canonicalPath path)
  · -- an entry has the path: it is replaced, and the first one found
    simp only [Workspace.put, hany, if_true]
    obtain ⟨e, he, hkey⟩ := List.any_eq_true.1 hany
    have hfound : (w.databases.find? (·.1 == canonicalPath path)).isSome := by
      rw [List.find?_isSome]
      exact ⟨e, he, hkey⟩
    obtain ⟨e', he'⟩ := Option.isSome_iff_exists.1 hfound
    have hkey' : (e'.1 == canonicalPath path) = true := by simpa using List.find?_some he'
    -- the replacement keeps every entry's path
    have hsame : ∀ x : String × Database,
        ((if x.1 = canonicalPath path then (canonicalPath path, db) else x).1 ==
          canonicalPath path) = (x.1 == canonicalPath path) := by
      intro x
      by_cases h : x.1 = canonicalPath path <;> simp [h]
    simp only [beq_iff_eq, List.find?_map, Function.comp_def, hsame, he', Option.map_some,
      beq_iff_eq.1 hkey', if_true]
  · simp only [Workspace.put, hany, if_false, Bool.false_eq_true]
    have hnone : w.databases.find? (·.1 == canonicalPath path) = none := by
      rw [List.find?_eq_none]
      intro e he hkey
      exact hany (List.any_eq_true.2 ⟨e, he, hkey⟩)
    simp [List.find?_append, hnone]

end Workspace

section Store

variable {dir : String} {w : Workspace} {db : Database}

/-- A data directory whose database has the tables opens to that database. -/
theorem openStore_run (hdb : w.find? (dbPathIn dir) = some db) (hschema : db.hasSchema = true) :
    (openStore dir).run w = .ok (db, w) := by
  simp only [openStore, StateT.run, bind, StateT.bind, get, getThe, MonadStateOf.get, StateT.get,
    pure, Except.pure, Except.bind, hdb, hschema, if_true]
  rfl

/-- A unit of work that goes through puts the database it leaves in place. -/
theorem change_run_ok {α : Type} {work : Work α} {a : α} {db' : Database}
    (hdb : w.find? (dbPathIn dir) = some db) (hschema : db.hasSchema = true)
    (hw : work.run.run db = (.ok a, db')) :
    (change dir work).run w = .ok (a, w.put (dbPathIn dir) db') := by
  have hw' : ExceptT.run work db = (.ok a, db') := hw
  unfold change
  simp only [StateT.run, bind, StateT.bind]
  rw [show openStore dir w = .ok (db, w) from openStore_run hdb hschema]
  simp [Except.bind, hw', modify, modifyGet, MonadStateOf.modifyGet, pure]
  rfl

/-- A unit of work that fails keeps nothing of what it did. -/
theorem change_run_error {α : Type} {work : Work α} {f : Failure} {db' : Database}
    (hdb : w.find? (dbPathIn dir) = some db) (hschema : db.hasSchema = true)
    (hw : work.run.run db = (.error f, db')) :
    (change dir work).run w = .error (.failure f) := by
  have hw' : ExceptT.run work db = (.error f, db') := hw
  unfold change
  simp only [StateT.run, bind, StateT.bind]
  rw [show openStore dir w = .ok (db, w) from openStore_run hdb hschema]
  simp [Except.bind, hw', throw, throwThe, MonadExceptOf.throw, StateT.lift]

variable {now : Instant} {s : Submission} {cmd : Command}

theorem submit_run_ok {d : FormulaDetail} {db' : Database}
    (hdb : w.find? (dbPathIn dir) = some db) (hschema : db.hasSchema = true)
    (hc : s.toCommand = .ok cmd) (hw : (cmd.workflow now).run.run db = (.ok d, db')) :
    (submit dir s now).run w = .ok (d, w.put (dbPathIn dir) db') := by
  unfold submit
  cases cmd with
  | create nf | update id a =>
    simp [StateT.run, bind, StateT.bind, attempt, hc, pure]
    exact change_run_ok hdb hschema hw

theorem submit_run_failed {f : Failure} {db' : Database}
    (hdb : w.find? (dbPathIn dir) = some db) (hschema : db.hasSchema = true)
    (hc : s.toCommand = .ok cmd) (hw : (cmd.workflow now).run.run db = (.error f, db')) :
    (submit dir s now).run w = .error (.failure f) := by
  unfold submit
  cases cmd with
  | create nf | update id a =>
    simp [StateT.run, bind, StateT.bind, attempt, hc, pure]
    exact change_run_error hdb hschema hw

theorem submit_run_refused {f : Failure} (hc : s.toCommand = .error f) :
    (submit dir s now).run w = .error (.failure f) := by
  unfold submit
  simp [StateT.run, bind, StateT.bind, attempt, hc, throw, throwThe, MonadExceptOf.throw,
    StateT.lift, Except.bind]

/-- What a task that creates or changes a formula submits, with the data directory whose
database it writes. -/
def Task.submission? : Task → Option (String × Submission)
  | .create name fields dir => some (dir, fields.submission none (some name))
  | .update id name fields dir => some (dir, fields.submission (some id) name)
  | _ => none

variable {t : Task}

theorem perform_run_ok {d : FormulaDetail} {w' : Workspace} (ht : t.submission? = some (dir, s))
    (hopen : (openStore dir).run w = .ok (db, w)) (hsub : (submit dir s now).run w = .ok (d, w')) :
    ∃ out, (perform t now).run w = .ok (out, w') := by
  cases t with
  | create name fields dir' | update id name fields dir' =>
    simp only [Task.submission?, Option.some.injEq, Prod.mk.injEq] at ht
    obtain ⟨rfl, rfl⟩ := ht
    apply Exists.intro
    simp only [perform, StateT.run, bind, StateT.bind]
    rw [show openStore _ w = _ from hopen]
    simp only [Except.bind]
    rw [show submit _ _ now w = _ from hsub]
    rfl
  | _ => simp [Task.submission?] at ht

theorem perform_run_error {e : Fault} (ht : t.submission? = some (dir, s))
    (hopen : (openStore dir).run w = .ok (db, w)) (hsub : (submit dir s now).run w = .error e) :
    (perform t now).run w = .error e := by
  cases t with
  | create name fields dir' | update id name fields dir' =>
    simp only [Task.submission?, Option.some.injEq, Prod.mk.injEq] at ht
    obtain ⟨rfl, rfl⟩ := ht
    simp only [perform, StateT.run, bind, StateT.bind]
    rw [show openStore _ w = _ from hopen]
    simp only [Except.bind]
    rw [show submit _ _ now w = _ from hsub]
  | _ => simp [Task.submission?] at ht

end Store

section Run

variable {args : List String} {c : Call} {now : Instant} {w : Workspace}

/-- A command line whose task goes through prints what it printed, with status 0, and leaves
the workspace the task left. -/
theorem run_of_ok {out : String} {w' : Workspace} (hparse : parse args = .call c)
    (hperform : (perform (Task.ofCall c) now).run w = .ok (out, w')) :
    run args now w = (⟨0, out, ""⟩, w') := by
  unfold run
  rw [hparse]
  simp only [hperform]

/-- A command line whose task fails reports the fault, with status 1, and leaves the
workspace as it was. -/
theorem run_of_error {e : Fault} (hparse : parse args = .call c)
    (hperform : (perform (Task.ofCall c) now).run w = .error e) :
    run args now w = (⟨1, "", e.report⟩, w) := by
  unfold run
  rw [hparse]
  simp only [hperform]

end Run

/-! ## The command line's outcome -/

section Outcome

variable {args : List String} {c : Call} {dir : String} {s : Submission} {now : Instant}
  {w : Workspace} {db : Database}

/-- **A command line that submits a formula, on a data directory whose database has the
tables, ends as the workflow of its submission when that goes through**: with status 0 and
the database the workflow leaves in place. -/
theorem run_committed {cmd : Command} {d : FormulaDetail} {db' : Database}
    (hparse : parse args = .call c) (ht : (Task.ofCall c).submission? = some (dir, s))
    (hdb : w.find? (dbPathIn dir) = some db) (hschema : db.hasSchema = true)
    (hc : s.toCommand = .ok cmd) (hw : (cmd.workflow now).run.run db = (.ok d, db')) :
    (run args now w).1.code = 0 ∧ (run args now w).2 = w.put (dbPathIn dir) db' := by
  obtain ⟨out, hout⟩ :=
    perform_run_ok ht (openStore_run hdb hschema) (submit_run_ok hdb hschema hc hw)
  rw [run_of_ok hparse hout]
  exact ⟨rfl, rfl⟩

/-- **A command line that submits a formula whose submission gives no command, or whose
workflow fails, reports the failure with status 1 and leaves the workspace as it was.** -/
theorem run_failed {f : Failure} (hparse : parse args = .call c)
    (ht : (Task.ofCall c).submission? = some (dir, s))
    (hdb : w.find? (dbPathIn dir) = some db) (hschema : db.hasSchema = true)
    (hfail : s.toCommand = .error f ∨
      ∃ cmd db', s.toCommand = .ok cmd ∧ (cmd.workflow now).run.run db = (.error f, db')) :
    run args now w = (⟨1, "", (Fault.failure f).report⟩, w) := by
  have hsub : (submit dir s now).run w = .error (.failure f) := by
    rcases hfail with hc | ⟨cmd, db', hc, hw⟩
    · exact submit_run_refused hc
    · exact submit_run_failed hdb hschema hc hw
  exact run_of_error hparse (perform_run_error ht (openStore_run hdb hschema) hsub)

end Outcome

end Tintbook.Cli
