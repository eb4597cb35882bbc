import Tintbook.Cli.Parse
import Tintbook.Cli.Workspace
import Tintbook.Submission.Basic
import Tintbook.Settings.Basic
import Tintbook.Formula.Json
/-!
# Running the command line

A command line is read, then run against the databases it reaches at an instant. A help
page asked for is printed on standard output and the run succeeds; a refused command line
prints its message on standard error and ends with status 2. A task that fails prints
`Error: ` and its sentence, then the chain of its causes under `Caused by:`, numbered when
there is more than one, and ends with status 1.

The tasks:

- `init` makes the data directory and creates the schema in its database file;
- `formulas list` prints the formulas, one per line with tabs between id, name, number and
  customer, or as indented JSON;
- `formulas show` prints a formula with its lines, or as indented JSON;
- `formulas create` and `formulas update` apply a submission as a form would;
- `formulas delete` removes a formula with its lines.

Every task on formulas needs a database file that exists and has the schema.

## What this module delivers

- `Outcome`: what a run prints and how it ends.
- `Task`, `Task.ofCall`, `Task.dataDir?`: what a call asks for.
- `Fault`, with `Fault.report`: why a task fails.
- `perform`: running a task.
- `run`: running a command line.
-/

set_option autoImplicit false

namespace Tintbook.Cli

open Store

/-- What a run of the program prints and the status it ends with. -/
structure Outcome where
  code : Nat
  stdout : String
  stderr : String
  deriving DecidableEq, Repr

/-- The fields of a formula given on the command line. -/
structure FieldArgs where
  number : Option String
  customer : Option String
  summary : Option String
  notes : Option String
  colorants : Option String
  bases : Option String
  deriving DecidableEq, Repr

/-- What a call asks for. -/
inductive Task where
  | init (dataDir : String)
  | serve (config host dataDir database : Option String) (port : Option Int) (debug : Bool)
  | list (dataDir : String) (json : Bool)
  | display (id : Int) (dataDir : String) (json : Bool)
  | create (name : String) (fields : FieldArgs) (dataDir : String)
  | update (id : Int) (name : Option String) (fields : FieldArgs) (dataDir : String)
  | delete (id : Int) (dataDir : String)
  deriving DecidableEq, Repr

namespace Call

/-- The text given to an option, if any. -/
def text? (c : Call) (long : String) : Option String :=
  match c.values.find? (·.1 == long) with
  | some (_, .text s) => some s
  | _ => none

/-- The number given to an option, if any. -/
def number? (c : Call) (long : String) : Option Int :=
  match c.values.find? (·.1 == long) with
  | some (_, .number n) => some n
  | _ => none

/-- Whether a switch was given. -/
def has (c : Call) (long : String) : Bool := c.switches.contains long

/-- The data directory, `./data` unless given. -/
def dataDir (c : Call) : String := (c.text? "data-dir").getD "./data"

/-- The operand as a number, 0 if it is none. -/
def id (c : Call) : Int :=
  match c.operand with
  | some (.number n) => n
  | _ => 0

/-- The operand as text, empty if it is none. -/
def name (c : Call) : String :=
  match c.operand with
  | some (.text s) => s
  | _ => ""

/-- The fields of a formula given. -/
def fields (c : Call) : FieldArgs :=
  ⟨c.text? "number", c.text? "customer", c.text? "summary", c.text? "notes",
    c.text? "colorants", c.text? "bases"⟩

end Call

/-- What a call asks for, by the path of its command. -/
def Task.ofCall (c : Call) : Task :=
  match c.path with
  | ["init"] => .init c.dataDir
  | ["serve"] =>
    .serve (c.text? "config") (c.text? "host") (c.text? "data-dir") (c.text? "database")
      (c.number? "port") (c.has "debug")
  | ["formulas", "show"] => .display c.id c.dataDir (c.has "json")
  | ["formulas", "create"] => .create c.name c.fields c.dataDir
  | ["formulas", "update"] => .update c.id (c.text? "name") c.fields c.dataDir
  | ["formulas", "delete"] => .delete c.id c.dataDir
  | _ => .list c.dataDir (c.has "json")

/-- The data directory whose database a task reads or writes, if any. -/
def Task.dataDir? : Task → Option String
  | .init d | .list d _ | .display _ d _ | .create _ _ d | .update _ _ _ d | .delete _ d => some d
  | .serve .. => none

/-- Why a task fails. -/
inductive Fault where
  /-- The library failed. -/
  | failure (f : Failure)
  /-- The database file is missing or has no schema. -/
  | notInitialized
  /-- No formula has the id given. -/
  | formulaMissing
  /-- The operating system refused, in its words. -/
  | system (sentence : String)
  /-- Serving needs a network, which a run against a workspace does not have. -/
  | noNetwork
  deriving Repr

namespace Fault

/-- The sentence of a fault. -/
def headline : Fault → String
  | .failure f => f.message
  | .notInitialized => "Database not initialized. Run \x27basecoat init\x27 first."
  | .formulaMissing => "Formula not found"
  | .system s => s
  | .noNetwork => "serving is not available here"

/-- The causes under a fault, outermost first. -/
def causes : Fault → List String
  | .failure f => f.causes
  | _ => []

/-- A cause, indented under `Caused by:`; with a number when there are several, the number
right-aligned in five columns. -/
def causeLines (number : Option Nat) (cause : String) : String :=
  match cause.splitOn "\n" with
  | [] => ""
  | first :: rest =>
    let (lead, more) := match number with
      | some n => (blanks (5 - (showInt n).length) ++ showInt n ++ ": ", "       ")
      | none => ("    ", "    ")
    lead ++ first ++ String.join (rest.map (fun l => "\n" ++ more ++ l))

/-- The report of a fault on standard error. -/
def report (f : Fault) : String :=
  let chain := match f.causes with
    | [] => ""
    | [c] => "\n\nCaused by:\n" ++ causeLines none c
    | cs => "\n\nCaused by:" ++ String.join (cs.zipIdx.map (fun (c, i) => "\n" ++ causeLines (some i) c))
  "Error: " ++ f.headline ++ chain ++ "\n"

end Fault

/-- A step of a task: it fails, or gives a value and the workspace after it. -/
abbrev Step := StateT Workspace (Except Fault)

/-- Lifts a result of the library into a step. -/
def attempt {α : Type} (r : Except Failure α) : Step α :=
  match r with
  | .ok a => pure a
  | .error f => throw (.failure f)

/-- The path of the database file in a data directory. -/
def dbPathIn (dataDir : String) : String := Settings.joinPath dataDir "basecoat.db"

/-- The database in a data directory, which has to exist and have the schema. -/
def openStore (dataDir : String) : Step Database := do
  let w ← get
  let path := dbPathIn dataDir
  match w.find? path with
  | some db => if db.hasSchema then pure db else throw .notInitialized
  | none => if w.isDirectory path then throw (.failure (.storage .cannotOpen)) else throw .notInitialized

/-- Runs a unit of work on the database in a data directory, keeping its changes. -/
def change {α : Type} (dataDir : String) (work : Work α) : Step α := do
  let db ← openStore dataDir
  match work.run.run db with
  | (.ok a, db') =>
    modify (·.put (dbPathIn dataDir) db')
    pure a
  | (.error f, _) => throw (.failure f)

/-- A formula with its lines as text, one field to a line. -/
def detailText (d : FormulaDetail) : String :=
  let f := d.formula
  let line (s : String) : String := s ++ "\n"
  line (f.name ++ " (#" ++ showInt f.id ++ ")") ++
  line ("  number:        " ++ f.number) ++
  line ("  customer:      " ++ f.customer) ++
  line ("  summary:       " ++ f.summary) ++
  line ("  notes:         " ++ f.notes) ++
  line ("  created:       " ++ stampText f.created) ++
  line ("  last modified: " ++ stampText f.modified) ++
  line "  colorants:" ++
  String.join (d.colorants.map (fun c => line ("    - " ++ c.name ++ " (" ++ showInt c.amount ++ ")"))) ++
  line "  bases:" ++
  String.join (d.bases.map (fun b => line ("    - " ++ b.base ++ " / " ++ b.product)))

/-- A formula as a line of the list, tabs between id, name, number and customer. -/
def listLine (f : Formula) : String :=
  showInt f.id ++ "\t" ++ f.name ++ "\t" ++ f.number ++ "\t" ++ f.customer ++ "\n"

/-- The submission that fields from the command line make. -/
def FieldArgs.submission (a : FieldArgs) (id : Option Int) (name : Option String) : Submission :=
  { formulaId := id.map IdField.number, name := name, number := a.number,
    customer := a.customer, summary := a.summary, notes := a.notes,
    colorants := a.colorants.map PayloadField.encoded, bases := a.bases.map PayloadField.encoded }

/-- Applies a submission as a form would: creates or changes a formula. -/
def submit (dataDir : String) (s : Submission) (now : Instant) : Step FormulaDetail := do
  match ← attempt s.toCommand with
  | .create nf => change dataDir (createFormula nf now)
  | .update id a => change dataDir (updateFormula id a now)

/-- Runs a task at an instant: what it prints on standard output. -/
def perform (t : Task) (now : Instant) : Step String :=
  match t with
  | .init dataDir => do
    match (← get).makeDirectories dataDir with
    | .error why => throw (.system why)
    | .ok () => pure ()
    let path := dbPathIn dataDir
    let w ← get
    if w.isDirectory path then throw (.failure (.storage .cannotOpen))
    set (w.put path ((w.find? path).getD {}).createSchema)
    pure ("Initialized database at " ++ path ++ "\n")
  | .serve .. => throw .noNetwork
  | .list dataDir json => do
    let fs ← attempt (listFormulas (← openStore dataDir))
    if json then pure (Json.pretty (.arr (fs.map Formula.toJson)) ++ "\n")
    else if fs.isEmpty then pure "No formulas\n"
    else pure (String.join (fs.map listLine))
  | .display id dataDir json => do
    match ← attempt (getFormulaDetail id (← openStore dataDir)) with
    | none => throw .formulaMissing
    | some d => pure (if json then Json.pretty d.toJson ++ "\n" else detailText d)
  | .create name fields dataDir => do
    let _ ← openStore dataDir
    let d ← submit dataDir (fields.submission none (some name)) now
    pure ("Created formula " ++ showInt d.formula.id ++ " (" ++ d.formula.name ++ ")\n")
  | .update id name fields dataDir => do
    let _ ← openStore dataDir
    let d ← submit dataDir (fields.submission (some id) name) now
    pure ("Updated formula " ++ showInt d.formula.id ++ " (" ++ d.formula.name ++ ")\n")
  | .delete id dataDir => do
    if ← change dataDir (deleteFormula id) then pure ("Deleted formula " ++ showInt id ++ "\n")
    else throw .formulaMissing

/-- Runs a command line at an instant against a workspace: what it prints, its status, and
the workspace after it. A task that fails leaves the workspace as it was. -/
def run (args : List String) (now : Instant) (w : Workspace) : Outcome × Workspace :=
  match parse args with
  | .help page => (⟨0, page, ""⟩, w)
  | .refused text => (⟨2, "", text⟩, w)
  | .call c =>
    match (perform (Task.ofCall c) now).run w with
    | .ok (out, w') => (⟨0, out, ""⟩, w')
    | .error f => (⟨1, "", f.report⟩, w)

end Tintbook.Cli
