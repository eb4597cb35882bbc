import Std.Time
import Tintbook.Cli.Run
import Tintbook.Store.Snapshot
/-!
# The program

The formula book run from a shell. It reads the clock and the database file of the data
directory the command line names, runs the command line against them, prints what the run
prints, writes the database back when the run changed it, and exits with the run's status.
A database file is kept as a snapshot; a file that is no snapshot is refused, not
overwritten. The `init` command also makes the data directory itself.
-/

open Tintbook Tintbook.Cli Tintbook.Store

/-- The contents of a file, if it can be read. -/
def readIfPresent (path : String) : IO (Option String) := do
  match ← (IO.FS.readFile path).toBaseIO with
  | .ok text => return some text
  | .error _ => return none

/-- Prints what a run printed and gives its status. -/
def finish (outcome : Outcome) : IO UInt32 := do
  IO.print outcome.stdout
  IO.eprint outcome.stderr
  return outcome.code.toUInt32

/-- Runs a command line with the database of its data directory. -/
def runWith (args : List String) (now : Instant) (dataDir : String) : IO UInt32 := do
  let path := dbPathIn dataDir
  let stored ← readIfPresent path
  let workspace : Workspace :=
    match stored.bind Database.ofSnapshot? with
    | some db => ({} : Workspace).put path db
    | none => {}
  if stored.isSome && (stored.bind Database.ofSnapshot?).isNone then
    IO.eprint (Fault.failure (.storage .notDatabase)).report
    return 1
  let (outcome, after) := run args now workspace
  if outcome.code == 0 then
    if let some db := after.find? path then
      if stored != some db.snapshot then IO.FS.writeFile path db.snapshot
  finish outcome

/-- Runs the program. -/
def main (args : List String) : IO UInt32 := do
  let now := Instant.ofNanos (← Std.Time.Timestamp.now).toNanosecondsSinceUnixEpoch.val
  match parse args with
  | .call c =>
    let task := Task.ofCall c
    match task, task.dataDir? with
    | .init dir, _ =>
      match ← (IO.FS.createDirAll dir).toBaseIO with
      | .ok () => runWith args now dir
      | .error e =>
        IO.eprint (Fault.system (toString e)).report
        return 1
    | _, some dir => runWith args now dir
    | _, none => finish (run args now {}).1
  | _ => finish (run args now {}).1
