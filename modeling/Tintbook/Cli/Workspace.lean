import Tintbook.Store.Workflow
/-!
# The databases a command line reaches

The command line opens a database by the path of its file. Two spellings of a path name
the same file when they agree after empty parts and `.` are dropped and each `..` takes back
the part before it; this canonical spelling is the key of a database. A directory exists
when it is the current one, the root, or holds a database file somewhere below it.

Making a directory with its parents fails when a part of the path is a database file: the
last part with "File exists", an earlier one with "Not a directory", as the operating
system words them.

## What this module delivers

- `canonicalPath`: the canonical spelling of a path.
- `Workspace`, with `find?`, `put`, `isFile`, `isDirectory` and `makeDirectories`.
-/

set_option autoImplicit false

namespace Tintbook.Cli

open Store

/-- The parts of a path after `..` takes back the part before it; above the root, of an
absolute path, nothing is left to take. -/
def resolveParts (absolute : Bool) : List String → List String → List String
  | acc, [] => acc.reverse
  | acc, p :: ps =>
    if p == "" || p == "." then resolveParts absolute acc ps
    else if p == ".." then
      match acc with
      | q :: rest => if q == ".." then resolveParts absolute (p :: acc) ps else resolveParts absolute rest ps
      | [] => if absolute then resolveParts absolute [] ps else resolveParts absolute [p] ps
    else resolveParts absolute (p :: acc) ps

/-- The canonical parts of a path. -/
def pathParts (path : String) : List String :=
  resolveParts (path.startsWith "/") [] (path.splitOn "/")

/-- The canonical spelling of a path: its canonical parts joined by `/`, after a `/` when
the path is absolute. The current directory is the empty path. -/
def canonicalPath (path : String) : String :=
  (if path.startsWith "/" then "/" else "") ++ "/".intercalate (pathParts path)

/-- The database files the command line can open, by canonical path. -/
structure Workspace where
  databases : List (String × Database) := []

namespace Workspace

/-- The database at a path, if there is one. -/
def find? (w : Workspace) (path : String) : Option Database :=
  (w.databases.find? (·.1 == canonicalPath path)).map (·.2)

/-- Stores a database at a path, in place of the one there. -/
def put (w : Workspace) (path : String) (db : Database) : Workspace :=
  let key := canonicalPath path
  if w.databases.any (·.1 == key) then
    ⟨w.databases.map (fun e => if e.1 == key then (key, db) else e)⟩
  else ⟨w.databases ++ [(key, db)]⟩

/-- Whether a path names a database file. -/
def isFile (w : Workspace) (path : String) : Bool := w.databases.any (·.1 == canonicalPath path)

/-- Whether a path names a directory: the current one, the root, or one that holds a
database file below it. -/
def isDirectory (w : Workspace) (path : String) : Bool :=
  let key := canonicalPath path
  key == "" || key == "/" || w.databases.any (·.1.startsWith (key ++ "/"))

/-- Makes a directory with its parents, or says why the operating system refuses. -/
def makeDirectories (w : Workspace) (path : String) : Except String Unit :=
  let parts := pathParts path
  let lead := if path.startsWith "/" then "/" else ""
  let prefixes := (List.range parts.length).map (fun k => lead ++ "/".intercalate (parts.take k))
  if prefixes.any (fun p => p != "" && p != "/" && w.isFile p) then .error "Not a directory (os error 20)"
  else if w.isFile path then .error "File exists (os error 17)"
  else .ok ()

end Workspace

end Tintbook.Cli
