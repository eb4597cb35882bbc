import Tintbook.Toml.Syntax
import Tintbook.Settings.Address
import Tintbook.Decimal.Layout
import Tintbook.Failure
import Tintbook.Text.Literal
/-!
# Server settings

The server is set up by a TOML file whose root table may give `host` (text, default
`127.0.0.1`), `port` (an integer from 0 to 65535, default 8080), `data_dir` (a path,
default `./data`), `database` (a path, no default) and `debug` (a boolean, default false).
Other keys and tables are passed over. The first key, in the order of the file, whose value
has the wrong type or range is reported, pointing at the value, or at the key when the value
is a table that was never written out.

The database lives at `database` when it is given, else at `basecoat.db` inside `data_dir`.
The listen address is `host:port` read as a socket address.

## What this module delivers

- `Settings`, with `Settings.dbPath` and `Settings.listenAddress`.
- `Settings.ofToml`: the settings a root table gives.
- `Settings.load`: the settings a file gives, with the file's path in its faults.
-/

set_option autoImplicit false

namespace Tintbook

/-- The server settings. -/
structure Settings where
  host : String := "127.0.0.1"
  port : Nat := 8080
  dataDir : String := "./data"
  database : Option String := none
  debug : Bool := false
  deriving DecidableEq, Repr

namespace Settings

/-- A path with a file name joined to it: the name alone after an empty path, no second
separator after one that ends in `/`. -/
def joinPath (dir name : String) : String :=
  if dir.isEmpty then name
  else if dir.endsWith "/" then dir ++ name
  else dir ++ "/" ++ name

/-- Where the database file lives. -/
def dbPath (s : Settings) : String :=
  match s.database with
  | some d => d
  | none => joinPath s.dataDir "basecoat.db"

/-- The socket address the server listens on. -/
def listenAddress (s : Settings) : Except Failure SocketAddress :=
  match SocketAddress.parse? (s.host ++ ":" ++ showInt s.port) with
  | some a => .ok a
  | none => .error (.settings "invalid listen address: invalid socket address syntax")

/-- Doubles in messages about values: shortest digits, always positional, `.0` kept. -/
def floatLayout : FloatLayout :=
  { lowestPoint := none, highestPoint := none, pointZero := true,
    infinity := "inf", notANumber := "NaN" }

/-- The words for a value found where another kind was wanted. -/
def describe : Toml → String
  | .str s _ => "string " ++ Text.literal s
  | .int n _ => "integer `" ++ showInt n ++ "`"
  | .float f _ => "floating point `" ++ floatLayout.render f ++ "`"
  | .bool b _ => "boolean `" ++ (if b then "true" else "false") ++ "`"
  | .datetime _ _ => "map"
  | .array _ _ => "sequence"
  | .inline .. => "map"
  | .table .. => "map"
  | .tables .. => "sequence"

/-- Where a fault about the value of a key is shown: at the value, or at the key when the
value has no span. -/
def placeOf (key : TomlKey) (v : Toml) : Span := v.span?.getD key.span

/-- The fault for a value of the wrong kind. -/
def wrongType (key : TomlKey) (v : Toml) (expected : String) : TomlError :=
  ⟨some (placeOf key v), "invalid type: " ++ describe v ++ ", expected " ++ expected⟩

/-- Takes the value of one key into the settings. -/
def take (s : Settings) (key : TomlKey) (v : Toml) : Except TomlError Settings :=
  let refuse := wrongType key v
  match key.name, v with
  | "host", .str h _ => .ok { s with host := h }
  | "host", _ => .error (refuse "a string")
  | "port", .int n sp =>
    if 0 ≤ n && n ≤ 65535 then .ok { s with port := n.toNat }
    else .error ⟨some sp, "invalid value: integer `" ++ showInt n ++ "`, expected u16"⟩
  | "port", _ => .error (refuse "u16")
  | "data_dir", .str d _ => .ok { s with dataDir := d }
  | "data_dir", _ => .error (refuse "path string")
  | "database", .str d _ => .ok { s with database := some d }
  | "database", _ => .error (refuse "path string")
  | "debug", .bool b _ => .ok { s with debug := b }
  | "debug", _ => .error (refuse "a boolean")
  | _, _ => .ok s

/-- The settings a root table gives, keys taken in order over the defaults. -/
def ofToml (root : List (TomlKey × Toml)) : Except TomlError Settings :=
  root.foldlM (fun s (k, v) => take s k v) {}

/-- The settings of the file at `path` with the given contents (none when there is no such
file). -/
def load (path : String) (contents : Option String) : Except Failure Settings :=
  match contents with
  | none => .error (.io "No such file or directory (os error 2)")
  | some text =>
    match Toml.parse text >>= ofToml with
    | .ok s => .ok s
    | .error e => .error (.settings (path ++ ": " ++ e.render text))

end Settings

end Tintbook
