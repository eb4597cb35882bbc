/-!
# The grammar of the command line

The command line is a tree: a group names the commands below it, and a command takes
options and at most one operand. An option has a long name, perhaps a one-letter short
name, and either takes a value or is a switch; it may have a default. An operand is
required, and its value is text or a 64-bit integer.

Every command and group also takes `-h`/`--help`, and every group has a `help` command
that prints the help of the command it names; neither is listed here.

## What this module delivers

- `ValueKind`, `Flag`, `Operand`, `Node`: the shape of a command line.
- `Flag.display`, `Operand.display`: how an option or operand is written in help and in
  messages.
- `program`, `grammar`: the command line of the formula book.
-/

set_option autoImplicit false

namespace Tintbook.Cli

/-- What a value has to be. -/
inductive ValueKind where
  | text
  /-- A 64-bit signed integer. -/
  | int64
  /-- An integer from 0 to 65535. -/
  | port
  deriving DecidableEq, Repr

/-- An option: a long name, an optional short letter, the name of the value it takes (none
for a switch), its help sentence and its default. -/
structure Flag where
  long : String
  short : Option Char := none
  value : Option String := none
  kind : ValueKind := .text
  help : String := ""
  default : Option String := none
  deriving DecidableEq, Repr

/-- A required operand: the name of its value, its help sentence, and what it has to be. -/
structure Operand where
  name : String
  help : String := ""
  kind : ValueKind := .text
  deriving DecidableEq, Repr

/-- A node of the command tree: a group of named commands, or a command. -/
inductive Node where
  | group (about : String) (children : List (String × Node))
  | command (about : String) (flags : List Flag) (operand : Option Operand)
  deriving Repr

namespace Node

/-- The sentence that says what a node does. -/
def about : Node → String
  | .group a _ => a
  | .command a _ _ => a

/-- The commands directly below a node, with their names. -/
def children : Node → List (String × Node)
  | .group _ cs => cs
  | .command .. => []

/-- The command below a node with a name, if any. -/
def child? (n : Node) (name : String) : Option Node :=
  (n.children.find? (·.1 == name)).map (·.2)

/-- The options of a node, without help. -/
def flags : Node → List Flag
  | .group .. => []
  | .command _ fs _ => fs

/-- The operand of a node, if any. -/
def operand : Node → Option Operand
  | .group .. => none
  | .command _ _ o => o

end Node

/-- How an option is written: its long name, then its value name in angle brackets. -/
def Flag.display (f : Flag) : String :=
  "--" ++ f.long ++ (match f.value with
    | some v => " <" ++ v ++ ">"
    | none => "")

/-- How an operand is written: its name in angle brackets. -/
def Operand.display (o : Operand) : String := "<" ++ o.name ++ ">"

/-- The help option, which every node takes. -/
def helpFlag : Flag := { long := "help", short := some 'h', help := "Print help" }

/-- The name the program is called by. -/
def program : String := "basecoat"

/-- The directory of the database, which every command that reads or writes the store
takes. -/
def dataDirFlag (help : String) : Flag :=
  { long := "data-dir", value := some "DATA_DIR", help := help, default := some "./data" }

/-- The fields of a formula that creating and changing one take. -/
def fieldFlags : List Flag :=
  [ { long := "number", short := some 'u', value := some "NUMBER",
      help := "Formula number used in the shop" },
    { long := "customer", short := some 'c', value := some "CUSTOMER",
      help := "Customer the formula was mixed for" },
    { long := "summary", short := some 's', value := some "SUMMARY" },
    { long := "notes", short := some 'o', value := some "NOTES", help := "Additional notes" },
    { long := "colorants", value := some "COLORANTS",
      help := "Colorants as JSON, e.g. \x27[\x7b\"colorant_name\": \"umber\", \"amount\": 2\x7d]\x27" },
    { long := "bases", value := some "BASES",
      help := "Bases as JSON, e.g. \x27[\x7b\"base_name\": \"pastel\", \"product_name\": \"ppg\"\x7d]\x27" } ]

/-- The formula id that showing, changing and removing take. -/
def idOperand : Operand := { name := "ID", kind := .int64 }

/-- The commands on formulas. -/
def formulaCommands : Node :=
  .group "Inspect and manage formulas"
    [ ("list", .command "List all formulas"
        [dataDirFlag "", { long := "json", help := "Print JSON instead of a table" }] none),
      ("show", .command "Show one formula with its colorants and bases"
        [dataDirFlag "", { long := "json", help := "Print JSON instead of text" }]
        (some idOperand)),
      ("create", .command "Create a formula" (fieldFlags ++ [dataDirFlag ""])
        (some { name := "NAME", help := "Formula name" })),
      ("update", .command "Update a formula; only the given values change"
        ({ long := "name", short := some 'n', value := some "NAME", help := "New formula name" }
          :: fieldFlags ++ [dataDirFlag ""])
        (some idOperand)),
      ("delete", .command "Delete a formula and its colorants and bases" [dataDirFlag ""]
        (some idOperand)) ]

/-- The whole command line. -/
def grammar : Node :=
  .group "Record keeping for paint shop color formulas"
    [ ("init", .command "Create the data directory and database schema"
        [dataDirFlag "Data directory for the database"] none),
      ("serve", .command "Start the server"
        [ { long := "config", value := some "CONFIG",
            help := "TOML config file; flags given here override its values" },
          { long := "host", value := some "HOST", help := "Host to bind to" },
          { long := "port", short := some 'p', value := some "PORT", kind := .port,
            help := "Port to bind to" },
          { long := "data-dir", value := some "DATA_DIR", help := "Data directory for the database" },
          { long := "database", value := some "DATABASE",
            help := "Database file, if not <data-dir>/basecoat.db" },
          { long := "debug", help := "Enable debug logging" } ] none),
      ("formulas", formulaCommands) ]

end Tintbook.Cli
