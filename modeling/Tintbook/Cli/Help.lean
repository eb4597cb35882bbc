import Tintbook.Cli.Grammar
/-!
# Help pages and usage lines

The help page of a node says what it does, how it is called, and then lists, each under its
heading, the commands below it, its operand and its options, help last. Each entry of a list
is indented by two spaces and its sentence starts two columns after the longest entry of the
list; an option without a short name leaves the four columns of one (`-u, `) blank, and
those columns count towards the longest entry. A default follows the sentence as
`[default: ...]`. The page ends with one newline.

A usage line names the program and the path to the node, then `[OPTIONS]` when the node
takes options other than help, the operand, and `<COMMAND>` for a group. When some options
were given, a usage line names those instead of `[OPTIONS]`, each with its value name.

## What this module delivers

- `callName`, `helpUsage`, `usageNaming`: usage lines.
- `helpPage`: the help page of a node.
- `helpCommandPage`: the help page of the `help` command of a group.
-/

set_option autoImplicit false

namespace Tintbook.Cli

/-- The sentence of the `help` command of a group. -/
def helpCommandAbout : String := "Print this message or the help of the given subcommand(s)"

/-- The program name followed by the names of a path, as the program is called. -/
def callName (path : List String) : String := " ".intercalate (program :: path)

/-- The tail of a usage line after the options: the operand, and the command slot of a group. -/
def usageTail (n : Node) : String :=
  (match n.operand with
    | some o => " " ++ o.display
    | none => "") ++
  (match n with
    | .group .. => " <COMMAND>"
    | .command .. => "")

/-- The usage line of a node as its help page shows it. -/
def helpUsage (path : List String) (n : Node) : String :=
  callName path ++ (if n.flags.isEmpty then "" else " [OPTIONS]") ++ usageTail n

/-- The usage line of a node naming the options given. -/
def usageNaming (path : List String) (n : Node) (given : List Flag) : String :=
  callName path ++ String.join (given.map (" " ++ ·.display)) ++ usageTail n

/-- A run of blanks. -/
def blanks (k : Nat) : String := String.ofList (List.replicate k ' ')

/-- An entry of a list on a help page: the entry, blanks up to the sentence column, the
sentence. -/
def entryLine (column : Nat) (entry sentence : String) : String :=
  "  " ++ entry ++ blanks (column - entry.length) ++ sentence

/-- How an option stands in the list of options, with the columns of its short name. -/
def Flag.entry (f : Flag) : String :=
  (match f.short with
    | some c => "-" ++ c.toString ++ ", "
    | none => "    ") ++ f.display

/-- The sentence of an option, followed by its default. -/
def Flag.sentence (f : Flag) : String :=
  match f.default with
  | none => f.help
  | some d =>
    let spec := "[default: " ++ d ++ "]"
    if f.help.isEmpty then spec else f.help ++ " " ++ spec

/-- A list under its heading, its sentences two columns after its longest entry. -/
def listing (heading : String) (entries : List (String × String)) : String :=
  let column := (entries.foldl (fun m e => max m e.1.length) 2) + 2
  heading ++ ":\n" ++ "\n".intercalate (entries.map (fun e => entryLine column e.1 e.2))

/-- The lists of a node's help page, in order: commands, operand, options. -/
def sections (n : Node) : List String :=
  let commands :=
    match n with
    | .group _ cs =>
      [listing "Commands" (cs.map (fun c => (c.1, c.2.about)) ++ [("help", helpCommandAbout)])]
    | .command .. => []
  let operand :=
    match n.operand with
    | some o => [listing "Arguments" [(o.display, o.help)]]
    | none => []
  let options := [listing "Options" ((n.flags ++ [helpFlag]).map (fun f => (f.entry, f.sentence)))]
  commands ++ operand ++ options

/-- The help page of a node reached by a path. -/
def helpPage (path : List String) (n : Node) : String :=
  let body := n.about ++ "\n\nUsage: " ++ helpUsage path n ++ "\n\n" ++ "\n\n".intercalate (sections n)
  String.ofList (body.toList.reverse.dropWhile Char.isWhitespace).reverse ++ "\n"

/-- The help page of the `help` command of the group at a path. -/
def helpCommandPage (path : List String) : String :=
  helpCommandAbout ++ "\n\nUsage: " ++ callName (path ++ ["help"]) ++ " [COMMAND]...\n\n" ++
    listing "Arguments" [("[COMMAND]...", "Print help for the subcommand(s)")] ++ "\n"

end Tintbook.Cli
