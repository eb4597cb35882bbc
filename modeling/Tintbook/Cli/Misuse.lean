import Tintbook.Cli.Help
/-!
# Misuse of the command line

The ways a command line can be wrong, and the message each one prints. A message is
`error: ` and a sentence; then, after a blank line, hints, each on a line of its own
starting `  tip: `; then, after a blank line, a usage line when the mistake concerns the
shape of the call; and last, after a blank line, a pointer to `--help`.

## What this module delivers

- `Hint`: an option suggested for one that does not exist.
- `Misuse`: the mistakes, with `Misuse.message`.
-/

set_option autoImplicit false

namespace Tintbook.Cli

/-- An option similar to one that does not exist: one of the same command, or one of a
command named later on the line. -/
inductive Hint where
  | here (flag : String)
  | below (command flag : String)
  deriving DecidableEq, Repr

/-- A mistake on the command line. -/
inductive Misuse where
  /-- An argument that is no option, operand or command here; perhaps with a similar
  option, and whether to hint at passing it as a value after `--`. -/
  | unknownArgument (arg : String) (similar : Option Hint) (asValue : Bool) (usage : String)
  /-- A command name after `--`, where it cannot name a command. -/
  | commandAfterDashes (name : String) (usage : String)
  /-- A name that is no command here, with the commands whose names are similar. -/
  | unknownCommand (name : String) (similar : List String) (usage : String)
  /-- Required operands that were not given. -/
  | missing (names : List String) (usage : String)
  /-- A value its option or operand cannot take, and why. -/
  | invalidValue (value target reason : String)
  /-- An option given without its value. -/
  | emptyValue (target : String)
  /-- An option given twice. -/
  | repeated (target : String) (usage : String)
  /-- A value attached to a switch. -/
  | extraValue (value target : String) (usage : String)
  deriving DecidableEq, Repr

namespace Misuse

/-- The sentence of a mistake. -/
def sentence : Misuse → String
  | .unknownArgument a .. => "unexpected argument \x27" ++ a ++ "\x27 found"
  | .commandAfterDashes .. => "unexpected argument \x27--\x27 found"
  | .unknownCommand n .. => "unrecognized subcommand \x27" ++ n ++ "\x27"
  | .missing ns _ =>
    "the following required arguments were not provided:" ++ String.join (ns.map ("\n  " ++ ·))
  | .invalidValue v t r => "invalid value \x27" ++ v ++ "\x27 for \x27" ++ t ++ "\x27: " ++ r
  | .emptyValue t => "a value is required for \x27" ++ t ++ "\x27 but none was supplied"
  | .repeated t _ => "the argument \x27" ++ t ++ "\x27 cannot be used multiple times"
  | .extraValue v t _ =>
    "unexpected value \x27" ++ v ++ "\x27 for \x27" ++ t ++ "\x27 found; no more were expected"

/-- A list of names, each quoted, separated by commas. -/
def quotedList (names : List String) : String :=
  ", ".intercalate (names.map (fun n => "\x27" ++ n ++ "\x27"))

/-- The hints that follow the sentence. -/
def tips : Misuse → List String
  | .unknownArgument a similar asValue _ =>
    (match similar with
      | some (.here f) => ["a similar argument exists: \x27" ++ f ++ "\x27"]
      | some (.below c f) => ["\x27" ++ c ++ " " ++ f ++ "\x27 exists"]
      | none => []) ++
    (if asValue then ["to pass \x27" ++ a ++ "\x27 as a value, use \x27-- " ++ a ++ "\x27"] else [])
  | .commandAfterDashes n _ =>
    ["subcommand \x27" ++ n ++ "\x27 exists; to use it, remove the \x27--\x27 before it"]
  | .unknownCommand _ [] _ => []
  | .unknownCommand _ [s] _ => ["a similar subcommand exists: " ++ quotedList [s]]
  | .unknownCommand _ ss _ => ["some similar subcommands exist: " ++ quotedList ss]
  | _ => []

/-- The usage line that the message shows, if any. -/
def usage? : Misuse → Option String
  | .unknownArgument _ _ _ u => some u
  | .commandAfterDashes _ u => some u
  | .unknownCommand _ _ u => some u
  | .missing _ u => some u
  | .repeated _ u => some u
  | .extraValue _ _ u => some u
  | .invalidValue .. => none
  | .emptyValue _ => none

/-- The message printed for a mistake. -/
def message (m : Misuse) : String :=
  let tipsText := match m.tips with
    | [] => ""
    | ts => "\n\n" ++ "\n".intercalate (ts.map ("  tip: " ++ ·))
  let usageText := match m.usage? with
    | some u => "\n\nUsage: " ++ u
    | none => ""
  "error: " ++ m.sentence ++ tipsText ++ usageText ++ "\n\nFor more information, try \x27--help\x27.\n"

end Misuse

end Tintbook.Cli
