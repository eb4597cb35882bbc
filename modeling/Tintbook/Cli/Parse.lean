import Tintbook.Cli.Misuse
import Tintbook.Text.Similarity
import Tintbook.Text.Integer
/-!
# Reading a command line

A command line is read one argument at a time, from the top of the command tree down.

In a group, an argument names the command below it that reads the rest, or `help`, whose
arguments name the command whose help page to print. `-h` and `--help` print the group's
help page. A group given nothing to name a command prints its help page as a refusal.

In a command, an argument is one of:

- `--`, after which every argument is a value;
- `--name` or `--name=value`, a long option; an option that takes a value and has none
  attached takes the next argument (after a `--`, whatever it is);
- `-abc`, short options, of which one that takes a value takes the rest of the argument
  (after an optional `=`) or else the next argument;
- anything else, the operand, which may be given once.

An option may be given once. A mistake stops the reading at once, except that a missing
value or a missing operand is found at the end. Options not given take their defaults.

A name that is no option is compared with the long options by Jaro similarity; one above
0.7 is suggested, the most similar and, of equals, the last. A name that is no command is
compared with the commands the same way, and all of those above 0.7 are suggested.

## What this module delivers

- `Given`, `Call`, `Parsed`: what a command line gives.
- `readValue`: a value as its kind requires.
- `parse`: reading a command line.
-/

set_option autoImplicit false

namespace Tintbook.Cli

/-- A value given on the command line, read as its option or operand requires. -/
inductive Given where
  | text (s : String)
  | number (n : Int)
  deriving DecidableEq, Repr

/-- A call of a command: its path, the values of its options by long name (defaults
included), the switches given, and its operand. -/
structure Call where
  path : List String
  values : List (String × Given)
  switches : List String
  operand : Option Given
  deriving DecidableEq, Repr

/-- What a command line gives: a call, a help page asked for, or a refusal to print. -/
inductive Parsed where
  | call (c : Call)
  | help (page : String)
  | refused (text : String)
  deriving DecidableEq, Repr

/-- A value as its kind requires, or why it is not one. -/
def readValue (kind : ValueKind) (s : String) : Except String Given :=
  match kind with
  | .text => .ok (.text s)
  | .int64 =>
    match readInt64 s with
    | .ok n => .ok (.number n)
    | .error e => .error e.message
  | .port =>
    match readInt64 s with
    | .ok n => if 0 ≤ n && n ≤ 65535 then .ok (.number n) else .error (showInt n ++ " is not in 0..=65535")
    | .error e => .error e.message

/-- Whether an argument is written as an option: a dash followed by more. -/
def looksLikeOption (arg : String) : Bool := arg.startsWith "-" && arg != "-"

/-- A long option's name and its attached value, from the text after `--`. -/
def splitLong (s : String) : String × Option String :=
  let cs := s.toList
  let name := cs.takeWhile (· != '=')
  match cs.drop name.length with
  | [] => (String.ofList name, none)
  | _ :: value => (String.ofList name, some (String.ofList value))

/-- The similarity above which a name is suggested for another, as a fraction. -/
def suggestAbove : Nat × Nat := (7, 10)

/-- Why reading a command stops early: help asked for, or a mistake. -/
inductive Stop where
  | help
  | misuse (m : Misuse)
  deriving DecidableEq, Repr

/-- How far a command has been read. -/
structure Progress where
  /-- The options given, each once, in the order first given. -/
  present : List Flag := []
  values : List (String × Given) := []
  switches : List String := []
  operand : Option Given := none
  /-- An option waiting for its value. -/
  pending : Option Flag := none
  /-- Whether a `--` has been read. -/
  trailing : Bool := false
  deriving Repr

/-- A command being read: its path and node. -/
structure Reader where
  path : List String
  node : Node

namespace Reader

/-- The options a command knows, help last. -/
def known (r : Reader) : List Flag := r.node.flags ++ [helpFlag]

/-- The usage line after the given options: the help page's when none were given. -/
def usage (r : Reader) (given : List Flag) : String :=
  if given.isEmpty then helpUsage r.path r.node else usageNaming r.path r.node given

/-- Whether the command has an operand. -/
def hasOperand (r : Reader) : Bool := r.node.operand.isSome

/-- Before a new option is taken: an option still waiting for its value has none. -/
def settle (p : Progress) : Except Stop Progress :=
  match p.pending with
  | some f => .error (.misuse (.emptyValue f.display))
  | none => .ok p

/-- The options given, with one more named at its end unless it is there already. -/
def withFlag (present : List Flag) (f : Flag) : List Flag :=
  if present.contains f then present else present ++ [f]

/-- Takes the value of an option. -/
def takeValue (r : Reader) (f : Flag) (v : String) (p : Progress) : Except Stop Progress := do
  let p ← settle p
  if p.present.contains f then throw (.misuse (.repeated f.display (r.usage [])))
  match readValue f.kind v with
  | .ok g => return { p with present := p.present ++ [f], values := p.values ++ [(f.long, g)] }
  | .error why => throw (.misuse (.invalidValue v f.display why))

/-- Takes a switch, or help. -/
def takeSwitch (r : Reader) (f : Flag) (p : Progress) : Except Stop Progress := do
  let p ← settle p
  if f == helpFlag then throw .help
  if p.present.contains f then throw (.misuse (.repeated f.display (r.usage [])))
  return { p with present := p.present ++ [f], switches := p.switches ++ [f.long] }

/-- Reads a long option, given the text after `--`. -/
def long (r : Reader) (text : String) (p : Progress) : Except Stop Progress :=
  let (name, attached) := splitLong text
  match r.known.find? (·.long == name) with
  | none =>
    let similar := (Text.closeTo suggestAbove.1 suggestAbove.2 name (r.known.map (·.long))).getLast?
    let given := match similar >>= (fun s => r.known.find? (·.long == s)) with
      | some f => withFlag p.present f
      | none => p.present
    .error (.misuse (.unknownArgument ("--" ++ name) (similar.map (fun f => .here ("--" ++ f)))
      (similar.isNone && !p.trailing && r.hasOperand) (r.usage given)))
  | some f =>
    match f.value, attached with
    | none, some v => .error (.misuse (.extraValue v f.display (r.usage (withFlag p.present f))))
    | none, none => r.takeSwitch f p
    | some _, some v => r.takeValue f v p
    | some _, none => do
      let p ← settle p
      return { p with pending := some f }

/-- Reads a cluster of short options, given the letters after `-`. -/
def short (r : Reader) : List Char → Progress → Except Stop Progress
  | [], p => .ok p
  | c :: rest, p =>
    match r.known.find? (·.short == some c) with
    | none =>
      .error (.misuse (.unknownArgument ("-" ++ c.toString) none (!p.trailing && r.hasOperand)
        (r.usage [])))
    | some f =>
      match f.value with
      | none => do
        let p ← r.takeSwitch f p
        r.short rest p
      | some _ =>
        match rest with
        | [] => do
          let p ← settle p
          return { p with pending := some f }
        | '=' :: value => r.takeValue f (String.ofList value) p
        | value => r.takeValue f (String.ofList value) p

/-- Reads the operand, or refuses an argument there is no place for. -/
def operandOf (r : Reader) (arg : String) (p : Progress) : Except Stop Progress :=
  match r.node.operand, p.operand with
  | some o, none =>
    match readValue o.kind arg with
    | .ok g => .ok { p with operand := some g }
    | .error why => .error (.misuse (.invalidValue arg o.display why))
  | _, _ => .error (.misuse (.unknownArgument arg none false (r.usage [])))

/-- Reads an argument written as an option, before any `--`. -/
def flagStep (r : Reader) (arg : String) (p : Progress) : Except Stop Progress :=
  if arg == "--" then .ok { p with trailing := true }
  else if arg.startsWith "--" then r.long (String.ofList (arg.toList.drop 2)) p
  else r.short (arg.toList.drop 1) p

/-- Reads one argument. -/
def step (r : Reader) (arg : String) (p : Progress) : Except Stop Progress :=
  match p.pending with
  | some f =>
    if p.trailing || !looksLikeOption arg then r.takeValue f arg { p with pending := none }
    else r.flagStep arg p
  | none =>
    if p.trailing then r.operandOf arg p
    else if looksLikeOption arg then r.flagStep arg p
    else r.operandOf arg p

/-- Reads the arguments in order. -/
def run (r : Reader) : List String → Progress → Except Stop Progress
  | [], p => .ok p
  | arg :: rest, p => do
    let p ← r.step arg p
    r.run rest p

/-- The call that the arguments read make, once they are all read. -/
def finish (r : Reader) (p : Progress) : Except Stop Call := do
  if let some f := p.pending then throw (.misuse (.emptyValue f.display))
  let operand ← match r.node.operand, p.operand with
    | some o, none => throw (.misuse (.missing [o.display] (usageNaming r.path r.node p.present)))
    | _, g => pure g
  let defaults := r.node.flags.filterMap (fun f =>
    match f.default with
    | some d => if p.values.any (·.1 == f.long) then none else some (f.long, Given.text d)
    | none => none)
  return ⟨r.path, p.values ++ defaults, p.switches, operand⟩

/-- What the arguments of a command give. -/
def parse (r : Reader) (args : List String) : Parsed :=
  match r.run args {} >>= r.finish with
  | .ok c => .call c
  | .error .help => .help (helpPage r.path r.node)
  | .error (.misuse m) => .refused m.message

end Reader

/-- The commands of a group by name, `help` last. -/
def commandNames (n : Node) : List String := n.children.map (·.1) ++ ["help"]

/-- An option of a command named later on the line that is similar to a name: of the
commands named, the one named first. -/
def belowHint (name : String) (n : Node) (rest : List String) : Option Hint :=
  let found := n.children.filterMap (fun (c, node) =>
    match rest.idxOf? c,
      (Text.closeTo suggestAbove.1 suggestAbove.2 name ((node.flags ++ [helpFlag]).map (·.long))).getLast? with
    | some i, some f => some (i, Hint.below c ("--" ++ f))
    | _, _ => none)
  (found.foldl (fun best x =>
    match best with
    | some b => if x.1 < b.1 then some x else some b
    | none => some x) none).map (·.2)

/-- What the arguments after `help` give: the help page of the node they name. -/
def helpWalk (path : List String) (n : Node) : List String → Parsed
  | [] => .help (helpPage path n)
  | arg :: rest =>
    match n.child? arg with
    | some c => helpWalk (path ++ [arg]) c rest
    | none =>
      match n, arg, rest with
      | .group .., "help", [] => .help (helpCommandPage path)
      | .group .., "help", next :: _ =>
        .refused (Misuse.unknownCommand next [] (callName (path ++ ["help"]) ++ " [COMMAND]...")).message
      | _, _, _ => .refused (Misuse.unknownCommand arg [] (helpUsage path n)).message

/-- What a group's arguments give, after any `--` when `trailing`. -/
def readNode (path : List String) (n : Node) (trailing : Bool) : List String → Parsed
  | [] =>
    match n with
    | .group .. => .refused (helpPage path n)
    | .command .. => Reader.parse ⟨path, n⟩ []
  | arg :: rest =>
    match n with
    | .command .. => Reader.parse ⟨path, n⟩ (arg :: rest)
    | .group .. =>
      let usage := helpUsage path n
      let unknown (name : String) : Parsed :=
        .refused (Misuse.unknownCommand name
          (Text.closeTo suggestAbove.1 suggestAbove.2 name (commandNames n)) usage).message
      if trailing then
        if (commandNames n).contains arg then .refused (Misuse.commandAfterDashes arg usage).message
        else unknown arg
      else if arg == "--" then readNode path n true rest
      else if arg.startsWith "--" then
        let (name, attached) := splitLong (String.ofList (arg.toList.drop 2))
        if name == "help" then
          match attached with
          | some v => .refused (Misuse.extraValue v helpFlag.display (usageNaming path n [helpFlag])).message
          | none => .help (helpPage path n)
        else
          match (Text.closeTo suggestAbove.1 suggestAbove.2 name ["help"]).getLast? with
          | some f =>
            .refused (Misuse.unknownArgument ("--" ++ name) (some (.here ("--" ++ f))) false
              (usageNaming path n [helpFlag])).message
          | none =>
            .refused (Misuse.unknownArgument ("--" ++ name) (belowHint name n rest) false usage).message
      else if looksLikeOption arg then
        match arg.toList.drop 1 with
        | 'h' :: _ => .help (helpPage path n)
        | c :: _ => .refused (Misuse.unknownArgument ("-" ++ c.toString) none false usage).message
        | [] => unknown arg
      else if arg == "help" then helpWalk path n rest
      else
        match n.child? arg with
        | some c => readNode (path ++ [arg]) c false rest
        | none => unknown arg

/-- What a command line gives, its program name left out. -/
def parse (args : List String) : Parsed := readNode [] grammar false args

end Tintbook.Cli
