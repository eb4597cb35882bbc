import Tintbook.Toml.Value
/-!
# Assembling a TOML document

A document is read line by line into its tables. Key-value lines go into the *current*
table: the root until the first header, then the table of the last header. A header ends
the current table, which is then put into its place in the document, and starts the next.

The rules, in the order a reader meets them:

- a dotted key `a.b = v` makes implicit dotted tables on the way, and may go through implicit
  tables but not through a table written with a header, nor through a value that is no
  table;
- a key may be defined once in its table;
- a header `[a.b]` may name a table that so far only exists implicitly, on the way to a
  deeper one, and takes it over with its entries; any other existing entry of that name
  refuses the header;
- a header `[[a]]` appends a table to the array of tables `a`, making it when needed, and
  refuses a name already used for anything else;
- a path through an array of tables goes into its last table.

A table in braces follows the same rules for its dotted keys, on its own.

## What this module delivers

- `TableNode`: a table under construction.
- `TomlDocument`: the state of reading, with `onKeyval`, `onStdHeader`, `onArrayHeader` and
  `finish`.
- `inlineTable`: the table of the pairs written in braces.
-/

set_option autoImplicit false

namespace Tintbook

/-- A table under construction: its entries, whether it is implicit, whether it was made by
dotted keys, and its span. -/
structure TableNode where
  entries : List (TomlKey × Toml) := []
  implicit : Bool := false
  dotted : Bool := false
  span : Option Span := none
  deriving Inhabited

namespace TableNode

/-- The table as a value. -/
def toToml (t : TableNode) : Toml := .table t.entries t.implicit t.dotted t.span

/-- The table as a value written in braces. -/
def toInline (t : TableNode) : Toml := .inline t.entries t.implicit t.dotted t.span

/-- The entries with the value of one name replaced. -/
def replaceEntry (entries : List (TomlKey × Toml)) (name : String) (v : Toml) :
    List (TomlKey × Toml) :=
  entries.map (fun e => if e.1.name == name then (e.1, v) else e)

/-- Applies `f` to the table reached from `t` along `path`, where `whole` is the full path
and `i` the index of the first part of `path` in it. Missing tables on the way are made
implicit (and dotted when `dotted`); a path through an array of tables goes into its last
table. -/
def descend {α : Type} (dotted : Bool) (whole : List TomlKey)
    (f : TableNode → Except TomlFault (TableNode × α)) :
    Nat → List TomlKey → TableNode → Except TomlFault (TableNode × α)
  | _, [], t => f t
  | i, k :: ks, t =>
    match t.entries.find? (·.1.name == k.name) with
    | none => do
      let (c, a) ← descend dotted whole f (i + 1) ks { implicit := true, dotted := dotted }
      return ({ t with entries := t.entries ++ [(k, c.toToml)] }, a)
    | some (_, .table es imp dot sp) => do
      if dotted && !imp then throw (.duplicateKey k.name none)
      let (c, a) ← descend dotted whole f (i + 1) ks ⟨es, imp, dot, sp⟩
      return ({ t with entries := replaceEntry t.entries k.name c.toToml }, a)
    | some (_, .tables items sp) =>
      match items.getLast? with
      | some (.table es imp dot sp') => do
        let (c, a) ← descend dotted whole f (i + 1) ks ⟨es, imp, dot, sp'⟩
        return ({ t with entries := replaceEntry t.entries k.name (.tables (items.dropLast ++ [c.toToml]) sp) }, a)
      | _ => throw (.extendWrongType ((whole.take (i + 1)).map (·.name)) "array of tables")
    | some (_, v) => throw (.extendWrongType ((whole.take (i + 1)).map (·.name)) v.typeName)

/-- Applies `f` to the table in braces reached along a dotted path, making implicit dotted
tables on the way. -/
def descendInline {α : Type} (whole : List TomlKey)
    (f : TableNode → Except TomlFault (TableNode × α)) :
    Nat → List TomlKey → TableNode → Except TomlFault (TableNode × α)
  | _, [], t => f t
  | i, k :: ks, t =>
    match t.entries.find? (·.1.name == k.name) with
    | none => do
      let (c, a) ← descendInline whole f (i + 1) ks { implicit := true, dotted := true }
      return ({ t with entries := t.entries ++ [(k, c.toInline)] }, a)
    | some (_, .inline es imp dot sp) => do
      if !imp then throw (.duplicateKey k.name none)
      let (c, a) ← descendInline whole f (i + 1) ks ⟨es, imp, dot, sp⟩
      return ({ t with entries := replaceEntry t.entries k.name c.toInline }, a)
    | some (_, v) => throw (.extendWrongType ((whole.take (i + 1)).map (·.name)) v.typeName)

end TableNode

/-- The table of the pairs written in braces, each a dotted path, a key and a value. -/
def inlineTable (pairs : List (List TomlKey × TomlKey × Toml)) : Except TomlFault TableNode :=
  pairs.foldlM (fun root (path, key, v) => do
    let (root', ()) ← TableNode.descendInline path (fun t => do
        if t.dotted == path.isEmpty then throw (.duplicateKey key.name none)
        if t.entries.any (·.1.name == key.name) then throw (.duplicateKey key.name none)
        return ({ t with entries := t.entries ++ [(key, v)] }, ())) 0 path root
    return root') {}

/-- The state of reading a document: the tables put in place so far, the current table, its
header's path, and whether that header names an array of tables. -/
structure TomlDocument where
  root : TableNode := {}
  current : TableNode := { span := some ⟨0, 0⟩ }
  path : List TomlKey := []
  isArray : Bool := false
  deriving Inhabited

namespace TomlDocument

/-- Puts a key-value line into the current table. The current table's span grows to the
end of the value. -/
def onKeyval (d : TomlDocument) (path : List TomlKey) (key : TomlKey) (v : Toml) :
    Except TomlFault TomlDocument := do
  let cur := match d.current.span, v.span? with
    | some e, some s => { d.current with span := some ⟨e.start, s.stop⟩ }
    | _, _ => d.current
  let (cur', ()) ← TableNode.descend true path (fun t => do
      if t.dotted == path.isEmpty then throw (.duplicateKey key.name none)
      if t.entries.any (·.1.name == key.name) then
        throw (.duplicateKey key.name (some (d.path.map (·.name))))
      return ({ t with entries := t.entries ++ [(key, v)] }, ())) 0 path cur
  return { d with current := cur' }

/-- Puts the current table into its place in the document. -/
def finalize (d : TomlDocument) : Except TomlFault TomlDocument := do
  let table := d.current
  match d.path.getLast? with
  | none => return { d with root := table, current := {}, path := [] }
  | some last =>
    let parent := d.path.dropLast
    let refuse : TomlFault := .duplicateKey last.raw (some (parent.map (·.name)))
    let (root', ()) ← TableNode.descend false parent (fun t =>
        match t.entries.find? (·.1.name == last.name), d.isArray with
        | none, true => return ({ t with entries := t.entries ++ [(last, .tables [table.toToml] table.span)] }, ())
        | some (_, .tables items _), true =>
          let items' := items ++ [table.toToml]
          let span := match items'.head?.bind Toml.span?, table.span with
            | some f, some l => some ⟨f.start, l.stop⟩
            | _, _ => none
          return ({ t with entries := TableNode.replaceEntry t.entries last.name (.tables items' span) }, ())
        | none, false => return ({ t with entries := t.entries ++ [(last, table.toToml)] }, ())
        | some (_, .table _ true _ _), false =>
          return ({ t with entries := TableNode.replaceEntry t.entries last.name table.toToml }, ())
        | some _, _ => throw refuse) 0 parent d.root
    return { d with root := root', current := {}, path := [] }

/-- Starts the table of a header `[path]`, taking over an implicit table of that name. -/
def startTable (d : TomlDocument) (path : List TomlKey) (span : Span) :
    Except TomlFault TomlDocument := do
  match path.getLast? with
  | none => return d
  | some last =>
    let parent := path.dropLast
    let (root', picked) ← TableNode.descend false parent (fun t =>
        match t.entries.find? (·.1.name == last.name) with
        | none => return (t, [])
        | some (_, .table es true false _) =>
          return ({ t with entries := t.entries.filter (·.1.name != last.name) }, es)
        | some _ => throw (.duplicateKey last.raw (some (parent.map (·.name))))) 0 parent d.root
    let cur : TableNode := { entries := picked, span := some span }
    return { d with root := root', current := cur, path := path, isArray := false }

/-- Starts a table of a header `[[path]]`, making the array of tables when needed. -/
def startArrayTable (d : TomlDocument) (path : List TomlKey) (span : Span) :
    Except TomlFault TomlDocument := do
  match path.getLast? with
  | none => return d
  | some last =>
    let parent := path.dropLast
    let (root', ()) ← TableNode.descend false parent (fun t =>
        match t.entries.find? (·.1.name == last.name) with
        | none => return ({ t with entries := t.entries ++ [(last, .tables [] none)] }, ())
        | some (_, .tables ..) => return (t, ())
        | some _ => throw (.duplicateKey last.raw (some (parent.map (·.name))))) 0 parent d.root
    let cur : TableNode := { span := some span }
    return { d with root := root', current := cur, path := path, isArray := true }

/-- Reads a header `[path]` spanning `span`. -/
def onStdHeader (d : TomlDocument) (path : List TomlKey) (span : Span) :
    Except TomlFault TomlDocument := do
  (← d.finalize).startTable path span

/-- Reads a header `[[path]]` spanning `span`. -/
def onArrayHeader (d : TomlDocument) (path : List TomlKey) (span : Span) :
    Except TomlFault TomlDocument := do
  (← d.finalize).startArrayTable path span

/-- The root table once the whole document has been read. -/
def finish (d : TomlDocument) : Except TomlFault (List (TomlKey × Toml)) := do
  return (← d.finalize).root.entries

end TomlDocument

end Tintbook
