import Tintbook.Cli.Run
import Mathlib.Tactic.MkIffOfInductiveProp
import Tintbook.Proofs.Text.Integer
/-!
# Fields given on the command line

`formulas create NAME` and `formulas update ID` take the fields of a formula as options,
each followed by its value. Such a command line is read as the task it writes out: creating
a formula with that name, or changing the formula with that id, with the fields given and the
default data directory (`parse_create`, `parse_update`). This needs one condition on what is
written: no value looks like an option. An argument that starts with a dash and is more than
a dash is taken for an option wherever it stands, so a value such as `-matte` never reaches
the field it was meant for, and a negative id is never read as an id.

The reading of options is packaged once (`Reader.run_optionArgs`): options that take text,
each given at most once and each followed by a value that does not look like an option, add
their values in order and leave the reader waiting for nothing.

## What this module delivers

- `optionArgs`, `givenPairs`, `givenValues`, `FieldArgs.items`: fields written as options,
  and the values they give.
- `looksLikeOption_eq_true_iff`, `looksLikeOption_showInt`: which arguments are options.
- `Reader.TextOption`, `Reader.run_optionArgs`, `Reader.parse_command`.
- `find?_givenPairs`, `text?_givenValues`, `fields_givenValues`: the values a call gives.
- `createCommand`, `updateCommand`, `parse_create`, `parse_update`.
-/

set_option autoImplicit false

namespace Tintbook.Cli

/-! ## Fields written as options -/

/-- The arguments that give fields as options: for each field given, `--long` and then its
value, in order. -/
def optionArgs : List (String × Option String) → List String
  | [] => []
  | (long, some v) :: rest => ("--" ++ long) :: v :: optionArgs rest
  | (_, none) :: rest => optionArgs rest

/-- The pairs of the fields given: the name and the value of each, in order. -/
def givenPairs (items : List (String × Option String)) : List (String × String) :=
  items.filterMap fun i => i.2.map fun v => (i.1, v)

/-- The values options give, by long name, for the fields given. -/
def givenValues (items : List (String × Option String)) : List (String × Given) :=
  (givenPairs items).map fun p => (p.1, .text p.2)

/-- The fields of a formula besides its name, by the long names of their options. -/
def FieldArgs.items (a : FieldArgs) : List (String × Option String) :=
  [("number", a.number), ("customer", a.customer), ("summary", a.summary), ("notes", a.notes),
    ("colorants", a.colorants), ("bases", a.bases)]

/-- The long names of the fields of a formula besides its name. -/
def FieldArgs.longs : List String := ["number", "customer", "summary", "notes", "colorants", "bases"]

theorem FieldArgs.items_longs (a : FieldArgs) : a.items.map Prod.fst = FieldArgs.longs := rfl

theorem fst_mem_of_mem_givenPairs {items : List (String × Option String)} {x : String × String}
    (hx : x ∈ givenPairs items) : x.1 ∈ items.map Prod.fst := by
  obtain ⟨i, hi, hx⟩ := List.mem_filterMap.1 hx
  obtain ⟨v, -, rfl⟩ := Option.map_eq_some_iff.1 hx
  exact List.mem_map_of_mem hi

/-- The names of the fields given come in the order of all the fields. -/
theorem givenPairs_names_sublist (items : List (String × Option String)) :
    ((givenPairs items).map Prod.fst).Sublist (items.map Prod.fst) := by
  induction items with
  | nil => exact List.Sublist.slnil
  | cons item items ih =>
    obtain ⟨k, o⟩ := item
    cases o with
    | none => simpa [givenPairs] using ih.cons k
    | some v => simpa [givenPairs] using ih.cons_cons k

theorem nodup_givenPairs {items : List (String × Option String)}
    (h : (items.map Prod.fst).Nodup) : ((givenPairs items).map Prod.fst).Nodup :=
  h.sublist (givenPairs_names_sublist items)

theorem fst_mem_of_mem_givenValues {items : List (String × Option String)} {x : String × Given}
    (hx : x ∈ givenValues items) : x.1 ∈ items.map Prod.fst := by
  obtain ⟨p, hp, rfl⟩ := List.mem_map.1 hx
  exact fst_mem_of_mem_givenPairs hp

/-- Every value of the given fields is an argument that does not look like an option. -/
def Plain (items : List (String × Option String)) : Prop :=
  ∀ i ∈ items, ∀ v ∈ i.2, looksLikeOption v = false

/-! ## Arguments that look like options -/

theorem looksLikeOption_eq_true_iff (s : String) :
    looksLikeOption s = true ↔ ∃ c cs, s.toList = '-' :: c :: cs := by
  unfold looksLikeOption
  simp only [Bool.and_eq_true, String.startsWith_string_iff, bne_iff_ne, ne_eq]
  constructor
  · rintro ⟨⟨t, ht⟩, hne⟩
    cases t with
    | nil =>
      refine absurd (String.toList_inj.1 ?_) hne
      simpa using ht.symm
    | cons c cs => exact ⟨c, cs, by simpa using ht.symm⟩
  · rintro ⟨c, cs, h⟩
    refine ⟨⟨c :: cs, by simp [h]⟩, fun heq => ?_⟩
    rw [heq] at h
    simp at h

theorem looksLikeOption_dashes (long : String) : looksLikeOption ("--" ++ long) = true :=
  (looksLikeOption_eq_true_iff _).2 ⟨'-', long.toList, by simp⟩

/-- The text of an integer that is not negative starts with a digit, so it does not look like
an option. -/
theorem looksLikeOption_showInt {n : Int} (h : 0 ≤ n) : looksLikeOption (showInt n) = false := by
  cases hl : looksLikeOption (showInt n) with
  | false => rfl
  | true =>
    obtain ⟨c, cs, hcs⟩ := (looksLikeOption_eq_true_iff _).1 hl
    rw [showInt_toList, if_neg (by omega), List.nil_append] at hcs
    have hmem : '-' ∈ Nat.toDigits 10 n.natAbs := by
      rw [hcs]
      exact List.mem_cons_self
    exact absurd (Nat.isDigit_of_mem_toDigits (by decide) (by decide) hmem) (by decide)

/-- A long name with no `=` is read with nothing attached. -/
theorem splitLong_of_not_mem {long : String} (h : '=' ∉ long.toList) :
    splitLong long = (long, none) := by
  have htake : long.toList.takeWhile (· != '=') = long.toList :=
    List.takeWhile_eq_self_iff.2 fun c hc => by
      have : c ≠ '=' := fun heq => h (heq ▸ hc)
      simpa using this
  simp [splitLong, htake]

/-! ## Reading one argument -/

namespace Reader

variable {r : Reader}

/-- A long name of an option that a command takes text by: the option is found by that name
and takes a value of text, and the name is not empty and holds no `=`, so that `--name` is
read as the name with nothing attached. -/
@[mk_iff]
structure TextOption (r : Reader) (long : String) : Prop where
  found : (r.known.find? (·.long == long)).map (fun f => f.value.isSome && f.kind == .text) =
    some true
  filled : long ≠ ""
  whole : '=' ∉ long.toList

instance (r : Reader) (long : String) : Decidable (r.TextOption long) :=
  decidable_of_iff' _ (textOption_iff r long)

theorem run_cons_ok {arg : String} {p p' : Progress} (h : r.step arg p = .ok p')
    (rest : List String) : r.run (arg :: rest) p = r.run rest p' := by
  simp [Reader.run, h, bind, Except.bind]

/-- An argument that does not look like an option, while nothing waits for a value, is the
operand. -/
theorem step_operand {arg : String} {p : Progress} {o : Operand} {g : Given}
    (hpending : p.pending = none) (htrailing : p.trailing = false)
    (harg : looksLikeOption arg = false) (ho : r.node.operand = some o) (hfree : p.operand = none)
    (hread : readValue o.kind arg = .ok g) :
    r.step arg p = .ok { p with operand := some g } := by
  simp [Reader.step, Reader.operandOf, hpending, htrailing, harg, ho, hfree, hread]

/-- The name of an option that takes text leaves the reader waiting for its value. -/
theorem step_option {long : String} (ho : r.TextOption long) {p : Progress}
    (hpending : p.pending = none) (htrailing : p.trailing = false) :
    ∃ f, f.long = long ∧ f.kind = .text ∧
      r.step ("--" ++ long) p = .ok { p with pending := some f } := by
  obtain ⟨f, hf, hcheck⟩ := Option.map_eq_some_iff.1 ho.found
  have hlong : f.long = long := by simpa using List.find?_some hf
  have hvalue : f.value.isSome = true ∧ f.kind = .text := by simpa using hcheck
  obtain ⟨v, hv⟩ := Option.isSome_iff_exists.1 hvalue.1
  have hnotEnd : ("--" ++ long == "--") = false := by simpa using ho.filled
  have hprefixed : ("--" ++ long).startsWith "--" = true := by simp
  refine ⟨f, hlong, hvalue.2, ?_⟩
  simp [Reader.step, Reader.flagStep, Reader.long, Reader.settle, hpending, htrailing,
    looksLikeOption_dashes, hnotEnd, hprefixed, splitLong_of_not_mem ho.whole, hf, hv]

/-- A value that does not look like an option is the value of the option waiting for it. -/
theorem step_value {f : Flag} {v : String} {p : Progress} (hpending : p.pending = some f)
    (htrailing : p.trailing = false) (hv : looksLikeOption v = false) (hkind : f.kind = .text)
    (hfresh : f ∉ p.present) :
    r.step v p = .ok { p with
      pending := none
      present := p.present ++ [f]
      values := p.values ++ [(f.long, .text v)] } := by
  simp [Reader.step, Reader.takeValue, Reader.settle, readValue, hpending, htrailing, hv, hkind,
    hfresh, bind, Except.bind, pure, Except.pure]

/-! ## Reading fields given as options -/

/-- What reading options leaves of the reader: the values before them and theirs after,
nothing waiting for a value, and the rest as it was. -/
structure ReadOn (p p' : Progress) (values : List (String × Given)) : Prop where
  values : p'.values = p.values ++ values
  operand : p'.operand = p.operand
  switches : p'.switches = p.switches
  pending : p'.pending = none
  trailing : p'.trailing = false

/-- **Options that take text, each given at most once and each followed by a value that does
not look like an option, add their values in order.** -/
theorem run_optionArgs (items : List (String × Option String))
    (hopts : ∀ i ∈ items, r.TextOption i.1) (hnodup : (items.map Prod.fst).Nodup)
    (hplain : Plain items) {p : Progress} (hpending : p.pending = none)
    (htrailing : p.trailing = false) (hfresh : ∀ g ∈ p.present, g.long ∉ items.map Prod.fst)
    (rest : List String) :
    ∃ p', r.run (optionArgs items ++ rest) p = r.run rest p' ∧ ReadOn p p' (givenValues items) := by
  -- induction on the fields, the reader moving along; the options read so far are fresh for
  -- the fields still to come, since each long name is given once
  induction items generalizing p with
  | nil => exact ⟨p, rfl, ⟨by simp [givenValues, givenPairs], rfl, rfl, hpending, htrailing⟩⟩
  | cons item items ih =>
    obtain ⟨long, o⟩ := item
    obtain ⟨hlong, hrest⟩ := List.nodup_cons.1 hnodup
    have hopts' : ∀ i ∈ items, r.TextOption i.1 := fun i hi => hopts i (List.mem_cons_of_mem _ hi)
    have hplain' : Plain items := fun i hi => hplain i (List.mem_cons_of_mem _ hi)
    cases o with
    | none =>
      -- a field not given writes nothing
      obtain ⟨p', hrun, hread⟩ := ih hopts' hrest hplain' hpending htrailing
        (fun g hg hmem => hfresh g hg (List.mem_cons_of_mem _ hmem))
      exact ⟨p', hrun, by simpa [givenValues, givenPairs] using hread⟩
    | some v =>
      obtain ⟨f, hf, hkind, hname⟩ := step_option (hopts _ List.mem_cons_self) hpending htrailing
      have hnew : f ∉ p.present := fun hmem => hfresh f hmem (by simp [hf])
      have hvalue := step_value (r := r) (p := { p with pending := some f }) rfl htrailing
        (hplain _ List.mem_cons_self v rfl) hkind hnew
      obtain ⟨p', hrun, hread⟩ := ih hopts' hrest hplain' (p := { { p with pending := some f } with
          pending := none
          present := p.present ++ [f]
          values := p.values ++ [(f.long, .text v)] }) rfl htrailing
        (fun g hg hmem => by
          rcases List.mem_append.1 hg with hg | hg
          · exact hfresh g hg (List.mem_cons_of_mem _ hmem)
          · rw [List.mem_singleton.1 hg, hf] at hmem
            exact hlong hmem)
      refine ⟨p', ?_, ⟨?_, hread.operand, hread.switches, hread.pending, hread.trailing⟩⟩
      · rw [optionArgs, List.cons_append, List.cons_append, run_cons_ok hname, run_cons_ok hvalue,
          hrun]
      · rw [hread.values, hf]
        simp [givenValues, givenPairs]

/-- **A command whose only default is the data directory, given its operand and then options
that take text, makes the call of those values and the default directory.** -/
theorem parse_command {about : String} {fs : List Flag} {o : Operand}
    (hnode : r.node = .command about (fs ++ [dataDirFlag ""]) (some o))
    (hfs : ∀ f ∈ fs, f.default = none) {arg : String} {g : Given}
    (harg : looksLikeOption arg = false) (hread : readValue o.kind arg = .ok g)
    (items : List (String × Option String)) (hopts : ∀ i ∈ items, r.TextOption i.1)
    (hnodup : (items.map Prod.fst).Nodup) (hplain : Plain items)
    (hdir : "data-dir" ∉ items.map Prod.fst) :
    r.parse (arg :: optionArgs items) =
      .call ⟨r.path, givenValues items ++ [("data-dir", .text "./data")], [], some g⟩ := by
  have hoperand : r.step arg {} = .ok { operand := some g } :=
    step_operand rfl rfl harg (by rw [hnode]; rfl) rfl hread
  obtain ⟨p', hrun, hread'⟩ := run_optionArgs items hopts hnodup hplain (p := { operand := some g })
    rfl rfl (by simp) []
  rw [List.append_nil] at hrun
  -- the values read are the fields', none of them the data directory's
  have hvalues : p'.values = givenValues items := by simpa using hread'.values
  have hnoDir : p'.values.any (·.1 == "data-dir") = false := by
    rw [hvalues, List.any_eq_false]
    intro x hx
    simpa using fun h : x.1 = "data-dir" => hdir (h ▸ fst_mem_of_mem_givenValues hx)
  have hfinish :
      r.finish p' = .ok ⟨r.path, p'.values ++ [("data-dir", .text "./data")], [], some g⟩ := by
    simp [Reader.finish, hnode, Node.flags, Node.operand, hread'.pending, hread'.operand,
      hread'.switches, List.filterMap_append, dataDirFlag, hnoDir, bind, Except.bind, pure,
      Except.pure]
    -- the fields' options have no default
    intro f hf
    simp [hfs f hf]
  have hall : r.run (arg :: optionArgs items) {} = .ok p' := by
    rw [run_cons_ok hoperand, hrun]
    rfl
  simp [Reader.parse, hall, hfinish, hvalues, bind, Except.bind]

end Reader

/-! ## Down the groups to a command -/

theorem looksLikeOption_of_startsWith {arg : String} (h : arg.startsWith "--" = true) :
    looksLikeOption arg = true := by
  obtain ⟨t, ht⟩ := String.startsWith_string_iff.1 h
  exact (looksLikeOption_eq_true_iff _).2 ⟨'-', t, by simpa using ht.symm⟩

/-- An argument that names a command of a group, and is neither written as an option nor
`help`, takes the reading down to that command. -/
theorem readNode_child {path : List String} {about arg : String} {cs : List (String × Node)}
    {c : Node} (hc : (Node.group about cs).child? arg = some c)
    (harg : looksLikeOption arg = false) (hhelp : arg ≠ "help") (rest : List String) :
    readNode path (.group about cs) false (arg :: rest) = readNode (path ++ [arg]) c false rest := by
  have hend : (arg == "--") = false := by
    cases he : arg == "--" with
    | false => rfl
    | true =>
      rw [beq_iff_eq.1 he] at harg
      exact absurd (looksLikeOption_dashes "") (by simpa using harg)
  have hlong : arg.startsWith "--" = false := by
    cases hs : arg.startsWith "--" with
    | false => rfl
    | true => exact absurd (looksLikeOption_of_startsWith hs) (by simp [harg])
  rw [readNode.eq_4]
  simp [hend, hlong, harg, hhelp, hc]

/-- The command that creates a formula. -/
def createCommand : Node :=
  .command "Create a formula" (fieldFlags ++ [dataDirFlag ""])
    (some { name := "NAME", help := "Formula name" })

/-- The option that gives a formula a new name. -/
def renameFlag : Flag :=
  { long := "name", short := some 'n', value := some "NAME", help := "New formula name" }

/-- The command that changes a formula. -/
def updateCommand : Node :=
  .command "Update a formula; only the given values change"
    (renameFlag :: fieldFlags ++ [dataDirFlag ""]) (some idOperand)

theorem parse_formulas (rest : List String) :
    parse ("formulas" :: rest) = readNode ["formulas"] formulaCommands false rest :=
  readNode_child rfl (by decide +kernel) (by decide) rest

theorem readNode_create (arg : String) (rest : List String) :
    readNode ["formulas"] formulaCommands false ("create" :: arg :: rest) =
      Reader.parse ⟨["formulas", "create"], createCommand⟩ (arg :: rest) :=
  (readNode_child rfl (by decide +kernel) (by decide) _).trans rfl

theorem readNode_update (arg : String) (rest : List String) :
    readNode ["formulas"] formulaCommands false ("update" :: arg :: rest) =
      Reader.parse ⟨["formulas", "update"], updateCommand⟩ (arg :: rest) :=
  (readNode_child rfl (by decide +kernel) (by decide) _).trans rfl

theorem textOptions_create :
    ∀ long ∈ FieldArgs.longs, Reader.TextOption ⟨["formulas", "create"], createCommand⟩ long := by
  decide +kernel

theorem textOptions_update :
    ∀ long ∈ "name" :: FieldArgs.longs,
      Reader.TextOption ⟨["formulas", "update"], updateCommand⟩ long := by
  decide +kernel

/-! ## The calls the commands make -/

theorem find?_givenPairs_of_not_mem {items : List (String × Option String)} {long : String}
    (h : long ∉ items.map Prod.fst) : (givenPairs items).find? (·.1 == long) = none := by
  rw [List.find?_eq_none]
  intro x hx
  simpa using fun heq : x.1 = long => h (heq ▸ fst_mem_of_mem_givenPairs hx)

/-- **Among fields with distinct names, the pair found under a field's name is the one it
was given, if any.** -/
theorem find?_givenPairs {items : List (String × Option String)}
    (hnodup : (items.map Prod.fst).Nodup) {long : String} {o : Option String}
    (hmem : (long, o) ∈ items) :
    (givenPairs items).find? (·.1 == long) = o.map fun v => (long, v) := by
  induction items with
  | nil => cases hmem
  | cons item items ih =>
    obtain ⟨hfresh, hrest⟩ := List.nodup_cons.1 hnodup
    rcases List.mem_cons.1 hmem with rfl | hlater
    · -- the field asked for comes first
      cases o with
      | none => simpa [givenPairs] using find?_givenPairs_of_not_mem hfresh
      | some v => simp [givenPairs]
    · -- it comes later, so the first field has another name
      have hne : item.1 ≠ long := fun heq => hfresh (heq ▸ List.mem_map_of_mem hlater)
      have hfound := ih hrest hlater
      obtain ⟨l, o'⟩ := item
      cases o' with
      | none => simpa [givenPairs] using hfound
      | some v => simpa [givenPairs, hne] using hfound

theorem find?_givenValues_of_not_mem {items : List (String × Option String)} {long : String}
    (h : long ∉ items.map Prod.fst) : (givenValues items).find? (·.1 == long) = none := by
  simp only [givenValues, List.find?_map, Function.comp_def, find?_givenPairs_of_not_mem h,
    Option.map_none]

theorem find?_givenValues {items : List (String × Option String)}
    (hnodup : (items.map Prod.fst).Nodup) {long : String} {o : Option String}
    (hmem : (long, o) ∈ items) :
    (givenValues items).find? (·.1 == long) = o.map fun v => (long, .text v) := by
  cases o <;> simp only [givenValues, List.find?_map, Function.comp_def,
    find?_givenPairs hnodup hmem, Option.map_none, Option.map_some]

/-- A call whose values are fields with distinct names, then a data directory, gives each
field the text it was given. -/
theorem text?_givenValues {path : List String} {items : List (String × Option String)}
    {dir : String} {switches : List String} {operand : Option Given}
    (hnodup : (items.map Prod.fst).Nodup) {long : String} {o : Option String}
    (hmem : (long, o) ∈ items) (hdir : long ≠ "data-dir") :
    Call.text? ⟨path, givenValues items ++ [("data-dir", .text dir)], switches, operand⟩ long = o := by
  unfold Call.text?
  rw [List.find?_append, find?_givenValues hnodup hmem]
  cases o with
  | none => simp [Ne.symm hdir]
  | some v => rfl

theorem dataDir_givenValues {path : List String} {items : List (String × Option String)}
    {dir : String} {switches : List String} {operand : Option Given}
    (hdir : "data-dir" ∉ items.map Prod.fst) :
    Call.dataDir ⟨path, givenValues items ++ [("data-dir", .text dir)], switches, operand⟩ = dir := by
  simp [Call.dataDir, Call.text?, List.find?_append, find?_givenValues_of_not_mem hdir]

/-- The fields of a call are the ones given, whatever else was given with them. -/
theorem fields_givenValues {path : List String} {items : List (String × Option String)}
    {dir : String} {switches : List String} {operand : Option Given} {a : FieldArgs}
    (hsub : ∀ i ∈ a.items, i ∈ items) (hnodup : (items.map Prod.fst).Nodup) :
    Call.fields ⟨path, givenValues items ++ [("data-dir", .text dir)], switches, operand⟩ = a := by
  have hfield : ∀ long o, (long, o) ∈ a.items →
      Call.text? ⟨path, givenValues items ++ [("data-dir", .text dir)], switches, operand⟩ long = o :=
    fun long o hi => text?_givenValues hnodup (hsub _ hi) (by
      have hlong : long ∈ FieldArgs.longs := a.items_longs ▸ List.mem_map_of_mem (f := Prod.fst) hi
      intro heq
      rw [heq] at hlong
      exact absurd hlong (by decide +kernel))
  simp only [Call.fields]
  rw [hfield "number" a.number (by simp [FieldArgs.items]),
    hfield "customer" a.customer (by simp [FieldArgs.items]),
    hfield "summary" a.summary (by simp [FieldArgs.items]),
    hfield "notes" a.notes (by simp [FieldArgs.items]),
    hfield "colorants" a.colorants (by simp [FieldArgs.items]),
    hfield "bases" a.bases (by simp [FieldArgs.items])]

theorem fieldFlags_no_default : ∀ f ∈ fieldFlags, f.default = none := by decide +kernel

/-- **A command line that creates a formula, its fields given as options and no value
looking like an option, asks for that formula in the default directory.** -/
theorem parse_create {name : String} {a : FieldArgs} (hname : looksLikeOption name = false)
    (hplain : Plain a.items) :
    ∃ c, parse (["formulas", "create", name] ++ optionArgs a.items) = .call c ∧
      Task.ofCall c = .create name a "./data" := by
  have hnodup : (a.items.map Prod.fst).Nodup := a.items_longs ▸ by decide +kernel
  have hdir : "data-dir" ∉ a.items.map Prod.fst := a.items_longs ▸ by decide +kernel
  refine ⟨⟨["formulas", "create"], givenValues a.items ++ [("data-dir", .text "./data")], [],
    some (.text name)⟩, ?_, ?_⟩
  · rw [List.cons_append, List.cons_append, List.cons_append, parse_formulas, readNode_create]
    exact Reader.parse_command rfl fieldFlags_no_default hname rfl a.items
      (fun i hi => textOptions_create i.1 (a.items_longs ▸ List.mem_map_of_mem hi))
      hnodup hplain hdir
  · simp only [Task.ofCall, Call.name, fields_givenValues (fun i hi => hi) hnodup,
      dataDir_givenValues hdir]

/-- **A command line that changes a formula, its id given as the text of a number that is
not negative and its fields as options, no value looking like an option, asks for that
change in the default directory.** -/
theorem parse_update {n : Int} {name : Option String} {a : FieldArgs}
    (hid : 0 ≤ n ∧ n ≤ int64Max) (hplain : Plain (("name", name) :: a.items)) :
    ∃ c, parse (["formulas", "update", showInt n] ++ optionArgs (("name", name) :: a.items)) =
      .call c ∧ Task.ofCall c = .update n name a "./data" := by
  have hlongs : (("name", name) :: a.items).map Prod.fst = "name" :: FieldArgs.longs := by
    rw [List.map_cons, a.items_longs]
  have hnodup : ((("name", name) :: a.items).map Prod.fst).Nodup := hlongs ▸ by decide +kernel
  have hdir : "data-dir" ∉ (("name", name) :: a.items).map Prod.fst := hlongs ▸ by decide +kernel
  have hread : readValue idOperand.kind (showInt n) = .ok (.number n) := by
    simp [readValue, idOperand, readInt64_showInt (n := n) ⟨by unfold int64Min; omega, hid.2⟩]
  refine ⟨⟨["formulas", "update"], givenValues (("name", name) :: a.items) ++
    [("data-dir", .text "./data")], [], some (.number n)⟩, ?_, ?_⟩
  · rw [List.cons_append, List.cons_append, List.cons_append, parse_formulas, readNode_update]
    exact Reader.parse_command rfl (by decide +kernel) (looksLikeOption_showInt hid.1) hread _
      (fun i hi => textOptions_update i.1 (hlongs ▸ List.mem_map_of_mem hi)) hnodup hplain hdir
  · simp only [Task.ofCall, Call.id, text?_givenValues hnodup List.mem_cons_self (by decide),
      fields_givenValues (fun i hi => List.mem_cons_of_mem _ hi) hnodup, dataDir_givenValues hdir]

end Tintbook.Cli
