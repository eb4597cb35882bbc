import Tintbook.Proofs.Web.Submit
import Tintbook.Proofs.Cli.Submit
import Tintbook.Proofs.Json.Equality
/-!
# One formula through three front ends

A formula can be submitted three ways: as a JSON body posted to `/formula/add`, as a form
posted there, and on the command line with `formulas create` or `formulas update`. Given the
same entries, an optional id and optional texts for the name, the fields and the lines, the
three give the same command and run it alike: the two web answers are the same, the command
line succeeds exactly when the web answers 200, and the database of the data directory ends
as the web leaves its database (`front_ends_agree`).

Each front end is brought back to the command it gives. A form whose fields are each named
once gives the submission of their values (`Submission.ofPairs_distinct`); its id is text,
which reads to the same number a JSON number gives (`readFormulaId_showInt`). A command line
is read back to the fields it writes as options (`Cli.parse_create`, `Cli.parse_update`), and
the name it gives as the operand of `formulas create` is text where the web may leave the name
out, but blank text and no text are tidied alike.

The command line needs one condition that the web does not: no value may look like an
option. An argument that starts with a dash and is more than a dash is always taken for an
option, so notes such as `-matte`, a name such as `-x` or a negative id never reach their
field on the command line, while the web takes them (`command_line_refuses_dashed_notes`).

## What this module delivers

- `postForm`, `readSubmission_json`, `readSubmission_form`, `submit_congr`.
- `Submission.toCommand_congr`: submissions that agree up to tidying give one command.
- `Submission.setPairs`, `Submission.ofPairs_distinct`: forms with each field named once.
- `formPairs`, `commandLine`, `ofPairs_formPairs`, `commandLine_submission`: the entries as
  a form and as a command line.
- `front_ends_agree`, with its witness, and `command_line_refuses_dashed_notes`.
-/

set_option autoImplicit false

namespace Tintbook

open Store

/-! ## Posting to the form's address -/

/-- A request that posts a body of a content type to the address of the formula form. -/
def postForm (contentType body : String) : Request :=
  { method := "POST", target := "/formula/add", contentType := some contentType, body := body }

theorem respond_postForm (contentType body : String) (now : Instant) (db : Database) :
    respond (postForm contentType body) now db = submit (postForm contentType body) now db :=
  respond_submit rfl
    (by simp +decide [postForm, Request.path, Route.ofPath?, String.splitOn, String.splitOnAux])

theorem contentText_postForm (contentType body : String)
    (h : contentType.toList.all (fun c => c == '\t' || (' ' ≤ c && c ≤ '~')) = true) :
    (postForm contentType body).contentText = some contentType := by
  simp only [Request.contentText, postForm, Option.bind_some, h, if_true]

theorem tooLarge_postForm (contentType body : String) :
    (postForm contentType body).tooLarge = decide (bodyLimit < body.utf8ByteSize) := rfl

/-- A JSON body within the limit, posted with the JSON content type, is read as the JSON
reader reads it. -/
theorem readSubmission_json {body : String} {s : Submission}
    (hsize : body.utf8ByteSize ≤ bodyLimit) (h : Submission.readJson body = .ok s) :
    readSubmission (postForm "application/json" body) = .ok s := by
  obtain ⟨j, hj, rfl⟩ : ∃ j, Submission.shape.read body = .ok j ∧ Submission.ofJson j = s := by
    unfold Submission.readJson at h
    cases hj : Submission.shape.read body with
    | error r => simp [hj, Except.map] at h
    | ok j => exact ⟨j, rfl, by simpa [hj, Except.map] using h⟩
  unfold readSubmission
  simp only [contentText_postForm "application/json" body (by decide +kernel)]
  rw [if_pos (by decide +kernel), if_pos (by decide +kernel), tooLarge_postForm,
    if_neg (by simpa using hsize)]
  simp only [postForm, hj]

/-- A form body within the limit, posted with the form content type, is read as its pairs
give. -/
theorem readSubmission_form {body : String} {s : Submission}
    (hsize : body.utf8ByteSize ≤ bodyLimit) (h : Submission.ofPairs (Url.formPairs body) = .ok s) :
    readSubmission (postForm "application/x-www-form-urlencoded" body) = .ok s := by
  unfold readSubmission
  simp only [contentText_postForm "application/x-www-form-urlencoded" body (by decide +kernel)]
  rw [if_neg (by decide +kernel), if_pos (by decide +kernel), tooLarge_postForm,
    if_neg (by simpa using hsize)]
  simp only [postForm, h]

/-- A body longer than the limit, posted as JSON or as a form, is refused unread. -/
theorem readSubmission_tooLarge {contentType body : String}
    (htype : contentType = "application/json" ∨ contentType = "application/x-www-form-urlencoded")
    (hsize : bodyLimit < body.utf8ByteSize) :
    readSubmission (postForm contentType body) = .error bodyTooLarge := by
  have hlarge : (postForm contentType body).tooLarge = true := by
    simpa [tooLarge_postForm] using hsize
  unfold readSubmission
  rcases htype with rfl | rfl
  · simp only [contentText_postForm "application/json" body (by decide +kernel)]
    rw [if_pos (by decide +kernel), if_pos (by decide +kernel), if_pos hlarge]
  · simp only [contentText_postForm "application/x-www-form-urlencoded" body (by decide +kernel)]
    rw [if_neg (by decide +kernel), if_pos (by decide +kernel), if_pos hlarge]

/-- Requests whose submissions give the same command are answered alike and leave the same
database. -/
theorem submit_congr {req req' : Request} {s s' : Submission} (h : readSubmission req = .ok s)
    (h' : readSubmission req' = .ok s') (hc : s.toCommand = s'.toCommand) (now : Instant)
    (db : Database) : submit req now db = submit req' now db := by
  simp only [submit, h, h', hc]

/-! ## Submissions that give one command -/

/-- **Submissions whose ids read alike, whose names tidy alike and whose other fields are the
same give the same command.** -/
theorem Submission.toCommand_congr {s t : Submission} (hid : s.idOf = t.idOf)
    (hname : tidyTitle s.name = tidyTitle t.name) (hnumber : s.number = t.number)
    (hcustomer : s.customer = t.customer) (hsummary : s.summary = t.summary)
    (hnotes : s.notes = t.notes) (hcolorants : s.colorants = t.colorants)
    (hbases : s.bases = t.bases) : s.toCommand = t.toCommand := by
  have hcmd : s.commandOf = t.commandOf := by
    funext id cs bs
    simp only [Submission.commandOf, hname, hnumber, hcustomer, hsummary, hnotes]
  have hcs : s.colorantsOf = t.colorantsOf := by simp only [Submission.colorantsOf, hcolorants]
  have hbs : s.basesOf = t.basesOf := by simp only [Submission.basesOf, hbases]
  rw [Submission.toCommand_steps, Submission.toCommand_steps, hid, hcs, hbs, hcmd]

/-- An id given as the decimal text of a number. -/
def IdField.decimal (n : Int) : IdField := .text (showInt n)

/-- An id of the 64-bit range reads alike as a number and as its decimal text. -/
theorem idOf_decimal {s : Submission} {id : Option Int} (hs : s.formulaId = id.map .number)
    (hid : ∀ n ∈ id, int64Min ≤ n ∧ n ≤ int64Max) :
    ({ s with formulaId := id.map IdField.decimal } : Submission).idOf = s.idOf := by
  cases id with
  | none => simp [Submission.idOf, hs]
  | some n =>
    simp [Submission.idOf, hs, IdField.resolve, IdField.decimal, readFormulaId_showInt (hid n rfl)]

/-- The entries' submission with its id as decimal text gives the same command. -/
theorem toCommand_decimal {id : Option Int} {name : Option String} {a : Cli.FieldArgs}
    (hid : ∀ n ∈ id, int64Min ≤ n ∧ n ≤ int64Max) :
    ({ a.submission id name with formulaId := id.map IdField.decimal } : Submission).toCommand =
      (a.submission id name).toCommand :=
  Submission.toCommand_congr (idOf_decimal rfl hid) rfl rfl rfl rfl rfl rfl rfl

/-- A name left out and a blank name are tidied alike. -/
theorem tidyTitle_getD (name : Option String) : tidyTitle (some (name.getD "")) = tidyTitle name := by
  cases name with
  | none => simp [tidyTitle, tidy, Text.trimmed, Text.trimBlank_empty]
  | some v => rfl

/-! ## Forms with each field named once -/

/-- The value pairs give a name: the first pair's with that name. -/
def valueOf (pairs : List (String × String)) (k : String) : Option String :=
  (pairs.find? (·.1 == k)).map Prod.snd

/-- A submission with the fields that pairs name set to their values, the others as they
were. -/
def Submission.setPairs (s : Submission) (pairs : List (String × String)) : Submission where
  formulaId := ((valueOf pairs "formula_id").map .text).or s.formulaId
  name := (valueOf pairs "formula_name").or s.name
  number := (valueOf pairs "formula_number").or s.number
  customer := (valueOf pairs "customer_name").or s.customer
  summary := (valueOf pairs "summary").or s.summary
  notes := (valueOf pairs "notes").or s.notes
  colorants := ((valueOf pairs "colorants").map .encoded).or s.colorants
  bases := ((valueOf pairs "bases").map .encoded).or s.bases

theorem valueOf_cons (k v : String) (rest : List (String × String)) (name : String) :
    valueOf ((k, v) :: rest) name = if k = name then some v else valueOf rest name := by
  by_cases h : k = name <;> simp [valueOf, h]

theorem valueOf_of_not_mem {pairs : List (String × String)} {k : String}
    (h : k ∉ pairs.map Prod.fst) : valueOf pairs k = none := by
  simp only [valueOf, Option.map_eq_none_iff, List.find?_eq_none]
  intro p hp heq
  exact h (beq_iff_eq.1 heq ▸ List.mem_map_of_mem hp)

/-- Setting a field that the later pairs do not name, and then those pairs, sets all of
them. -/
theorem Submission.setPairs_setField (s : Submission) {k : String} (v : String)
    {rest : List (String × String)} (hk : k ∈ Submission.fieldNames)
    (hfresh : k ∉ rest.map Prod.fst) :
    (s.setField k v).setPairs rest = s.setPairs ((k, v) :: rest) := by
  have hnone := valueOf_of_not_mem hfresh
  simp only [Submission.fieldNames, List.mem_cons, List.not_mem_nil, or_false] at hk
  rcases hk with rfl | rfl | rfl | rfl | rfl | rfl | rfl | rfl <;>
    simp [Submission.setField, Submission.setPairs, valueOf_cons, hnone]

/-- **Pairs that name fields, each once, are read as the submission of their values.** -/
theorem Submission.readPairs_distinct (s : Submission) (seen : List String)
    (pairs : List (String × String)) (hfields : ∀ p ∈ pairs, p.1 ∈ Submission.fieldNames)
    (hnodup : (pairs.map Prod.fst).Nodup) (hfresh : ∀ p ∈ pairs, p.1 ∉ seen) :
    s.readPairs seen pairs = .ok (s.setPairs pairs) := by
  -- induction on the pairs, the submission and the names seen moving along
  induction pairs generalizing s seen with
  | nil => rfl
  | cons p rest ih =>
    obtain ⟨k, v⟩ := p
    obtain ⟨hk, hrest⟩ := List.nodup_cons.1 hnodup
    have hfield : k ∈ Submission.fieldNames := hfields _ List.mem_cons_self
    have hnew : k ∉ seen := hfresh _ List.mem_cons_self
    have hseen : ∀ q ∈ rest, q.1 ∉ k :: seen := fun q hq hmem => by
      rcases List.mem_cons.1 hmem with heq | hmem
      · have hname := List.mem_map_of_mem (f := Prod.fst) hq
        rw [heq] at hname
        exact hk hname
      · exact hfresh q (List.mem_cons_of_mem _ hq) hmem
    rw [Submission.readPairs, if_pos (List.elem_iff.2 hfield), if_neg (by simpa using hnew),
      ih _ _ (fun q hq => hfields q (List.mem_cons_of_mem _ hq)) hrest hseen,
      Submission.setPairs_setField s v hfield hk]

theorem Submission.ofPairs_distinct {pairs : List (String × String)}
    (hfields : ∀ p ∈ pairs, p.1 ∈ Submission.fieldNames) (hnodup : (pairs.map Prod.fst).Nodup) :
    Submission.ofPairs pairs = .ok (({} : Submission).setPairs pairs) :=
  Submission.readPairs_distinct {} [] pairs hfields hnodup (fun _ _ h => by cases h)

/-! ## The entries as a form and as a command line -/

/-- The fields of a form for the entries, by name: the id as its decimal text. -/
def formItems (id : Option Int) (name : Option String) (a : Cli.FieldArgs) :
    List (String × Option String) :=
  [("formula_id", id.map showInt), ("formula_name", name), ("formula_number", a.number),
    ("customer_name", a.customer), ("summary", a.summary), ("notes", a.notes),
    ("colorants", a.colorants), ("bases", a.bases)]

/-- The pairs a form sends for the entries: each field given, by name, in order. -/
def formPairs (id : Option Int) (name : Option String) (a : Cli.FieldArgs) :
    List (String × String) :=
  Cli.givenPairs (formItems id name a)

/-- The command line for the entries: `formulas create NAME` when no id is given, else
`formulas update ID` with the name as an option; the fields follow as options. -/
def commandLine (id : Option Int) (name : Option String) (a : Cli.FieldArgs) : List String :=
  match id with
  | none => ["formulas", "create", name.getD ""] ++ Cli.optionArgs a.items
  | some n => ["formulas", "update", showInt n] ++ Cli.optionArgs (("name", name) :: a.items)

theorem formItems_names (id : Option Int) (name : Option String) (a : Cli.FieldArgs) :
    (formItems id name a).map Prod.fst = Submission.fieldNames := rfl

theorem valueOf_givenPairs {items : List (String × Option String)}
    (hnodup : (items.map Prod.fst).Nodup) (k : String) :
    valueOf (Cli.givenPairs items) k = (items.find? (·.1 == k)).bind Prod.snd := by
  cases hfind : items.find? (·.1 == k) with
  | none =>
    refine valueOf_of_not_mem fun hmem => ?_
    obtain ⟨p, hp, rfl⟩ := List.mem_map.1 hmem
    obtain ⟨i, hi, hik⟩ := List.mem_map.1 (Cli.fst_mem_of_mem_givenPairs hp)
    exact List.find?_eq_none.1 hfind i hi (by simp [hik])
  | some i =>
    obtain ⟨k', o⟩ := i
    have hk : k' = k := by simpa using List.find?_some hfind
    subst hk
    simp [valueOf, Cli.find?_givenPairs hnodup (List.mem_of_find?_eq_some hfind)]

/-- **A form of the entries is read as their submission, with the id as text.** -/
theorem ofPairs_formPairs (id : Option Int) (name : Option String) (a : Cli.FieldArgs) :
    Submission.ofPairs (formPairs id name a) =
      .ok { a.submission id name with formulaId := id.map IdField.decimal } := by
  have hnodup : ((formItems id name a).map Prod.fst).Nodup := by
    rw [formItems_names]
    decide +kernel
  rw [formPairs, Submission.ofPairs_distinct (fun p hp => formItems_names id name a ▸
    Cli.fst_mem_of_mem_givenPairs hp) (Cli.nodup_givenPairs hnodup)]
  simp only [Submission.setPairs, valueOf_givenPairs hnodup]
  simp [formItems, Cli.FieldArgs.submission, Option.map_map, Function.comp_def,
    show IdField.decimal = fun n => .text (showInt n) from rfl]

/-- **The command line of the entries, when no value looks like an option, submits them to
the command their own submission gives.** -/
theorem commandLine_submission {id : Option Int} {name : Option String} {a : Cli.FieldArgs}
    (hid : ∀ n ∈ id, 0 ≤ n ∧ n ≤ int64Max) (hplain : Cli.Plain (("name", name) :: a.items)) :
    ∃ c s, Cli.parse (commandLine id name a) = .call c ∧
      (Cli.Task.ofCall c).submission? = some ("./data", s) ∧
      s.toCommand = (a.submission id name).toCommand := by
  cases id with
  | none =>
    have hname : Cli.looksLikeOption (name.getD "") = false := by
      cases name with
      | none => decide +kernel
      | some v => exact hplain _ List.mem_cons_self v rfl
    obtain ⟨c, hparse, htask⟩ :=
      Cli.parse_create hname fun i hi => hplain i (List.mem_cons_of_mem _ hi)
    -- the operand gives a name even when none was entered: blank text, which tidies alike
    exact ⟨c, a.submission none (some (name.getD "")), hparse, by rw [htask]; rfl,
      Submission.toCommand_congr rfl (tidyTitle_getD name) rfl rfl rfl rfl rfl rfl⟩
  | some n =>
    obtain ⟨c, hparse, htask⟩ := Cli.parse_update (hid n rfl) hplain
    exact ⟨c, _, hparse, by rw [htask]; rfl, rfl⟩

/-- A JSON body that reads to the entries' submission, its id a number or the number's
decimal text, gives the entries' command. -/
theorem json_command {id : Option Int} {name : Option String} {a : Cli.FieldArgs} {body : String}
    (hid : ∀ n ∈ id, int64Min ≤ n ∧ n ≤ int64Max) (hsize : body.utf8ByteSize ≤ bodyLimit)
    (hjson : Submission.readJson body = .ok (a.submission id name) ∨
      Submission.readJson body = .ok { a.submission id name with formulaId := id.map IdField.decimal }) :
    ∃ s, readSubmission (postForm "application/json" body) = .ok s ∧
      s.toCommand = (a.submission id name).toCommand := by
  rcases hjson with h | h
  · exact ⟨_, readSubmission_json hsize h, rfl⟩
  · exact ⟨_, readSubmission_json hsize h, toCommand_decimal hid⟩

/-! ## Three front ends, one change -/

/-- **The three front ends agree.** Take entries whose id, if any, is not negative and none
of whose values looks like an option. Posted as a JSON body, with the id as a number or as
its decimal text, posted as a form, or given on the command line, they make the same change:
the two web answers are the same, the command line ends with status 0 exactly when the web
answers 200, and the database of the default data directory ends as the web leaves the
database. The bodies are assumed to carry the entries: the JSON body reads to their
submission and the form body decodes to their pairs; and both are within the server's limit,
which a form body, three bytes for each escaped byte, passes sooner than the JSON body of the
same entries (`readSubmission_tooLarge`). -/
theorem front_ends_agree {id : Option Int} {name : Option String} {a : Cli.FieldArgs}
    {jsonBody formBody : String} {now : Instant} {db : Database} {w : Cli.Workspace}
    (hid : ∀ n ∈ id, 0 ≤ n ∧ n ≤ int64Max) (hplain : Cli.Plain (("name", name) :: a.items))
    (hjson : Submission.readJson jsonBody = .ok (a.submission id name) ∨
      Submission.readJson jsonBody =
        .ok { a.submission id name with formulaId := id.map IdField.decimal })
    (hform : Url.formPairs formBody = formPairs id name a)
    (hjsonSize : jsonBody.utf8ByteSize ≤ bodyLimit) (hformSize : formBody.utf8ByteSize ≤ bodyLimit)
    (hschema : db.hasSchema = true) (hdb : w.find? (Cli.dbPathIn "./data") = some db) :
    respond (postForm "application/x-www-form-urlencoded" formBody) now db =
        respond (postForm "application/json" jsonBody) now db ∧
      ((Cli.run (commandLine id name a) now w).1.code = 0 ↔
        (respond (postForm "application/json" jsonBody) now db).1.status = 200) ∧
      (Cli.run (commandLine id name a) now w).2.find? (Cli.dbPathIn "./data") =
        some (respond (postForm "application/json" jsonBody) now db).2 := by
  have hrange : ∀ n ∈ id, int64Min ≤ n ∧ n ≤ int64Max := fun n hn => by
    have := hid n hn
    unfold int64Min
    omega
  -- the command each front end gives
  obtain ⟨sj, hsj, hcj⟩ := json_command hrange hjsonSize hjson
  have hsf := readSubmission_form hformSize (hform ▸ ofPairs_formPairs id name a)
  obtain ⟨c, sc, hparse, ht, hcc⟩ := commandLine_submission hid hplain
  refine ⟨?_, ?_⟩
  · rw [respond_postForm, respond_postForm]
    exact submit_congr hsf hsj ((toCommand_decimal hrange).trans hcj.symm) now db
  rw [respond_postForm]
  -- the outcome, as the command and its workflow give it
  rcases hcmd : (a.submission id name).toCommand with f | cmd
  · -- no command: refused on both sides
    rw [submit_refused hsj (hcj.trans hcmd),
      Cli.run_failed hparse ht hdb hschema (.inl (hcc.trans hcmd))]
    exact ⟨by simp [HttpError.json, Response.json], hdb⟩
  rcases hw : (cmd.workflow now).run.run db with ⟨f | d, db'⟩
  · -- the workflow fails: nothing changes on either side
    rw [submit_failed hsj (hcj.trans hcmd) hw,
      Cli.run_failed hparse ht hdb hschema (.inr ⟨cmd, db', hcc.trans hcmd, hw⟩)]
    refine ⟨?_, hdb⟩
    have hstatus := ofFailure_status cmd.fallback f
    simp only [HttpError.json, Response.json]
    omega
  · -- the workflow goes through: both sides keep the database it leaves
    obtain ⟨hcode, hws⟩ := Cli.run_committed hparse ht hdb hschema (hcc.trans hcmd) hw
    rw [submit_committed hsj (hcj.trans hcmd) hw, hws, Cli.Workspace.find?_put, hcode]
    exact ⟨by simp [accepted, Response.json], rfl⟩

/-- The entries of a formula named Soft Red with the notes matte, submitted to the initial
database through the three front ends. -/
theorem front_ends_agree_matte_notes :
    respond (postForm "application/x-www-form-urlencoded" "formula_name=Soft+Red&notes=matte")
        ⟨0, 0⟩ Database.initial =
      respond (postForm "application/json"
        "\x7b\"formula_name\":\"Soft Red\",\"notes\":\"matte\"\x7d") ⟨0, 0⟩ Database.initial ∧
    ((Cli.run (commandLine none (some "Soft Red") ⟨none, none, none, some "matte", none, none⟩)
        ⟨0, 0⟩ (({} : Cli.Workspace).put (Cli.dbPathIn "./data") Database.initial)).1.code = 0 ↔
      (respond (postForm "application/json"
        "\x7b\"formula_name\":\"Soft Red\",\"notes\":\"matte\"\x7d") ⟨0, 0⟩
          Database.initial).1.status = 200) ∧
    (Cli.run (commandLine none (some "Soft Red") ⟨none, none, none, some "matte", none, none⟩)
        ⟨0, 0⟩ (({} : Cli.Workspace).put (Cli.dbPathIn "./data") Database.initial)).2.find?
          (Cli.dbPathIn "./data") =
      some (respond (postForm "application/json"
        "\x7b\"formula_name\":\"Soft Red\",\"notes\":\"matte\"\x7d") ⟨0, 0⟩
          Database.initial).2 :=
  front_ends_agree (fun _ h => by cases h) (by unfold Cli.Plain; decide +kernel)
    (.inl (Except.eq_ok_of_toOption (by decide +kernel))) (by decide +kernel) (by decide +kernel)
    (by decide +kernel) (by decide +kernel) (Cli.Workspace.find?_put _ _ _)

/-- **Notes that start with a dash split the front ends.** A form takes them, and its
submission gives the creation of the formula with those notes; the command line, on a data
directory that is ready, takes them for an option, refuses the line with status 2 and leaves
the workspace as it was. -/
theorem command_line_refuses_dashed_notes :
    ((readSubmission (postForm "application/x-www-form-urlencoded"
        "formula_name=Soft+Red&notes=-matte")).toOption.bind fun s => s.toCommand.toOption) =
      some (.create ⟨⟨"Soft Red", "", "", "", "-matte"⟩, [], []⟩) ∧
    Cli.run (commandLine none (some "Soft Red") ⟨none, none, none, some "-matte", none, none⟩)
        ⟨0, 0⟩ (({} : Cli.Workspace).put (Cli.dbPathIn "./data") Database.initial) =
      (⟨2, "", "error: unexpected argument \x27-m\x27 found\n\n  tip: to pass \x27-m\x27 as a " ++
        "value, use \x27-- -m\x27\n\nUsage: basecoat formulas create [OPTIONS] <NAME>\n\n" ++
        "For more information, try \x27--help\x27.\n"⟩,
        ({} : Cli.Workspace).put (Cli.dbPathIn "./data") Database.initial) := by
  refine ⟨by decide +kernel, ?_⟩
  have hparse : Cli.parse (commandLine none (some "Soft Red")
      ⟨none, none, none, some "-matte", none, none⟩) =
      .refused ("error: unexpected argument \x27-m\x27 found\n\n  tip: to pass \x27-m\x27 as a " ++
        "value, use \x27-- -m\x27\n\nUsage: basecoat formulas create [OPTIONS] <NAME>\n\n" ++
        "For more information, try \x27--help\x27.\n") := by
    decide +kernel
  unfold Cli.run
  rw [hparse]

end Tintbook
