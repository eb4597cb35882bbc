import Tintbook.Proofs.Web.Submit
import Tintbook.Proofs.Store.Catalog
import Tintbook.Proofs.Text.Integer
import Tintbook.Proofs.Formula.PayloadDecoding
/-!
# Saving the edit form unchanged

The edit page of a formula fills its form with what is stored: the id as decimal text, the
five texts as they are, and both lists of lines as JSON text. Saved unchanged, the form
sends these values back (`editPairs`), and they read as a submission (`editSubmission`)
that asks to change the formula.

The texts went through tidying on their way in, and they go through it again. Trimming
twice is trimming once, so every text but the name and the customer comes back as it was;
the name and the customer come back in the title case of what is stored. Title case is not
settled by one application: the capital of `ß` is `SS`, whose title case is `Ss`. A formula
named `ß` is stored as `SS`, and saving its edit form unchanged renames it `Ss`
(`edit_form_renames_sharp_s`).

Where title case leaves the stored name and customer as they are and where the id and the
amounts are 64-bit integers, saving the form unchanged asks for exactly what is stored
(`keepAmendment`): each text that is not empty, and both lists of lines, which read back from
their JSON text (`editSubmission_toCommand`). On a reachable database whose tables have ids
left for the lines, that change goes through and leaves the five texts and both lists of lines
as they were (`updateFormula_keeps`); only the lines' ids and the time of the last change move
(`edit_form_save_keeps`).

## What this module delivers

- `Colorant.line`, `Base.line`, `givenText`.
- `editPairs`, `editSubmission`, `keepAmendment`, `Tidied`, `FormulaDetail.Submitted`.
- `ofPairs_editPairs`, `editSubmission_toCommand`, `updateFormula_keeps`.
- `edit_form_renames_sharp_s`, `edit_form_save_keeps`, with its witness.
-/

set_option autoImplicit false

namespace Tintbook

open Store

/-! ## What the edit form sends -/

/-- A stored colorant line as a line to submit. -/
def Colorant.line (c : Colorant) : ColorantLine := ⟨c.name, c.amount⟩

/-- A stored base line as a line to submit. -/
def Base.line (b : Base) : BaseLine := ⟨b.base, b.product⟩

/-- A stored text as a field of a change: the empty text is no text given. -/
def givenText (v : String) : Option String := if v = "" then none else some v

/-- The pairs the edit form of a formula sends when it is saved unchanged, in the order of
the form: the id as decimal text, the five texts as stored, and the lines as JSON text. -/
def editPairs (d : FormulaDetail) : List (String × String) :=
  [("formula_id", showInt d.formula.id), ("formula_name", d.formula.name),
    ("formula_number", d.formula.number), ("customer_name", d.formula.customer),
    ("summary", d.formula.summary), ("notes", d.formula.notes),
    ("colorants", Payload.encodeColorants (d.colorants.map Colorant.line)),
    ("bases", Payload.encodeBases (d.bases.map Base.line))]

/-- The submission of the edit form of a formula saved unchanged. -/
def editSubmission (d : FormulaDetail) : Submission where
  formulaId := some (.text (showInt d.formula.id))
  name := some d.formula.name
  number := some d.formula.number
  customer := some d.formula.customer
  summary := some d.formula.summary
  notes := some d.formula.notes
  colorants := some (.encoded (Payload.encodeColorants (d.colorants.map Colorant.line)))
  bases := some (.encoded (Payload.encodeBases (d.bases.map Base.line)))

/-- The change that asks a formula for what it holds: each text that is not empty, and both
lists of lines, as stored. -/
def keepAmendment (d : FormulaDetail) : Amendment where
  fields := ⟨givenText d.formula.name, givenText d.formula.number,
    givenText d.formula.customer, givenText d.formula.summary, givenText d.formula.notes⟩
  colorants := some (d.colorants.map Colorant.line)
  bases := some (d.bases.map Base.line)

/-- **The pairs of the edit form read as its submission**: each field is named once. -/
theorem ofPairs_editPairs (d : FormulaDetail) :
    Submission.ofPairs (editPairs d) = .ok (editSubmission d) := by
  simp [Submission.ofPairs, editPairs, Submission.readPairs, Submission.fieldNames,
    Submission.setField, editSubmission]

/-! ## Stored texts tidied again -/

/-- A text as a successful submission leaves it: what tidying its field gave, or the empty
text where the field was not given. -/
def Tidied (tidyField : Option String → Option String) (v : String) : Prop :=
  v = "" ∨ ∃ x, tidyField (some x) = some v

/-- A formula as successful submissions leave it: its texts tidied, the name and the customer
in title case, the names of its lines trimmed and not blank, and its products trimmed. -/
structure FormulaDetail.Submitted (d : FormulaDetail) : Prop where
  name : Tidied tidyTitle d.formula.name
  number : Tidied tidy d.formula.number
  customer : Tidied tidyTitle d.formula.customer
  summary : Tidied tidy d.formula.summary
  notes : Tidied tidy d.formula.notes
  colorants : ∀ c ∈ d.colorants, ∃ x, Text.trimmed x = some c.name
  bases : ∀ b ∈ d.bases,
    (∃ x, Text.trimmed x = some b.base) ∧ ∃ x, Text.trimBlank x = b.product

-- stated by rewriting: `rfl` would have the unifier unfold `Text.trimmed` first
@[simp] theorem tidy_some (x : String) : tidy (some x) = Text.trimmed x := by
  rw [tidy, Option.bind_some]

@[simp] theorem tidyTitle_some (x : String) :
    tidyTitle (some x) = (Text.trimmed x).map Text.titleCase := by
  rw [tidyTitle, tidy_some]

theorem givenText_of_nonBlank {v : String} (h : Text.isBlankText v = false) :
    givenText v = some v := by
  obtain ⟨c, hc, -⟩ := (Text.isBlankText_eq_false_iff v).1 h
  refine if_neg ?_
  rintro rfl
  cases hc

@[simp] theorem getD_givenText (v : String) : (givenText v).getD v = v := by
  unfold givenText
  split <;> simp_all

theorem Tidied.nonBlank {tidyField : Option String → Option String} {v : String}
    (h : Tidied tidyField v) (hblank : ∀ x w, tidyField (some x) = some w →
      Text.isBlankText w = false) : v = "" ∨ Text.isBlankText v = false := by
  rcases h with rfl | ⟨x, hx⟩
  · exact .inl rfl
  · exact .inr (hblank x v hx)

theorem trimmed_nonBlank {x v : String} (h : Text.trimmed x = some v) :
    Text.isBlankText v = false :=
  (Text.isBlankText_eq_false_iff v).2 (Text.exists_nonBlank_of_trimmed h)

/-- A tidied text is tidied again to what it gives as a field. -/
theorem Tidied.retidy {v : String} (h : Tidied tidy v) : tidy (some v) = givenText v := by
  rcases h with rfl | ⟨x, hx⟩
  · simp [tidy, Text.trimmed, givenText, Text.trimBlank_empty]
  · rw [tidy_some] at hx
    rw [givenText_of_nonBlank (trimmed_nonBlank hx), tidy_some]
    exact Text.trimmed_retrim hx

/-- A tidied title that title case leaves as it is is tidied again to what it gives as a
field. -/
theorem Tidied.retidyTitle {v : String} (h : Tidied tidyTitle v)
    (hfixed : Text.titleCase v = v) : tidyTitle (some v) = givenText v := by
  rcases h with rfl | ⟨x, hx⟩
  · simp [tidyTitle, tidy, Text.trimmed, givenText, Text.trimBlank_empty]
  · rw [givenText_of_nonBlank (tidyTitle_nonBlank hx), tidyTitle_retidy hx, hfixed]

/-! ## The lines read back -/

theorem Payload.encodeColorants_nonBlank (ls : List ColorantLine) :
    Text.isBlankText (Payload.encodeColorants ls) = false :=
  (Text.isBlankText_eq_false_iff _).2
    ⟨'[', by simp [Payload.encodeColorants, Json.compact], rfl⟩

theorem Payload.encodeBases_nonBlank (ls : List BaseLine) :
    Text.isBlankText (Payload.encodeBases ls) = false :=
  (Text.isBlankText_eq_false_iff _).2
    ⟨'[', by simp [Payload.encodeBases, Json.compact], rfl⟩

/-- Colorant lines whose text reads back to them, with names trimmed, are read as given. -/
theorem PayloadField.colorants_encoded {ls : List ColorantLine}
    (hdec : Payload.decodeColorants (Payload.encodeColorants ls) = .ok ls)
    (htrim : ∀ l ∈ ls, Text.trimBlank l.name = l.name) :
    PayloadField.colorants (.encoded (Payload.encodeColorants ls)) = .ok (some ls) := by
  have htext : (PayloadField.encoded (Payload.encodeColorants ls)).text =
      some (Payload.encodeColorants ls) := by
    simp [PayloadField.text, Payload.encodeColorants_nonBlank]
  have hmap : ∀ l ∈ ls, { l with name := Text.trimBlank l.name } = l := fun l hl => by
    rw [htrim l hl]
  unfold PayloadField.colorants
  simp only [htext, hdec]
  exact congrArg (fun x => Except.ok (some x))
    ((List.map_congr_left hmap).trans (List.map_id ls))

/-- Base lines whose text reads back to them, with names and products trimmed, are read as
given. -/
theorem PayloadField.bases_encoded {ls : List BaseLine}
    (hdec : Payload.decodeBases (Payload.encodeBases ls) = .ok ls)
    (htrim : ∀ l ∈ ls,
      Text.trimBlank l.base = l.base ∧ Text.trimBlank l.product = l.product) :
    PayloadField.bases (.encoded (Payload.encodeBases ls)) = .ok (some ls) := by
  have htext : (PayloadField.encoded (Payload.encodeBases ls)).text =
      some (Payload.encodeBases ls) := by
    simp [PayloadField.text, Payload.encodeBases_nonBlank]
  have hmap : ∀ l ∈ ls,
      (⟨Text.trimBlank l.base, Text.trimBlank l.product⟩ : BaseLine) = l :=
    fun l hl => by rw [(htrim l hl).1, (htrim l hl).2]
  unfold PayloadField.bases
  simp only [htext, hdec]
  exact congrArg (fun x => Except.ok (some x))
    ((List.map_congr_left hmap).trans (List.map_id ls))

/-! ## The command the form gives -/

section Command

variable {d : FormulaDetail}

/-- **Saving the edit form unchanged asks for what the formula holds**, when title case
leaves its name and customer as they are and its id and amounts are 64-bit integers. -/
theorem editSubmission_toCommand (hd : d.Submitted)
    (hname : Text.titleCase d.formula.name = d.formula.name)
    (hcustomer : Text.titleCase d.formula.customer = d.formula.customer)
    (hid : int64Min ≤ d.formula.id ∧ d.formula.id ≤ int64Max)
    (hamounts : ∀ c ∈ d.colorants, int64Min ≤ c.amount ∧ c.amount ≤ int64Max) :
    (editSubmission d).toCommand = .ok (.update d.formula.id (keepAmendment d)) := by
  -- both lists of lines read back from their JSON text
  have hcs := Payload.decodeColorants_encodeColorants (d.colorants.map Colorant.line)
    fun l hl => by
      obtain ⟨c, hc, rfl⟩ := List.mem_map.1 hl
      exact hamounts c hc
  have hbs := Payload.decodeBases_encodeBases (d.bases.map Base.line)
  have hidOf : (editSubmission d).idOf = .ok (some d.formula.id) := by
    simp only [Submission.idOf, editSubmission, IdField.resolve]
    exact readFormulaId_showInt hid
  have hcsOf :
      (editSubmission d).colorantsOf = .ok (some (d.colorants.map Colorant.line)) := by
    simp only [Submission.colorantsOf, editSubmission]
    refine PayloadField.colorants_encoded hcs fun l hl => ?_
    obtain ⟨c, hc, rfl⟩ := List.mem_map.1 hl
    obtain ⟨x, hx⟩ := hd.colorants c hc
    rw [Colorant.line, ← Text.trimBlank_of_trimmed hx, Text.trimBlank_trimBlank]
  have hbsOf : (editSubmission d).basesOf = .ok (some (d.bases.map Base.line)) := by
    simp only [Submission.basesOf, editSubmission]
    refine PayloadField.bases_encoded hbs fun l hl => ?_
    obtain ⟨b, hb, rfl⟩ := List.mem_map.1 hl
    obtain ⟨⟨x, hx⟩, ⟨y, hy⟩⟩ := hd.bases b hb
    rw [Base.line, ← Text.trimBlank_of_trimmed hx, ← hy, Text.trimBlank_trimBlank,
      Text.trimBlank_trimBlank]
    exact ⟨rfl, rfl⟩
  -- with the id and both lists read, the last step tidies each stored text back to itself
  simp only [Submission.toCommand_steps, hidOf, hcsOf, hbsOf, bind, Except.bind]
  unfold Submission.commandOf
  simp only [editSubmission, hd.name.retidyTitle hname, hd.number.retidy,
    hd.customer.retidyTitle hcustomer, hd.summary.retidy, hd.notes.retidy]
  rfl

end Command

/-! ## The change keeps the formula -/

/-- The lines of an entry, without their ids. -/
theorem numbered_snd {β : Type} (first : Int) (bs : List β) :
    (numbered first bs).map Prod.snd = bs := by
  induction bs generalizing first with
  | nil => rfl
  | cons b bs ih => simp [numbered, ih]

theorem FormulaDetail.Submitted.lines_nonBlank {d : FormulaDetail} (hd : d.Submitted) :
    ¬ (keepAmendment d).HasBlankLine := by
  rintro (⟨ls, hls, l, hl, hblank⟩ | ⟨ls, hls, l, hl, hblank⟩)
  · cases hls
    obtain ⟨c, hc, rfl⟩ := List.mem_map.1 hl
    obtain ⟨x, hx⟩ := hd.colorants c hc
    rw [Colorant.line, trimmed_nonBlank hx] at hblank
    cases hblank
  · cases hls
    obtain ⟨b, hb, rfl⟩ := List.mem_map.1 hl
    obtain ⟨⟨x, hx⟩, -⟩ := hd.bases b hb
    rw [Base.line, trimmed_nonBlank hx] at hblank
    cases hblank

theorem FormulaDetail.Submitted.name_allowed {d : FormulaDetail} (hd : d.Submitted) :
    requiredIfSet "Formula" "formula_name" (keepAmendment d).fields.name = none := by
  rcases hd.name.nonBlank fun _ _ h => tidyTitle_nonBlank h with hempty | hfilled
  · show requiredIfSet _ _ (givenText _) = none
    rw [givenText, if_pos hempty]
    rfl
  · show requiredIfSet _ _ (givenText _) = none
    rw [givenText_of_nonBlank hfilled]
    exact required_eq_none_iff.2 hfilled

/-- **Changing a stored formula by what it holds keeps its texts and its lines**: on a
reachable database whose tables have ids left for the lines, at a clock that can be stored,
the change goes through and returns the formula with the same five texts and the same lines
in the same order. -/
theorem updateFormula_keeps {db : Database}
    (hdb : Reachable (fun c => c.typed = true) Instant.Storable db) {now : Instant}
    (hnow : now.Storable) {d : FormulaDetail}
    (hread : getFormulaDetail d.formula.id db = .ok (some d)) (hd : d.Submitted)
    (hfits : Amendment.Fits (keepAmendment d) db) :
    ∃ d' db', (updateFormula d.formula.id (keepAmendment d) now).run.run db = (.ok d', db') ∧
      d'.formula.texts = d.formula.texts ∧
      d'.colorants.map Colorant.line = d.colorants.map Colorant.line ∧
      d'.bases.map Base.line = d.bases.map Base.line := by
  obtain ⟨K, rfl, hK⟩ := (Database.good_of_reachable hdb).contents
  rw [Contents.getFormulaDetail_eq hK] at hread
  obtain ⟨f, hf, hfd⟩ := Option.map_eq_some_iff.1 (Except.ok.inj hread)
  subst hfd
  have hlines : Amendment.lineRejection (keepAmendment (K.detail f)) = none :=
    (Amendment.lineRejection_eq_none_iff _).2 hd.lines_nonBlank
  refine ⟨_, _, updateFormula_eq hK hnow hd.name_allowed hf hlines hfits, ?texts, ?colorants,
    ?bases⟩
  case texts =>
    show (Formula.revise f _ _).texts = f.texts
    simp [Formula.revise, Formula.texts, keepAmendment, Contents.detail]
  case colorants =>
    -- the lines read afterwards are the new ones, numbered on from the mark
    have hnew := Contents.amend_colorants K f (keepAmendment (K.detail f)) now f.id
    rw [if_pos rfl] at hnew
    calc _ = (((K.amend f (keepAmendment (K.detail f)) now).colorants.filter
            fun c => decide (c.formulaId = f.id)).map Colorant.entry).map Prod.snd := by
          simp only [List.map_map]
          rfl
      _ = _ := by
          rw [hnew]
          exact numbered_snd _ _
  case bases =>
    have hnew := Contents.amend_bases K f (keepAmendment (K.detail f)) now f.id
    rw [if_pos rfl] at hnew
    calc _ = (((K.amend f (keepAmendment (K.detail f)) now).bases.filter
            fun b => decide (b.formulaId = f.id)).map Base.entry).map Prod.snd := by
          simp only [List.map_map]
          rfl
      _ = _ := by
          rw [hnew]
          exact numbered_snd _ _

/-! ## Saving the edit form -/

/-- A formula named `ß` is stored as `SS`; saving its edit form unchanged asks to rename it
`Ss`, and the change does so. -/
theorem edit_form_renames_sharp_s :
    let typed : NewFormula := ⟨⟨"SS", "", "", "", ""⟩, [], []⟩
    let db := (Call.createFormula typed).apply ⟨0, 0⟩ Database.initial
    let d : FormulaDetail := ⟨⟨1, "SS", "", "", "", "", ⟨0, 0⟩, ⟨0, 0⟩⟩, [], []⟩
    let renamed : Amendment := ⟨{ name := some "Ss" }, some [], some []⟩
    ({ name := some "ß" } : Submission).toCommand.toOption = some (.create typed) ∧
      (getFormulaDetail 1 db).toOption = some (some d) ∧
      (editSubmission d).toCommand.toOption = some (.update 1 renamed) ∧
      ((updateFormula 1 renamed ⟨0, 0⟩).run.run db).1.toOption =
        some ⟨⟨1, "Ss", "", "", "", "", ⟨0, 0⟩, ⟨0, 0⟩⟩, [], []⟩ := by
  decide +kernel

/-- **Saving the edit form unchanged keeps a formula**, when title case leaves its name and
customer as they are and its id and amounts are 64-bit integers: the form's pairs read as its
submission, which asks for what the formula holds, and on a reachable database whose tables
have ids left for the lines that change goes through and leaves the five texts and both lists
of lines as they were. -/
theorem edit_form_save_keeps {db : Database}
    (hdb : Reachable (fun c => c.typed = true) Instant.Storable db) {now : Instant}
    (hnow : now.Storable) {d : FormulaDetail}
    (hread : getFormulaDetail d.formula.id db = .ok (some d)) (hd : d.Submitted)
    (hname : Text.titleCase d.formula.name = d.formula.name)
    (hcustomer : Text.titleCase d.formula.customer = d.formula.customer)
    (hid : int64Min ≤ d.formula.id ∧ d.formula.id ≤ int64Max)
    (hamounts : ∀ c ∈ d.colorants, int64Min ≤ c.amount ∧ c.amount ≤ int64Max)
    (hfits : Amendment.Fits (keepAmendment d) db) :
    Submission.ofPairs (editPairs d) = .ok (editSubmission d) ∧
      (editSubmission d).toCommand = .ok (.update d.formula.id (keepAmendment d)) ∧
      ∃ d' db', (updateFormula d.formula.id (keepAmendment d) now).run.run db = (.ok d', db') ∧
        d'.formula.texts = d.formula.texts ∧
        d'.colorants.map Colorant.line = d.colorants.map Colorant.line ∧
        d'.bases.map Base.line = d.bases.map Base.line :=
  ⟨ofPairs_editPairs d, editSubmission_toCommand hd hname hcustomer hid hamounts,
    updateFormula_keeps hdb hnow hread hd hfits⟩

theorem edit_form_save_keeps_soft_red :
    let db := (Call.createFormula ⟨⟨"Soft Red", "", "", "", ""⟩, [⟨"Titanium White", 12⟩],
      [⟨"Pastel", "Interior"⟩]⟩).apply ⟨0, 0⟩ Database.initial
    let d : FormulaDetail := ⟨⟨1, "Soft Red", "", "", "", "", ⟨0, 0⟩, ⟨0, 0⟩⟩,
      [⟨1, 1, "Titanium White", 12⟩], [⟨1, 1, "Pastel", "Interior"⟩]⟩
    Submission.ofPairs (editPairs d) = .ok (editSubmission d) ∧
      (editSubmission d).toCommand = .ok (.update d.formula.id (keepAmendment d)) ∧
      ∃ d' db', (updateFormula d.formula.id (keepAmendment d) ⟨0, 0⟩).run.run db =
          (.ok d', db') ∧
        d'.formula.texts = d.formula.texts ∧
        d'.colorants.map Colorant.line = d.colorants.map Colorant.line ∧
        d'.bases.map Base.line = d.bases.map Base.line :=
  edit_form_save_keeps (Reachable.step Reachable.initial rfl (by decide)) (by decide)
    (Except.eq_ok_of_toOption (by decide +kernel))
    ⟨.inr ⟨"Soft Red", by decide +kernel⟩, .inl rfl, .inl rfl, .inl rfl, .inl rfl,
      fun c hc => by
        rw [List.mem_singleton.1 hc]
        exact ⟨"Titanium White", by decide +kernel⟩,
      fun b hb => by
        rw [List.mem_singleton.1 hb]
        exact ⟨⟨"Pastel", by decide +kernel⟩, ⟨"Interior", by decide +kernel⟩⟩⟩
    (by decide +kernel) (by decide +kernel) (by decide)
    (fun c hc => by
      rw [List.mem_singleton.1 hc]
      decide)
    (by decide +kernel)

end Tintbook
