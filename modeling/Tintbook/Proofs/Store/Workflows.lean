import Tintbook.Proofs.Store.Effects
/-!
# The workflows on good contents

Each workflow runs several writes inside one transaction. On the database of good contents
this module computes each workflow's whole outcome as an operation on the contents.

Creating a formula checks its name, stores it with the next id, and stores its colorant and
base lines in order under it; the first line whose name is blank fails the whole creation,
and the transaction puts back the database it started from. So creating either fails with
the first rule the new formula breaks (`NewFormula.rejection`) and changes nothing, or
stores exactly the formula and its lines and returns them (`createFormula_eq`,
`createFormula_error`).

Changing a formula checks the new name, finds the formula, rewrites the fields given and its
time of last change, and replaces each list of lines that is given: the old lines go and the
new ones are stored in order under the formula (`updateFormula_eq`); it fails with the
name's rule, with the formula not found, or with the first blank line, in that order
(`updateFormula_error_name`, `updateFormula_error_missing`, `updateFormula_error_lines`).

Removing a formula removes its lines and the formula, and never fails (`deleteFormula_eq`).

## What this module delivers

- The operations on contents: `Contents.addFormula`, `addColorants`, `addBases`,
  `reviseFormula`, `dropColorants`, `dropBases`, `dropFormula`, `create`, `amend`, and
  `Contents.detail`.
- The reads: `Contents.loadDetail_eq`, `Contents.getFormula_eq`,
  `Contents.getFormulaDetail_eq`.
- `NewFormula.rejection`, `createFormula_eq`, `createFormula_error`.
- `Amendment.rejection`, `updateFormula_eq` and its three failures.
- `deleteFormula_eq`.
-/

set_option autoImplicit false

namespace Tintbook.Store

/-! ## Operations on contents -/

namespace Contents

variable (K : Contents)

/-- The formula a draft becomes when it is stored next. -/
def nextFormula (d : Draft) (now : Instant) : Formula :=
  Draft.toFormula d (K.lastFormula + 1) now

/-- The contents with a draft stored as the next formula. -/
def addFormula (d : Draft) (now : Instant) : Contents :=
  { K with formulas := K.formulas ++ [K.nextFormula d now], lastFormula := K.lastFormula + 1 }

/-- The contents with colorant lines stored in order under a formula, with the next ids. -/
def addColorants (fid : Int) (lines : List ColorantLine) (now : Instant) : Contents :=
  { K with
    colorants := K.colorants ++
      Stored.madeFrom now (lines.map fun l => (⟨fid, l⟩ : ColorantDraft)) (K.lastColorant + 1)
    lastColorant := K.lastColorant + lines.length }

/-- The contents with base lines stored in order under a formula, with the next ids. -/
def addBases (fid : Int) (lines : List BaseLine) (now : Instant) : Contents :=
  { K with
    bases := K.bases ++
      Stored.madeFrom now (lines.map fun l => (⟨fid, l⟩ : BaseDraft)) (K.lastBase + 1)
    lastBase := K.lastBase + lines.length }

/-- The contents with a formula revised. -/
def reviseFormula (cur : Formula) (p : Revision) (now : Instant) : Contents :=
  { K with formulas := K.formulas.map fun f =>
      if f.id = cur.id then Stored.revised f p now else f }

/-- The contents without the colorant lines of a formula. -/
def dropColorants (fid : Int) : Contents :=
  { K with colorants := K.colorants.filter fun c => !decide (c.formulaId = fid) }

/-- The contents without the base lines of a formula. -/
def dropBases (fid : Int) : Contents :=
  { K with bases := K.bases.filter fun b => !decide (b.formulaId = fid) }

/-- The contents without the formulas of an id. -/
def dropFormula (id : Int) : Contents :=
  { K with formulas := K.formulas.filter fun f => !decide (f.id = id) }

/-- The contents after a new formula is created with its lines. -/
def create (nf : NewFormula) (now : Instant) : Contents :=
  let f := K.nextFormula nf.draft now
  ((K.addFormula nf.draft now).addColorants f.id nf.colorants now).addBases f.id nf.bases now

/-- The contents with the colorant lines of a formula replaced, when new ones are given. -/
def replaceColorants (fid : Int) : Option (List ColorantLine) → Instant → Contents
  | none, _ => K
  | some lines, now => (K.dropColorants fid).addColorants fid lines now

/-- The contents with the base lines of a formula replaced, when new ones are given. -/
def replaceBases (fid : Int) : Option (List BaseLine) → Instant → Contents
  | none, _ => K
  | some lines, now => (K.dropBases fid).addBases fid lines now

/-- The contents after a formula is changed by an amendment. -/
def amend (cur : Formula) (a : Amendment) (now : Instant) : Contents :=
  ((K.reviseFormula cur a.fields now).replaceColorants cur.id a.colorants now).replaceBases
    cur.id a.bases now

/-- A formula with its lines in the contents. -/
def detail (f : Formula) : FormulaDetail :=
  ⟨f, K.colorants.filter (fun c => decide (c.formulaId = f.id)),
    K.bases.filter (fun b => decide (b.formulaId = f.id))⟩

end Contents

/-! ## Reads -/

namespace Contents

variable (K : Contents)

theorem loadDetail_eq (f : Formula) : loadDetail f K.db = .ok (K.detail f) := by
  unfold loadDetail Contents.db
  rw [Record.readMatching_eq K.colorant_rows (fun _ _ => trivial),
    Record.readMatching_eq K.base_rows (fun _ _ => trivial)]
  simp only [Colorant.matches_formulaId, Base.matches_formulaId]
  rfl

variable {K}

theorem getFormula_eq (hK : K.Good) (id : Int) :
    getFormula id K.db = .ok (K.formulas.find? fun f => decide (f.id = id)) := by
  unfold getFormula Contents.db
  rw [Record.readOne_eq K.formula_rows hK.sound]
  simp only [Formula.matches_id]

theorem getFormulaDetail_eq (hK : K.Good) (id : Int) :
    getFormulaDetail id K.db = .ok ((K.formulas.find? fun f => decide (f.id = id)).map K.detail) := by
  unfold getFormulaDetail
  simp only [getFormula_eq hK, bind, Except.bind]
  cases K.formulas.find? fun f => decide (f.id = id) with
  | none => rfl
  | some f =>
    simp only [loadDetail_eq]
    rfl

end Contents

/-! ## The steps of the workflows -/

/-- A colorant line checks only its name. -/
theorem Colorant.check_draft (fid : Int) (l : ColorantLine) :
    Record.check (α := Colorant) (⟨fid, l⟩ : ColorantDraft) =
      required "Colorant" "colorant_name" l.name := rfl

/-- A base line checks only its name. -/
theorem Base.check_draft (fid : Int) (l : BaseLine) :
    Record.check (α := Base) (⟨fid, l⟩ : BaseDraft) = required "Base" "base_name" l.base := rfl

namespace Contents

variable {K : Contents} {now : Instant}

/-- Storing a draft whose name is not blank, while ids are left, stores the next formula. -/
theorem createFormula_step (hK : K.Good) (hnow : now.Storable) (hroom : K.lastFormula < int64Max)
    {d : Draft} (hname : required "Formula" "formula_name" d.name = none) :
    (Record.create Formula d now).run.run K.db = (.ok (K.nextFormula d now), (K.addFormula d now).db) :=
  @Record.create_eq Formula _ _ K.tables K.formulas K.formula_rows hK.sound hK.formulas_below hroom d
    now hname (Formula.violation_cells _ _ _) hnow

/-- Storing a draft whose name is not blank when no id is left fails, and writes nothing. -/
theorem createFormula_full_step (hfull : int64Max ≤ K.lastFormula) {d : Draft}
    (hname : required "Formula" "formula_name" d.name = none) :
    (Record.create Formula d now).run.run K.db = (.error (.storage .full), K.db) :=
  @Record.create_full Formula _ K.tables d now hname hfull

/-- A formula of the contents is a formula of its tables. -/
theorem formula_row_of_mem {fid : Int} (hfid : ∃ f ∈ K.formulas, f.id = fid) :
    ∃ r ∈ K.tables.formulas.rows, r.id = fid := by
  obtain ⟨f, hf, rfl⟩ := hfid
  exact ⟨Formula.row f, List.mem_map_of_mem hf, rfl⟩

/-- Storing colorant lines none of whose names is blank under a formula that exists stores them
in order with the next ids. -/
theorem insertColorants_step (hbelow : ∀ c ∈ K.colorants, c.id ≤ K.lastColorant)
    (hnow : now.Storable) {fid : Int} (hfid : ∃ f ∈ K.formulas, f.id = fid)
    {lines : List ColorantLine} (hroom : (K.tables.get .colorants).HasRoom lines.length)
    (hlines : lines.findSome? (fun l => required "Colorant" "colorant_name" l.name) = none) :
    (insertColorants fid lines now).run.run K.db =
      (.ok ⟨⟩, (K.addColorants fid lines now).db) :=
  @Record.createAll_eq Colorant _ _ _ (fun l => (⟨fid, l⟩ : ColorantDraft)) now hnow (by decide) lines K.tables
    K.colorants K.colorant_rows (fun _ _ => trivial) hbelow hroom
    (List.findSome?_eq_none_iff.1 hlines)
    (fun _ _ => Colorant.violation_cells _ _ (formula_row_of_mem hfid))

theorem insertBases_step (hbelow : ∀ b ∈ K.bases, b.id ≤ K.lastBase)
    (hnow : now.Storable) {fid : Int} (hfid : ∃ f ∈ K.formulas, f.id = fid)
    {lines : List BaseLine} (hroom : (K.tables.get .bases).HasRoom lines.length)
    (hlines : lines.findSome? (fun l => required "Base" "base_name" l.base) = none) :
    (insertBases fid lines now).run.run K.db = (.ok ⟨⟩, (K.addBases fid lines now).db) :=
  @Record.createAll_eq Base _ _ _ (fun l => (⟨fid, l⟩ : BaseDraft)) now hnow (by decide) lines K.tables
    K.bases K.base_rows (fun _ _ => trivial) hbelow hroom (List.findSome?_eq_none_iff.1 hlines)
    (fun _ _ => Base.violation_cells _ _ (formula_row_of_mem hfid))

/-- Storing colorant lines under a formula that exists fails with the first blank name. -/
theorem insertColorants_error (hbelow : ∀ c ∈ K.colorants, c.id ≤ K.lastColorant)
    (hnow : now.Storable) {fid : Int} (hfid : ∃ f ∈ K.formulas, f.id = fid)
    {lines : List ColorantLine} (hroom : (K.tables.get .colorants).HasRoom lines.length)
    {r : Rejection}
    (hlines : lines.findSome? (fun l => required "Colorant" "colorant_name" l.name) = some r) :
    ∃ s, (insertColorants fid lines now).run.run K.db = (.error (.invalid r), s) :=
  @Record.createAll_error Colorant _ _ _ (fun l => (⟨fid, l⟩ : ColorantDraft)) now hnow (by decide) lines K.tables
    K.colorants K.colorant_rows (fun _ _ => trivial) hbelow hroom
    (fun _ _ => Colorant.violation_cells _ _ (formula_row_of_mem hfid)) r
    (by simpa only [List.findSome?_map, Function.comp_def, Colorant.check_draft] using hlines)

theorem insertBases_error (hbelow : ∀ b ∈ K.bases, b.id ≤ K.lastBase)
    (hnow : now.Storable) {fid : Int} (hfid : ∃ f ∈ K.formulas, f.id = fid)
    {lines : List BaseLine} (hroom : (K.tables.get .bases).HasRoom lines.length) {r : Rejection}
    (hlines : lines.findSome? (fun l => required "Base" "base_name" l.base) = some r) :
    ∃ s, (insertBases fid lines now).run.run K.db = (.error (.invalid r), s) :=
  @Record.createAll_error Base _ _ _ (fun l => (⟨fid, l⟩ : BaseDraft)) now hnow (by decide) lines K.tables
    K.bases K.base_rows (fun _ _ => trivial) hbelow hroom
    (fun _ _ => Base.violation_cells _ _ (formula_row_of_mem hfid)) r
    (by simpa only [List.findSome?_map, Function.comp_def, Base.check_draft] using hlines)

/-- Storing colorant lines none of whose names is blank under a formula that exists fails as a
fault of the store when the table has no ids left for them all. -/
theorem insertColorants_full (hbelow : ∀ c ∈ K.colorants, c.id ≤ K.lastColorant)
    (hnow : now.Storable) {fid : Int} (hfid : ∃ f ∈ K.formulas, f.id = fid)
    {lines : List ColorantLine} (hfull : ¬ (K.tables.get .colorants).HasRoom lines.length)
    (hlines : lines.findSome? (fun l => required "Colorant" "colorant_name" l.name) = none) :
    ∃ s, (insertColorants fid lines now).run.run K.db = (.error (.storage .full), s) :=
  @Record.createAll_full Colorant _ _ _ (fun l => (⟨fid, l⟩ : ColorantDraft)) now hnow (by decide) lines
    K.tables K.colorants K.colorant_rows (fun _ _ => trivial) hbelow hfull
    (List.findSome?_eq_none_iff.1 hlines)
    (fun _ _ => Colorant.violation_cells _ _ (formula_row_of_mem hfid))

theorem insertBases_full (hbelow : ∀ b ∈ K.bases, b.id ≤ K.lastBase)
    (hnow : now.Storable) {fid : Int} (hfid : ∃ f ∈ K.formulas, f.id = fid)
    {lines : List BaseLine} (hfull : ¬ (K.tables.get .bases).HasRoom lines.length)
    (hlines : lines.findSome? (fun l => required "Base" "base_name" l.base) = none) :
    ∃ s, (insertBases fid lines now).run.run K.db = (.error (.storage .full), s) :=
  @Record.createAll_full Base _ _ _ (fun l => (⟨fid, l⟩ : BaseDraft)) now hnow (by decide) lines
    K.tables K.bases K.base_rows (fun _ _ => trivial) hbelow hfull
    (List.findSome?_eq_none_iff.1 hlines)
    (fun _ _ => Base.violation_cells _ _ (formula_row_of_mem hfid))

end Contents

/-! ## Room for new rows -/

/-- The tables of a database can take `n` more rows of the table `t`; without tables nothing
is asked, as nothing can be stored. -/
def Database.HasRoom (db : Database) (t : TableName) (n : Nat) : Prop :=
  match db.tables with
  | some ts => (ts.get t).HasRoom n
  | none => True

instance (db : Database) (t : TableName) (n : Nat) : Decidable (db.HasRoom t n) :=
  match db with
  | ⟨some ts⟩ => inferInstanceAs (Decidable ((ts.get t).HasRoom n))
  | ⟨none⟩ => isTrue trivial

/-- The tables of a database can take a new formula and its lines. -/
def NewFormula.Fits (nf : NewFormula) (db : Database) : Prop :=
  db.HasRoom .formulas 1 ∧ db.HasRoom .colorants nf.colorants.length ∧
    db.HasRoom .bases nf.bases.length

instance (nf : NewFormula) (db : Database) : Decidable (NewFormula.Fits nf db) :=
  inferInstanceAs (Decidable (db.HasRoom .formulas 1 ∧ db.HasRoom .colorants nf.colorants.length ∧
    db.HasRoom .bases nf.bases.length))

/-- The tables of a database can take the lines that an amendment gives in place of the
stored ones. -/
def Amendment.Fits (a : Amendment) (db : Database) : Prop :=
  db.HasRoom .colorants ((a.colorants.map List.length).getD 0) ∧
    db.HasRoom .bases ((a.bases.map List.length).getD 0)

instance (a : Amendment) (db : Database) : Decidable (Amendment.Fits a db) :=
  inferInstanceAs (Decidable (db.HasRoom .colorants ((a.colorants.map List.length).getD 0) ∧
    db.HasRoom .bases ((a.bases.map List.length).getD 0)))

theorem Contents.hasRoom_formulas {K : Contents} (h : K.lastFormula < int64Max) :
    K.db.HasRoom .formulas 1 :=
  Or.inr (by simp only [Contents.tables, Tables.get]; omega)

/-! ## Creating a formula -/

/-- The rule a new formula breaks, if any: its name first, then the names of its colorant
lines in order, then those of its base lines. -/
def NewFormula.rejection (nf : NewFormula) : Option Rejection :=
  (required "Formula" "formula_name" nf.draft.name).or
    ((nf.colorants.findSome? fun l => required "Colorant" "colorant_name" l.name).or
      (nf.bases.findSome? fun l => required "Base" "base_name" l.base))

namespace Contents

variable {K : Contents} {now : Instant}

/-- The new formula exists for its lines to name it. -/
theorem nextFormula_named (d : Draft) (now : Instant) :
    ∃ f ∈ (K.addFormula d now).formulas, f.id = (K.nextFormula d now).id :=
  ⟨_, List.mem_append_right _ (List.mem_singleton_self _), rfl⟩

/-- Colorant lines stored under a formula went through only when no name was blank and the
table had ids left for them all. -/
theorem insertColorants_ok_inv {fid : Int} {lines : List ColorantLine} {u : PUnit} {s : Database}
    (h : (insertColorants fid lines now).run.run K.db = (.ok u, s)) :
    lines.findSome? (fun l => required "Colorant" "colorant_name" l.name) = none ∧
      (K.tables.get .colorants).HasRoom lines.length := by
  obtain ⟨hchecks, hroom⟩ :=
    @Record.createAll_ok Colorant _ _ (fun l => (⟨fid, l⟩ : ColorantDraft)) now lines K.tables s u h
  exact ⟨List.findSome?_eq_none_iff.2 fun l hl => by
    simpa only [Colorant.check_draft] using hchecks l hl, hroom⟩

theorem insertBases_ok_inv {fid : Int} {lines : List BaseLine} {u : PUnit} {s : Database}
    (h : (insertBases fid lines now).run.run K.db = (.ok u, s)) :
    lines.findSome? (fun l => required "Base" "base_name" l.base) = none ∧
      (K.tables.get .bases).HasRoom lines.length := by
  obtain ⟨hchecks, hroom⟩ :=
    @Record.createAll_ok Base _ _ (fun l => (⟨fid, l⟩ : BaseDraft)) now lines K.tables s u h
  exact ⟨List.findSome?_eq_none_iff.2 fun l hl => by
    simpa only [Base.check_draft] using hchecks l hl, hroom⟩

end Contents

section Create

variable {K : Contents} {now : Instant}

/-- **Creating a formula that breaks no rule, when the tables have ids left for it and its
lines, stores it with the next id and its lines in order, and returns it with its lines.** -/
theorem createFormula_eq (hK : K.Good) (hnow : now.Storable) {nf : NewFormula}
    (hr : NewFormula.rejection nf = none) (hfits : NewFormula.Fits nf K.db) :
    (createFormula nf now).run.run K.db =
      (.ok ((K.create nf now).detail (K.nextFormula nf.draft now)), (K.create nf now).db) := by
  simp only [NewFormula.rejection, Option.or_eq_none_iff] at hr
  obtain ⟨hname, hcs, hbs⟩ := hr
  obtain ⟨hf, hc, hb⟩ := hfits
  have hfid := Contents.nextFormula_named (K := K) nf.draft now
  unfold createFormula
  rw [transaction_run,
    Work.run_bind_ok (Contents.createFormula_step hK hnow (Table.HasRoom.lt hf) hname),
    Work.run_bind_ok (Contents.insertColorants_step (K := K.addFormula nf.draft now)
      hK.colorants_below hnow hfid hc hcs),
    Work.run_bind_ok (Contents.insertBases_step
      (K := (K.addFormula nf.draft now).addColorants _ nf.colorants now) hK.bases_below hnow hfid
      hb hbs),
    Work.run_bind_ok (Work.run_get _), Work.run_liftM, Contents.loadDetail_eq]
  rfl

/-- **Creating a formula that breaks a rule, when the tables have ids left for it and its
lines, fails with the first rule it breaks and leaves the database as it was.** -/
theorem createFormula_error (hK : K.Good) (hnow : now.Storable) {nf : NewFormula}
    {r : Rejection} (hr : NewFormula.rejection nf = some r) (hfits : NewFormula.Fits nf K.db) :
    (createFormula nf now).run.run K.db = (.error (.invalid r), K.db) := by
  obtain ⟨hf, hc, hb⟩ := hfits
  unfold createFormula
  rw [transaction_run]
  cases hname : required "Formula" "formula_name" nf.draft.name with
  | some r' =>
    -- the formula's own name is blank: nothing is written
    simp only [NewFormula.rejection, hname, Option.some_or, Option.some.injEq] at hr
    subst hr
    have hcheck : Record.check (α := Formula) nf.draft = some r' := hname
    rw [Work.run_bind_error (by rw [Record.create_run, hcheck])]
  | none =>
    have hfid := Contents.nextFormula_named (K := K) nf.draft now
    rw [Work.run_bind_ok (Contents.createFormula_step hK hnow (Table.HasRoom.lt hf) hname)]
    simp only [NewFormula.rejection, hname, Option.none_or] at hr
    cases hcs : nf.colorants.findSome? (fun l => required "Colorant" "colorant_name" l.name) with
    | some r' =>
      -- a colorant line's name is blank
      simp only [hcs, Option.some_or, Option.some.injEq] at hr
      subst hr
      obtain ⟨s, hs⟩ := Contents.insertColorants_error (K := K.addFormula nf.draft now)
        hK.colorants_below hnow hfid hc hcs
      rw [Work.run_bind_error hs]
    | none =>
      -- a base line's name is blank
      simp only [hcs, Option.none_or] at hr
      obtain ⟨s, hs⟩ := Contents.insertBases_error
        (K := (K.addFormula nf.draft now).addColorants _ nf.colorants now) hK.bases_below hnow hfid
        hb hr
      rw [Work.run_bind_ok (Contents.insertColorants_step (K := K.addFormula nf.draft now)
        hK.colorants_below hnow hfid hc hcs), Work.run_bind_error hs]

/-- **Creating a formula that breaks no rule fails as a fault of the store, and leaves the
database as it was, when the tables have no ids left for it and its lines.** -/
theorem createFormula_full (hK : K.Good) (hnow : now.Storable) {nf : NewFormula}
    (hr : NewFormula.rejection nf = none) (hfits : ¬ NewFormula.Fits nf K.db) :
    (createFormula nf now).run.run K.db = (.error (.storage .full), K.db) := by
  simp only [NewFormula.rejection, Option.or_eq_none_iff] at hr
  obtain ⟨hname, hcs, hbs⟩ := hr
  have hfid := Contents.nextFormula_named (K := K) nf.draft now
  unfold createFormula
  rw [transaction_run]
  by_cases hf : K.lastFormula < int64Max
  · rw [Work.run_bind_ok (Contents.createFormula_step hK hnow hf hname)]
    by_cases hc : (K.tables.get .colorants).HasRoom nf.colorants.length
    · -- the formula and its colorant lines go in, and no id is left for the base lines
      have hb : ¬ (K.tables.get .bases).HasRoom nf.bases.length :=
        fun hb => hfits ⟨Contents.hasRoom_formulas hf, hc, hb⟩
      obtain ⟨s, hs⟩ := Contents.insertBases_full
        (K := (K.addFormula nf.draft now).addColorants _ nf.colorants now) hK.bases_below hnow hfid
        hb hbs
      rw [Work.run_bind_ok (Contents.insertColorants_step (K := K.addFormula nf.draft now)
        hK.colorants_below hnow hfid hc hcs), Work.run_bind_error hs]
    · obtain ⟨s, hs⟩ := Contents.insertColorants_full (K := K.addFormula nf.draft now)
        hK.colorants_below hnow hfid hc hcs
      rw [Work.run_bind_error hs]
  · rw [Work.run_bind_error (Contents.createFormula_full_step (by omega) hname)]

/-- A creation that went through broke no rule and found ids for the formula and its
lines. -/
theorem createFormula_ok_inv (hK : K.Good) (hnow : now.Storable) {nf : NewFormula}
    {d : FormulaDetail} {s : Database} (h : (createFormula nf now).run.run K.db = (.ok d, s)) :
    NewFormula.rejection nf = none ∧ NewFormula.Fits nf K.db := by
  unfold createFormula at h
  obtain ⟨f, s₁, hf, h⟩ := Work.run_bind_eq_ok (transaction_eq_ok h)
  -- the formula went in: its name is not blank and an id was left for it
  obtain ⟨hcheck, ts₁, id, hins, -⟩ := Record.create_ok_inv hf
  have hname : required "Formula" "formula_name" nf.draft.name = none := hcheck
  have hroom : K.lastFormula < int64Max := Tables.insert_ok_room hins
  rw [Contents.createFormula_step hK hnow hroom hname] at hf
  obtain ⟨hnext, rfl⟩ := Prod.mk.inj hf
  cases hnext
  -- then its colorant lines, and then its base lines
  obtain ⟨_, s₂, hcol, h⟩ := Work.run_bind_eq_ok h
  obtain ⟨hcs, hc⟩ := Contents.insertColorants_ok_inv (K := K.addFormula nf.draft now) hcol
  rw [Contents.insertColorants_step (K := K.addFormula nf.draft now) hK.colorants_below hnow
    (Contents.nextFormula_named _ _) hc hcs] at hcol
  obtain ⟨-, rfl⟩ := Prod.mk.inj hcol
  obtain ⟨_, s₃, hbas, -⟩ := Work.run_bind_eq_ok h
  obtain ⟨hbs, hb⟩ := Contents.insertBases_ok_inv
    (K := (K.addFormula nf.draft now).addColorants _ nf.colorants now) hbas
  refine ⟨?_, Contents.hasRoom_formulas hroom, hc, hb⟩
  simp only [NewFormula.rejection, hname, hcs, hbs, Option.or_none]

end Create

/-! ## Changing a formula

Changing a formula replaces each list of lines that is given; the workflow writes this with
join points, which `updateFormula_steps` states as three steps in a row. -/

/-- Replaces the colorant lines of a formula by the given ones, when some are given. -/
def replaceColorantLines (fid : Int) (o : Option (List ColorantLine)) (now : Instant) :
    Work Unit :=
  match o with
  | some lines => do
    discard (Record.delete Colorant (LineKey.formulaId fid))
    insertColorants fid lines now
  | none => pure ()

/-- Replaces the base lines of a formula by the given ones, when some are given. -/
def replaceBaseLines (fid : Int) (o : Option (List BaseLine)) (now : Instant) : Work Unit :=
  match o with
  | some lines => do
    discard (Record.delete Base (LineKey.formulaId fid))
    insertBases fid lines now
  | none => pure ()

theorem updateFormula_steps (id : Int) (a : Amendment) (now : Instant) :
    updateFormula id a now = transaction (do
      let f ← Record.update Formula (FormulaKey.id id) a.fields now
      replaceColorantLines id a.colorants now
      replaceBaseLines id a.bases now
      liftM (loadDetail f (← get))) := by
  unfold updateFormula
  congr 1
  refine congrArg _ (funext fun f => ?_)
  cases a.colorants <;> cases a.bases <;>
    simp only [replaceColorantLines, replaceBaseLines, bind_assoc, pure_bind]

/-- The rule the lines of an amendment break, if any: the first blank name among the
colorant lines given, then among the base lines given. -/
def Amendment.lineRejection (a : Amendment) : Option Rejection :=
  (a.colorants.bind fun ls => ls.findSome? fun l => required "Colorant" "colorant_name" l.name).or
    (a.bases.bind fun ls => ls.findSome? fun l => required "Base" "base_name" l.base)

namespace Contents

variable {K : Contents} {now : Instant}

theorem deleteColorants_step (K : Contents) (fid : Int) :
    (Record.delete Colorant (LineKey.formulaId fid)).run.run K.db =
      (.ok (K.colorants.filter fun c => decide (c.formulaId = fid)).length,
        (K.dropColorants fid).db) := by
  unfold Contents.db
  rw [Record.delete_lines_eq K.colorant_rows (by decide)]
  simp only [Colorant.matches_formulaId]
  rfl

theorem deleteBases_step (K : Contents) (fid : Int) :
    (Record.delete Base (LineKey.formulaId fid)).run.run K.db =
      (.ok (K.bases.filter fun b => decide (b.formulaId = fid)).length, (K.dropBases fid).db) := by
  unfold Contents.db
  rw [Record.delete_lines_eq K.base_rows (by decide)]
  simp only [Base.matches_formulaId]
  rfl

@[simp] theorem replaceColorants_formulas (K : Contents) (fid : Int)
    (o : Option (List ColorantLine)) (now : Instant) :
    (K.replaceColorants fid o now).formulas = K.formulas := by
  cases o <;> rfl

@[simp] theorem replaceColorants_bases (K : Contents) (fid : Int)
    (o : Option (List ColorantLine)) (now : Instant) :
    (K.replaceColorants fid o now).bases = K.bases := by
  cases o <;> rfl

@[simp] theorem replaceColorants_lastBase (K : Contents) (fid : Int)
    (o : Option (List ColorantLine)) (now : Instant) :
    (K.replaceColorants fid o now).lastBase = K.lastBase := by
  cases o <;> rfl

/-- Replacing lines never changes the mark of the other table. -/
theorem replaceColorants_room_bases (K : Contents) (fid : Int) (o : Option (List ColorantLine))
    (now : Instant) (n : Nat) :
    ((K.replaceColorants fid o now).tables.get .bases).HasRoom n ↔
      (K.tables.get .bases).HasRoom n := by
  cases o <;> exact Iff.rfl

/-- Replacing the colorant lines of a formula that exists by lines none of whose names is
blank, when ids are left for them, drops the old ones and stores the new ones in order. -/
theorem replaceColorantLines_step (hbelow : ∀ c ∈ K.colorants, c.id ≤ K.lastColorant)
    (hnow : now.Storable) {fid : Int} (hfid : ∃ f ∈ K.formulas, f.id = fid)
    {o : Option (List ColorantLine)}
    (hroom : (K.tables.get .colorants).HasRoom ((o.map List.length).getD 0))
    (hlines : (o.bind fun ls => ls.findSome? fun l =>
      required "Colorant" "colorant_name" l.name) = none) :
    (replaceColorantLines fid o now).run.run K.db = (.ok ⟨⟩, (K.replaceColorants fid o now).db) := by
  cases o with
  | none => rfl
  | some lines =>
    unfold replaceColorantLines
    rw [Work.run_bind_ok (by rw [Work.run_discard, deleteColorants_step]), replaceColorants]
    exact insertColorants_step (K := K.dropColorants fid)
      (fun c hc => hbelow c (List.mem_filter.1 hc).1) hnow hfid hroom hlines

theorem replaceBaseLines_step (hbelow : ∀ b ∈ K.bases, b.id ≤ K.lastBase)
    (hnow : now.Storable) {fid : Int} (hfid : ∃ f ∈ K.formulas, f.id = fid)
    {o : Option (List BaseLine)}
    (hroom : (K.tables.get .bases).HasRoom ((o.map List.length).getD 0))
    (hlines : (o.bind fun ls => ls.findSome? fun l => required "Base" "base_name" l.base) = none) :
    (replaceBaseLines fid o now).run.run K.db = (.ok ⟨⟩, (K.replaceBases fid o now).db) := by
  cases o with
  | none => rfl
  | some lines =>
    unfold replaceBaseLines
    rw [Work.run_bind_ok (by rw [Work.run_discard, deleteBases_step]), replaceBases]
    exact insertBases_step (K := K.dropBases fid)
      (fun b hb => hbelow b (List.mem_filter.1 hb).1) hnow hfid hroom hlines

theorem replaceColorantLines_error (hbelow : ∀ c ∈ K.colorants, c.id ≤ K.lastColorant)
    (hnow : now.Storable) {fid : Int} (hfid : ∃ f ∈ K.formulas, f.id = fid)
    {o : Option (List ColorantLine)}
    (hroom : (K.tables.get .colorants).HasRoom ((o.map List.length).getD 0)) {r : Rejection}
    (hlines : (o.bind fun ls => ls.findSome? fun l =>
      required "Colorant" "colorant_name" l.name) = some r) :
    ∃ s, (replaceColorantLines fid o now).run.run K.db = (.error (.invalid r), s) := by
  cases o with
  | none => cases hlines
  | some lines =>
    unfold replaceColorantLines
    rw [Work.run_bind_ok (by rw [Work.run_discard, deleteColorants_step])]
    exact insertColorants_error (K := K.dropColorants fid)
      (fun c hc => hbelow c (List.mem_filter.1 hc).1) hnow hfid hroom hlines

theorem replaceBaseLines_error (hbelow : ∀ b ∈ K.bases, b.id ≤ K.lastBase)
    (hnow : now.Storable) {fid : Int} (hfid : ∃ f ∈ K.formulas, f.id = fid)
    {o : Option (List BaseLine)}
    (hroom : (K.tables.get .bases).HasRoom ((o.map List.length).getD 0)) {r : Rejection}
    (hlines : (o.bind fun ls => ls.findSome? fun l =>
      required "Base" "base_name" l.base) = some r) :
    ∃ s, (replaceBaseLines fid o now).run.run K.db = (.error (.invalid r), s) := by
  cases o with
  | none => cases hlines
  | some lines =>
    unfold replaceBaseLines
    rw [Work.run_bind_ok (by rw [Work.run_discard, deleteBases_step])]
    exact insertBases_error (K := K.dropBases fid)
      (fun b hb => hbelow b (List.mem_filter.1 hb).1) hnow hfid hroom hlines

/-- Replacing colorant lines by lines none of whose names is blank fails as a fault of the
store when no ids are left for them. -/
theorem replaceColorantLines_full (hbelow : ∀ c ∈ K.colorants, c.id ≤ K.lastColorant)
    (hnow : now.Storable) {fid : Int} (hfid : ∃ f ∈ K.formulas, f.id = fid)
    {o : Option (List ColorantLine)}
    (hfull : ¬ (K.tables.get .colorants).HasRoom ((o.map List.length).getD 0))
    (hlines : (o.bind fun ls => ls.findSome? fun l =>
      required "Colorant" "colorant_name" l.name) = none) :
    ∃ s, (replaceColorantLines fid o now).run.run K.db = (.error (.storage .full), s) := by
  cases o with
  | none => exact absurd (Or.inl rfl) hfull
  | some lines =>
    unfold replaceColorantLines
    rw [Work.run_bind_ok (by rw [Work.run_discard, deleteColorants_step])]
    exact insertColorants_full (K := K.dropColorants fid)
      (fun c hc => hbelow c (List.mem_filter.1 hc).1) hnow hfid hfull hlines

theorem replaceBaseLines_full (hbelow : ∀ b ∈ K.bases, b.id ≤ K.lastBase)
    (hnow : now.Storable) {fid : Int} (hfid : ∃ f ∈ K.formulas, f.id = fid)
    {o : Option (List BaseLine)}
    (hfull : ¬ (K.tables.get .bases).HasRoom ((o.map List.length).getD 0))
    (hlines : (o.bind fun ls => ls.findSome? fun l => required "Base" "base_name" l.base) = none) :
    ∃ s, (replaceBaseLines fid o now).run.run K.db = (.error (.storage .full), s) := by
  cases o with
  | none => exact absurd (Or.inl rfl) hfull
  | some lines =>
    unfold replaceBaseLines
    rw [Work.run_bind_ok (by rw [Work.run_discard, deleteBases_step])]
    exact insertBases_full (K := K.dropBases fid)
      (fun b hb => hbelow b (List.mem_filter.1 hb).1) hnow hfid hfull hlines

/-- Replacing colorant lines went through only when no name given was blank and ids were
left for them all. -/
theorem replaceColorantLines_ok_inv {fid : Int} {o : Option (List ColorantLine)} {u : PUnit}
    {s : Database} (h : (replaceColorantLines fid o now).run.run K.db = (.ok u, s)) :
    (o.bind fun ls => ls.findSome? fun l => required "Colorant" "colorant_name" l.name) = none ∧
      (K.tables.get .colorants).HasRoom ((o.map List.length).getD 0) := by
  cases o with
  | none => exact ⟨rfl, Or.inl rfl⟩
  | some lines =>
    unfold replaceColorantLines at h
    rw [Work.run_bind_ok (by rw [Work.run_discard, deleteColorants_step])] at h
    exact insertColorants_ok_inv (K := K.dropColorants fid) h

theorem replaceBaseLines_ok_inv {fid : Int} {o : Option (List BaseLine)} {u : PUnit}
    {s : Database} (h : (replaceBaseLines fid o now).run.run K.db = (.ok u, s)) :
    (o.bind fun ls => ls.findSome? fun l => required "Base" "base_name" l.base) = none ∧
      (K.tables.get .bases).HasRoom ((o.map List.length).getD 0) := by
  cases o with
  | none => exact ⟨rfl, Or.inl rfl⟩
  | some lines =>
    unfold replaceBaseLines at h
    rw [Work.run_bind_ok (by rw [Work.run_discard, deleteBases_step])] at h
    exact insertBases_ok_inv (K := K.dropBases fid) h

/-- Changing the formula with an id, by a change whose name is not blank, revises that
formula alone. -/
theorem updateFormula_step (hK : K.Good) (hnow : now.Storable) {id : Int} {p : Revision}
    {cur : Formula} (hp : requiredIfSet "Formula" "formula_name" p.name = none)
    (hfind : K.formulas.find? (fun f => decide (f.id = id)) = some cur) :
    (Record.update Formula (FormulaKey.id id) p now).run.run K.db =
      (.ok (Stored.revised cur p now), (K.reviseFormula cur p now).db) := by
  have hfind' : K.formulas.find? (fun f =>
      (Record.lookup (α := Formula) (FormulaKey.id id)).matches (Stored.row f)) = some cur := by
    simpa only [Formula.matches_id] using hfind
  have hne : Record.changes p cur now ≠ [] := by simp [Record.changes]
  exact @Record.update_eq Formula _ _ K.tables K.formulas K.formula_rows hK.sound
    hK.formulas_ordered (FormulaKey.id id) p now cur hp hfind' hne
    (Formula.changes_admitted _ _ _ _) hnow

/-- A formula revised stays under its id. -/
theorem revised_named {cur : Formula} (hcur : cur ∈ K.formulas) (p : Revision) (now : Instant) :
    ∃ f ∈ (K.reviseFormula cur p now).formulas, f.id = cur.id := by
  refine ⟨_, List.mem_map_of_mem hcur, ?_⟩
  simp only [if_true]
  exact Stored.id_revised (α := Formula) cur p now

/-- A change whose name is blank fails before anything is read. -/
theorem updateFormula_name_step {db : Database} {id : Int} {p : Revision} {r : Rejection}
    (hp : requiredIfSet "Formula" "formula_name" p.name = some r) :
    (Record.update Formula (FormulaKey.id id) p now).run.run db = (.error (.invalid r), db) := by
  have hcheck : Record.checkPatch (α := Formula) p = some r := hp
  rw [Record.update_run, hcheck]

/-- Changing a formula that does not exist fails with the formula not found. -/
theorem updateFormula_missing_step (hK : K.Good) {id : Int} {p : Revision}
    (hp : requiredIfSet "Formula" "formula_name" p.name = none)
    (hfind : K.formulas.find? (fun f => decide (f.id = id)) = none) :
    (Record.update Formula (FormulaKey.id id) p now).run.run K.db =
      (.error (.notFound "Formula"), K.db) := by
  have hcheck : Record.checkPatch (α := Formula) p = none := hp
  have hread : Record.readOne Formula (FormulaKey.id id) K.db = .ok none := by
    rw [← hfind]
    exact getFormula_eq hK id
  rw [Record.update_run, hcheck]
  simp only [hread]
  rfl

end Contents

section Update

variable {K : Contents} {now : Instant} {id : Int} {a : Amendment}

/-- **Changing an existing formula by an amendment that breaks no rule, when the tables have
ids left for the lines given, revises the formula, replaces the lines given, and returns the
formula revised with its lines.** -/
theorem updateFormula_eq (hK : K.Good) (hnow : now.Storable) {cur : Formula}
    (hname : requiredIfSet "Formula" "formula_name" a.fields.name = none)
    (hfind : K.formulas.find? (fun f => decide (f.id = id)) = some cur)
    (hlines : Amendment.lineRejection a = none) (hfits : Amendment.Fits a K.db) :
    (updateFormula id a now).run.run K.db =
      (.ok ((K.amend cur a now).detail (Stored.revised cur a.fields now)),
        (K.amend cur a now).db) := by
  have hid : cur.id = id := by simpa using List.find?_some hfind
  subst hid
  simp only [Amendment.lineRejection, Option.or_eq_none_iff] at hlines
  obtain ⟨hcs, hbs⟩ := hlines
  obtain ⟨hc, hb⟩ := hfits
  -- the formula stays, revised, for the new lines to name
  have hfid := Contents.revised_named (List.mem_of_find?_eq_some hfind) a.fields now
  rw [updateFormula_steps, transaction_run,
    Work.run_bind_ok (Contents.updateFormula_step hK hnow hname hfind),
    Work.run_bind_ok (Contents.replaceColorantLines_step (K := K.reviseFormula cur a.fields now)
      hK.colorants_below hnow hfid hc hcs),
    Work.run_bind_ok (Contents.replaceBaseLines_step
      (K := (K.reviseFormula cur a.fields now).replaceColorants cur.id a.colorants now)
      (by
        simp only [Contents.replaceColorants_bases, Contents.replaceColorants_lastBase]
        exact hK.bases_below) hnow (by simpa using hfid)
      ((Contents.replaceColorants_room_bases _ _ _ _ _).2 hb) hbs),
    Work.run_bind_ok (Work.run_get _), Work.run_liftM, Contents.loadDetail_eq]
  rfl

/-- **A change whose name is blank fails with the name's rule, whatever the database.** -/
theorem updateFormula_error_name {db : Database} {r : Rejection}
    (hname : requiredIfSet "Formula" "formula_name" a.fields.name = some r) :
    (updateFormula id a now).run.run db = (.error (.invalid r), db) := by
  rw [updateFormula_steps, transaction_run,
    Work.run_bind_error (Contents.updateFormula_name_step hname)]

/-- **Changing a formula that does not exist fails with the formula not found.** -/
theorem updateFormula_error_missing (hK : K.Good)
    (hname : requiredIfSet "Formula" "formula_name" a.fields.name = none)
    (hfind : K.formulas.find? (fun f => decide (f.id = id)) = none) :
    (updateFormula id a now).run.run K.db = (.error (.notFound "Formula"), K.db) := by
  rw [updateFormula_steps, transaction_run,
    Work.run_bind_error (Contents.updateFormula_missing_step hK hname hfind)]

/-- **Changing an existing formula with a blank line name, when the tables have ids left for
the lines given, fails with the first blank name and leaves the database as it was.** -/
theorem updateFormula_error_lines (hK : K.Good) (hnow : now.Storable) {cur : Formula}
    (hname : requiredIfSet "Formula" "formula_name" a.fields.name = none)
    (hfind : K.formulas.find? (fun f => decide (f.id = id)) = some cur) {r : Rejection}
    (hlines : Amendment.lineRejection a = some r) (hfits : Amendment.Fits a K.db) :
    (updateFormula id a now).run.run K.db = (.error (.invalid r), K.db) := by
  have hid : cur.id = id := by simpa using List.find?_some hfind
  subst hid
  obtain ⟨hc, hb⟩ := hfits
  have hfid := Contents.revised_named (List.mem_of_find?_eq_some hfind) a.fields now
  rw [updateFormula_steps, transaction_run,
    Work.run_bind_ok (Contents.updateFormula_step hK hnow hname hfind)]
  simp only [Amendment.lineRejection] at hlines
  cases hcs : a.colorants.bind fun ls => ls.findSome? fun l =>
      required "Colorant" "colorant_name" l.name with
  | some r' =>
    -- a colorant line's name is blank
    simp only [hcs, Option.some_or, Option.some.injEq] at hlines
    subst hlines
    obtain ⟨s, hs⟩ := Contents.replaceColorantLines_error
      (K := K.reviseFormula cur a.fields now) hK.colorants_below hnow hfid hc hcs
    rw [Work.run_bind_error hs]
  | none =>
    -- a base line's name is blank
    simp only [hcs, Option.none_or] at hlines
    obtain ⟨s, hs⟩ := Contents.replaceBaseLines_error
      (K := (K.reviseFormula cur a.fields now).replaceColorants cur.id a.colorants now)
      (by
        simp only [Contents.replaceColorants_bases, Contents.replaceColorants_lastBase]
        exact hK.bases_below) hnow (by simpa using hfid)
      ((Contents.replaceColorants_room_bases _ _ _ _ _).2 hb) hlines
    rw [Work.run_bind_ok (Contents.replaceColorantLines_step
      (K := K.reviseFormula cur a.fields now) hK.colorants_below hnow hfid hc hcs),
      Work.run_bind_error hs]

/-- **Changing an existing formula by an amendment that breaks no rule fails as a fault of the
store, and leaves the database as it was, when the tables have no ids left for the lines
given.** -/
theorem updateFormula_full (hK : K.Good) (hnow : now.Storable) {cur : Formula}
    (hname : requiredIfSet "Formula" "formula_name" a.fields.name = none)
    (hfind : K.formulas.find? (fun f => decide (f.id = id)) = some cur)
    (hlines : Amendment.lineRejection a = none) (hfits : ¬ Amendment.Fits a K.db) :
    (updateFormula id a now).run.run K.db = (.error (.storage .full), K.db) := by
  have hid : cur.id = id := by simpa using List.find?_some hfind
  subst hid
  simp only [Amendment.lineRejection, Option.or_eq_none_iff] at hlines
  obtain ⟨hcs, hbs⟩ := hlines
  have hfid := Contents.revised_named (List.mem_of_find?_eq_some hfind) a.fields now
  rw [updateFormula_steps, transaction_run,
    Work.run_bind_ok (Contents.updateFormula_step hK hnow hname hfind)]
  by_cases hc : (K.tables.get .colorants).HasRoom ((a.colorants.map List.length).getD 0)
  · -- the colorant lines go in, and no ids are left for the base lines
    have hb : ¬ (K.tables.get .bases).HasRoom ((a.bases.map List.length).getD 0) :=
      fun hb => hfits ⟨hc, hb⟩
    obtain ⟨s, hs⟩ := Contents.replaceBaseLines_full
      (K := (K.reviseFormula cur a.fields now).replaceColorants cur.id a.colorants now)
      (by
        simp only [Contents.replaceColorants_bases, Contents.replaceColorants_lastBase]
        exact hK.bases_below) hnow (by simpa using hfid)
      (fun h => hb
        ((Contents.replaceColorants_room_bases (K.reviseFormula cur a.fields now) _ _ _ _).1 h)) hbs
    rw [Work.run_bind_ok (Contents.replaceColorantLines_step
      (K := K.reviseFormula cur a.fields now) hK.colorants_below hnow hfid hc hcs),
      Work.run_bind_error hs]
  · obtain ⟨s, hs⟩ := Contents.replaceColorantLines_full
      (K := K.reviseFormula cur a.fields now) hK.colorants_below hnow hfid hc hcs
    rw [Work.run_bind_error hs]

/-- A change of an existing formula, under a name that is not blank, went through only when
its lines broke no rule and found ids. -/
theorem updateFormula_ok_inv (hK : K.Good) (hnow : now.Storable) {cur : Formula}
    (hname : requiredIfSet "Formula" "formula_name" a.fields.name = none)
    (hfind : K.formulas.find? (fun f => decide (f.id = id)) = some cur) {d : FormulaDetail}
    {s : Database} (h : (updateFormula id a now).run.run K.db = (.ok d, s)) :
    Amendment.lineRejection a = none ∧ Amendment.Fits a K.db := by
  have hid : cur.id = id := by simpa using List.find?_some hfind
  subst hid
  rw [updateFormula_steps] at h
  obtain ⟨_, s₁, hf, h⟩ := Work.run_bind_eq_ok (transaction_eq_ok h)
  rw [Contents.updateFormula_step hK hnow hname hfind] at hf
  obtain ⟨-, rfl⟩ := Prod.mk.inj hf
  -- the colorant lines went in, and then the base lines
  obtain ⟨_, s₂, hcol, h⟩ := Work.run_bind_eq_ok h
  obtain ⟨hcs, hc⟩ := Contents.replaceColorantLines_ok_inv
    (K := K.reviseFormula cur a.fields now) hcol
  have hfid := Contents.revised_named (List.mem_of_find?_eq_some hfind) a.fields now
  rw [Contents.replaceColorantLines_step (K := K.reviseFormula cur a.fields now)
    hK.colorants_below hnow hfid hc hcs] at hcol
  obtain ⟨-, rfl⟩ := Prod.mk.inj hcol
  obtain ⟨_, s₃, hbas, -⟩ := Work.run_bind_eq_ok h
  obtain ⟨hbs, hb⟩ := Contents.replaceBaseLines_ok_inv
    (K := (K.reviseFormula cur a.fields now).replaceColorants cur.id a.colorants now) hbas
  refine ⟨?_, hc,
    (Contents.replaceColorants_room_bases (K.reviseFormula cur a.fields now) _ _ _ _).1 hb⟩
  simp only [Amendment.lineRejection, hcs, hbs, Option.or_none]

end Update

/-! ## Removing a formula -/

/-- Erasing formulas that no line names drops them alone. -/
theorem Tables.erase_formulas_unnamed (ts : Tables) (k : Lookup)
    (hlines : ∀ r ∈ ts.colorants.rows ++ ts.bases.rows, ∀ f ∈ ts.formulas.rows,
      k.matches f = true → r.cell 1 ≠ .integer f.id) :
    ts.erase .formulas k = ({ ts with formulas :=
      { ts.formulas with rows := ts.formulas.rows.filter (fun r => !k.matches r) } },
      (ts.formulas.rows.filter k.matches).length) := by
  -- no line names a formula that goes, so the cascade drops nothing
  have hdrop : ∀ rows : List Row, (∀ r ∈ rows, ∀ f ∈ ts.formulas.rows, k.matches f = true →
      r.cell 1 ≠ .integer f.id) → rows.filter (fun r =>
        !((ts.formulas.rows.filter k.matches).any fun f => r.cell 1 == .integer f.id)) = rows := by
    intro rows h
    refine List.filter_eq_self.2 (fun r hr => ?_)
    simp only [Bool.not_eq_eq_eq_not, Bool.not_true, List.any_eq_false, List.mem_filter,
      beq_iff_eq]
    rintro f ⟨hf, hk⟩
    exact h r hr f hf hk
  simp only [Tables.erase, Tables.get, Tables.set]
  rw [hdrop _ (fun r hr => hlines r (List.mem_append_left _ hr)),
    hdrop _ (fun r hr => hlines r (List.mem_append_right _ hr))]

namespace Contents

/-- Removing the formula of an id, when no line names it, drops it alone and counts it. -/
theorem deleteFormula_step (K : Contents) (id : Int) (hc : ∀ c ∈ K.colorants, c.formulaId ≠ id)
    (hb : ∀ b ∈ K.bases, b.formulaId ≠ id) :
    (Record.delete Formula (FormulaKey.id id)).run.run K.db =
      (.ok (K.formulas.filter fun f => decide (f.id = id)).length, (K.dropFormula id).db) := by
  have hlines : ∀ r ∈ K.tables.colorants.rows ++ K.tables.bases.rows, ∀ f ∈ K.tables.formulas.rows,
      (Record.lookup (α := Formula) (FormulaKey.id id)).matches f = true →
        r.cell 1 ≠ .integer f.id := by
    intro r hr f hf hk
    obtain ⟨g, -, rfl⟩ := List.mem_map.1 hf
    have hg : decide (g.id = id) = true := by
      rw [← Formula.matches_id]
      exact hk
    rcases List.mem_append.1 hr with hr | hr
    · obtain ⟨c, hc', rfl⟩ := List.mem_map.1 hr
      simpa [Colorant.row_cell_one, Formula.row] using (of_decide_eq_true hg) ▸ hc c hc'
    · obtain ⟨b, hb', rfl⟩ := List.mem_map.1 hr
      simpa [Base.row_cell_one, Formula.row] using (of_decide_eq_true hg) ▸ hb b hb'
  unfold Contents.db
  rw [Record.delete_run]
  simp only [Record.tablesOf_some]
  rw [show Record.table Formula = TableName.formulas from rfl,
    Tables.erase_formulas_unnamed K.tables _ hlines]
  -- the rows that go and those that stay are those of the formulas with and without the id
  have hrows : K.tables.formulas.rows = K.formulas.map Stored.row := rfl
  have hgone : K.tables.formulas.rows.filter (Record.lookup (α := Formula) (FormulaKey.id id)).matches =
      (K.formulas.filter fun f => decide (f.id = id)).map Stored.row := by
    rw [hrows, List.filter_map]
    exact congrArg _ (List.filter_congr (fun f _ => Formula.matches_id f id))
  have hkept : K.tables.formulas.rows.filter
      (fun r => !(Record.lookup (α := Formula) (FormulaKey.id id)).matches r) =
      (K.formulas.filter fun f => !decide (f.id = id)).map Stored.row := by
    rw [hrows, List.filter_map]
    exact congrArg _ (List.filter_congr (fun f _ => by simp only [Function.comp_apply,
      Formula.matches_id]))
  rw [hgone, hkept, List.length_map]
  rfl

end Contents

/-- **Removing a formula never fails: it removes the formula's lines and the formula, and
answers whether there was one.** -/
theorem deleteFormula_eq (K : Contents) (id : Int) :
    (deleteFormula id).run.run K.db =
      (.ok (K.formulas.find? fun f => decide (f.id = id)).isSome,
        (((K.dropColorants id).dropBases id).dropFormula id).db) := by
  have hc : ∀ c ∈ ((K.dropColorants id).dropBases id).colorants, c.formulaId ≠ id := by
    intro c hc
    simpa using (List.mem_filter.1 hc).2
  have hb : ∀ b ∈ ((K.dropColorants id).dropBases id).bases, b.formulaId ≠ id := by
    intro b hb
    simpa using (List.mem_filter.1 hb).2
  unfold deleteFormula
  rw [transaction_run,
    Work.run_bind_ok (by rw [Work.run_discard, Contents.deleteColorants_step]),
    Work.run_bind_ok (by rw [Work.run_discard, Contents.deleteBases_step]),
    Work.run_bind_ok (Contents.deleteFormula_step _ id hc hb), Work.run_pure]
  have hsome : decide ((K.formulas.filter fun f => decide (f.id = id)).length > 0) =
      (K.formulas.find? fun f => decide (f.id = id)).isSome :=
    Bool.eq_iff_iff.2 (by simp [List.length_filter_pos_iff])
  exact congrArg (fun b => (Except.ok b, _)) hsome

end Tintbook.Store
