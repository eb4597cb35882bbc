import Tintbook.Proofs.Store.Failures
/-!
# The catalog a database stands for

Behind the tables the workflows keep a simple catalog of formulas: each formula id with the
five texts of its formula and its colorant and base lines, each line with its id and the
lines in id order, and for each table its mark, the last id it gave. The times are left
out. A database stands for the catalog that reading its three tables gives
(`Database.catalog`).

On every database that the records' own operations reach from the initialized one, at
clocks that can be stored, each workflow that goes through does to the catalog what the
catalog's own operation says, and nothing else (`workflows_refine_catalog`):

- creating a formula adds one entry under the formulas' mark plus one, with the texts as
  given and its lines in order, numbered on from the marks of their tables, and returns what
  reading the new formula afterwards returns (`Catalog.create`);
- changing a formula replaces the texts given and each list of lines given, numbered on
  from the marks, leaves every other entry as it was, and returns what reading the formula
  afterwards returns (`Catalog.update`);
- removing a formula drops its entry, keeps the marks, and answers whether there was one
  (`Catalog.delete`, `Catalog.holds`).

Ids are never given twice: the marks only grow, and the lines stored by a workflow take the
ids after them, so the lines of each entry stay in id order.

## What this module delivers

- `Entry`, `Catalog`, `numbered`, `Draft.revise`, and the catalog's operations.
- `Database.contents`, `Database.catalog`, `Contents.view`, `Contents.contents_db`.
- `Contents.view_create`, `Contents.view_amend`, `Contents.view_delete`.
- `workflows_refine_catalog`, with its witness.
-/

set_option autoImplicit false

namespace Tintbook

/-! ## Texts and lines as the catalog keeps them -/

/-- The texts of a formula after a change: each text the change gives replaces its own. -/
def Draft.revise (d : Draft) (p : Revision) : Draft :=
  ⟨p.name.getD d.name, p.number.getD d.number, p.customer.getD d.customer,
    p.summary.getD d.summary, p.notes.getD d.notes⟩

/-- The texts of a stored formula. -/
def Formula.texts (f : Formula) : Draft := ⟨f.name, f.number, f.customer, f.summary, f.notes⟩

/-- A stored colorant line with its id. -/
def Colorant.entry (c : Colorant) : Int × ColorantLine := (c.id, ⟨c.name, c.amount⟩)

/-- A stored base line with its id. -/
def Base.entry (b : Base) : Int × BaseLine := (b.id, ⟨b.base, b.product⟩)

namespace Store

/-! ## The catalog -/

/-- A formula as the catalog keeps it: its five texts, and its lines with their ids in id
order. -/
structure Entry where
  texts : Draft
  colorants : List (Int × ColorantLine)
  bases : List (Int × BaseLine)
  deriving DecidableEq, Repr

/-- A catalog of formulas: each formula id with its entry, in id order, and the last id each
table gave. -/
structure Catalog where
  entries : List (Int × Entry)
  lastFormula : Int
  lastColorant : Int
  lastBase : Int
  deriving DecidableEq, Repr

/-- Items numbered in order from `first` on. -/
def numbered {β : Type} (first : Int) : List β → List (Int × β)
  | [] => []
  | b :: bs => (first, b) :: numbered (first + 1) bs

namespace Catalog

variable (A : Catalog)

/-- The catalog with a new formula under the next id, its lines numbered on from the marks. -/
def create (nf : NewFormula) : Catalog where
  entries := A.entries ++ [(A.lastFormula + 1,
    ⟨nf.draft, numbered (A.lastColorant + 1) nf.colorants, numbered (A.lastBase + 1) nf.bases⟩)]
  lastFormula := A.lastFormula + 1
  lastColorant := A.lastColorant + nf.colorants.length
  lastBase := A.lastBase + nf.bases.length

/-- An entry changed by an amendment: the texts given, and each list of lines given,
numbered on from the marks. -/
def amend (e : Entry) (a : Amendment) : Entry where
  texts := e.texts.revise a.fields
  colorants := (a.colorants.map (numbered (A.lastColorant + 1))).getD e.colorants
  bases := (a.bases.map (numbered (A.lastBase + 1))).getD e.bases

/-- The catalog with the formula of an id changed by an amendment. -/
def update (id : Int) (a : Amendment) : Catalog where
  entries := A.entries.map fun p => if p.1 = id then (p.1, A.amend p.2 a) else p
  lastFormula := A.lastFormula
  lastColorant := A.lastColorant + ((a.colorants.map List.length).getD 0 : Nat)
  lastBase := A.lastBase + ((a.bases.map List.length).getD 0 : Nat)

/-- The catalog without the formula of an id; the marks stay. -/
def delete (id : Int) : Catalog := { A with entries := A.entries.filter fun p => p.1 ≠ id }

/-- Whether the catalog has a formula with an id. -/
def holds (id : Int) : Bool := A.entries.any fun p => p.1 = id

end Catalog

/-! ## The catalog of contents and of a database -/

namespace Contents

/-- The entry of a formula of the contents, with the lines that name it. -/
def entry (K : Contents) (f : Formula) : Int × Entry :=
  (f.id, ⟨f.texts, (K.colorants.filter fun c => decide (c.formulaId = f.id)).map Colorant.entry,
    (K.bases.filter fun b => decide (b.formulaId = f.id)).map Base.entry⟩)

/-- The catalog contents stand for. -/
def view (K : Contents) : Catalog :=
  ⟨K.formulas.map K.entry, K.lastFormula, K.lastColorant, K.lastBase⟩

end Contents

/-- The contents of a database, read table by table, with the marks of its tables. -/
def Database.contents (db : Database) : Except Failure Contents := do
  let ts ← Record.tablesOf Formula db
  let fs ← Record.readAll Formula db
  let cs ← Record.readAll Colorant db
  let bs ← Record.readAll Base db
  return ⟨fs, cs, bs, ts.formulas.lastId, ts.colorants.lastId, ts.bases.lastId⟩

/-- The catalog a database stands for. -/
def Database.catalog (db : Database) : Except Failure Catalog := do
  return (← db.contents).view

/-! ## Lines stored in order -/

theorem numbered_map {β γ : Type} (g : β → γ) (first : Int) (bs : List β) :
    numbered first (bs.map g) = (numbered first bs).map fun p => (p.1, g p.2) := by
  induction bs generalizing first with
  | nil => rfl
  | cons b bs ih => simp [numbered, ih]

section Made

variable {α : Type} [Record α] [Stored α]

/-- Records stored one after another take the ids from `first` on, in order. -/
theorem Stored.madeFrom_eq (now : Instant) (news : List (Record.New α)) (first : Int) :
    Stored.madeFrom now news first = (numbered first news).map fun p => Stored.made p.2 p.1 now := by
  induction news generalizing first with
  | nil => rfl
  | cons n news ih => simp [Stored.madeFrom, numbered, ih]

end Made

/-- Colorant lines stored under a formula, read with their ids, are the lines numbered from
the first id on. -/
theorem Colorant.entries_madeFrom (now : Instant) (fid first : Int) (lines : List ColorantLine) :
    (Stored.madeFrom now (lines.map fun l => (⟨fid, l⟩ : ColorantDraft)) first).map
      Colorant.entry = numbered first lines := by
  rw [Stored.madeFrom_eq, numbered_map, List.map_map, List.map_map]
  exact (List.map_congr_left fun _ _ => rfl).trans (List.map_id _)

theorem Base.entries_madeFrom (now : Instant) (fid first : Int) (lines : List BaseLine) :
    (Stored.madeFrom now (lines.map fun l => (⟨fid, l⟩ : BaseDraft)) first).map Base.entry =
      numbered first lines := by
  rw [Stored.madeFrom_eq, numbered_map, List.map_map, List.map_map]
  exact (List.map_congr_left fun _ _ => rfl).trans (List.map_id _)

/-- Colorant lines stored under a formula all name it. -/
theorem Colorant.owner_madeFrom {now : Instant} {fid first : Int} {lines : List ColorantLine}
    {c : Colorant} (hc : c ∈ Stored.madeFrom now (lines.map fun l => (⟨fid, l⟩ : ColorantDraft)) first) :
    c.formulaId = fid := by
  rw [Stored.madeFrom_eq, numbered_map, List.map_map] at hc
  obtain ⟨p, -, rfl⟩ := List.mem_map.1 hc
  rfl

theorem Base.owner_madeFrom {now : Instant} {fid first : Int} {lines : List BaseLine}
    {b : Base} (hb : b ∈ Stored.madeFrom now (lines.map fun l => (⟨fid, l⟩ : BaseDraft)) first) :
    b.formulaId = fid := by
  rw [Stored.madeFrom_eq, numbered_map, List.map_map] at hb
  obtain ⟨p, -, rfl⟩ := List.mem_map.1 hb
  rfl

/-- Lines that all name one formula are all kept by the filter of that formula. -/
theorem filter_owner_self {β : Type} (owner : β → Int) {xs : List β} {fid : Int}
    (h : ∀ x ∈ xs, owner x = fid) : xs.filter (fun x => decide (owner x = fid)) = xs :=
  List.filter_eq_self.2 fun x hx => decide_eq_true (h x hx)

/-- Lines that all name one formula are all dropped by the filter of another. -/
theorem filter_owner_other {β : Type} (owner : β → Int) {xs : List β} {fid g : Int}
    (h : ∀ x ∈ xs, owner x = fid) (hne : g ≠ fid) :
    xs.filter (fun x => decide (owner x = g)) = [] :=
  List.filter_eq_nil_iff.2 fun x hx hg => hne ((of_decide_eq_true hg).symm.trans (h x hx))

/-! ## Contents and their catalog -/

namespace Contents

variable {K K' : Contents}

/-- Contents whose formulas' times read back are what their database reads as. -/
theorem contents_db (hs : ∀ f ∈ K.formulas, Stored.Sound f) : K.db.contents = .ok K := by
  unfold Database.contents Contents.db
  simp only [Record.tablesOf_some, bind, Except.bind, Record.readAll_eq K.formula_rows hs,
    Record.readAll_eq K.colorant_rows (fun _ _ => trivial),
    Record.readAll_eq K.base_rows (fun _ _ => trivial), pure, Except.pure]
  rfl

theorem catalog_db (hs : ∀ f ∈ K.formulas, Stored.Sound f) : K.db.catalog = .ok K.view := by
  simp only [Database.catalog, contents_db hs, bind, Except.bind, pure, Except.pure]

/-- Contents whose formulas' times read back are told apart by their databases. -/
theorem eq_of_db (hs : ∀ f ∈ K.formulas, Stored.Sound f) (hs' : ∀ f ∈ K'.formulas, Stored.Sound f)
    (h : K.db = K'.db) : K = K' := by
  have hread := contents_db hs
  rw [h, contents_db hs'] at hread
  exact (Except.ok.inj hread).symm

/-- **Creating a formula adds its entry to the catalog, with its lines numbered on from the
marks.** -/
theorem view_create (hK : K.Good) (nf : NewFormula) (now : Instant) :
    (K.create nf now).view = K.view.create nf := by
  -- the lines stored before name formulas below the new id, the new ones name the new formula
  have hold_c : ∀ c ∈ K.colorants, c.formulaId ≠ K.lastFormula + 1 := by
    intro c hc heq
    obtain ⟨f, hf, hid⟩ := hK.colorants_owned c hc
    have := hK.formulas_below f hf
    omega
  have hold_b : ∀ b ∈ K.bases, b.formulaId ≠ K.lastFormula + 1 := by
    intro b hb heq
    obtain ⟨f, hf, hid⟩ := hK.bases_owned b hb
    have := hK.formulas_below f hf
    omega
  have hnew_c : ∀ c ∈ Stored.madeFrom (α := Colorant) now (nf.colorants.map fun l =>
      (⟨K.lastFormula + 1, l⟩ : ColorantDraft)) (K.lastColorant + 1),
      c.formulaId = K.lastFormula + 1 := fun _ hc => Colorant.owner_madeFrom hc
  have hnew_b : ∀ b ∈ Stored.madeFrom (α := Base) now (nf.bases.map fun l =>
      (⟨K.lastFormula + 1, l⟩ : BaseDraft)) (K.lastBase + 1),
      b.formulaId = K.lastFormula + 1 := fun _ hb => Base.owner_madeFrom hb
  have hid : (K.nextFormula nf.draft now).id = K.lastFormula + 1 := rfl
  simp only [view, Catalog.create, create, addBases, addColorants, addFormula, List.map_append,
    List.map_singleton, hid]
  congr 2
  · -- the formulas stored before keep their entries
    refine List.map_congr_left fun f hf => ?_
    have hne : f.id ≠ K.lastFormula + 1 := by
      have := hK.formulas_below f hf
      omega
    simp only [entry, List.filter_append, filter_owner_other Colorant.formulaId hnew_c hne,
      filter_owner_other Base.formulaId hnew_b hne, List.append_nil]
  · -- the new formula's entry holds the lines just stored
    simp only [entry, hid, List.filter_append, filter_owner_self Colorant.formulaId hnew_c,
      filter_owner_self Base.formulaId hnew_b, Colorant.entries_madeFrom, Base.entries_madeFrom,
      List.filter_eq_nil_iff.2 fun c hc h => hold_c c hc (of_decide_eq_true h),
      List.filter_eq_nil_iff.2 fun b hb h => hold_b b hb (of_decide_eq_true h), List.nil_append]
    rfl

@[simp] theorem replaceBases_formulas (K : Contents) (fid : Int) (o : Option (List BaseLine))
    (now : Instant) : (K.replaceBases fid o now).formulas = K.formulas := by
  cases o <;> rfl

@[simp] theorem replaceBases_colorants (K : Contents) (fid : Int) (o : Option (List BaseLine))
    (now : Instant) : (K.replaceBases fid o now).colorants = K.colorants := by
  cases o <;> rfl

@[simp] theorem replaceBases_lastColorant (K : Contents) (fid : Int)
    (o : Option (List BaseLine)) (now : Instant) :
    (K.replaceBases fid o now).lastColorant = K.lastColorant := by
  cases o <;> rfl

theorem amend_formulas (K : Contents) (cur : Formula) (a : Amendment) (now : Instant) :
    (K.amend cur a now).formulas =
      K.formulas.map fun f => if f.id = cur.id then Stored.revised f a.fields now else f := by
  simp [amend, reviseFormula]

/-- The colorant lines of a formula after a change: the new ones, numbered on from the mark,
for the formula changed when lines are given, and the old ones otherwise. -/
theorem amend_colorants (K : Contents) (cur : Formula) (a : Amendment) (now : Instant) (g : Int) :
    ((K.amend cur a now).colorants.filter fun c => decide (c.formulaId = g)).map Colorant.entry =
      if g = cur.id then
        (a.colorants.map (numbered (K.lastColorant + 1))).getD
          ((K.colorants.filter fun c => decide (c.formulaId = g)).map Colorant.entry)
      else (K.colorants.filter fun c => decide (c.formulaId = g)).map Colorant.entry := by
  simp only [amend, replaceBases_colorants]
  cases a.colorants with
  | none => simp [replaceColorants, reviseFormula]
  | some ls =>
    have hnew : ∀ c ∈ Stored.madeFrom (α := Colorant) now
        (ls.map fun l => (⟨cur.id, l⟩ : ColorantDraft)) (K.lastColorant + 1),
        c.formulaId = cur.id := fun _ hc => Colorant.owner_madeFrom hc
    simp only [replaceColorants, dropColorants, addColorants, reviseFormula, List.filter_append,
      List.filter_filter, List.map_append, Option.map_some, Option.getD_some]
    split_ifs with hg
    · -- the formula changed: its old lines go, the new ones come
      subst hg
      rw [filter_owner_self Colorant.formulaId hnew, Colorant.entries_madeFrom,
        List.filter_eq_nil_iff.2 fun c _ h => by simp_all]
      rfl
    · -- another formula: its lines stay
      rw [filter_owner_other Colorant.formulaId hnew hg, List.map_nil, List.append_nil]
      congr 1
      exact List.filter_congr fun c _ => by
        by_cases h : c.formulaId = g <;> simp_all

theorem amend_bases (K : Contents) (cur : Formula) (a : Amendment) (now : Instant) (g : Int) :
    ((K.amend cur a now).bases.filter fun b => decide (b.formulaId = g)).map Base.entry =
      if g = cur.id then
        (a.bases.map (numbered (K.lastBase + 1))).getD
          ((K.bases.filter fun b => decide (b.formulaId = g)).map Base.entry)
      else (K.bases.filter fun b => decide (b.formulaId = g)).map Base.entry := by
  have hkeep : ((K.reviseFormula cur a.fields now).replaceColorants cur.id a.colorants now).bases =
      K.bases := by
    simp [reviseFormula]
  have hmark : ((K.reviseFormula cur a.fields now).replaceColorants cur.id a.colorants now).lastBase =
      K.lastBase := by
    simp [reviseFormula]
  simp only [amend]
  cases a.bases with
  | none => simp [replaceBases, reviseFormula]
  | some ls =>
    have hnew : ∀ b ∈ Stored.madeFrom (α := Base) now
        (ls.map fun l => (⟨cur.id, l⟩ : BaseDraft)) (K.lastBase + 1),
        b.formulaId = cur.id := fun _ hb => Base.owner_madeFrom hb
    simp only [replaceBases, dropBases, addBases, hkeep, hmark, List.filter_append,
      List.filter_filter, List.map_append, Option.map_some, Option.getD_some]
    split_ifs with hg
    · -- the formula changed: its old lines go, the new ones come
      subst hg
      rw [filter_owner_self Base.formulaId hnew, Base.entries_madeFrom,
        List.filter_eq_nil_iff.2 fun b _ h => by simp_all]
      rfl
    · -- another formula: its lines stay
      rw [filter_owner_other Base.formulaId hnew hg, List.map_nil, List.append_nil]
      congr 1
      exact List.filter_congr fun b _ => by
        by_cases h : b.formulaId = g <;> simp_all

/-- **Changing a formula changes its entry in the catalog alone**: the texts given, and each
list of lines given, numbered on from the marks. -/
theorem view_amend {id : Int} {cur : Formula}
    (hfind : K.formulas.find? (fun f => decide (f.id = id)) = some cur) (a : Amendment)
    (now : Instant) : (K.amend cur a now).view = K.view.update id a := by
  have hid : cur.id = id := by simpa using List.find?_some hfind
  subst hid
  have hmarks : (K.amend cur a now).lastFormula = K.lastFormula ∧
      (K.amend cur a now).lastColorant =
        K.lastColorant + ((a.colorants.map List.length).getD 0 : Nat) ∧
      (K.amend cur a now).lastBase = K.lastBase + ((a.bases.map List.length).getD 0 : Nat) := by
    obtain ⟨fields, _ | cs, _ | bs⟩ := a <;>
      simp [amend, replaceColorants, replaceBases, addColorants, addBases, dropColorants,
        dropBases, reviseFormula]
  simp only [view, Catalog.update, amend_formulas, List.map_map, hmarks]
  congr 1
  refine List.map_congr_left fun f _ => ?_
  by_cases hf : f.id = cur.id
  · -- the formula changed
    have hrid : (Stored.revised f a.fields now).id = f.id := rfl
    simp only [Function.comp_apply, hf, if_true, entry, hrid, amend_colorants, amend_bases]
    rfl
  · -- every other formula keeps its entry
    simp only [Function.comp_apply, hf, if_false, entry, amend_colorants, amend_bases]

/-- **Removing a formula drops its entry from the catalog**, and the marks stay. -/
theorem view_delete (K : Contents) (id : Int) :
    (((K.dropColorants id).dropBases id).dropFormula id).view = K.view.delete id := by
  simp only [view, Catalog.delete, dropFormula, dropBases, dropColorants, List.filter_map]
  congr 1
  refine (List.map_congr_left fun f hf => ?_).trans (congrArg _ (List.filter_congr fun f _ => ?_))
  · -- a formula that stays keeps its lines
    have hne : f.id ≠ id := by simpa using (List.mem_filter.1 hf).2
    simp only [entry, List.filter_filter]
    congr 3 <;> exact List.filter_congr fun x _ => by
      by_cases h : x.formulaId = f.id <;> simp_all
  · -- the filters of the two sides ask the same of a formula
    simp only [Function.comp_apply, entry, decide_not]
    rfl

/-! ## Each workflow keeps the formulas' times readable -/

theorem sound_create (hK : K.Good) {now : Instant} (hnow : now.Storable) (nf : NewFormula) :
    ∀ f ∈ (K.create nf now).formulas, Stored.Sound f := by
  intro f hf
  simp only [create, addBases, addColorants, addFormula, List.mem_append,
    List.mem_singleton] at hf
  rcases hf with hf | rfl
  · exact hK.sound f hf
  · exact Stored.sound_made (α := Formula) nf.draft _ now hnow

theorem sound_amend (hK : K.Good) {now : Instant} (hnow : now.Storable) (cur : Formula)
    (a : Amendment) : ∀ f ∈ (K.amend cur a now).formulas, Stored.Sound f := by
  intro f hf
  rw [amend_formulas] at hf
  obtain ⟨g, hg, rfl⟩ := List.mem_map.1 hf
  split
  · exact Stored.sound_revised g a.fields now (hK.sound g hg) hnow
  · exact hK.sound g hg

theorem sound_delete (hK : K.Good) (id : Int) :
    ∀ f ∈ (((K.dropColorants id).dropBases id).dropFormula id).formulas, Stored.Sound f :=
  fun f hf => hK.sound f (List.mem_filter.1 hf).1

end Contents

/-- A call that the records' own operations make on a reachable database, at a clock that
can be stored, leaves good contents. -/
theorem good_after {db db' : Database}
    (hdb : Reachable (fun c => c.typed = true) Instant.Storable db) {c : Call}
    (hc : c.typed = true) {now : Instant} (hnow : now.Storable) (h : c.apply now db = db') :
    ∃ K : Contents, db' = K.db ∧ K.Good :=
  (Database.good_of_reachable (h ▸ Reachable.step hdb hc hnow)).contents

/-- Good contents are the only good contents of their database that keep their formulas'
times readable. -/
theorem Contents.good_of_db {K : Contents} {db : Database}
    (hs : ∀ f ∈ K.formulas, Stored.Sound f) (hdb : db = K.db)
    (h : ∃ K' : Contents, db = K'.db ∧ K'.Good) : K.Good := by
  obtain ⟨K', hK'db, hK'⟩ := h
  rwa [Contents.eq_of_db hs hK'.sound (hdb.symm.trans hK'db)]

/-- **The workflows refine the catalog.** On every database that the records' own operations
reach from the initialized one, at a clock that can be stored, the database stands for a
catalog, and each workflow that goes through does to it what the catalog's operation says:
creating adds the formula under the next id and returns what reading it afterwards returns,
changing a formula that is there changes its entry alone and returns what reading it
afterwards returns, and removing drops the entry and answers whether there was one. -/
theorem workflows_refine_catalog {db : Database}
    (hdb : Reachable (fun c => c.typed = true) Instant.Storable db) {now : Instant}
    (hnow : now.Storable) :
    ∃ A : Catalog, db.catalog = .ok A ∧
      (∀ (nf : NewFormula) (d : FormulaDetail) (db' : Database),
        (createFormula nf now).run.run db = (.ok d, db') →
          db'.catalog = .ok (A.create nf) ∧
            getFormulaDetail (A.lastFormula + 1) db' = .ok (some d)) ∧
      (∀ (id : Int) (a : Amendment) (d : FormulaDetail) (db' : Database),
        (updateFormula id a now).run.run db = (.ok d, db') →
          A.holds id = true ∧ db'.catalog = .ok (A.update id a) ∧
            getFormulaDetail id db' = .ok (some d)) ∧
      (∀ (id : Int) (b : Bool) (db' : Database), (deleteFormula id).run.run db = (.ok b, db') →
        b = A.holds id ∧ db'.catalog = .ok (A.delete id)) := by
  obtain ⟨K, rfl, hK⟩ := (Database.good_of_reachable hdb).contents
  refine ⟨K.view, Contents.catalog_db hK.sound, ?create, ?update, ?delete⟩
  case create =>
    intro nf d db' h
    -- a creation that went through broke no rule and found ids
    obtain ⟨hr, hfits⟩ := createFormula_ok_inv hK hnow h
    have hrun := createFormula_eq hK hnow hr hfits
    have hgood := Contents.good_of_db (Contents.sound_create hK hnow nf) rfl
      (good_after hdb (c := .createFormula nf) rfl hnow (by rw [Call.apply, hrun]))
    rw [hrun] at h
    obtain ⟨hd, rfl⟩ := Prod.mk.inj h
    cases hd
    refine ⟨by rw [Contents.catalog_db hgood.sound, Contents.view_create hK], ?_⟩
    -- the new formula is the only one with the next id
    have hnone : K.formulas.find? (fun f => decide (f.id = K.lastFormula + 1)) = none :=
      List.find?_eq_none.2 fun f hf => by
        have := hK.formulas_below f hf
        simp only [decide_eq_true_eq]
        omega
    have hfind : (K.create nf now).formulas.find? (fun f => decide (f.id = K.lastFormula + 1)) =
        some (K.nextFormula nf.draft now) := by
      rw [show (K.create nf now).formulas = K.formulas ++ [K.nextFormula nf.draft now] from rfl,
        List.find?_append, hnone, Option.none_or]
      simp [Contents.nextFormula, Draft.toFormula]
    have hread := Contents.getFormulaDetail_eq hgood (K.lastFormula + 1)
    rw [hfind] at hread
    exact hread
  case update =>
    intro id a d db' h
    have hname : requiredIfSet "Formula" "formula_name" a.fields.name = none := by
      cases hn : requiredIfSet "Formula" "formula_name" a.fields.name with
      | none => rfl
      | some r =>
        rw [updateFormula_error_name hn] at h
        cases h
    cases hf : K.formulas.find? (fun f => decide (f.id = id)) with
    | none =>
      rw [updateFormula_error_missing hK hname hf] at h
      cases h
    | some cur =>
      -- a change that went through broke no rule of its lines and found ids for them
      obtain ⟨hl, hfits⟩ := updateFormula_ok_inv hK hnow hname hf h
      have hrun := updateFormula_eq hK hnow hname hf hl hfits
      have hgood := Contents.good_of_db (Contents.sound_amend hK hnow cur a) rfl
        (good_after hdb (c := .updateFormula id a) rfl hnow (by rw [Call.apply, hrun]))
      rw [hrun] at h
      obtain ⟨hd, rfl⟩ := Prod.mk.inj h
      cases hd
      have hid : cur.id = id := by simpa using List.find?_some hf
      refine ⟨?_, by rw [Contents.catalog_db hgood.sound, Contents.view_amend hf], ?_⟩
      · simpa [Catalog.holds, Contents.view, Contents.entry] using
          ⟨cur, List.mem_of_find?_eq_some hf, decide_eq_true hid⟩
      · -- the formula changed keeps its id, so reading it finds it revised
        rw [Contents.getFormulaDetail_eq hgood, Contents.amend_formulas, List.find?_map]
        have hrid : ∀ f : Formula, (Stored.revised f a.fields now).id = f.id := fun _ => rfl
        have hsame : (K.formulas.find? ((fun f => decide (f.id = id)) ∘
            fun f => if f.id = cur.id then Stored.revised f a.fields now else f)) = some cur := by
          rw [← hf]
          exact List.find?_congr fun f _ => by
            by_cases h : f.id = cur.id <;> simp [h, hrid]
        rw [hsame]
        simp
  case delete =>
    intro id b db' h
    rw [deleteFormula_eq] at h
    obtain ⟨hb, rfl⟩ := Prod.mk.inj h
    cases hb
    refine ⟨?_, by rw [Contents.catalog_db (Contents.sound_delete hK id), Contents.view_delete]⟩
    simp only [Catalog.holds, Contents.view, List.any_map]
    refine Bool.eq_iff_iff.2 ?_
    simp only [List.find?_isSome, List.any_eq_true, Function.comp_apply, Contents.entry]
    exact Iff.rfl

/-- After two formulas are created, the first changed and the second removed, the database
is one the records' own operations reach; its catalog holds the first formula alone, with the
second id taken, and creating a formula there does what the catalog's creation says and puts
it under the third id. -/
theorem workflows_refine_catalog_after_edits :
    let db := (Call.deleteFormula 2).apply ⟨0, 0⟩
      ((Call.updateFormula 1 ⟨{ summary := some "matte" }, some [⟨"Red Oxide", 12⟩], none⟩).apply
        ⟨0, 0⟩
        ((Call.createFormula ⟨⟨"Deep Blue", "", "", "", ""⟩, [], [⟨"Deep Base", "Acrylic"⟩]⟩).apply
          ⟨0, 0⟩
          ((Call.createFormula ⟨⟨"Soft Red", "", "", "", ""⟩, [⟨"Titanium White", 4⟩], []⟩).apply
            ⟨0, 0⟩ Database.initial)))
    Reachable (fun c => c.typed = true) Instant.Storable db ∧ (⟨0, 0⟩ : Instant).Storable ∧
      ∃ A : Catalog, db.catalog = .ok A ∧ A.entries.map Prod.fst = [1] ∧ A.lastFormula = 2 ∧
        ∀ (d : FormulaDetail) (db' : Database),
          (createFormula ⟨⟨"Pale Green", "", "", "", ""⟩, [], []⟩ ⟨0, 0⟩).run.run db = (.ok d, db') →
            db'.catalog = .ok (A.create ⟨⟨"Pale Green", "", "", "", ""⟩, [], []⟩) ∧
              getFormulaDetail 3 db' = .ok (some d) := by
  intro db
  have hreach : Reachable (fun c => c.typed = true) Instant.Storable db :=
    .step (.step (.step (.step .initial rfl (by decide)) rfl (by decide)) rfl (by decide)) rfl
      (by decide)
  obtain ⟨A, hA, hcreate, -, -⟩ :=
    workflows_refine_catalog hreach (by decide : (⟨0, 0⟩ : Instant).Storable)
  have hview : db.catalog.toOption.map (fun A => (A.entries.map Prod.fst, A.lastFormula)) =
      some ([1], 2) := by
    decide +kernel
  rw [hA] at hview
  simp only [Except.toOption, Option.map_some, Option.some.injEq, Prod.mk.injEq] at hview
  refine ⟨hreach, by decide, A, hA, hview.1, hview.2, fun d db' h => ?_⟩
  have := hcreate _ d db' h
  rwa [hview.2] at this

end Store

end Tintbook
