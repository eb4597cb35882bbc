import Tintbook.Proofs.Web.EditForm
/-!
# The command a submission gives

A submission turns into a command in four steps, each of which can fail: its id is read,
then its colorant lines, then its base lines, and then, when no id is given, the name that a
new formula needs must be there. The first step that fails gives the failure
(`Submission.FirstFault`):

1. an id given as text whose trimmed form is not empty and reads as no 64-bit integer is
   refused as no valid id;
2. colorant lines given as text that is not blank, or as JSON, that do not read are a
   malformed payload;
3. so are base lines that do not read;
4. with no id, a name that is absent or blank is required.

A command that goes through is tidy (`Submission.Tidies`): each text given is trimmed, and
an absent or blank one is left out of a change and empty in a new formula; the name and the
customer are put in title case, which keeps them trimmed and not empty; every name and
product of a line is trimmed. So every text of a command is its own trim, every text a change
gives is not empty, and a new formula has a name that its own rule admits
(`submission_command_normal`).

## What this module delivers

- `PayloadField.lines`, `PayloadField.linesOf`: colorant and base lines read one way, with
  `PayloadField.lines_error_iff`, `PayloadField.linesOf_error_iff` and
  `PayloadField.linesOf_ok`.
- `Submission.BadId`, `Submission.BadColorants`, `Submission.BadBases`, `Submission.NoId`,
  `Submission.NameMissing`, and `Submission.FirstFault`.
- The failures of each step: `Submission.idOf_error_iff`, `Submission.colorantsOf_error_iff`,
  `Submission.basesOf_error_iff`, `Submission.commandOf_error_iff`.
- `GivesField`, `GivesText`, `GivesLines`: how a part of a command comes from a field, with
  `givesField_tidy` and `givesField_tidyTitle`.
- `Submission.Tidies`, `Submission.tidies_of_toCommand`.
- `submission_command_normal`, with its witness.
-/

set_option autoImplicit false

namespace Tintbook

/-! ## Trimmed fields -/

theorem Except.exists_ok_iff {ε α : Type} {x : Except ε α} :
    (∃ a, x = .ok a) ↔ ∀ e, x ≠ .error e := by
  cases x <;> simp

/-- A step whose failures are exactly those of its faults goes through exactly when it has
none. -/
theorem Except.exists_ok_iff_of_error_iff {ε α ι : Type} {x : Except ε α} {Bad : ι → Prop}
    {fault : ι → ε} (h : ∀ e, x = .error e ↔ ∃ i, Bad i ∧ e = fault i) :
    (∃ a, x = .ok a) ↔ ∀ i, ¬ Bad i := by
  rw [Except.exists_ok_iff]
  refine ⟨fun hx i hi => hx _ ((h _).2 ⟨i, hi, rfl⟩), fun hno e he => ?_⟩
  obtain ⟨i, hi, -⟩ := (h e).1 he
  exact hno i hi

theorem Text.trimmed_eq_none_iff {v : String} :
    Text.trimmed v = none ↔ Text.isBlankText v = true := by
  unfold Text.trimmed Text.isBlankText
  by_cases hempty : (Text.trimBlank v).isEmpty <;> simp [hempty]

theorem Text.isBlankText_empty : Text.isBlankText "" = true := by
  simp [Text.isBlankText, Text.trimBlank_empty]

theorem tidy_eq_none_iff {x : Option String} :
    tidy x = none ↔ ∀ v ∈ x, Text.isBlankText v = true := by
  cases x <;> simp [tidy, Text.trimmed_eq_none_iff]

theorem tidyTitle_eq_none_iff {x : Option String} :
    tidyTitle x = none ↔ ∀ v ∈ x, Text.isBlankText v = true := by
  simp [tidyTitle, tidy_eq_none_iff]

/-! ## Lines of a payload

Colorant lines and base lines are read from a payload the same way, with their own reader
and their own tidying of each line; `PayloadField.lines` states that way once. -/

namespace PayloadField

variable {β : Type} (read : String → Except Json.ReadError (List β)) (tidyLine : β → β)

/-- The lines of a field as `read` reads its text, each tidied by `tidyLine`: none when the
field is blank text. -/
def lines (p : PayloadField) : Except Failure (Option (List β)) :=
  match p.text with
  | none => .ok none
  | some t =>
    match read t with
    | .ok ls => .ok (some (ls.map tidyLine))
    | .error e => .error (.malformedPayload e)

/-- The lines of a field that may be absent: none when it is. -/
def linesOf (o : Option PayloadField) : Except Failure (Option (List β)) :=
  match o with
  | some p => p.lines read tidyLine
  | none => pure none

theorem colorants_eq_lines (p : PayloadField) :
    p.colorants =
      p.lines Payload.decodeColorants (fun l => { l with name := Text.trimBlank l.name }) := by
  unfold PayloadField.colorants lines
  -- two definitions' matches on one scrutinee agree only once it is a constructor
  cases p.text with
  | none => rfl
  | some t =>
    dsimp only
    cases Payload.decodeColorants t <;> rfl

theorem bases_eq_lines (p : PayloadField) :
    p.bases =
      p.lines Payload.decodeBases
        (fun l => ⟨Text.trimBlank l.base, Text.trimBlank l.product⟩) := by
  unfold PayloadField.bases lines
  cases p.text with
  | none => rfl
  | some t =>
    dsimp only
    cases Payload.decodeBases t <;> rfl

/-- A field has no text exactly when it is given as blank text. -/
theorem text_eq_none_iff {p : PayloadField} :
    p.text = none ↔ ∃ t, p = .encoded t ∧ Text.isBlankText t = true := by
  cases p <;> simp [text]

/-- Lines fail exactly when the field's text does not read. -/
theorem lines_error_iff {p : PayloadField} {f : Failure} :
    p.lines read tidyLine = .error f ↔
      ∃ t e, p.text = some t ∧ read t = .error e ∧ f = .malformedPayload e := by
  unfold lines
  cases p.text with
  | none => simp
  | some t => cases hread : read t <;> simp [hread, eq_comm]

/-- Lines of a field that may be absent fail exactly when it is given and its text does not
read. -/
theorem linesOf_error_iff {o : Option PayloadField} {f : Failure} :
    linesOf read tidyLine o = .error f ↔
      ∃ e, (∃ p t, o = some p ∧ p.text = some t ∧ read t = .error e) ∧
        f = .malformedPayload e := by
  unfold linesOf
  cases o with
  | none => simp [pure, Except.pure]
  | some p =>
    rw [lines_error_iff]
    constructor
    · rintro ⟨t, e, ht, he, rfl⟩
      exact ⟨e, ⟨p, t, rfl, ht, he⟩, rfl⟩
    · rintro ⟨e, ⟨_, t, hp, ht, he⟩, rfl⟩
      cases hp
      exact ⟨t, e, ht, he, rfl⟩

end PayloadField

/-! ## The faults of a submission -/

namespace Submission

/-- The id is given as text whose trimmed form `t` is not empty and reads as no 64-bit
integer. -/
def BadId (s : Submission) (t : String) : Prop :=
  ∃ raw, s.formulaId = some (.text raw) ∧ Text.trimBlank raw = t ∧ t ≠ "" ∧
    ∀ n, readInt64 t ≠ .ok n

/-- The colorant lines are given, as text that is not blank or as JSON, and do not read. -/
def BadColorants (s : Submission) (e : Json.ReadError) : Prop :=
  ∃ f t, s.colorants = some f ∧ f.text = some t ∧ Payload.decodeColorants t = .error e

/-- The base lines are given, as text that is not blank or as JSON, and do not read. -/
def BadBases (s : Submission) (e : Json.ReadError) : Prop :=
  ∃ f t, s.bases = some f ∧ f.text = some t ∧ Payload.decodeBases t = .error e

/-- No id is given, or only as blank text. -/
def NoId (s : Submission) : Prop :=
  s.formulaId = none ∨ ∃ raw, s.formulaId = some (.text raw) ∧ Text.isBlankText raw = true

/-- No id is given, and the name is absent or blank. -/
def NameMissing (s : Submission) : Prop :=
  s.NoId ∧ ∀ x ∈ s.name, Text.isBlankText x = true

/-- The failure a submission gives: that of the first of its faults, in the order the
command is made. -/
inductive FirstFault (s : Submission) : Failure → Prop
  | badId {t : String} : s.BadId t → s.FirstFault (.invalid (.badId t))
  | colorants {e : Json.ReadError} : (∀ t, ¬ s.BadId t) → s.BadColorants e →
      s.FirstFault (.malformedPayload e)
  | bases {e : Json.ReadError} : (∀ t, ¬ s.BadId t) → (∀ e, ¬ s.BadColorants e) →
      s.BadBases e → s.FirstFault (.malformedPayload e)
  | nameMissing : (∀ t, ¬ s.BadId t) → (∀ e, ¬ s.BadColorants e) →
      (∀ e, ¬ s.BadBases e) → s.NameMissing → s.FirstFault (.invalid .nameRequired)

/-! ## How each step fails -/

theorem colorantsOf_eq_linesOf (s : Submission) :
    s.colorantsOf = PayloadField.linesOf Payload.decodeColorants
      (fun l => { l with name := Text.trimBlank l.name }) s.colorants := by
  unfold colorantsOf PayloadField.linesOf
  cases s.colorants with
  | none => rfl
  | some p => exact PayloadField.colorants_eq_lines p

theorem basesOf_eq_linesOf (s : Submission) :
    s.basesOf = PayloadField.linesOf Payload.decodeBases
      (fun l => ⟨Text.trimBlank l.base, Text.trimBlank l.product⟩) s.bases := by
  unfold basesOf PayloadField.linesOf
  cases s.bases with
  | none => rfl
  | some p => exact PayloadField.bases_eq_lines p

theorem readFormulaId_error_iff {raw : String} {f : Failure} :
    readFormulaId raw = .error f ↔ Text.trimBlank raw ≠ "" ∧
      (∀ n, readInt64 (Text.trimBlank raw) ≠ .ok n) ∧
      f = .invalid (.badId (Text.trimBlank raw)) := by
  unfold readFormulaId
  by_cases hempty : (Text.trimBlank raw).isEmpty
  · simp [String.isEmpty_iff.1 hempty]
  · have hne : Text.trimBlank raw ≠ "" := fun h => hempty (String.isEmpty_iff.2 h)
    cases hread : readInt64 (Text.trimBlank raw) with
    | ok n => simp [hempty, hread]
    | error e => simp [hempty, hread, hne, eq_comm]

theorem readFormulaId_ok_none_iff {raw : String} :
    readFormulaId raw = .ok none ↔ Text.isBlankText raw = true := by
  unfold readFormulaId Text.isBlankText
  by_cases hempty : (Text.trimBlank raw).isEmpty
  · simp [hempty]
  · cases hread : readInt64 (Text.trimBlank raw) <;> simp [hempty, hread]

theorem idOf_error_iff {s : Submission} {f : Failure} :
    s.idOf = .error f ↔ ∃ t, s.BadId t ∧ f = .invalid (.badId t) := by
  unfold idOf BadId
  cases hid : s.formulaId with
  | none => simp [pure, Except.pure]
  | some i =>
    cases i with
    | number n => simp [IdField.resolve]
    | text raw =>
      simp only [IdField.resolve, readFormulaId_error_iff, Option.some.injEq, IdField.text.injEq]
      constructor
      · rintro ⟨hne, hread, rfl⟩
        exact ⟨_, ⟨raw, rfl, rfl, hne, hread⟩, rfl⟩
      · rintro ⟨t, ⟨_, rfl, rfl, hne, hread⟩, rfl⟩
        exact ⟨hne, hread, rfl⟩

theorem idOf_ok_none_iff {s : Submission} : s.idOf = .ok none ↔ s.NoId := by
  unfold idOf NoId
  cases hid : s.formulaId with
  | none => simp [pure, Except.pure]
  | some i =>
    cases i with
    | number n => simp [IdField.resolve]
    | text raw => simp [IdField.resolve, readFormulaId_ok_none_iff]

theorem colorantsOf_error_iff {s : Submission} {f : Failure} :
    s.colorantsOf = .error f ↔ ∃ e, s.BadColorants e ∧ f = .malformedPayload e := by
  rw [colorantsOf_eq_linesOf]
  exact PayloadField.linesOf_error_iff _ _

theorem basesOf_error_iff {s : Submission} {f : Failure} :
    s.basesOf = .error f ↔ ∃ e, s.BadBases e ∧ f = .malformedPayload e := by
  rw [basesOf_eq_linesOf]
  exact PayloadField.linesOf_error_iff _ _

/-- The last step fails only for a new formula without a name. -/
theorem commandOf_error_iff {s : Submission} {id : Option Int} {cs : Option (List ColorantLine)}
    {bs : Option (List BaseLine)} {f : Failure} :
    s.commandOf id cs bs = .error f ↔ id = none ∧ tidyTitle s.name = none ∧
      f = .invalid .nameRequired := by
  unfold commandOf
  cases id with
  | some n => simp [pure, Except.pure]
  | none =>
    cases tidyTitle s.name with
    | none => simp [throw, throwThe, MonadExceptOf.throw, eq_comm]
    | some v => simp [pure, Except.pure]

/-! ## Which failure a submission gives -/

/-- **A submission fails with its first fault**, in the order the command is made. -/
theorem toCommand_error_iff (s : Submission) (f : Failure) :
    s.toCommand = .error f ↔ s.FirstFault f := by
  -- each step goes through exactly when the submission lacks its fault
  have hid : (∃ o, s.idOf = .ok o) ↔ ∀ t, ¬ s.BadId t :=
    Except.exists_ok_iff_of_error_iff fun _ => idOf_error_iff
  have hcs : (∃ o, s.colorantsOf = .ok o) ↔ ∀ e, ¬ s.BadColorants e :=
    Except.exists_ok_iff_of_error_iff fun _ => colorantsOf_error_iff
  have hbs : (∃ o, s.basesOf = .ok o) ↔ ∀ e, ¬ s.BadBases e :=
    Except.exists_ok_iff_of_error_iff fun _ => basesOf_error_iff
  rw [toCommand_steps]
  constructor
  · -- the step that failed is the first whose fault the submission has
    intro h
    rcases Except.bind_error_iff.1 h with hi | ⟨o, hi, h⟩
    · obtain ⟨t, ht, rfl⟩ := idOf_error_iff.1 hi
      exact .badId ht
    rcases Except.bind_error_iff.1 h with hc | ⟨cs, hc, h⟩
    · obtain ⟨e, he, rfl⟩ := colorantsOf_error_iff.1 hc
      exact .colorants (hid.1 ⟨o, hi⟩) he
    rcases Except.bind_error_iff.1 h with hb | ⟨bs, hb, h⟩
    · obtain ⟨e, he, rfl⟩ := basesOf_error_iff.1 hb
      exact .bases (hid.1 ⟨o, hi⟩) (hcs.1 ⟨cs, hc⟩) he
    obtain ⟨rfl, hname, rfl⟩ := commandOf_error_iff.1 h
    exact .nameMissing (hid.1 ⟨_, hi⟩) (hcs.1 ⟨cs, hc⟩) (hbs.1 ⟨bs, hb⟩)
      ⟨idOf_ok_none_iff.1 hi, tidyTitle_eq_none_iff.1 hname⟩
  · -- the steps before the first fault go through, and its step fails
    intro h
    cases h with
    | badId ht => rw [idOf_error_iff.2 ⟨_, ht, rfl⟩]; rfl
    | colorants hnoId he =>
      obtain ⟨o, ho⟩ := hid.2 hnoId
      rw [ho, Except.bind_error_iff]
      exact .inr ⟨o, rfl, by rw [colorantsOf_error_iff.2 ⟨_, he, rfl⟩]; rfl⟩
    | bases hnoId hnoCs he =>
      obtain ⟨o, ho⟩ := hid.2 hnoId
      obtain ⟨cs, hc⟩ := hcs.2 hnoCs
      rw [ho, Except.bind_error_iff]
      refine .inr ⟨o, rfl, ?_⟩
      rw [hc, Except.bind_error_iff]
      exact .inr ⟨cs, rfl, by rw [basesOf_error_iff.2 ⟨_, he, rfl⟩]; rfl⟩
    | nameMissing hnoId hnoCs hnoBs hmissing =>
      obtain ⟨cs, hc⟩ := hcs.2 hnoCs
      obtain ⟨bs, hb⟩ := hbs.2 hnoBs
      rw [idOf_ok_none_iff.2 hmissing.1, Except.bind_error_iff]
      refine .inr ⟨none, rfl, ?_⟩
      rw [hc, Except.bind_error_iff]
      refine .inr ⟨cs, rfl, ?_⟩
      rw [hb, Except.bind_error_iff]
      exact .inr ⟨bs, rfl,
        commandOf_error_iff.2 ⟨rfl, tidyTitle_eq_none_iff.2 hmissing.2, rfl⟩⟩

end Submission

/-! ## How the parts of a command come from the fields -/

/-- A text of a change as its field gives it: nothing when the field is absent or blank, and
otherwise `form` of the field's trimmed text, which is its own trim and not empty. -/
def GivesField (form : String → String) (given out : Option String) : Prop :=
  (out = none ↔ ∀ x ∈ given, Text.isBlankText x = true) ∧
    ∀ v ∈ out, ∃ x ∈ given,
      v = form (Text.trimBlank x) ∧ Text.trimBlank v = v ∧ v ≠ ""

/-- A text of a new formula as its field gives it: the empty text when the field is absent
or blank, and otherwise `form` of the field's trimmed text; either way its own trim. -/
def GivesText (form : String → String) (given : Option String) (out : String) : Prop :=
  ((∀ x ∈ given, Text.isBlankText x = true) → out = "") ∧
    (∀ x ∈ given, Text.isBlankText x = false → out = form (Text.trimBlank x)) ∧
    Text.trimBlank out = out

/-- Lines as their payload gives them: none exactly when the payload is absent or blank
text. -/
def GivesLines {β : Type} (given : Option PayloadField) (out : Option (List β)) : Prop :=
  out = none ↔ given = none ∨ ∃ t, given = some (.encoded t) ∧ Text.isBlankText t = true

/-- A text that is not blank is not empty. -/
theorem ne_empty_of_nonBlank {v : String} (h : Text.isBlankText v = false) : v ≠ "" := by
  rintro rfl
  rw [Text.isBlankText_empty] at h
  cases h

theorem givesField_tidy (x : Option String) : GivesField (fun v => v) x (tidy x) := by
  refine ⟨tidy_eq_none_iff, fun v hv => ?_⟩
  obtain ⟨y, hy, htrim⟩ := Option.bind_eq_some_iff.1 hv
  have hv' := Text.trimBlank_of_trimmed htrim
  refine ⟨y, hy, hv'.symm, hv' ▸ Text.trimBlank_trimBlank y, ne_empty_of_nonBlank ?_⟩
  exact trimmed_nonBlank htrim

/-- Title case of a trimmed field keeps it trimmed and not empty. -/
theorem givesField_tidyTitle (x : Option String) :
    GivesField Text.titleCase x (tidyTitle x) := by
  refine ⟨tidyTitle_eq_none_iff, fun v hv => ?_⟩
  obtain ⟨t, ht, rfl⟩ := Option.map_eq_some_iff.1 hv
  obtain ⟨y, hy, htrim⟩ := Option.bind_eq_some_iff.1 ht
  have ht' := Text.trimBlank_of_trimmed htrim
  have htight : Text.Tight t.toList := ht' ▸ Text.tight_trimBlank y
  exact ⟨y, hy, by rw [ht'], Text.trimBlank_titleCase htight,
    ne_empty_of_nonBlank (tidyTitle_nonBlank hv)⟩

/-- A text of a new formula is what its field gives a change, or the empty text. -/
theorem GivesField.getD {form : String → String} {given out : Option String}
    (h : GivesField form given out) : GivesText form given (out.getD "") := by
  refine ⟨fun hblank => by rw [h.1.2 hblank]; rfl, fun x hx hx' => ?_, ?_⟩
  · -- a field that is not blank gives some text
    cases hout : out with
    | none =>
      have := h.1.1 hout x hx
      rw [hx'] at this
      cases this
    | some v =>
      obtain ⟨y, hy, rfl, -⟩ := h.2 v hout
      cases Option.mem_unique hx hy
      rfl
  · cases hout : out with
    | none => exact Text.trimBlank_empty
    | some v =>
      obtain ⟨-, -, -, htrim, -⟩ := h.2 v hout
      exact htrim

namespace PayloadField

variable {β : Type} {read : String → Except Json.ReadError (List β)} {tidyLine : β → β}
  {P : β → Prop}

/-- Lines that go through are none exactly when the field has no text, and each line has
every property its tidying gives. -/
theorem lines_ok (hP : ∀ l, P (tidyLine l)) {p : PayloadField} {o : Option (List β)}
    (h : p.lines read tidyLine = .ok o) :
    (o = none ↔ p.text = none) ∧ ∀ ls ∈ o, ∀ l ∈ ls, P l := by
  unfold lines at h
  cases ht : p.text with
  | none =>
    simp only [ht, Except.ok.injEq] at h
    simp [← h]
  | some t =>
    cases hread : read t with
    | error e => simp [ht, hread] at h
    | ok ls =>
      simp only [ht, hread, Except.ok.injEq] at h
      subst h
      simp [hP]

/-- Lines of a field that may be absent, when they go through, are as the field gives them. -/
theorem linesOf_ok (hP : ∀ l, P (tidyLine l)) {o : Option PayloadField} {out : Option (List β)}
    (h : linesOf read tidyLine o = .ok out) :
    GivesLines o out ∧ ∀ ls ∈ out, ∀ l ∈ ls, P l := by
  unfold linesOf at h
  cases o with
  | none =>
    simp only [pure, Except.pure, Except.ok.injEq] at h
    subst h
    simp [GivesLines]
  | some p =>
    obtain ⟨hnone, hgood⟩ := lines_ok hP h
    exact ⟨by simp [GivesLines, hnone, text_eq_none_iff], hgood⟩

end PayloadField

namespace Submission

/-- Colorant lines that go through are as their payload gives them, with trimmed names. -/
theorem colorantsOf_ok {s : Submission} {cs : Option (List ColorantLine)}
    (h : s.colorantsOf = .ok cs) :
    GivesLines s.colorants cs ∧ ∀ ls ∈ cs, ∀ l ∈ ls, Text.trimBlank l.name = l.name := by
  rw [colorantsOf_eq_linesOf] at h
  exact PayloadField.linesOf_ok (fun l => Text.trimBlank_trimBlank l.name) h

/-- Base lines that go through are as their payload gives them, with trimmed names and
products. -/
theorem basesOf_ok {s : Submission} {bs : Option (List BaseLine)} (h : s.basesOf = .ok bs) :
    GivesLines s.bases bs ∧ ∀ ls ∈ bs, ∀ l ∈ ls,
      Text.trimBlank l.base = l.base ∧ Text.trimBlank l.product = l.product := by
  rw [basesOf_eq_linesOf] at h
  exact PayloadField.linesOf_ok
    (fun l => ⟨Text.trimBlank_trimBlank l.base, Text.trimBlank_trimBlank l.product⟩) h

/-! ## Tidy commands -/

/-- What a change made of a submission holds: the id given, each text as its field gives it,
the name and the customer in title case, the lines as their payloads give them, and every
name and product of a line its own trim. -/
structure UpdateTidy (s : Submission) (n : Int) (a : Amendment) : Prop where
  id : s.idOf = .ok (some n)
  name : GivesField Text.titleCase s.name a.fields.name
  number : GivesField (fun v => v) s.number a.fields.number
  customer : GivesField Text.titleCase s.customer a.fields.customer
  summary : GivesField (fun v => v) s.summary a.fields.summary
  notes : GivesField (fun v => v) s.notes a.fields.notes
  colorants : GivesLines s.colorants a.colorants
  bases : GivesLines s.bases a.bases
  colorantNames : ∀ ls ∈ a.colorants, ∀ l ∈ ls, Text.trimBlank l.name = l.name
  baseNames : ∀ ls ∈ a.bases, ∀ l ∈ ls,
    Text.trimBlank l.base = l.base ∧ Text.trimBlank l.product = l.product

/-- What a new formula made of a submission holds: no id was given; each text as its field
gives it, the name and the customer in title case; a name that is not blank, so that the
formula's own rule admits it; no lines where their payload is absent or blank; and every name
and product of a line its own trim. -/
structure CreateTidy (s : Submission) (nf : NewFormula) : Prop where
  noId : s.NoId
  name : GivesText Text.titleCase s.name nf.draft.name
  named : Text.isBlankText nf.draft.name = false
  admitted : @Store.Record.check Formula _ nf.draft = none
  number : GivesText (fun v => v) s.number nf.draft.number
  customer : GivesText Text.titleCase s.customer nf.draft.customer
  summary : GivesText (fun v => v) s.summary nf.draft.summary
  notes : GivesText (fun v => v) s.notes nf.draft.notes
  colorants : (s.colorants = none ∨ ∃ t, s.colorants = some (.encoded t) ∧
    Text.isBlankText t = true) → nf.colorants = []
  bases : (s.bases = none ∨ ∃ t, s.bases = some (.encoded t) ∧
    Text.isBlankText t = true) → nf.bases = []
  colorantNames : ∀ l ∈ nf.colorants, Text.trimBlank l.name = l.name
  baseNames : ∀ l ∈ nf.bases,
    Text.trimBlank l.base = l.base ∧ Text.trimBlank l.product = l.product

/-- A command is tidy for the submission it came from. -/
def Tidies (s : Submission) : Command → Prop
  | .update n a => UpdateTidy s n a
  | .create nf => CreateTidy s nf

/-- **A command that a submission gives is tidy.** -/
theorem tidies_of_toCommand {s : Submission} {c : Command} (h : s.toCommand = .ok c) :
    s.Tidies c := by
  rw [toCommand_steps] at h
  obtain ⟨o, hi, h⟩ := Store.Except.bind_ok_iff.1 h
  obtain ⟨cs, hc, h⟩ := Store.Except.bind_ok_iff.1 h
  obtain ⟨bs, hb, h⟩ := Store.Except.bind_ok_iff.1 h
  obtain ⟨hcs, hcsNames⟩ := colorantsOf_ok hc
  obtain ⟨hbs, hbsNames⟩ := basesOf_ok hb
  unfold commandOf at h
  cases o with
  | some n =>
    -- a change: each part is what its field gives
    simp only [pure, Except.pure, Except.ok.injEq] at h
    subst h
    exact ⟨hi, givesField_tidyTitle _, givesField_tidy _, givesField_tidyTitle _,
      givesField_tidy _, givesField_tidy _, hcs, hbs, hcsNames, hbsNames⟩
  | none =>
    -- a new formula: it has a name, and the other texts default to the empty text
    cases hname : tidyTitle s.name with
    | none =>
      rw [hname] at h
      cases h
    | some v =>
      simp only [hname, pure, Except.pure, Except.ok.injEq] at h
      subst h
      have hv : Text.isBlankText v = false := tidyTitle_nonBlank hname
      have hgives := (givesField_tidyTitle s.name).getD
      rw [hname] at hgives
      refine ⟨idOf_ok_none_iff.1 hi, hgives, hv, ?_, (givesField_tidy _).getD,
        (givesField_tidyTitle _).getD, (givesField_tidy _).getD, (givesField_tidy _).getD,
        fun hnone => by rw [hcs.2 hnone]; rfl, fun hnone => by rw [hbs.2 hnone]; rfl,
        fun l hl => ?_, fun l hl => ?_⟩
      · simp [Store.Record.check, Store.required, hv]
      · cases cs with
        | none => cases hl
        | some ls => exact hcsNames ls rfl l hl
      · cases bs with
        | none => cases hl
        | some ls => exact hbsNames ls rfl l hl

end Submission

/-! ## The command of a submission -/

/-- **A submission gives its command or its first fault.** For every submission, making
its command fails exactly in the first case that applies of: an id given as text whose
trimmed form is not empty and no 64-bit integer (`formula_id '<t>' is not a valid id`),
colorant lines that do not read, base lines that do not read, and, with no id, a name that
is absent or blank (`formula_name is required`). A command that goes through is tidy: every
text in it is its own trim, the name and the customer are the title case of the trimmed
input, a change gives only texts that are not empty and leaves out blank or absent fields
and payloads, and a new formula takes the empty text and no lines for them instead and has a
name its own rule admits. -/
theorem submission_command_normal (s : Submission) :
    (∀ f, s.toCommand = .error f ↔ s.FirstFault f) ∧
      (∀ c, s.toCommand = .ok c → s.Tidies c) ∧
      (∀ t, (Rejection.badId t).message = "formula_id '" ++ t ++ "' is not a valid id") ∧
      Rejection.nameRequired.message = "formula_name is required" :=
  ⟨s.toCommand_error_iff, fun _ => Submission.tidies_of_toCommand, fun _ => rfl, rfl⟩

/-- A new formula typed with blanks around its texts and its colorant lines as text gives a
command, which is tidy. -/
theorem submission_command_normal_soft_red :
    let s : Submission :=
      { name := some " soft red ", number := some " SR-1 ", customer := some " acme ",
        summary := some "   ",
        colorants := some (.encoded "[\x7b\"colorant_name\": \" umber \"\x7d]") }
    ∃ c, s.toCommand = .ok c ∧ s.Tidies c := by
  intro s
  have hok : s.toCommand.isOk = true := by decide +kernel
  cases hc : s.toCommand with
  | error f =>
    rw [hc] at hok
    cases hok
  | ok c => exact ⟨c, rfl, (submission_command_normal s).2.1 c hc⟩

end Tintbook
