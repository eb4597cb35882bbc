import Tintbook.Proofs.Text.TitleCase
/-!
# Tidying a field twice

A field is tidied before it is stored: trimmed of blanks at both ends, and, for a name or a
customer, put in title case as well. The edit form sends the stored texts back, so each of
them is tidied a second time.

Trimming twice is trimming once (`trimBlank_trimBlank`): what trimming leaves is *tight*,
starting and ending with characters that are not blank, and trimming leaves a tight text as
it is. Title case keeps a text tight (`trimBlank_titleCase`), since no case form is empty or
blank and the last character's form ends the result (`titleCaseFrom_concat`). So tidying a
tidied title again does nothing but put it in title case once more (`tidyTitle_retidy`): it
comes back as it was exactly when title case leaves it as it is.

## What this module delivers

- `Text.Tight`: a list of characters that neither starts nor ends with a blank.
- `Text.tight_trimBlank`, `Text.trimBlank_eq_self`, `Text.trimBlank_trimBlank`.
- `Text.trimmed_retrim`: a trimmed field trims to itself.
- `Text.tight_titleCaseFrom`, `Text.trimBlank_titleCase`.
- `tidyTitle_retidy`: a tidied title tidies to its own title case.
-/

set_option autoImplicit false

namespace Tintbook.Text

/-! ## Tight texts -/

/-- A list of characters is tight when it neither starts nor ends with a blank. -/
def Tight (cs : List Char) : Prop :=
  (∀ c ∈ cs.head?, isBlank c = false) ∧ ∀ c ∈ cs.getLast?, isBlank c = false

/-- Characters none of which is blank are tight. -/
theorem tight_of_nonBlank {cs : List Char} (h : ∀ c ∈ cs, isBlank c = false) : Tight cs :=
  ⟨fun c hc => h c (List.mem_of_mem_head? hc), fun c hc => h c (List.mem_of_mem_getLast? hc)⟩

/-- What dropping the leading blanks leaves starts with a character that is not blank. -/
theorem dropBlanks_head (cs : List Char) : ∀ c ∈ (dropBlanks cs).head?, isBlank c = false := by
  intro c hc
  have hne : dropBlanks cs ≠ [] := List.ne_nil_of_mem (List.mem_of_mem_head? hc)
  rw [List.head?_eq_some_head hne, Option.mem_some_iff] at hc
  subst hc
  exact List.head_dropWhile_not isBlank hne

/-- Dropping the leading blanks keeps the last character, unless it drops everything. -/
theorem dropBlanks_getLast? {cs : List Char} (h : dropBlanks cs ≠ []) :
    (dropBlanks cs).getLast? = cs.getLast? := by
  unfold dropBlanks at *
  rw [List.getLast?_eq_some_getLast h, (List.dropWhile_suffix isBlank).getLast h,
    List.getLast?_eq_some_getLast]

/-- Characters that do not start with a blank lose nothing to `dropBlanks`. -/
theorem dropBlanks_of_head {cs : List Char} (h : ∀ c ∈ cs.head?, isBlank c = false) :
    dropBlanks cs = cs := by
  cases cs with
  | nil => rfl
  | cons c cs => exact List.dropWhile_cons_of_neg (by simp [h c rfl])

/-- **Trimming leaves a tight text.** -/
theorem tight_trimBlank (s : String) : Tight (trimBlank s).toList := by
  rw [trimBlank_toList]
  constructor
  · -- the first character kept is the last one that the front trim kept
    intro c hc
    rw [List.head?_reverse] at hc
    have hne : dropBlanks (dropBlanks s.toList).reverse ≠ [] :=
      List.ne_nil_of_mem (List.mem_of_mem_getLast? hc)
    rw [dropBlanks_getLast? hne, List.getLast?_reverse] at hc
    exact dropBlanks_head _ c hc
  · intro c hc
    rw [List.getLast?_reverse] at hc
    exact dropBlanks_head _ c hc

/-- Trimming leaves a tight text as it is. -/
theorem trimBlank_eq_self {s : String} (h : Tight s.toList) : trimBlank s = s := by
  rw [← String.toList_inj, trimBlank_toList, dropBlanks_of_head h.1,
    dropBlanks_of_head (by rw [List.head?_reverse]; exact h.2), List.reverse_reverse]

theorem trimBlank_empty : trimBlank "" = "" := trimBlank_eq_self ⟨by simp, by simp⟩

/-- **Trimming twice is trimming once.** -/
theorem trimBlank_trimBlank (s : String) : trimBlank (trimBlank s) = trimBlank s :=
  trimBlank_eq_self (tight_trimBlank s)

theorem trimBlank_of_trimmed {s v : String} (h : trimmed s = some v) : trimBlank s = v := by
  dsimp only [trimmed] at h
  split at h
  · cases h
  · exact Option.some.inj h

/-- A field that trims to a text holds a text that trims to itself. -/
theorem trimmed_retrim {s v : String} (h : trimmed s = some v) : trimmed v = some v := by
  have hv := trimBlank_of_trimmed h
  subst hv
  unfold trimmed at h ⊢
  rwa [trimBlank_trimBlank]

/-! ## Title case keeps a text tight -/

/-- Title case of characters with one more at the end: the case form of the last one comes
last, capital or small as the characters before it say. -/
theorem titleCaseFrom_concat (start : Bool) (cs : List Char) (c : Char) :
    ∃ b : Bool, titleCaseFrom start (cs ++ [c]) =
      titleCaseFrom start cs ++ (if b then upperCase c else lowerCase c) := by
  -- induction on the characters before the last, the flag of a word start moving along
  induction cs generalizing start with
  | nil => exact ⟨start, by simp [titleCaseFrom]⟩
  | cons d cs ih =>
    obtain ⟨b, hb⟩ := ih (endsWord d)
    exact ⟨b, by simp [titleCaseFrom, hb]⟩

/-- **Title case keeps characters tight**: the first and the last character's case forms
are neither empty nor blank, and they start and end the result. -/
theorem tight_titleCaseFrom (start : Bool) {cs : List Char} (h : Tight cs) :
    Tight (titleCaseFrom start cs) := by
  constructor
  · intro x hx
    cases cs with
    | nil => simp [titleCaseFrom] at hx
    | cons c cs =>
      obtain ⟨hne, hall⟩ := caseForm_nonBlank start (h.1 c rfl)
      rw [titleCaseFrom, List.head?_append, List.head?_eq_some_head hne, Option.some_or,
        Option.mem_some_iff] at hx
      exact hx ▸ hall _ (List.head_mem hne)
  · intro x hx
    rcases List.eq_nil_or_concat cs with rfl | ⟨init, c, rfl⟩
    · simp [titleCaseFrom] at hx
    · rw [List.concat_eq_append] at h hx
      obtain ⟨b, hb⟩ := titleCaseFrom_concat start init c
      obtain ⟨hne, hall⟩ := caseForm_nonBlank b (h.2 c (by simp))
      rw [hb, List.getLast?_append, List.getLast?_eq_some_getLast hne, Option.some_or,
        Option.mem_some_iff] at hx
      exact hx ▸ hall _ (List.getLast_mem hne)

/-- Title case of a tight text needs no trimming. -/
theorem trimBlank_titleCase {s : String} (h : Tight s.toList) :
    trimBlank (titleCase s) = titleCase s :=
  trimBlank_eq_self (by simpa [titleCase] using tight_titleCaseFrom true h)

end Tintbook.Text

namespace Tintbook

/-- **Tidying a tidied title again puts it in title case once more.** So a stored name comes
back from a second tidying as it was exactly when title case leaves it as it is. -/
theorem tidyTitle_retidy {x v : String} (h : tidyTitle (some x) = some v) :
    tidyTitle (some v) = some (Text.titleCase v) := by
  obtain ⟨t, ht, rfl⟩ := Option.map_eq_some_iff.1 h
  have htrimmed : Text.trimmed x = some t := by
    rw [tidy, Option.bind_some] at ht
    exact ht
  have htight : Text.Tight t.toList := by
    rw [← Text.trimBlank_of_trimmed htrimmed]
    exact Text.tight_trimBlank x
  have htrim := Text.trimBlank_titleCase htight
  -- the title is not blank, so it is its own trimmed field
  have hfilled : (Text.titleCase t).isEmpty = false := by
    have hblank := tidyTitle_nonBlank h
    rwa [Text.isBlankText, htrim] at hblank
  simp [tidyTitle, tidy, Text.trimmed, htrim, hfilled]

end Tintbook
