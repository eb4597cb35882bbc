import Mathlib.Data.List.TakeWhile
import Tintbook.Submission.Basic
/-!
# Title case keeps a name

A name given in a submission is trimmed and put in title case before the store sees it, and
the store refuses a blank name. Title case never turns a name into blanks: no case map
sends a character that is not blank to nothing or to a blank one (`caseForm_nonBlank`), so
a text with a character that is not blank keeps one in title case (`titleCase_nonBlank`),
and the tidied title of a field is never blank (`tidyTitle_nonBlank`).

The case maps are tables: a character moves by the first run that covers it, or takes its
entry among the longer images. That a run never reaches a blank is checked against the
blank code points themselves (`blankCodes`): a run reaches a code point only from the one
code point that its distance leads back to (`CaseRun.reaches_of_image`).

## What this module delivers

- `blankCodes`, `isBlank_iff_mem_blankCodes`: the blank characters by code point.
- `isBlankText_eq_false_iff`: a text is not blank when one of its characters is not.
- `CaseMap.AvoidsBlanks`, `CaseMap.ImagesNonBlank`: what the tables of a case map are
  checked for, and the checks of the four tables.
- `caseForm_nonBlank`, `titleCase_nonBlank`, `tidyTitle_nonBlank`.
-/

set_option autoImplicit false

namespace Tintbook.Text

/-! ## Blank characters by code point -/

/-- The code points of the blank characters. -/
def blankCodes : List Nat :=
  [0x9, 0xA, 0xB, 0xC, 0xD, 0x20, 0x85, 0xA0, 0x1680, 0x2000, 0x2001, 0x2002, 0x2003, 0x2004,
    0x2005, 0x2006, 0x2007, 0x2008, 0x2009, 0x200A, 0x2028, 0x2029, 0x202F, 0x205F, 0x3000]

theorem isBlank_iff_mem_blankCodes (c : Char) : isBlank c = true ↔ c.toNat ∈ blankCodes := by
  simp only [isBlank, blankCodes, Bool.or_eq_true, Bool.and_eq_true, decide_eq_true_eq,
    beq_iff_eq, List.mem_cons, List.not_mem_nil, or_false]
  omega

theorem pos_of_mem_blankCodes {n : Nat} (h : n ∈ blankCodes) : 0 < n := by
  simp only [blankCodes, List.mem_cons, List.not_mem_nil, or_false] at h
  omega

/-- A code point that is no character makes the null character. -/
theorem toNat_ofNat_cases (n : Nat) : (Char.ofNat n).toNat = n ∨ (Char.ofNat n).toNat = 0 := by
  unfold Char.ofNat
  by_cases hv : n.isValidChar
  · left
    rw [dif_pos hv]
    rfl
  · right
    rw [dif_neg hv]
    rfl

/-- The character made from a code point is blank only when the code point is a blank one. -/
theorem mem_blankCodes_of_isBlank {n : Nat} (h : isBlank (Char.ofNat n) = true) :
    n ∈ blankCodes := by
  rw [isBlank_iff_mem_blankCodes] at h
  rcases toNat_ofNat_cases n with hn | hn
  · rwa [hn] at h
  · rw [hn] at h
    exact absurd (pos_of_mem_blankCodes h) (Nat.lt_irrefl 0)

/-! ## Blank texts -/

/-- The characters dropped from the front are blank, so what is left is all blank only when
nothing is left. -/
theorem dropBlanks_all_blank {cs : List Char} (h : ∀ c ∈ dropBlanks cs, isBlank c = true) :
    dropBlanks cs = [] := by
  cases hd : dropBlanks cs with
  | nil => rfl
  | cons c rest =>
    change List.dropWhile isBlank cs = c :: rest at hd
    have hhead := List.head_dropWhile_not isBlank (l := cs) (by simp [hd])
    simp only [hd, List.head_cons] at hhead
    rw [h c (by simp [dropBlanks, hd])] at hhead
    cases hhead

theorem dropBlanks_eq_nil_iff (cs : List Char) :
    dropBlanks cs = [] ↔ ∀ c ∈ cs, isBlank c = true := by
  unfold dropBlanks
  exact List.dropWhile_eq_nil_iff

theorem trimBlank_toList (s : String) :
    (trimBlank s).toList = (dropBlanks (dropBlanks s.toList).reverse).reverse := by
  simp [trimBlank]

/-- **A text is not blank exactly when one of its characters is not blank.** -/
theorem isBlankText_eq_false_iff (s : String) :
    isBlankText s = false ↔ ∃ c ∈ s.toList, isBlank c = false := by
  have hempty : isBlankText s = true ↔ ∀ c ∈ s.toList, isBlank c = true := by
    rw [isBlankText, String.isEmpty_iff, ← String.toList_inj, trimBlank_toList,
      String.toList_empty, List.reverse_eq_nil_iff, dropBlanks_eq_nil_iff]
    simp only [List.mem_reverse]
    exact ⟨fun h => (dropBlanks_eq_nil_iff _).1 (dropBlanks_all_blank h),
      fun h c hc => h c (List.dropWhile_subset isBlank hc)⟩
  rw [← Bool.not_eq_true, hempty]
  simp

/-- A field that trims to some text holds a character that is not blank. -/
theorem exists_nonBlank_of_trimmed {s t : String} (h : trimmed s = some t) :
    ∃ c ∈ t.toList, isBlank c = false := by
  cases hne : (trimBlank s).isEmpty with
  | true => simp [trimmed, hne] at h
  | false =>
    simp only [trimmed, hne, Bool.false_eq_true, if_false, Option.some.injEq] at h
    subst h
    rw [trimBlank_toList]
    -- what trimming keeps starts, read backwards, with a character that is not blank
    have hkept : dropBlanks (dropBlanks s.toList).reverse ≠ [] := by
      intro hnil
      rw [← Bool.not_eq_true, String.isEmpty_iff, ← String.toList_inj, trimBlank_toList,
        hnil] at hne
      exact hne rfl
    exact ⟨_, List.mem_reverse.2 (List.head_mem hkept),
      List.head_dropWhile_not isBlank hkept⟩

/-! ## Case maps never reach a blank -/

namespace CaseRun

/-- Whether a run sends some code point to `b`: the only one it could send there is the one
its distance leads back to. -/
def reaches (r : CaseRun) (b : Nat) : Bool := r.image? ((b : Int) - r.delta).toNat == some b

theorem reaches_of_image {r : CaseRun} {n b : Nat} (h : r.image? n = some b) (hb : 0 < b) :
    r.reaches b = true := by
  unfold image? at h
  split at h
  · rename_i hcover
    cases h
    have hback : (((n + r.delta).toNat : Int) - r.delta).toNat = n := by omega
    simp only [reaches, hback, image?, hcover, if_true, beq_self_eq_true]
  · cases h

end CaseRun

namespace CaseMap

/-- No run of a table reaches a blank code point. -/
def AvoidsBlanks (runs : Array CaseRun) : Prop :=
  ∀ r ∈ runs, ∀ b ∈ blankCodes, r.reaches b = false

/-- Every longer image of a table is a nonempty list of characters that are not blank. -/
def ImagesNonBlank (special : List (Nat × List Nat)) : Prop :=
  ∀ p ∈ special, p.2 ≠ [] ∧ ∀ n ∈ p.2, isBlank (Char.ofNat n) = false

instance (runs : Array CaseRun) : Decidable (AvoidsBlanks runs) := by
  unfold AvoidsBlanks
  infer_instance

instance (special : List (Nat × List Nat)) : Decidable (ImagesNonBlank special) := by
  unfold ImagesNonBlank
  infer_instance

-- the four tables are checked in one declaration, so that the kernel evaluates them one
-- after another
set_option maxRecDepth 10000 in
theorem tables_avoid_blanks :
    AvoidsBlanks upperRuns ∧ AvoidsBlanks lowerRuns ∧ ImagesNonBlank upperSpecial ∧
      ImagesNonBlank lowerSpecial := by
  refine ⟨?_, ?_, ?_, ?_⟩ <;> decide +kernel

theorem upperRuns_avoidsBlanks : AvoidsBlanks upperRuns := tables_avoid_blanks.1

theorem lowerRuns_avoidsBlanks : AvoidsBlanks lowerRuns := tables_avoid_blanks.2.1

theorem upperSpecial_nonBlank : ImagesNonBlank upperSpecial := tables_avoid_blanks.2.2.1

theorem lowerSpecial_nonBlank : ImagesNonBlank lowerSpecial := tables_avoid_blanks.2.2.2

theorem lookup_nonBlank {runs : Array CaseRun} (h : AvoidsBlanks runs) {n m : Nat}
    (hl : lookup runs n = some m) : isBlank (Char.ofNat m) = false := by
  obtain ⟨r, hr, him⟩ := Array.exists_of_findSome?_eq_some hl
  cases hb : isBlank (Char.ofNat m) with
  | false => rfl
  | true =>
    have hm := mem_blankCodes_of_isBlank hb
    have hreach := CaseRun.reaches_of_image him (pos_of_mem_blankCodes hm)
    rw [h r hr m hm] at hreach
    cases hreach

/-- A case map whose tables pass the checks sends a character that is not blank to a
nonempty list of characters that are not blank. -/
theorem apply_nonBlank {runs : Array CaseRun} {special : List (Nat × List Nat)}
    (hruns : AvoidsBlanks runs) (hspecial : ImagesNonBlank special) {c : Char}
    (hc : isBlank c = false) :
    apply runs special c ≠ [] ∧ ∀ x ∈ apply runs special c, isBlank x = false := by
  unfold apply
  cases hs : special.lookup c.toNat with
  | some ns =>
    obtain ⟨l₁, l₂, hsplit, -⟩ := List.lookup_eq_some_iff.1 hs
    obtain ⟨hne, hall⟩ := hspecial (c.toNat, ns) (by simp [hsplit])
    refine ⟨fun hnil => hne (List.map_eq_nil_iff.1 hnil), fun x hx => ?_⟩
    obtain ⟨n, hn, rfl⟩ := List.mem_map.1 hx
    exact hall n hn
  | none =>
    cases hl : lookup runs c.toNat with
    | some m =>
      refine ⟨List.cons_ne_nil _ _, fun x hx => ?_⟩
      rw [List.mem_singleton.1 hx]
      exact lookup_nonBlank hruns hl
    | none =>
      refine ⟨List.cons_ne_nil _ _, fun x hx => ?_⟩
      rw [List.mem_singleton.1 hx]
      exact hc

end CaseMap

theorem upperCase_nonBlank {c : Char} (hc : isBlank c = false) :
    upperCase c ≠ [] ∧ ∀ x ∈ upperCase c, isBlank x = false :=
  CaseMap.apply_nonBlank CaseMap.upperRuns_avoidsBlanks CaseMap.upperSpecial_nonBlank hc

theorem lowerCase_nonBlank {c : Char} (hc : isBlank c = false) :
    lowerCase c ≠ [] ∧ ∀ x ∈ lowerCase c, isBlank x = false :=
  CaseMap.apply_nonBlank CaseMap.lowerRuns_avoidsBlanks CaseMap.lowerSpecial_nonBlank hc

/-- The case form title case gives a character that is not blank, capital or small, is a
nonempty list of characters that are not blank. -/
theorem caseForm_nonBlank (start : Bool) {c : Char} (hc : isBlank c = false) :
    (if start then upperCase c else lowerCase c) ≠ [] ∧
      ∀ x ∈ (if start then upperCase c else lowerCase c), isBlank x = false := by
  cases start with
  | true =>
    rw [if_pos rfl]
    exact upperCase_nonBlank hc
  | false =>
    rw [if_neg Bool.false_ne_true]
    exact lowerCase_nonBlank hc

/-- Title case leaves, for a character that is not blank, one that is not blank. -/
theorem titleCaseFrom_nonBlank (start : Bool) {cs : List Char}
    (h : ∃ c ∈ cs, isBlank c = false) : ∃ x ∈ titleCaseFrom start cs, isBlank x = false := by
  -- induction on the characters, the flag of a word start moving along with them
  induction cs generalizing start with
  | nil => simp at h
  | cons c cs ih =>
    obtain ⟨d, hd, hdb⟩ := h
    simp only [titleCaseFrom, List.mem_append]
    rcases List.mem_cons.1 hd with rfl | hd
    · obtain ⟨hne, hall⟩ := caseForm_nonBlank start hdb
      obtain ⟨x, hx⟩ := List.exists_mem_of_ne_nil _ hne
      exact ⟨x, .inl hx, hall x hx⟩
    · obtain ⟨x, hx, hxb⟩ := ih (endsWord c) ⟨_, hd, hdb⟩
      exact ⟨x, .inr hx, hxb⟩

/-- **Title case never makes a text blank.** -/
theorem titleCase_nonBlank {s : String} (h : isBlankText s = false) :
    isBlankText (titleCase s) = false := by
  rw [isBlankText_eq_false_iff] at h ⊢
  simpa [titleCase] using titleCaseFrom_nonBlank true h

end Tintbook.Text

namespace Tintbook

/-- **A name tidied into title case is never blank.** -/
theorem tidyTitle_nonBlank {field : Option String} {v : String} (h : tidyTitle field = some v) :
    Text.isBlankText v = false := by
  obtain ⟨t, ht, rfl⟩ := Option.map_eq_some_iff.1 h
  obtain ⟨s, -, hs⟩ := Option.bind_eq_some_iff.1 ht
  exact Text.titleCase_nonBlank ((Text.isBlankText_eq_false_iff t).2
    (Text.exists_nonBlank_of_trimmed hs))

end Tintbook
