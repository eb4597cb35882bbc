import Tintbook.Proofs.Text.TitleCase
/-!
# Case forms taken twice

Taking a case form of a case form changes little: every character of a small form is its own
small form (`lowerCase_lowerCase`), a capital form begins with a character that is its own
capital form (`upperCase_head`), and the characters after it have small forms of one
character (`lowerCase_single_of_mem_tail`). The blanks and the hyphen, which end words, are
their own capital and small forms, and no case form of another character holds one
(`endsWord_of_mem_caseForm`).

The tables are checked rather than enumerated. A run sends the code points it covers to an
interval of code points, every one of them or every second one; no such interval meets a run
of the same table (`CaseMap.imagesMissRuns`) or a key of its longer images
(`CaseMap.keysAvoidImages`). Each check compares the ends of two runs, so the tables are
checked pair by pair, and a code point that no run covers and no longer image has is its own
image (`CaseMap.apply_of_fixes`).

## What this module delivers

- `CaseMap.apply_cases`: what a case map does to one character.
- `CaseRun.imagesMiss`, `CaseRun.imagesAvoid`, `CaseMap.fixes`: the checks, with their
  soundness (`CaseRun.image?_eq_none_of_imagesMiss`, `CaseMap.lookup_image_fixes`).
- `lowerCase_lowerCase`, `upperCase_head`, `lowerCase_single_of_mem_tail`.
- `upperCase_of_endsWord`, `lowerCase_of_endsWord`, `endsWord_of_mem_caseForm`.
-/

set_option autoImplicit false

namespace Tintbook.Text

namespace CaseRun

/-- The images of a run lie between the images of its ends; a run of every second code point,
or of one code point, whose first image is a code point keeps the parity of that image. -/
theorem image?_span {r : CaseRun} {n p : Nat} (h : r.image? n = some p) :
    (r.lo + r.delta).toNat ≤ p ∧ p ≤ (r.hi + r.delta).toNat ∧
      (r.stride = 2 ∨ r.lo = r.hi → 0 < (r.lo + r.delta).toNat →
        (p + (r.lo + r.delta).toNat) % 2 = 0) := by
  unfold image? at h
  split at h
  · rename_i hcover
    simp only [Bool.and_eq_true, decide_eq_true_eq, beq_iff_eq] at hcover
    obtain ⟨⟨hlo, hhi⟩, hmod⟩ := hcover
    cases h
    refine ⟨by omega, by omega, ?_⟩
    rintro (hs | hs) hpos
    · rw [hs] at hmod
      omega
    · omega
  · cases h

/-- Whether the images of `r` miss every code point that `s` covers: the intervals lie apart,
or both runs step by two from code points of opposite parity. -/
def imagesMiss (r s : CaseRun) : Bool :=
  Nat.blt (r.hi + r.delta).toNat s.lo || Nat.blt s.hi (r.lo + r.delta).toNat ||
    ((r.stride == 2 || r.lo == r.hi) && s.stride == 2 && Nat.blt 0 (r.lo + r.delta).toNat &&
      ((r.lo + r.delta).toNat + s.lo) % 2 == 1)

theorem image?_eq_none_of_imagesMiss {r s : CaseRun} (hmiss : r.imagesMiss s = true) {n p : Nat}
    (hp : r.image? n = some p) : s.image? p = none := by
  obtain ⟨hlo, hhi, hpar⟩ := image?_span hp
  unfold image?
  rw [if_neg]
  simp only [Bool.and_eq_true, decide_eq_true_eq, beq_iff_eq, not_and]
  rintro ⟨hslo, hshi⟩ hsmod
  simp only [imagesMiss, Bool.or_eq_true, Bool.and_eq_true, Nat.blt_eq, beq_iff_eq] at hmiss
  rcases hmiss with (hapart | hapart) | ⟨⟨⟨hr, hs⟩, hpos⟩, hodd⟩
  · omega
  · omega
  · -- the parities of the two runs cannot meet
    have hr' : r.stride = 2 ∨ r.lo = r.hi := by
      rcases hr with hr | hr
      · exact .inl hr
      · exact .inr hr
    have := hpar hr' hpos
    rw [hs] at hsmod
    omega

/-- Whether a code point lies outside the interval of the images of `r`. -/
def imagesAvoid (r : CaseRun) (k : Nat) : Bool :=
  Nat.blt k (r.lo + r.delta).toNat || Nat.blt (r.hi + r.delta).toNat k

theorem ne_of_imagesAvoid {r : CaseRun} {k : Nat} (havoid : r.imagesAvoid k = true) {n p : Nat}
    (hp : r.image? n = some p) : p ≠ k := by
  obtain ⟨hlo, hhi, -⟩ := image?_span hp
  simp only [imagesAvoid, Bool.or_eq_true, Nat.blt_eq] at havoid
  omega

end CaseRun

namespace CaseMap

/-! ## What a case map does to one character -/

/-- A case map gives a character its longer image, or the image of the first run that covers
it, or leaves it as it is. -/
theorem apply_cases (runs : Array CaseRun) (special : List (Nat × List Nat)) (c : Char) :
    (∃ ns, special.lookup c.toNat = some ns ∧ apply runs special c = ns.map Char.ofNat) ∨
    (∃ m, special.lookup c.toNat = none ∧ lookup runs c.toNat = some m ∧
      apply runs special c = [Char.ofNat m]) ∨
    (special.lookup c.toNat = none ∧ lookup runs c.toNat = none ∧
      apply runs special c = [c]) := by
  unfold apply
  cases hs : special.lookup c.toNat with
  | some ns => exact .inl ⟨ns, rfl, rfl⟩
  | none =>
    cases hl : lookup runs c.toNat with
    | some m => exact .inr (.inl ⟨m, rfl, rfl, rfl⟩)
    | none => exact .inr (.inr ⟨rfl, rfl, rfl⟩)

/-- A longer image found for a key is an entry of its table. -/
theorem mem_of_lookup {special : List (Nat × List Nat)} {k : Nat} {ns : List Nat}
    (h : special.lookup k = some ns) : (k, ns) ∈ special := by
  obtain ⟨l₁, l₂, hsplit, -⟩ := List.lookup_eq_some_iff.1 h
  simp [hsplit]

/-- Whether a code point is its own image: no longer image and no run is given for it. -/
def fixes (runs : Array CaseRun) (special : List (Nat × List Nat)) (n : Nat) : Bool :=
  (special.lookup n).isNone && runs.toList.all fun r => (r.image? n).isNone

theorem lookup_eq_none_iff (runs : Array CaseRun) (n : Nat) :
    lookup runs n = none ↔ ∀ r ∈ runs.toList, r.image? n = none := by
  rw [lookup, ← Array.findSome?_toList, List.findSome?_eq_none_iff]

theorem apply_of_fixes {runs : Array CaseRun} {special : List (Nat × List Nat)} {c : Char}
    (h : fixes runs special c.toNat = true) : apply runs special c = [c] := by
  simp only [fixes, Bool.and_eq_true, Option.isNone_iff_eq_none, List.all_eq_true] at h
  unfold apply
  rw [h.1, (lookup_eq_none_iff runs c.toNat).2 h.2]

/-- A code point that is its own image makes a character that is its own image, when the
null character, which stands for a code point that is no character, is one too. -/
theorem apply_ofNat_of_fixes {runs : Array CaseRun} {special : List (Nat × List Nat)} {n : Nat}
    (hn : fixes runs special n = true) (hzero : fixes runs special 0 = true) :
    apply runs special (Char.ofNat n) = [Char.ofNat n] := by
  apply apply_of_fixes
  rcases toNat_ofNat_cases n with h | h <;> rw [h] <;> assumption

/-! ## The checks of a table -/

/-- No run of a table acts on an image of a run of the same table. -/
def imagesMissRuns (runs : Array CaseRun) : Bool :=
  runs.toList.all fun r => runs.toList.all r.imagesMiss

/-- No key of the longer images lies among the images of a run. -/
def keysAvoidImages (special : List (Nat × List Nat)) (runs : Array CaseRun) : Bool :=
  special.all fun p => runs.toList.all (·.imagesAvoid p.1)

/-- Under the checks, the image of a run is its own image. -/
theorem lookup_image_fixes {runs : Array CaseRun} {special : List (Nat × List Nat)}
    (hmiss : imagesMissRuns runs = true) (hkeys : keysAvoidImages special runs = true)
    {n m : Nat} (hm : lookup runs n = some m) : fixes runs special m = true := by
  obtain ⟨r, hr, hrm⟩ := Array.exists_of_findSome?_eq_some hm
  have hr : r ∈ runs.toList := Array.mem_toList_iff.2 hr
  simp only [imagesMissRuns, keysAvoidImages, List.all_eq_true] at hmiss hkeys
  simp only [fixes, Bool.and_eq_true, Option.isNone_iff_eq_none, List.all_eq_true]
  refine ⟨?_, fun s hs => CaseRun.image?_eq_none_of_imagesMiss (hmiss r hr s hs) hrm⟩
  -- no key is an image, so none is `m`
  cases hlook : special.lookup m with
  | none => rfl
  | some ns =>
    exact absurd rfl (CaseRun.ne_of_imagesAvoid (hkeys (m, ns) (mem_of_lookup hlook) r hr) hrm)

/-- What the tables of the two case maps are checked for: no image of a run is acted on by
a run or has a longer image; the null character, the first characters of the longer capital
forms and the characters of the longer small forms are their own images; after its first
character a longer capital form has no character with a longer small form; the blanks and
the hyphen are their own capital and small forms, and no case form reaches the hyphen. -/
structure TablesChecked : Prop where
  upperImagesMiss : imagesMissRuns upperRuns = true
  lowerImagesMiss : imagesMissRuns lowerRuns = true
  upperKeysAvoid : keysAvoidImages upperSpecial upperRuns = true
  lowerKeysAvoid : keysAvoidImages lowerSpecial lowerRuns = true
  upperFixesZero : fixes upperRuns upperSpecial 0 = true
  lowerFixesZero : fixes lowerRuns lowerSpecial 0 = true
  upperHeadsFix : (upperSpecial.all fun p => p.2.head?.all (fixes upperRuns upperSpecial)) = true
  lowerImagesFix : (lowerSpecial.all fun p => p.2.all (fixes lowerRuns lowerSpecial)) = true
  upperTailsPlain :
    (upperSpecial.all fun p => p.2.tail.all fun n => (lowerSpecial.lookup n).isNone) = true
  boundariesFix :
    ((0x2D :: blankCodes).all fun n =>
      fixes upperRuns upperSpecial n && fixes lowerRuns lowerSpecial n) = true
  hyphenUnreached :
    (upperRuns.toList.all (·.imagesAvoid 0x2D) && lowerRuns.toList.all (·.imagesAvoid 0x2D) &&
      upperSpecial.all (fun p => !p.2.contains 0x2D) &&
      lowerSpecial.all (fun p => !p.2.contains 0x2D)) = true

/-- The tables pass their checks; each check is evaluated by the kernel. -/
theorem tablesChecked : TablesChecked := by
  constructor <;> decide +kernel

/-- A code point that the small forms leave alone makes a character that is its own small
form. -/
theorem lowerCase_ofNat_of_fixes {n : Nat} (h : fixes lowerRuns lowerSpecial n = true) :
    lowerCase (Char.ofNat n) = [Char.ofNat n] :=
  apply_ofNat_of_fixes h tablesChecked.lowerFixesZero

/-- A code point that the capital forms leave alone makes a character that is its own capital
form. -/
theorem upperCase_ofNat_of_fixes {n : Nat} (h : fixes upperRuns upperSpecial n = true) :
    upperCase (Char.ofNat n) = [Char.ofNat n] :=
  apply_ofNat_of_fixes h tablesChecked.upperFixesZero

end CaseMap

open CaseMap

/-! ## Small forms -/

/-- **Every character of a small form is its own small form.** -/
theorem lowerCase_lowerCase (c : Char) : ∀ x ∈ lowerCase c, lowerCase x = [x] := by
  intro x hx
  rcases apply_cases lowerRuns lowerSpecial c with
    ⟨ns, hs, happ⟩ | ⟨m, -, hm, happ⟩ | ⟨-, -, happ⟩
  · -- a longer small form: each of its code points is checked
    rw [lowerCase, happ] at hx
    obtain ⟨n, hn, rfl⟩ := List.mem_map.1 hx
    have hall := tablesChecked.lowerImagesFix
    simp only [List.all_eq_true] at hall
    exact lowerCase_ofNat_of_fixes (hall _ (mem_of_lookup hs) n hn)
  · -- the image of a run, which no run acts on
    rw [lowerCase, happ, List.mem_singleton] at hx
    subst hx
    exact lowerCase_ofNat_of_fixes
      (lookup_image_fixes tablesChecked.lowerImagesMiss tablesChecked.lowerKeysAvoid hm)
  · rw [lowerCase, happ, List.mem_singleton] at hx
    subst hx
    exact happ

/-- A character with no longer small form has a small form of one character. -/
theorem lowerCase_single {x : Char} (h : lowerSpecial.lookup x.toNat = none) :
    ∃ y, lowerCase x = [y] := by
  rcases apply_cases lowerRuns lowerSpecial x with
    ⟨ns, hs, -⟩ | ⟨m, -, -, happ⟩ | ⟨-, -, happ⟩
  · rw [h] at hs
    cases hs
  · exact ⟨_, happ⟩
  · exact ⟨_, happ⟩

/-! ## Capital forms -/

/-- **A capital form begins with a character that is its own capital form.** -/
theorem upperCase_head (c : Char) : ∃ u us, upperCase c = u :: us ∧ upperCase u = [u] := by
  rcases apply_cases upperRuns upperSpecial c with
    ⟨ns, hs, happ⟩ | ⟨m, -, hm, happ⟩ | ⟨-, -, happ⟩
  · -- a longer capital form: its first code point is checked
    have hall := tablesChecked.upperHeadsFix
    simp only [List.all_eq_true] at hall
    have hns := hall _ (mem_of_lookup hs)
    cases ns with
    | nil => exact absurd rfl (upperSpecial_nonBlank _ (mem_of_lookup hs)).1
    | cons n ns =>
      simp only [List.head?_cons, Option.all_some] at hns
      exact ⟨Char.ofNat n, ns.map Char.ofNat, by rw [upperCase, happ, List.map_cons],
        upperCase_ofNat_of_fixes hns⟩
  · -- the image of a run, which no run acts on
    exact ⟨Char.ofNat m, [], happ, upperCase_ofNat_of_fixes
      (lookup_image_fixes tablesChecked.upperImagesMiss tablesChecked.upperKeysAvoid hm)⟩
  · exact ⟨c, [], happ, happ⟩

/-- **After its first character, a capital form holds characters whose small forms are one
character long.** -/
theorem lowerCase_single_of_mem_tail (c : Char) :
    ∀ x ∈ (upperCase c).tail, ∃ y, lowerCase x = [y] := by
  intro x hx
  rcases apply_cases upperRuns upperSpecial c with
    ⟨ns, hs, happ⟩ | ⟨m, -, -, happ⟩ | ⟨-, -, happ⟩
  · rw [upperCase, happ, ← List.map_tail] at hx
    obtain ⟨n, hn, rfl⟩ := List.mem_map.1 hx
    have hall := tablesChecked.upperTailsPlain
    simp only [List.all_eq_true, Option.isNone_iff_eq_none] at hall
    apply lowerCase_single
    -- the code point is the checked one, or the null character for one that is no character
    rcases toNat_ofNat_cases n with h | h <;> rw [h]
    · exact hall _ (mem_of_lookup hs) n hn
    · rfl
  · rw [upperCase, happ] at hx
    cases hx
  · rw [upperCase, happ] at hx
    cases hx

/-! ## Word ends -/

theorem fixes_of_endsWord {c : Char} (h : endsWord c = true) :
    fixes upperRuns upperSpecial c.toNat = true ∧
      fixes lowerRuns lowerSpecial c.toNat = true := by
  have hall := tablesChecked.boundariesFix
  simp only [List.all_eq_true, Bool.and_eq_true] at hall
  apply hall
  simp only [endsWord, Bool.or_eq_true, isBlank_iff_mem_blankCodes, beq_iff_eq] at h
  rcases h with h | rfl
  · exact List.mem_cons_of_mem _ h
  · exact List.mem_cons_self

/-- **The characters that end words are their own capital forms.** -/
theorem upperCase_of_endsWord {c : Char} (h : endsWord c = true) : upperCase c = [c] :=
  apply_of_fixes (fixes_of_endsWord h).1

/-- **The characters that end words are their own small forms.** -/
theorem lowerCase_of_endsWord {c : Char} (h : endsWord c = true) : lowerCase c = [c] :=
  apply_of_fixes (fixes_of_endsWord h).2

/-- A case map whose runs and longer images avoid the hyphen never gives a hyphen for
another character. -/
theorem ne_hyphen_of_mem_apply {runs : Array CaseRun} {special : List (Nat × List Nat)}
    (hruns : runs.toList.all (·.imagesAvoid 0x2D) = true)
    (hspecial : special.all (fun p => !p.2.contains 0x2D) = true) {c x : Char}
    (hc : c ≠ '-') (hx : x ∈ apply runs special c) : x ≠ '-' := by
  rintro rfl
  simp only [List.all_eq_true] at hruns hspecial
  rcases apply_cases runs special c with
    ⟨ns, hs, happ⟩ | ⟨m, -, hm, happ⟩ | ⟨-, -, happ⟩
  · rw [happ] at hx
    obtain ⟨n, hn, hnx⟩ := List.mem_map.1 hx
    have hno := hspecial _ (mem_of_lookup hs)
    -- the code point is the hyphen's own, since the null character is no hyphen
    have hn45 : n = 0x2D := by
      rcases toNat_ofNat_cases n with h | h <;> rw [hnx] at h
      · exact h.symm
      · cases h
    subst hn45
    simp [hn] at hno
  · rw [happ, List.mem_singleton] at hx
    obtain ⟨r, hr, hrm⟩ := Array.exists_of_findSome?_eq_some hm
    have hm45 : m = 0x2D := by
      rcases toNat_ofNat_cases m with h | h <;> rw [← hx] at h
      · exact h.symm
      · cases h
    exact CaseRun.ne_of_imagesAvoid (hruns r (Array.mem_toList_iff.2 hr)) hrm hm45
  · rw [happ, List.mem_singleton] at hx
    exact hc hx.symm

/-- **No case form of a character that does not end a word holds one that does.** -/
theorem endsWord_of_mem_caseForm (start : Bool) {c x : Char} (hc : endsWord c = false)
    (hx : x ∈ (if start then upperCase c else lowerCase c)) : endsWord x = false := by
  simp only [endsWord, Bool.or_eq_false_iff, beq_eq_false_iff_ne] at hc ⊢
  have hunreached := tablesChecked.hyphenUnreached
  simp only [Bool.and_eq_true] at hunreached
  obtain ⟨⟨⟨hup, hlow⟩, hups⟩, hlows⟩ := hunreached
  have hxhyphen : x ≠ '-' := by
    cases start with
    | true => exact ne_hyphen_of_mem_apply hup hups hc.2 hx
    | false => exact ne_hyphen_of_mem_apply hlow hlows hc.2 hx
  exact ⟨(caseForm_nonBlank start hc.1).2 x hx, hxhyphen⟩

end Tintbook.Text
