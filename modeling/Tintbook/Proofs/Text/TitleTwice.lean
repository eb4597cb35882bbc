import Tintbook.Proofs.Text.CaseStability
/-!
# Title case taken twice

Title case reads word starts off its input and writes whole case forms, which may be longer
than the character they come from. Taken a second time, it sees the same words: case forms
never make or remove a blank or a hyphen, so the case form of each character is a block of
the first result, and the second pass starts a word at the start of a block exactly when the
first pass started one at its character (`startsAfter_caseForm`). Within a block nothing
changes, except that a capital form of several characters, such as `SS` for `ß`, has its
characters after the first put into small forms (`retitle_caseForm`).

So title case settles a text in one pass exactly when every word of it starts with a
character whose capital form goes on, if at all, with characters that are their own small
forms (`CapitalSettles`), and exactly then is the result in title case: every word starting
with its own capital form and going on in its own small forms (`titleCase_twice_iff`). The
sharp s, whose capital form is `SS`, is a word start that does not settle
(`titleCase_sharp_s_twice`).

## What this module delivers

- `caseForm`, `startsAfter`, `titleCaseFrom_append`: title case block by block.
- `wordStarts`: the characters of a text that start words.
- `CapitalSettles`: a capital form that title case keeps.
- `TitledFrom`, `Titled`: text in title case.
- `titleCase_twice_iff`: title case is settled, and its result in title case, exactly when
  every word starts with a character whose capital form settles.
-/

set_option autoImplicit false

namespace Tintbook.Text

/-! ## Title case block by block -/

/-- The case form title case gives a character: its capital form at the start of a word and
its small form elsewhere. -/
def caseForm (start : Bool) (c : Char) : List Char := if start then upperCase c else lowerCase c

@[simp] theorem caseForm_true (c : Char) : caseForm true c = upperCase c := if_pos rfl

@[simp] theorem caseForm_false (c : Char) : caseForm false c = lowerCase c :=
  if_neg Bool.false_ne_true

theorem titleCaseFrom_cons (start : Bool) (c : Char) (cs : List Char) :
    titleCaseFrom start (c :: cs) = caseForm start c ++ titleCaseFrom (endsWord c) cs := rfl

/-- Whether a word starts after the characters `cs`, given whether one starts before them. -/
def startsAfter (start : Bool) (cs : List Char) : Bool := (cs.getLast?.map endsWord).getD start

theorem startsAfter_cons (start : Bool) (c : Char) (cs : List Char) :
    startsAfter start (c :: cs) = startsAfter (endsWord c) cs := by
  unfold startsAfter
  cases h : cs.getLast? <;> simp [List.getLast?_cons, h]

/-- Title case of joined texts: the second goes on from where the first leaves off. -/
theorem titleCaseFrom_append (start : Bool) (xs ys : List Char) :
    titleCaseFrom start (xs ++ ys) =
      titleCaseFrom start xs ++ titleCaseFrom (startsAfter start xs) ys := by
  induction xs generalizing start with
  | nil => rfl
  | cons x xs ih =>
    rw [List.cons_append, titleCaseFrom_cons, titleCaseFrom_cons, ih, startsAfter_cons,
      List.append_assoc]

/-- Inside a word, title case puts every character into its small form. -/
theorem titleCaseFrom_false_of_inner {cs : List Char} (h : ∀ x ∈ cs, endsWord x = false) :
    titleCaseFrom false cs = cs.flatMap lowerCase := by
  induction cs with
  | nil => rfl
  | cons x xs ih =>
    rw [titleCaseFrom_cons, h x List.mem_cons_self,
      ih fun y hy => h y (List.mem_cons_of_mem x hy)]
    rfl

/-- A character that ends a word is its own case form. -/
theorem caseForm_of_endsWord (start : Bool) {c : Char} (h : endsWord c = true) :
    caseForm start c = [c] := by
  cases start
  · rw [caseForm_false]
    exact lowerCase_of_endsWord h
  · rw [caseForm_true]
    exact upperCase_of_endsWord h

/-- **Case forms keep the word ends**: after the case form of a character, a word starts
exactly when one starts after the character. -/
theorem startsAfter_caseForm (start : Bool) (c : Char) :
    startsAfter start (caseForm start c) = endsWord c := by
  cases hc : endsWord c with
  | true => rw [caseForm_of_endsWord start hc, startsAfter, List.getLast?_singleton]; simp [hc]
  | false =>
    have hblank : isBlank c = false := by
      simp only [endsWord, Bool.or_eq_false_iff] at hc
      exact hc.1
    have hne : caseForm start c ≠ [] := (caseForm_nonBlank start hblank).1
    have hlast := List.getLast_mem hne
    rw [startsAfter, List.getLast?_eq_some_getLast hne, Option.map_some, Option.getD_some]
    exact endsWord_of_mem_caseForm start hc hlast

/-! ## Capital forms that settle -/

/-- The capital form of a character settles when it goes on, if at all, with characters that
are their own small forms: title case then leaves it as it is. -/
def CapitalSettles (c : Char) : Prop := ∀ x ∈ (upperCase c).tail, lowerCase x = [x]

instance (c : Char) : Decidable (CapitalSettles c) :=
  List.decidableBAll (fun x => lowerCase x = [x]) (upperCase c).tail

theorem capitalSettles_of_endsWord {c : Char} (h : endsWord c = true) : CapitalSettles c := by
  intro x hx
  rw [upperCase_of_endsWord h] at hx
  cases hx

/-- Maps of characters to single characters leave a list alone exactly when they send each
character to itself. -/
theorem flatMap_eq_self_iff {cs : List Char} {f : Char → List Char}
    (h : ∀ x ∈ cs, ∃ y, f x = [y]) : cs.flatMap f = cs ↔ ∀ x ∈ cs, f x = [x] := by
  induction cs with
  | nil => simp
  | cons x xs ih =>
    obtain ⟨y, hy⟩ := h x List.mem_cons_self
    have ih' := ih fun z hz => h z (List.mem_cons_of_mem x hz)
    simp only [List.flatMap_cons, hy, List.singleton_append, List.cons.injEq, ih',
      List.forall_mem_cons, and_true]

theorem length_flatMap_single {cs : List Char} {f : Char → List Char}
    (h : ∀ x ∈ cs, ∃ y, f x = [y]) : (cs.flatMap f).length = cs.length := by
  induction cs with
  | nil => rfl
  | cons x xs ih =>
    obtain ⟨y, hy⟩ := h x List.mem_cons_self
    simp only [List.flatMap_cons, hy, List.singleton_append, List.length_cons,
      ih fun z hz => h z (List.mem_cons_of_mem x hz)]

/-- Title case of the capital form of a character that does not end a word: the first
character stays, the others take their small forms. -/
theorem titleCaseFrom_upperCase {c : Char} (hc : endsWord c = false) :
    ∃ u us, upperCase c = u :: us ∧
      titleCaseFrom true (upperCase c) = u :: us.flatMap lowerCase := by
  obtain ⟨u, us, hup, hu⟩ := upperCase_head c
  have hinner : ∀ x ∈ upperCase c, endsWord x = false :=
    fun x hx => endsWord_of_mem_caseForm true hc hx
  refine ⟨u, us, hup, ?_⟩
  rw [hup, titleCaseFrom_cons, caseForm_true, hu, hinner u (by simp [hup]),
    titleCaseFrom_false_of_inner fun x hx => hinner x (by simp [hup, hx])]
  rfl

/-- **Title case takes a case form block to one of the same length, and leaves it alone
exactly when it is no capital form that fails to settle.** -/
theorem retitle_caseForm (start : Bool) (c : Char) :
    (titleCaseFrom start (caseForm start c)).length = (caseForm start c).length ∧
      (titleCaseFrom start (caseForm start c) = caseForm start c ↔
        (start = true → CapitalSettles c)) := by
  cases hc : endsWord c with
  | true =>
    -- a word end is its own case form, and its capital form settles
    rw [caseForm_of_endsWord start hc, titleCaseFrom_cons, caseForm_of_endsWord start hc]
    exact ⟨rfl, iff_of_true rfl fun _ => capitalSettles_of_endsWord hc⟩
  | false =>
    cases start with
    | false =>
      -- a small form: every character of it is its own small form
      have hinner : ∀ x ∈ lowerCase c, endsWord x = false :=
        fun x hx => endsWord_of_mem_caseForm false hc hx
      have hfix : (lowerCase c).flatMap lowerCase = lowerCase c :=
        (flatMap_eq_self_iff fun x hx => ⟨x, lowerCase_lowerCase c x hx⟩).2
          (lowerCase_lowerCase c)
      rw [caseForm_false, titleCaseFrom_false_of_inner hinner, hfix]
      exact ⟨rfl, iff_of_true rfl fun h => absurd h Bool.false_ne_true⟩
    | true =>
      obtain ⟨u, us, hup, htc⟩ := titleCaseFrom_upperCase hc
      have hsingle : ∀ x ∈ us, ∃ y, lowerCase x = [y] := fun x hx =>
        lowerCase_single_of_mem_tail c x (by simp [hup, hx])
      have hsettles : CapitalSettles c ↔ ∀ x ∈ us, lowerCase x = [x] := by
        rw [CapitalSettles, hup, List.tail_cons]
      rw [caseForm_true, htc, hup, List.cons.injEq, flatMap_eq_self_iff hsingle, hsettles]
      simp only [List.length_cons, length_flatMap_single hsingle, true_and, forall_const]

/-! ## Word starts -/

/-- The characters of `cs` that start words, given whether a word starts before them. -/
def wordStartsFrom : Bool → List Char → List Char
  | _, [] => []
  | start, c :: cs => (if start then [c] else []) ++ wordStartsFrom (endsWord c) cs

/-- The characters of a text that start words. -/
def wordStarts (s : String) : List Char := wordStartsFrom true s.toList

theorem forall_wordStartsFrom_cons {P : Char → Prop} (start : Bool) (c : Char) (cs : List Char) :
    (∀ x ∈ wordStartsFrom start (c :: cs), P x) ↔
      (start = true → P c) ∧ ∀ x ∈ wordStartsFrom (endsWord c) cs, P x := by
  cases start <;> simp [wordStartsFrom]

/-- **Title case twice is title case once exactly when every word starts with a character
whose capital form settles.** -/
theorem retitleFrom_iff (start : Bool) (cs : List Char) :
    titleCaseFrom start (titleCaseFrom start cs) = titleCaseFrom start cs ↔
      ∀ c ∈ wordStartsFrom start cs, CapitalSettles c := by
  -- induction on the characters; each one's case form is a block the second pass reads alone
  induction cs generalizing start with
  | nil => simp [titleCaseFrom, wordStartsFrom]
  | cons c cs ih =>
    obtain ⟨hlen, hblock⟩ := retitle_caseForm start c
    rw [titleCaseFrom_cons, titleCaseFrom_append, startsAfter_caseForm,
      forall_wordStartsFrom_cons, ← ih, ← hblock]
    exact ⟨fun h => List.append_inj h hlen, fun h => by rw [h.1, h.2]⟩

/-! ## Text in title case -/

/-- Characters in title case, given whether a word starts before them: every one is its own
case form in its place, its capital form at a word start and its small form elsewhere. -/
def TitledFrom : Bool → List Char → Prop
  | _, [] => True
  | start, c :: cs => caseForm start c = [c] ∧ TitledFrom (endsWord c) cs

/-- A text in title case: every word starts with its own capital form and goes on in its own
small forms. -/
def Titled (s : String) : Prop := TitledFrom true s.toList

theorem titledFrom_append (start : Bool) (xs ys : List Char) :
    TitledFrom start (xs ++ ys) ↔
      TitledFrom start xs ∧ TitledFrom (startsAfter start xs) ys := by
  induction xs generalizing start with
  | nil => simp [TitledFrom, startsAfter]
  | cons x xs ih => simp only [List.cons_append, TitledFrom, ih, startsAfter_cons, and_assoc]

/-- Inside a word, characters are in title case when they are their own small forms. -/
theorem titledFrom_false_iff {cs : List Char} (h : ∀ x ∈ cs, endsWord x = false) :
    TitledFrom false cs ↔ ∀ x ∈ cs, lowerCase x = [x] := by
  induction cs with
  | nil => simp [TitledFrom]
  | cons x xs ih =>
    simp only [TitledFrom, caseForm_false, h x List.mem_cons_self,
      ih fun y hy => h y (List.mem_cons_of_mem x hy), List.forall_mem_cons]

/-- A case form block is in title case exactly when it is no capital form that fails to
settle. -/
theorem titled_caseForm_iff (start : Bool) (c : Char) :
    TitledFrom start (caseForm start c) ↔ (start = true → CapitalSettles c) := by
  cases hc : endsWord c with
  | true =>
    -- a blank or a hyphen is its own case form, and its capital settles
    rw [caseForm_of_endsWord start hc]
    simp only [TitledFrom, caseForm_of_endsWord start hc, and_true, true_iff]
    exact fun _ => capitalSettles_of_endsWord hc
  | false =>
    cases start with
    | false =>
      -- inside a word: a small form, each of whose characters is its own small form
      have hinner : ∀ x ∈ lowerCase c, endsWord x = false :=
        fun x hx => endsWord_of_mem_caseForm false hc hx
      rw [caseForm_false, titledFrom_false_iff hinner]
      exact iff_of_true (lowerCase_lowerCase c) fun h => absurd h Bool.false_ne_true
    | true =>
      -- at a word's start: the head of the capital form is its own capital, so the block is
      -- in title case exactly when the rest of it is in small letters
      obtain ⟨u, us, hup, hu⟩ := upperCase_head c
      have hinner : ∀ x ∈ upperCase c, endsWord x = false :=
        fun x hx => endsWord_of_mem_caseForm true hc hx
      have hsettles : CapitalSettles c ↔ ∀ x ∈ us, lowerCase x = [x] := by
        rw [CapitalSettles, hup, List.tail_cons]
      rw [caseForm_true, hup, TitledFrom, caseForm_true, hu, hinner u (by simp [hup]), hsettles]
      simp only [true_and, forall_const]
      exact titledFrom_false_iff fun x hx => hinner x (by simp [hup, hx])

/-- **The result of title case is in title case exactly when every word starts with a
character whose capital form settles.** -/
theorem titled_titleCaseFrom_iff (start : Bool) (cs : List Char) :
    TitledFrom start (titleCaseFrom start cs) ↔
      ∀ c ∈ wordStartsFrom start cs, CapitalSettles c := by
  induction cs generalizing start with
  | nil => simp [titleCaseFrom, TitledFrom, wordStartsFrom]
  | cons c cs ih =>
    rw [titleCaseFrom_cons, titledFrom_append, startsAfter_caseForm, titled_caseForm_iff,
      forall_wordStartsFrom_cons, ih]

/-- **Title case settles a text, and gives a text in title case, exactly when every word of
it starts with a character whose capital form settles.** -/
theorem titleCase_twice_iff (s : String) :
    (titleCase (titleCase s) = titleCase s ↔ ∀ c ∈ wordStarts s, CapitalSettles c) ∧
      (Titled (titleCase s) ↔ ∀ c ∈ wordStarts s, CapitalSettles c) := by
  have hretitle : titleCase (titleCase s) = titleCase s ↔
      titleCaseFrom true (titleCaseFrom true s.toList) = titleCaseFrom true s.toList := by
    unfold titleCase
    rw [← String.toList_inj, String.toList_ofList, String.toList_ofList]
  refine ⟨hretitle.trans (retitleFrom_iff true s.toList), ?_⟩
  unfold Titled titleCase
  rw [String.toList_ofList]
  exact titled_titleCaseFrom_iff true s.toList

/-- The capital form of the sharp s is `SS`, whose title case is `Ss`: title case taken twice
is not title case taken once. -/
theorem titleCase_sharp_s_twice : titleCase (titleCase "ß") ≠ titleCase "ß" := by
  decide +kernel

end Tintbook.Text
