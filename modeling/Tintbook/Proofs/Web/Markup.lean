import Tintbook.Web.Page
/-!
# Stored data cannot add markup

Pages are fixed markup with stored texts, numbers and times set into it. What a browser
reads as markup are the angle brackets that open and close tags and the quotes that close
attribute values; the *markup* of a text is the list of these characters in it, in order.
Every stored text reaches a page through `escape`, which writes none of them, and the
numbers and times set into pages are digits and separators. So the markup of every page is
fixed by its frame: the list of formulas has markup that depends only on how many formulas
there are, a formula's page only on how many lines of each kind it has, and the form and the
page of an error have the same markup whatever they show.

## What this module delivers

- `Page.markup`: the angle brackets and quotes of a text, in order.
- `Page.markup_escape`, `Page.markup_showInt`, `Page.markup_minuteText`: what is set into a
  page adds no markup.
- `Page.markup_join_map`: rows of one fixed markup, joined, have markup that depends only on
  how many rows there are.
- `Page.pages_markup_fixed`: the markup of every page depends only on its shape.
-/

set_option autoImplicit false

namespace Tintbook.Page

/-- A character that delimits markup: an angle bracket or a quote. -/
def isMarkupChar (c : Char) : Bool := c == '<' || c == '>' || c == '"' || c == '\x27'

/-- The markup of a text: its angle brackets and quotes, in order. -/
def markup (s : String) : List Char := s.toList.filter isMarkupChar

/-! ## Markup of joined texts -/

@[simp] theorem markup_append (a b : String) : markup (a ++ b) = markup a ++ markup b := by
  simp [markup, List.filter_append]

/-- Characters none of which delimits markup make a text without markup. -/
theorem markup_ofList_eq_nil {cs : List Char} (h : ∀ c ∈ cs, isMarkupChar c = false) :
    markup (String.ofList cs) = [] := by
  simpa [markup, List.filter_eq_nil_iff] using h

/-- Rows that each have the same markup, joined: the markup depends only on the number of
rows. -/
theorem markup_join_map {α : Type} {row : α → String}
    (hrow : ∀ a b, markup (row a) = markup (row b)) :
    ∀ {xs ys : List α}, xs.length = ys.length →
      markup (String.join (xs.map row)) = markup (String.join (ys.map row))
  | [], [], _ => rfl
  | x :: xs, y :: ys, hlen => by
    have htail := markup_join_map hrow (by simpa using hlen : xs.length = ys.length)
    simp only [List.map_cons, String.join_cons, markup_append, htail, hrow x y]

/-! ## What is set into a page -/

/-- Escaping writes no markup: each of the five characters that could start markup becomes a
character reference, and every other character stands for itself. -/
theorem escapeChar_markup (c : Char) : (escapeChar c).filter isMarkupChar = [] := by
  unfold escapeChar
  -- a reference is checked as it is written; any other character is none of the five
  split
  all_goals first
    | decide
    | simp_all [isMarkupChar]

@[simp] theorem markup_escape (s : String) : markup (escape s) = [] := by
  simp [markup, escape, List.filter_flatMap, escapeChar_markup]

theorem isMarkupChar_of_isDigit {c : Char} (h : c.isDigit = true) : isMarkupChar c = false := by
  simp only [Char.isDigit, Bool.and_eq_true, decide_eq_true_eq] at h
  simp only [isMarkupChar, Bool.or_eq_false_iff, beq_eq_false_iff_ne, ne_eq]
  refine ⟨⟨⟨?_, ?_⟩, ?_⟩, ?_⟩ <;>
  · rintro rfl
    simp at h

theorem markup_digits (n : Nat) : markup (String.ofList (Nat.toDigits 10 n)) = [] :=
  markup_ofList_eq_nil fun _ hc =>
    isMarkupChar_of_isDigit (Nat.isDigit_of_mem_toDigits (by decide) (by decide) hc)

@[simp] theorem markup_showInt (n : Int) : markup (showInt n) = [] := by
  unfold showInt
  split
  · rw [markup_append, markup_digits]
    rfl
  · exact markup_digits _

@[simp] theorem markup_padded (width n : Nat) : markup (Instant.padded width n) = [] := by
  refine markup_ofList_eq_nil fun c hc => ?_
  rcases List.mem_append.1 hc with hz | hd
  · rw [List.eq_of_mem_replicate hz]
    rfl
  · exact isMarkupChar_of_isDigit (Nat.isDigit_of_mem_toDigits (by decide) (by decide) hd)

@[simp] theorem markup_yearText (y : Int) : markup (Instant.yearText y) = [] := by
  unfold Instant.yearText
  split
  · exact markup_padded 4 _
  · split <;> rw [markup_append, markup_padded] <;> rfl

@[simp] theorem markup_minuteText (t : Instant) : markup t.minuteText = [] := by
  unfold Instant.minuteText
  simp only [markup_append, markup_yearText, markup_padded]
  rfl

/-! ## The pages -/

theorem markup_indexRow (f g : Formula) : markup (indexRow f) = markup (indexRow g) := by
  unfold indexRow
  simp only [markup_append, markup_escape, markup_showInt, markup_minuteText]

/-- The list of formulas has markup that depends only on how many formulas it shows. -/
theorem markup_index_of_length {fs gs : List Formula} (hlen : fs.length = gs.length) :
    markup (index fs) = markup (index gs) := by
  have hrows := markup_join_map markup_indexRow hlen
  -- both lists are empty, or neither is
  cases fs with
  | nil =>
    cases gs with
    | nil => rfl
    | cons g gs => simp at hlen
  | cons f fs =>
    cases gs with
    | nil => simp at hlen
    | cons g gs =>
      unfold index frame
      simp only [List.isEmpty_cons, Bool.false_eq_true, if_false, markup_append, markup_escape,
        hrows]

theorem markup_colorantItem (c c' : Colorant) :
    markup (colorantItem c) = markup (colorantItem c') := by
  unfold colorantItem
  simp only [markup_append, markup_escape, markup_showInt]

theorem markup_baseItem (b b' : Base) : markup (baseItem b) = markup (baseItem b') := by
  unfold baseItem
  simp only [markup_append, markup_escape]

/-- A formula's page has markup that depends only on how many lines of each kind it has. -/
theorem markup_detail_of_length {d e : FormulaDetail}
    (hc : d.colorants.length = e.colorants.length) (hb : d.bases.length = e.bases.length) :
    markup (detail d) = markup (detail e) := by
  unfold detail frame
  simp only [markup_append, markup_escape, markup_showInt, markup_minuteText,
    markup_join_map markup_colorantItem hc, markup_join_map markup_baseItem hb]

/-- The hidden id of the form is a number, or nothing for a new formula. -/
theorem markup_formId (d : Option FormulaDetail) :
    markup ((d.map (·.formula)).map (fun f => showInt f.id) |>.getD "") = [] := by
  cases d
  · rfl
  · exact markup_showInt _

/-- The form has the same markup whether it adds a formula or edits one, whatever it holds. -/
theorem markup_form (d e : Option FormulaDetail) : markup (form d) = markup (form e) := by
  unfold form frame textInput textArea
  simp only [markup_append, markup_escape, markup_formId]

/-- The page of an error has the same markup whatever its status and message. -/
theorem markup_error (status status' : Nat) (message message' : String) :
    markup (error status message) = markup (error status' message') := by
  unfold error frame
  simp only [markup_append, markup_escape, markup_showInt]

/-- **No stored data adds markup to a page.** The markup of the list of formulas depends
only on how many there are, that of a formula's page only on how many colorant and base
lines it has, and the form and the page of an error have one markup each. -/
theorem pages_markup_fixed :
    (∀ fs gs : List Formula, fs.length = gs.length → markup (index fs) = markup (index gs)) ∧
    (∀ d e : FormulaDetail, d.colorants.length = e.colorants.length →
      d.bases.length = e.bases.length → markup (detail d) = markup (detail e)) ∧
    (∀ d e : Option FormulaDetail, markup (form d) = markup (form e)) ∧
    (∀ (status status' : Nat) (message message' : String),
      markup (error status message) = markup (error status' message')) :=
  ⟨fun _ _ => markup_index_of_length, fun _ _ => markup_detail_of_length, markup_form,
    markup_error⟩

/-- A formula whose texts try to open tags and close quotes. -/
def hostileFormula : Formula :=
  { id := -7, name := "<script>alert('x')</script>", number := "\"><b>", customer := "a'b",
    summary := "</td>", notes := "<!--", created := ⟨0, 0⟩, modified := ⟨-62135596800, 5⟩ }

/-- A plain formula. -/
def plainFormula : Formula :=
  { id := 3, name := "Soft Red", number := "SR-1", customer := "Acme", summary := "",
    notes := "", created := ⟨1709292600, 0⟩, modified := ⟨1709292600, 0⟩ }

theorem pages_markup_fixed_hostile :
    ([hostileFormula].length = [plainFormula].length ∧
      markup (index [hostileFormula]) = markup (index [plainFormula])) ∧
    (([] : List Colorant).length = ([] : List Colorant).length ∧
      ([] : List Base).length = ([] : List Base).length ∧
      markup (detail ⟨hostileFormula, [], []⟩) = markup (detail ⟨plainFormula, [], []⟩)) :=
  ⟨⟨rfl, pages_markup_fixed.1 [hostileFormula] [plainFormula] rfl⟩,
    ⟨rfl, rfl,
      pages_markup_fixed.2.1 ⟨hostileFormula, [], []⟩ ⟨plainFormula, [], []⟩ rfl rfl⟩⟩

end Tintbook.Page
