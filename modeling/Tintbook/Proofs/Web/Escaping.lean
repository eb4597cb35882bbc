import Tintbook.Proofs.Web.Markup
/-!
# Escaped text decodes back

`escape` writes each of the five characters that could start markup, `&`, `<`, `>`, `"` and
`'`, as a character reference, and every other character as itself. This module proves that
nothing is lost and nothing can be misread. The escaped text holds no angle bracket and no
quote; every ampersand in it opens one of the five references; and decoding the references
from left to right gives back the text, so two texts never escape alike.

The ampersand itself is escaped, and escaped first of all characters: a text that already
holds `&lt;` is written `&amp;lt;`, which decodes to `&lt;` again and not to `<`. The proof
needs no look-ahead for this. The text of one character decodes to that character whatever
follows it (`decodeReferences_escapeChar`), because a reference is read only at an ampersand
and the only ampersand `escape` writes is the first character of a reference.

## What this module delivers

- `decodeReferences`: the five references decoded from left to right.
- `referenceTexts`: the five references, as texts.
- `decodeReferences_escape`: decoding undoes escaping.
- `escape_ampersand_opens_reference`: every ampersand of an escaped text opens a reference.
- `escape_inert_and_decodable`: the four facts together, with injectivity.
-/

set_option autoImplicit false

namespace Tintbook

/-- Text with the five character references of `escape` decoded, from left to right: a
reference stands for its character, and every other character for itself. -/
def decodeReferences : List Char → List Char
  | '&' :: 'a' :: 'm' :: 'p' :: ';' :: r => '&' :: decodeReferences r
  | '&' :: 'l' :: 't' :: ';' :: r => '<' :: decodeReferences r
  | '&' :: 'g' :: 't' :: ';' :: r => '>' :: decodeReferences r
  | '&' :: 'q' :: 'u' :: 'o' :: 't' :: ';' :: r => '"' :: decodeReferences r
  | '&' :: '#' :: '3' :: '9' :: ';' :: r => '\x27' :: decodeReferences r
  | c :: r => c :: decodeReferences r
  | [] => []

/-- The texts of the five character references. -/
def referenceTexts : List (List Char) :=
  ["&amp;", "&lt;", "&gt;", "&quot;", "&#39;"].map String.toList

/-! ## Decoding -/

/-- A character other than the ampersand opens no reference. -/
theorem decodeReferences_cons {c : Char} (hc : c ≠ '&') (r : List Char) :
    decodeReferences (c :: r) = c :: decodeReferences r := by
  rw [decodeReferences.eq_def]
  split <;> simp_all

/-- **The text of one character decodes to that character**, whatever follows it. -/
theorem decodeReferences_escapeChar (c : Char) (r : List Char) :
    decodeReferences (escapeChar c ++ r) = c :: decodeReferences r := by
  unfold escapeChar
  split
  -- any other character is no ampersand, and stands for itself
  case h_6 hamp _ _ _ _ => exact decodeReferences_cons hamp r
  -- each reference is read as it is written
  all_goals rfl

/-- **Decoding undoes escaping.** -/
theorem decodeReferences_escape (s : String) :
    decodeReferences (escape s).toList = s.toList := by
  simp only [escape, String.toList_ofList]
  induction s.toList with
  | nil => rfl
  | cons c r ih => rw [List.flatMap_cons, decodeReferences_escapeChar, ih]

theorem escape_injective : Function.Injective escape := by
  intro a b h
  have hlist := congrArg (fun t => decodeReferences t.toList) h
  simp only [decodeReferences_escape] at hlist
  exact String.toList_inj.1 hlist

/-! ## Where ampersands stand -/

/-- An element that does not come back in the tail of a list stands first wherever it is
found in the list. -/
theorem prefix_nil_of_not_mem_tail {α : Type} {x : α} {tail p t : List α} (hx : x ∉ tail)
    (h : x :: tail = p ++ x :: t) : p = [] := by
  rcases p with _ | ⟨y, p⟩
  · rfl
  · simp only [List.cons_append, List.cons.injEq] at h
    exact absurd (h.2 ▸ List.mem_append_right p List.mem_cons_self) hx

/-- An ampersand in the text of one character is its first character, and that text is a
reference. -/
theorem escapeChar_ampersand {c : Char} {p t : List Char} (h : escapeChar c = p ++ '&' :: t) :
    p = [] ∧ escapeChar c ∈ referenceTexts := by
  unfold escapeChar at h ⊢
  split at h
  case h_6 hamp _ _ _ _ =>
    -- a character other than the ampersand stands for itself
    rcases p with _ | ⟨y, p⟩
    · exact absurd (List.cons.inj h).1 hamp
    · simp at h
  -- a reference has its ampersand first and nowhere else
  all_goals exact ⟨prefix_nil_of_not_mem_tail (by decide) h, by decide⟩

/-- **Every ampersand of escaped characters opens a reference.** Induction on the characters:
an ampersand is in the text of the first character, where it opens that character's
reference, or in the escaped rest. -/
theorem flatMap_escapeChar_ampersand (cs : List Char) {p q : List Char}
    (h : cs.flatMap escapeChar = p ++ '&' :: q) : ∃ e ∈ referenceTexts, e <+: '&' :: q := by
  induction cs generalizing p with
  | nil => simp at h
  | cons c r ih =>
    rw [List.flatMap_cons] at h
    rcases List.append_eq_append_iff.1 h with ⟨a', rfl, hr⟩ | ⟨c', hc, hq⟩
    · exact ih hr
    · rcases c' with _ | ⟨x, c'⟩
      · exact ih (p := []) (by simpa using hq.symm)
      · -- the ampersand is in the text of `c`
        simp only [List.cons_append, List.cons.injEq] at hq
        obtain ⟨rfl, rfl⟩ := hq
        obtain ⟨rfl, he⟩ := escapeChar_ampersand hc
        exact ⟨_, he, ⟨r.flatMap escapeChar, by simpa using h⟩⟩

theorem escape_ampersand_opens_reference (s : String) {p q : List Char}
    (h : (escape s).toList = p ++ '&' :: q) : ∃ e ∈ referenceTexts, e <+: '&' :: q := by
  simp only [escape, String.toList_ofList] at h
  exact flatMap_escapeChar_ampersand s.toList h

/-! ## The whole -/

/-- An escaped text holds no angle bracket and no quote. -/
theorem escape_no_markup_char (s : String) :
    ∀ c ∈ (escape s).toList, c ≠ '<' ∧ c ≠ '>' ∧ c ≠ '"' ∧ c ≠ '\x27' := by
  have hnone := Page.markup_escape s
  simp only [Page.markup, List.filter_eq_nil_iff] at hnone
  intro c hc
  simpa [Page.isMarkupChar, not_or, and_assoc] using hnone c hc

/-- **Escaping is injective and its output is inert.** An escaped text holds no angle bracket
and no quote, each of its ampersands opens one of the five references, and decoding these
from left to right gives back the text. -/
theorem escape_inert_and_decodable :
    Function.Injective escape ∧
      (∀ s, ∀ c ∈ (escape s).toList, c ≠ '<' ∧ c ≠ '>' ∧ c ≠ '"' ∧ c ≠ '\x27') ∧
      (∀ s p q, (escape s).toList = p ++ '&' :: q → ∃ e ∈ referenceTexts, e <+: '&' :: q) ∧
      (∀ s, decodeReferences (escape s).toList = s.toList) :=
  ⟨escape_injective, escape_no_markup_char, fun s _ _ => escape_ampersand_opens_reference s,
    decodeReferences_escape⟩

/-- The ampersand of a customer's name opens the reference `&amp;`. -/
theorem escape_inert_and_decodable_acme :
    (escape "Acme & Sons").toList = "Acme ".toList ++ '&' :: "amp; Sons".toList ∧
      ∃ e ∈ referenceTexts, e <+: '&' :: "amp; Sons".toList := by
  have h : (escape "Acme & Sons").toList = "Acme ".toList ++ '&' :: "amp; Sons".toList := by
    decide
  exact ⟨h, escape_inert_and_decodable.2.2.1 _ _ _ h⟩

/-- A text that already holds a reference keeps it as text. -/
example : escape "&lt;" = "&amp;lt;" ∧ decodeReferences "&amp;lt;".toList = "&lt;".toList := by
  decide

end Tintbook
