/-!
# Blank characters and trimming

A character is *blank* when it carries the Unicode property White_Space. Names, numbers
and notes typed into a formula are trimmed of blanks at both ends, and a field that is
blank all through counts as not given at all.

## What this module delivers

- `Text.isBlank`: the White_Space property, as the closed list of its code points.
- `Text.trimBlank`: drop blanks at both ends of a text.
- `Text.trimmed`: the trimmed text, or `none` when nothing but blanks was given.
- `Text.isBlank_of_isWhitespace`: every character core calls whitespace is blank here too.
-/

set_option autoImplicit false

namespace Tintbook.Text

/-- A character is blank when it has the Unicode White_Space property: the controls tab to
carriage return, space, next line, the no-break space, the ogham space mark, the spaces from
en quad to hair space, the line and paragraph separators, the narrow no-break space, the
medium mathematical space and the ideographic space. -/
def isBlank (c : Char) : Bool :=
  let n := c.toNat
  (0x9 ≤ n && n ≤ 0xD) || n == 0x20 || n == 0x85 || n == 0xA0 || n == 0x1680 ||
    (0x2000 ≤ n && n ≤ 0x200A) || n == 0x2028 || n == 0x2029 || n == 0x202F ||
    n == 0x205F || n == 0x3000

theorem isBlank_of_isWhitespace (c : Char) (h : c.isWhitespace = true) :
    isBlank c = true := by
  simp only [Char.isWhitespace, Bool.or_eq_true, decide_eq_true_eq] at h
  rcases h with ((h | h) | h) | h <;> subst h <;> decide

/-- Drops the blanks at the front of a list of characters. -/
def dropBlanks (cs : List Char) : List Char := cs.dropWhile isBlank

/-- Drops blanks at both ends of a text, keeping the blanks inside it. -/
def trimBlank (s : String) : String :=
  String.ofList (dropBlanks (dropBlanks s.toList).reverse).reverse

/-- The trimmed text of a field, or `none` when the field holds nothing but blanks. -/
def trimmed (s : String) : Option String :=
  let t := trimBlank s
  if t.isEmpty then none else some t

/-- A text is blank when trimming leaves nothing. -/
def isBlankText (s : String) : Bool := (trimBlank s).isEmpty

end Tintbook.Text
